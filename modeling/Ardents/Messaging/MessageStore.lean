import Ardents.Crypto.Session

/-!
# Messages and the message store

`models.Message` and the part of `storage.MessageStore` that sending uses: saving
a message, moving its status, and the queue of messages waiting to be sent again.
-/

namespace Ardents.Messaging

open Go
open Crypto (Time)

inductive ConversationType where
  | direct
  | group
  | other (raw : String)
  deriving DecidableEq, Repr

inductive Direction where
  | inbound
  | outbound
  | other (raw : String)
  deriving DecidableEq, Repr

inductive MessageStatus where
  | pending
  | sent
  | delivered
  | read
  | failed
  | other (raw : String)
  deriving DecidableEq, Repr

inductive ContentType where
  | text
  | e2ee
  | e2eeUnreadable
  | other (raw : String)
  deriving DecidableEq, Repr

structure Message where
  id : String
  contactID : String
  conversationID : String
  conversationType : ConversationType
  threadID : String
  content : Bytes
  timestamp : Time
  direction : Direction
  status : MessageStatus
  contentType : ContentType
  edited : Bool
  deriving DecidableEq, Repr

/-- `NormalizeConversationType`: whatever is not a group is a direct conversation. -/
def normalizeConversationType : ConversationType → ConversationType
  | .group => .group
  | .direct => .direct
  | .other raw => if trimSpace raw = "group" then .group else .direct

def normalizeMessageConversation (msg : Message) : Message :=
  let msg := { msg with
    contactID := trimSpace msg.contactID
    conversationID := trimSpace msg.conversationID
    conversationType := normalizeConversationType msg.conversationType
    threadID := trimSpace msg.threadID }
  -- direct messages default to the contact's own conversation
  if msg.conversationType = .direct ∧ msg.conversationID = "" then
    { msg with conversationID := msg.contactID }
  else msg

/-- `messagesEqual`; the thread is not compared. -/
def messagesEqual (a b : Message) : Bool :=
  let a := normalizeMessageConversation a
  let b := normalizeMessageConversation b
  decide ({ a with threadID := "" } = { b with threadID := "" })

theorem normalizeMessageConversation_id (msg : Message) :
    (normalizeMessageConversation msg).id = msg.id := by
  grind [normalizeMessageConversation]

@[simp] theorem normalizeConversationType_idem (t : ConversationType) :
    normalizeConversationType (normalizeConversationType t) = normalizeConversationType t := by
  cases t with
  | direct => rfl
  | group => rfl
  | other raw =>
    grind [normalizeConversationType]

theorem normalizeMessageConversation_idem (msg : Message) :
    normalizeMessageConversation (normalizeMessageConversation msg) =
      normalizeMessageConversation msg := by
  by_cases hempty : normalizeConversationType msg.conversationType = .direct ∧
      trimSpace msg.conversationID = ""
  · have hdirect : normalizeConversationType .direct = .direct := rfl
    simp [normalizeMessageConversation, hempty.1, hempty.2, hdirect]
  · simp [normalizeMessageConversation, hempty]

theorem messagesEqual_iff {a b : Message} : messagesEqual a b = true ↔
      { normalizeMessageConversation a with threadID := "" } =
        { normalizeMessageConversation b with threadID := "" } := by
  simp [messagesEqual]

theorem messagesEqual_symm {a b : Message} (h : messagesEqual a b = true) :
    messagesEqual b a = true :=
  messagesEqual_iff.mpr (messagesEqual_iff.mp h).symm

theorem messagesEqual_trans {a b c : Message} (hab : messagesEqual a b = true)
    (hbc : messagesEqual b c = true) : messagesEqual a c = true :=
  messagesEqual_iff.mpr ((messagesEqual_iff.mp hab).trans (messagesEqual_iff.mp hbc))

theorem messagesEqual_self (a : Message) : messagesEqual a a = true := messagesEqual_iff.mpr rfl

@[simp] theorem messagesEqual_normalize_left (a b : Message) :
    messagesEqual (normalizeMessageConversation a) b = messagesEqual a b := by
  unfold messagesEqual
  rw [normalizeMessageConversation_idem]

@[simp] theorem messagesEqual_normalize_right (a b : Message) :
    messagesEqual a (normalizeMessageConversation b) = messagesEqual a b := by
  unfold messagesEqual
  rw [normalizeMessageConversation_idem]

def statusOrder : MessageStatus → Nat
  | .pending => 1
  | .sent => 2
  | .delivered => 3
  | .read => 4
  | .failed => 1
  | .other _ => 0

def mergeMessageStatus (current candidate : MessageStatus) : MessageStatus :=
  if candidate = .failed then
    if current = .other "" ∨ current = .pending then .failed else current
  else if statusOrder candidate ≥ statusOrder current then candidate
  else current

structure PendingMessage where
  message : Message
  retryCount : Int
  nextRetry : Time
  lastError : String
  deriving DecidableEq, Repr

structure MessageStore where
  messages : GoMap String Message
  pending : GoMap String PendingMessage

inductive StoreError where
  | messageIDConflict
  | storage
  deriving DecidableEq, Repr

namespace MessageStore

def empty : MessageStore := ⟨∅, ∅⟩

/-- `persistSnapshotLocked` and the assignment after it. -/
def commit (next : MessageStore) (written : Bool) : Except StoreError MessageStore :=
  if written then .ok next else .error .storage

variable (s : MessageStore)

def saveMessage (msg : Message) (written : Bool) : Except StoreError MessageStore :=
  let msg := normalizeMessageConversation msg
  match s.messages[msg.id]? with
  | some existing => if messagesEqual existing msg then .ok s else .error .messageIDConflict
  | none => commit { s with messages := s.messages.insert msg.id msg } written

def updateMessageStatus (messageID : String) (status : MessageStatus)
    (written : Bool) : Except StoreError MessageStore :=
  match s.messages[messageID]? with
  | none => .ok s
  | some msg =>
    let msg := { msg with status := mergeMessageStatus msg.status status }
    commit { s with messages := s.messages.insert messageID msg } written

/-- `UpdateMessageContent`: the content is replaced and the message marked as edited. -/
def updateMessageContent (messageID : String) (content : Bytes)
    (contentType : ContentType) (now : Time) (written : Bool) : Except StoreError MessageStore :=
  match s.messages[messageID]? with
  | none => .ok s
  | some msg =>
    let msg := { msg with
      content := content, contentType := contentType, edited := true, timestamp := now }
    commit { s with messages := s.messages.insert messageID msg } written

def deleteMessage (contactID messageID : String) (written : Bool) :
    Except StoreError MessageStore :=
  match s.messages[messageID]? with
  | none => .ok s
  | some msg =>
    if msg.contactID ≠ contactID then .ok s
    else commit ⟨s.messages.erase messageID, s.pending.erase messageID⟩ written

/-- `ClearMessages`: the messages of a contact, with what is pending for them or for the contact. -/
def clearMessages (contactID : String) (written : Bool) : Except StoreError MessageStore :=
  let isDeleted (id : String) : Bool :=
    match s.messages[id]? with
    | none => false
    | some msg => msg.contactID = contactID
  if s.messages.keys.any isDeleted then
    commit
      { messages := s.messages.filter fun id _ => !isDeleted id
        pending := s.pending.filter fun id p => !isDeleted id && p.message.contactID ≠ contactID }
      written
  else .ok s

def addOrUpdatePending (message : Message) (retryCount : Int)
    (nextRetry : Time) (lastErr : String) (written : Bool) : Except StoreError MessageStore :=
  let entry : PendingMessage := ⟨message, retryCount, nextRetry, lastErr⟩
  commit { s with pending := s.pending.insert message.id entry } written

def removePending (messageID : String) (written : Bool) : Except StoreError MessageStore :=
  commit { s with pending := s.pending.erase messageID } written

/-- `PurgeOlderThan`: the messages up to a time, with what is pending for them. -/
def purgeOlderThan (cutoff : Time) (written : Bool) : Except StoreError MessageStore :=
  let isDeleted (id : String) : Bool :=
    match s.messages[id]? with
    | none => false
    | some msg => msg.timestamp ≤ cutoff
  if s.messages.keys.any isDeleted then
    commit
      { messages := s.messages.filter fun id _ => !isDeleted id
        pending := s.pending.filter fun id _ => !isDeleted id } written
  else .ok s

/-- `load`, from the file that a store has written: what it holds is normalised. -/
def load : MessageStore :=
  { messages := s.messages.map fun _ msg => normalizeMessageConversation msg
    pending := s.pending.map fun _ p =>
      { p with message := normalizeMessageConversation p.message } }

/-- `DuePending`, in key order; callers range over it in an order of Go's choosing. -/
def duePending (now : Time) : List PendingMessage :=
  (s.pending.toList.map Prod.snd).filter fun p => p.nextRetry ≤ now

end MessageStore

def recorded (store : MessageStore) (r : Except StoreError MessageStore) : MessageStore :=
  match r with
  | .ok store' => store'
  | .error _ => store

/-! ### What the operations change -/

namespace MessageStore

theorem recorded_commit (s next : MessageStore) (written : Bool) :
    recorded s (commit next written) = if written then next else s := by
  cases written with
  | false => rfl
  | true => rfl

theorem saveMessage_cases (s : MessageStore) (msg : Message) (written : Bool) :
    (∃ existing, s.messages[msg.id]? = some existing ∧ s.saveMessage msg written =
        if messagesEqual existing msg then .ok s else .error .messageIDConflict) ∨
      (s.messages[msg.id]? = none ∧ s.saveMessage msg written = commit { s with
          messages := s.messages.insert msg.id (normalizeMessageConversation msg) } written) := by
  unfold saveMessage
  simp only [normalizeMessageConversation_id, messagesEqual_normalize_right]
  cases hget : s.messages[msg.id]? with
  | none => exact .inr ⟨rfl, rfl⟩
  | some existing => exact .inl ⟨existing, rfl, rfl⟩

theorem recorded_saveMessage (s : MessageStore) (msg : Message) (written : Bool) :
    (recorded s (s.saveMessage msg written)).pending = s.pending ∧
      ∀ (id : String) (m : Message), s.messages[id]? = some m →
        (recorded s (s.saveMessage msg written)).messages[id]? = some m := by
  unfold saveMessage
  dsimp only
  split
  · split
    · exact ⟨rfl, fun _ _ hm => hm⟩
    · exact ⟨rfl, fun _ _ hm => hm⟩
  · grind [recorded_commit]

theorem saveMessage_pending {s s' : MessageStore} {msg : Message} {written : Bool}
    (h : s.saveMessage msg written = .ok s') : s'.pending = s.pending := by
  have hpending := (s.recorded_saveMessage msg written).1
  rw [h] at hpending
  exact hpending

theorem recorded_updateMessageStatus (s : MessageStore) (messageID : String)
    (status : MessageStatus) (written : Bool) :
    (recorded s (s.updateMessageStatus messageID status written)).pending = s.pending ∧
      ∀ id : String, (recorded s (s.updateMessageStatus messageID status written)).messages[id]? =
        if written = true ∧ id = messageID then
          (s.messages[id]?).map fun m => { m with status := mergeMessageStatus m.status status }
        else s.messages[id]? := by
  unfold updateMessageStatus
  split
  · rename_i hnone
    refine ⟨rfl, fun id => ?_⟩
    split
    · rename_i hid
      rw [hid.2, hnone]
      exact hnone
    · rfl
  · grind [recorded_commit]

end MessageStore

/-! ## When to try again -/

def second : Time := 1000000000

/-- The backoff before attempt number `n`: doubling from two seconds, at most thirty. -/
def retryBackoff : Nat → Time
  | 0 => 2 * second
  | 1 => 2 * second
  | n + 2 => if retryBackoff (n + 1) * 2 ≥ 30 * second then 30 * second
      else retryBackoff (n + 1) * 2

def nextRetryTime (now : Time) (retryCount : Int) : Time := now + retryBackoff retryCount.toNat

/-- `StartupRecoveryLookahead`: a day. -/
def startupRecoveryLookahead : Time := 24 * 3600 * second

end Ardents.Messaging
