import Ardents.Go.Run
import Ardents.Messaging.MessageStore

/-!
# The message store and its file

Every operation works out what the store is to hold next, hands that to `persistSnapshotLocked`,
and installs it when that returns no error. Some operations find nothing to do and ask for no
write.
-/

namespace Ardents.Messaging

open Go
open Crypto (Time)

/-! ## The operations -/

inductive MessageOp where
  | saveMessage (msg : Message)
  | updateMessageStatus (messageID : String) (status : MessageStatus)
  | updateMessageContent (messageID : String) (content : Bytes) (contentType : ContentType)
      (now : Time)
  | deleteMessage (contactID messageID : String)
  | clearMessages (contactID : String)
  | addOrUpdatePending (message : Message) (retryCount : Int) (nextRetry : Time)
      (lastErr : String)
  | removePending (messageID : String)
  | purgeOlderThan (cutoff : Time)

namespace MessageOp

/-- The operation, given what `persistSnapshotLocked` answers it. -/
def apply (s : MessageStore) (written : Bool) : MessageOp → Except StoreError MessageStore
  | .saveMessage msg => s.saveMessage msg written
  | .updateMessageStatus messageID status => s.updateMessageStatus messageID status written
  | .updateMessageContent messageID content contentType now =>
    s.updateMessageContent messageID content contentType now written
  | .deleteMessage contactID messageID => s.deleteMessage contactID messageID written
  | .clearMessages contactID => s.clearMessages contactID written
  | .addOrUpdatePending message retryCount nextRetry lastErr =>
    s.addOrUpdatePending message retryCount nextRetry lastErr written
  | .removePending messageID => s.removePending messageID written
  | .purgeOlderThan cutoff => s.purgeOlderThan cutoff written

/-- What the operation hands to `persistSnapshotLocked`. It asks for a write exactly where it
fails if the write does. -/
def snapshot (s : MessageStore) (op : MessageOp) : Option MessageStore :=
  match op.apply s false with
  | .error .storage => (op.apply s true).toOption
  | _ => none

def idle (s : MessageStore) (op : MessageOp) : Except StoreError Unit :=
  (op.apply s true).map fun _ => ()

/-- What the store is to hold after an operation that asks for a write. -/
inductive Next (s : MessageStore) : MessageOp → MessageStore → Prop where
  | saved {msg : Message} (hnone : s.messages[msg.id]? = none) : Next s (.saveMessage msg)
      { s with messages := s.messages.insert msg.id (normalizeMessageConversation msg) }
  | status {messageID : String} {status : MessageStatus} {msg : Message}
      (hmsg : s.messages[messageID]? = some msg) : Next s (.updateMessageStatus messageID status)
      { s with
        messages := s.messages.insert messageID
          { msg with status := mergeMessageStatus msg.status status } }
  | content {messageID : String} {content : Bytes} {contentType : ContentType} {now : Time}
      {msg : Message} (hmsg : s.messages[messageID]? = some msg) :
      Next s (.updateMessageContent messageID content contentType now)
      { s with
        messages := s.messages.insert messageID { msg with
          content := content, contentType := contentType, edited := true, timestamp := now } }
  | deleted (contactID messageID : String) : Next s (.deleteMessage contactID messageID)
      ⟨s.messages.erase messageID, s.pending.erase messageID⟩
  | swept {op : MessageOp} (gone : String → Bool) (keep : String → PendingMessage → Bool)
      (hkeep : ∀ id p, keep id p = true → gone id = false) :
      Next s op ⟨s.messages.filter fun id _ => !gone id, s.pending.filter keep⟩
  | queued (message : Message) (retryCount : Int) (nextRetry : Time) (lastErr : String) :
      Next s (.addOrUpdatePending message retryCount nextRetry lastErr) { s with
        pending := s.pending.insert message.id ⟨message, retryCount, nextRetry, lastErr⟩ }
  | unqueued (messageID : String) :
      Next s (.removePending messageID) { s with pending := s.pending.erase messageID }

theorem apply_cases (s : MessageStore) (op : MessageOp) :
    (∃ next, op.Next s next ∧ ∀ written, op.apply s written = MessageStore.commit next written) ∨
      (∀ written, op.apply s written = .ok s) ∨
      (∀ written, op.apply s written = .error .messageIDConflict) := by
  cases op with
  | saveMessage msg =>
    rcases s.saveMessage_cases msg true with ⟨existing, hget, -⟩ | ⟨hget, -⟩
    · grind [apply, MessageStore.saveMessage, normalizeMessageConversation_id]
    · refine .inl ⟨_, .saved hget, fun written => ?_⟩
      simp only [apply, MessageStore.saveMessage, normalizeMessageConversation_id, hget]
  | updateMessageStatus messageID status =>
    cases hget : s.messages[messageID]? with
    | none => exact .inr (.inl fun _ => by simp [apply, MessageStore.updateMessageStatus, hget])
    | some msg =>
      refine .inl ⟨_, .status hget, fun _ => ?_⟩
      simp only [apply, MessageStore.updateMessageStatus, hget]
  | updateMessageContent messageID content contentType now =>
    cases hget : s.messages[messageID]? with
    | none => exact .inr (.inl fun _ => by simp [apply, MessageStore.updateMessageContent, hget])
    | some msg =>
      refine .inl ⟨_, .content hget, fun _ => ?_⟩
      simp only [apply, MessageStore.updateMessageContent, hget]
  | deleteMessage contactID messageID =>
    cases hget : s.messages[messageID]? with
    | none => exact .inr (.inl fun _ => by simp [apply, MessageStore.deleteMessage, hget])
    | some msg =>
      by_cases hcontact : msg.contactID = contactID
      · refine .inl ⟨_, .deleted contactID messageID, fun written => ?_⟩
        simp only [apply, MessageStore.deleteMessage, hget, hcontact, ne_eq, not_true, if_false]
      · exact .inr (.inl fun _ => by simp [apply, MessageStore.deleteMessage, hget, hcontact])
  | clearMessages contactID =>
    simp only [apply, MessageStore.clearMessages]
    split
    · refine .inl ⟨_, .swept _ _ fun id p hkept => ?_, fun _ => rfl⟩
      simpa using (Bool.and_eq_true_iff.mp hkept).1
    · exact .inr (.inl fun _ => rfl)
  | addOrUpdatePending message retryCount nextRetry lastErr =>
    exact .inl ⟨_, .queued message retryCount nextRetry lastErr, fun _ => rfl⟩
  | removePending messageID => exact .inl ⟨_, .unqueued messageID, fun _ => rfl⟩
  | purgeOlderThan cutoff =>
    simp only [apply, MessageStore.purgeOlderThan]
    split
    · refine .inl ⟨_, .swept _ _ fun id p hkept => ?_, fun _ => rfl⟩
      simpa using hkept
    · exact .inr (.inl fun _ => rfl)

theorem apply_ok {s s' : MessageStore} {op : MessageOp} {written : Bool}
    (h : op.apply s written = .ok s') : s' = s ∨ written = true ∧ op.Next s s' := by
  rcases op.apply_cases s with ⟨next, hnext, hcommit⟩ | hok | hconflict
  · rw [hcommit] at h
    cases written with
    | false => cases h
    | true =>
      obtain rfl := Except.ok.inj h
      exact .inr ⟨rfl, hnext⟩
  · exact .inl (Except.ok.inj (h.symm.trans (hok written)))
  · exact absurd (h.symm.trans (hconflict written)) (by simp)

variable {op : MessageOp}

theorem snapshot_of_commit {s next : MessageStore}
    (h : ∀ written, op.apply s written = MessageStore.commit next written) :
    op.snapshot s = some next := by
  simp [snapshot, h, MessageStore.commit, Except.toOption]

theorem snapshot_of_ok {s : MessageStore}
    (h : ∀ written, op.apply s written = .ok s) : op.snapshot s = none := by
  simp [snapshot, h]

theorem snapshot_of_conflict {s : MessageStore}
    (h : ∀ written, op.apply s written = .error .messageIDConflict) : op.snapshot s = none := by
  simp [snapshot, h]

theorem apply_of_snapshot {s next : MessageStore}
    (h : op.snapshot s = some next) : op.apply s true = .ok next := by
  rcases op.apply_cases s with ⟨next', -, hnext⟩ | hok | hconflict
  · rw [snapshot_of_commit hnext] at h
    obtain rfl := Option.some.inj h
    exact hnext true
  · grind [snapshot_of_ok]
  · grind [snapshot_of_conflict]

end MessageOp

/-! ### What becomes of a message -/

inductive Fate (id : String) : Option Message → Option Message → Prop where
  | kept (stored : Option Message) : Fate id stored stored
  | saved (msg : Message) : msg.id = id → Fate id none (some (normalizeMessageConversation msg))
  | status (msg : Message) (status : MessageStatus) :
      Fate id (some msg) (some { msg with status := mergeMessageStatus msg.status status })
  | content (msg : Message) (content : Bytes) (contentType : ContentType) (now : Time) :
      Fate id (some msg) (some { msg with
        content := content, contentType := contentType, edited := true, timestamp := now })
  | removed (msg : Message) : Fate id (some msg) none

theorem Fate.of_none_or_kept {id : String} {before after : Option Message}
    (h : after = none ∨ after = before) : Fate id before after := by
  rcases h with rfl | rfl
  · cases before with
    | none => exact .kept none
    | some msg => exact .removed msg
  · exact .kept after

theorem fate_filter {s : MessageStore} {p : String → Bool} (id : String) :
    Fate id s.messages[id]? (s.messages.filter fun k _ => p k)[id]? := by
  refine .of_none_or_kept ?_
  grind

theorem fate_insert {s : MessageStore} {id : String} {msg : Message}
    (h : Fate id s.messages[id]? (some msg)) (id' : String) :
    Fate id' s.messages[id']? (s.messages.insert id msg)[id']? := by
  rw [get_insert]
  split
  · rename_i hid
    exact hid ▸ h
  · exact .kept _

theorem MessageOp.fate {s s' : MessageStore} {op : MessageOp} {written : Bool}
    (h : op.apply s written = .ok s') (id : String) : Fate id s.messages[id]? s'.messages[id]? := by
  rcases apply_ok h with rfl | ⟨-, hnext⟩
  · exact .kept _
  cases hnext with
  | saved hnone => exact fate_insert (hnone ▸ .saved _ rfl) id
  | status hmsg => exact fate_insert (hmsg ▸ .status _ _) id
  | content hmsg => exact fate_insert (hmsg ▸ .content _ _ _ _) id
  | deleted contactID messageID =>
    refine .of_none_or_kept ?_
    rw [get_erase]
    split
    · exact .inl rfl
    · exact .inr rfl
  | swept gone keep hkeep => exact fate_filter id
  | queued | unqueued => exact .kept _

theorem normalizeMessageConversation_status (msg : Message) (status : MessageStatus) :
    normalizeMessageConversation { msg with status := status } =
      { normalizeMessageConversation msg with status := status } := by
  grind [normalizeMessageConversation]

theorem normalizeMessageConversation_content (msg : Message) (content : Bytes)
    (contentType : ContentType) (edited : Bool) (now : Time) :
    normalizeMessageConversation { msg with
        content := content, contentType := contentType, edited := edited, timestamp := now } =
      { normalizeMessageConversation msg with
        content := content, contentType := contentType, edited := edited, timestamp := now } := by
  grind [normalizeMessageConversation]

theorem Fate.keeps {id : String} {before after : Option Message} {P : Message → Prop}
    (h : Fate id before after)
    (hsaved : ∀ msg : Message, msg.id = id → P (normalizeMessageConversation msg))
    (hstatus : ∀ (msg : Message) (status : MessageStatus), P msg → P { msg with status := status })
    (hcontent : ∀ (msg : Message) (content : Bytes) (contentType : ContentType) (now : Time),
      P msg → P { msg with
        content := content, contentType := contentType, edited := true, timestamp := now })
    (hbefore : ∀ m, before = some m → P m) : ∀ m, after = some m → P m := by
  intro m hm
  cases h with
  | kept => exact hbefore m hm
  | saved | status | content =>
    grind
  | removed msg => exact absurd hm (by simp)

theorem Fate.normal {id : String} {before after : Option Message} (h : Fate id before after)
    (hbefore : ∀ m, before = some m → normalizeMessageConversation m = m) :
    ∀ m, after = some m → normalizeMessageConversation m = m := by
  refine h.keeps (fun msg _ => normalizeMessageConversation_idem msg) ?_ ?_ hbefore
  · intro msg status hmsg
    rw [normalizeMessageConversation_status, hmsg]
  · grind [normalizeMessageConversation_content]

/-! ## The file -/

/-- What `messages.json` says. A map that is not there is `nil`. -/
structure Snapshot where
  schemaVersion : Int
  messages : Option (GoMap String Message)
  pending : Option (GoMap String PendingMessage)

def messageStoreSchemaVersion : Int := 2

/-- How a snapshot becomes a file image: JSON, encrypted where there is a secret. -/
structure SnapshotCodec (ι : Type) where
  encode : Snapshot → ι
  decode : ι → Option Snapshot
  decode_encode : ∀ s, decode (encode s) = some s

inductive LoadError where
  | decode
  | unsupportedSchema
  | storage
  deriving DecidableEq, Repr

/-- `MessageStore` with a path, and what is there. An empty file says what no file says. -/
structure FileMessageStore (ι : Type) where
  path : String
  persist : Bool
  memory : MessageStore
  file : Option ι

open MessageOp

namespace FileMessageStore

variable {ι : Type} (codec : SnapshotCodec ι)

def Writes (s : FileMessageStore ι) : Prop := s.path ≠ "" ∧ s.persist = true

instance (s : FileMessageStore ι) : Decidable s.Writes :=
  inferInstanceAs (Decidable (s.path ≠ "" ∧ s.persist = true))

def imageOf (next : MessageStore) : ι :=
  codec.encode ⟨messageStoreSchemaVersion, some next.messages, some next.pending⟩

/-- `persistSnapshotLocked`. A write that fails leaves the file as it was. -/
def persistSnapshot (s : FileMessageStore ι) (next : MessageStore) (written : Bool) :
    Except StoreError (FileMessageStore ι) :=
  if ¬ s.Writes then .ok s
  else if written then .ok { s with file := some (imageOf codec next) }
  else .error .storage

def call (s : FileMessageStore ι) (op : MessageOp) (written : Bool) :
    Except StoreError Unit × FileMessageStore ι :=
  match op.snapshot s.memory with
  | none => (op.idle s.memory, s)
  | some next =>
    match s.persistSnapshot codec next written with
    | .error e => (.error e, s)
    | .ok s' => (.ok (), { s' with memory := next })

/-- What `load` makes of a snapshot. -/
def ofSnapshot (snapshot : Snapshot) : MessageStore :=
  MessageStore.load ⟨snapshot.messages.getD ∅, snapshot.pending.getD ∅⟩

/-- `NewEncryptedPersistentMessageStore`, with `load`. -/
def openStore (path : String) (file : Option ι) (written : Bool) :
    Except LoadError (FileMessageStore ι) :=
  let s : FileMessageStore ι := ⟨path, true, .empty, file⟩
  if path = "" then .ok s
  else
    match file with
    | none => .ok s
    | some data =>
      match codec.decode data with
      | none => .error .decode
      | some snapshot =>
        if snapshot.schemaVersion > messageStoreSchemaVersion then .error .unsupportedSchema
        else
          let s := { s with memory := ofSnapshot snapshot }
          if snapshot.schemaVersion ≠ messageStoreSchemaVersion then
            (s.persistSnapshot codec s.memory written).mapError fun _ => .storage
          else .ok s

theorem call_eq (s : FileMessageStore ι) (op : MessageOp) (written : Bool) :
    (s.call codec op written).1 = (op.apply s.memory (written || !s.Writes)).map (fun _ => ()) ∧
      (s.call codec op written).2.memory =
        recorded s.memory (op.apply s.memory (written || !s.Writes)) := by
  unfold call
  rcases op.apply_cases s.memory with ⟨next, -, hnext⟩ | hok | hconflict
  · rw [snapshot_of_commit hnext, hnext]
    by_cases hwrites : s.Writes
    · cases written with
      | true | false => simp [persistSnapshot, hwrites, MessageStore.commit, recorded, Except.map]
    · simp [persistSnapshot, hwrites, MessageStore.commit, recorded, Except.map]
  · rw [snapshot_of_ok hok, hok]
    simp [MessageOp.idle, hok, recorded, Except.map]
  · grind [snapshot_of_conflict, MessageOp.idle, recorded]

theorem call_config (s : FileMessageStore ι) (op : MessageOp) (written : Bool) :
    (s.call codec op written).2.path = s.path ∧
      (s.call codec op written).2.persist = s.persist := by
  grind [call, persistSnapshot]

/-- The file, read again, gives what is in memory: the messages as they are, the pending ones
normalised. Whether a write would succeed does not matter, since none is made. -/
def Reloads (s : FileMessageStore ι) : Prop :=
  ∀ written, ∃ again, openStore codec s.path s.file written = .ok again ∧
    again.memory.messages = s.memory.messages ∧
    again.memory.pending = s.memory.pending.map fun _ p =>
      { p with message := normalizeMessageConversation p.message }

structure Durable (s : FileMessageStore ι) : Prop where
  writes : s.Writes
  normal : ∀ (id : String) (m : Message), s.memory.messages[id]? = some m →
    normalizeMessageConversation m = m
  reloads : s.Reloads codec

variable {codec} {s : FileMessageStore ι}

theorem map_normalize_eq_self {messages : GoMap String Message}
    (h : ∀ (id : String) (m : Message), messages[id]? = some m →
      normalizeMessageConversation m = m) :
    (messages.map fun _ m => normalizeMessageConversation m) = messages := by
  grind

theorem normal_ofSnapshot (snapshot : Snapshot) (id : String) (m : Message)
    (h : (ofSnapshot snapshot).messages[id]? = some m) : normalizeMessageConversation m = m := by
  obtain ⟨m', -, rfl⟩ := get_map h
  exact normalizeMessageConversation_idem m'

theorem reloads_of_written (hpath : s.path ≠ "")
    (hnormal : ∀ (id : String) (m : Message), s.memory.messages[id]? = some m →
      normalizeMessageConversation m = m)
    (hfile : s.file = some (imageOf codec s.memory)) : s.Reloads codec := by
  intro written
  refine ⟨⟨s.path, true, s.memory.load, s.file⟩, ?_, map_normalize_eq_self hnormal, rfl⟩
  unfold openStore
  simp [hpath, hfile, imageOf, codec.decode_encode, ofSnapshot]

theorem load_load (store : MessageStore) : store.load.load = store.load := by
  simp [MessageStore.load, normalizeMessageConversation_idem]

theorem durable_openStore {path : String} {file : Option ι} {written : Bool} (hpath : path ≠ "")
    (h : openStore codec path file written = .ok s) : s.Durable codec := by
  unfold openStore at h
  dsimp only at h
  rw [if_neg hpath] at h
  cases file with
  | none =>
    obtain rfl := Except.ok.inj h
    refine ⟨⟨hpath, rfl⟩, fun id m hm => absurd hm (by simp [MessageStore.empty]), ?_⟩
    intro written
    simp [openStore, MessageStore.empty]
  | some data =>
    dsimp only at h
    cases hdecode : codec.decode data with
    | none => exact absurd h (by simp [hdecode])
    | some snapshot =>
      rw [hdecode] at h
      dsimp only at h
      split at h
      · exact absurd h (by simp)
      · rename_i hsupported
        split at h
        · -- the file is migrated, so it is one that the store has written
          rename_i hold
          simp only [persistSnapshot, Writes, hpath, ne_eq, not_false_eq_true, and_self,
            not_true_eq_false, if_false] at h
          split at h
          · obtain rfl := Except.ok.inj h
            exact ⟨⟨hpath, rfl⟩, normal_ofSnapshot snapshot,
              reloads_of_written hpath (normal_ofSnapshot snapshot) rfl⟩
          · exact absurd h (by simp [Except.mapError])
        · rename_i hcurrent
          obtain rfl := Except.ok.inj h
          refine ⟨⟨hpath, rfl⟩, normal_ofSnapshot snapshot, fun written => ?_⟩
          refine ⟨⟨path, true, ofSnapshot snapshot, some data⟩, ?_, rfl, ?_⟩
          · simp [openStore, hpath, hdecode, hsupported, hcurrent]
          · exact (congrArg MessageStore.pending (load_load _)).symm

theorem Durable.call (h : s.Durable codec) (op : MessageOp) (written : Bool) :
    (s.call codec op written).2.Durable codec := by
  unfold FileMessageStore.call
  cases hsnapshot : op.snapshot s.memory with
  | none => exact h
  | some next =>
    simp only [persistSnapshot, h.writes, not_true_eq_false, if_false]
    cases written with
    | false => exact h
    | true =>
      have hnormal : ∀ (id : String) (m : Message), next.messages[id]? = some m →
          normalizeMessageConversation m = m := fun id =>
        (MessageOp.fate (apply_of_snapshot hsnapshot) id).normal (h.normal id)
      exact ⟨h.writes, hnormal, reloads_of_written h.writes.1 hnormal rfl⟩

theorem Durable.run (h : s.Durable codec) (calls : List (MessageOp × Bool)) :
    (Go.run (fun s c => (s.call codec c.1 c.2).2) s calls).Durable codec :=
  run_inv (fun _ c hs => hs.call c.1 c.2) h calls

/--
**Operations are atomic and durable.** A store opened on any file, with a path, after any
calls with any writes failing: the next call either succeeds or leaves memory as it was, and
after it the file says what memory says.
-/
theorem calls_atomic_and_durable {path : String} {file : Option ι} {written : Bool}
    (hpath : path ≠ "") (hopen : openStore codec path file written = .ok s)
    (calls : List (MessageOp × Bool)) (op : MessageOp) (taken : Bool) :
    let before := Go.run (fun s c => (s.call codec c.1 c.2).2) s calls
    let after := before.call codec op taken
    (∀ e, after.1 = .error e → after.2.memory = before.memory) ∧ after.2.Reloads codec := by
  intro before after
  have hdurable : before.Durable codec := (durable_openStore hpath hopen).run calls
  refine ⟨fun e he => ?_, (hdurable.call op taken).reloads⟩
  obtain ⟨hresult, hmemory⟩ := before.call_eq codec op taken
  rw [hmemory]
  rw [show after.1 = _ from hresult] at he
  cases hop : op.apply before.memory (taken || !before.Writes) with
  | error e' => rfl
  | ok store => exact absurd he (by simp [hop, Except.map])

def plainSnapshots : SnapshotCodec Snapshot := ⟨id, some, fun _ => rfl⟩

def note : Message :=
  { id := "m", contactID := " bob", conversationID := "", conversationType := .other ""
    threadID := "", content := [104, 105], timestamp := 0, direction := .outbound
    status := .pending, contentType := .text, edited := false }

def oldFile : Snapshot := ⟨0, some ((∅ : GoMap String Message).insert "m" note), none⟩

/-- The message is queued; deleting it then fails. -/
theorem failed_delete_keeps :
    ∃ s, openStore plainSnapshots "messages.json" (some oldFile) true = .ok s ∧
      let before := Go.run (fun s c => (s.call plainSnapshots c.1 c.2).2) s
        [(.addOrUpdatePending note 1 5 "", true)]
      let after := before.call plainSnapshots (.deleteMessage "bob" "m") false
      after.1 = .error .storage ∧
        (∀ e, after.1 = .error e → after.2.memory = before.memory) ∧
        after.2.Reloads plainSnapshots := by
  have hpath : "messages.json" ≠ "" := by decide
  obtain ⟨s, hopen⟩ : ∃ s, openStore plainSnapshots "messages.json" (some oldFile) true = .ok s :=
    ⟨_, rfl⟩
  refine ⟨s, hopen, ?_, ?_⟩
  · obtain rfl := Except.ok.inj (hopen.symm.trans rfl)
    decide
  exact calls_atomic_and_durable hpath hopen [(.addOrUpdatePending note 1 5 "", true)]
    (.deleteMessage "bob" "m") false

/-! ## Wiping and switching persistence -/

/-- `Wipe`; the file stays where it cannot be removed. -/
def wipe (s : FileMessageStore ι) (removed : Bool) : Bool × FileMessageStore ι :=
  if trimSpace s.path = "" then (true, { s with memory := .empty })
  else (removed, { s with memory := .empty, file := if removed then none else s.file })

def setPersistenceEnabled (s : FileMessageStore ι) (enabled : Bool) : FileMessageStore ι :=
  { s with persist := enabled }

inductive Request where
  | call (op : MessageOp) (written : Bool)
  | wipe (removed : Bool)
  | setPersistenceEnabled (enabled : Bool)

def step (codec : SnapshotCodec ι) (s : FileMessageStore ι) : Request → FileMessageStore ι
  | .call op written => (s.call codec op written).2
  | .wipe removed => (s.wipe removed).2
  | .setPersistenceEnabled enabled => s.setPersistenceEnabled enabled

theorem step_fate (codec : SnapshotCodec ι) (s : FileMessageStore ι) (r : Request) (id : String) :
    Fate id s.memory.messages[id]? (s.step codec r).memory.messages[id]? := by
  cases r with
  | call op written =>
    show Fate id _ (s.call codec op written).2.memory.messages[id]?
    rw [(s.call_eq codec op written).2]
    cases hop : op.apply s.memory (written || !s.Writes) with
    | error e => exact .kept _
    | ok store => exact MessageOp.fate hop id
  | wipe removed =>
    refine .of_none_or_kept (.inl ?_)
    grind [step, wipe, MessageStore.empty]
  | setPersistenceEnabled enabled => exact .kept _

end FileMessageStore

end Ardents.Messaging
