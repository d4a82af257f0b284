import Ardents.Messaging.FileStore
import Ardents.Messaging.Routing
import Ardents.Messaging.Survival

/-!
# Sending again

A message whose first publish fails is queued, and the retry loop builds its wire anew. The first
wire of a group message gets the metadata of the group from `prepareAndPublishGroupMessage`, and
the retry loop knows nothing of it: what was sent to a group the first time is sent as a direct
message every time after.
-/

namespace Ardents.Messaging

open Go
open Crypto
open MessageStore

/-! ## Group fan-out -/

structure GroupMessageWireMeta where
  groupID : String
  eventID : String
  membershipVersion : UInt64
  groupKeyVersion : UInt32
  senderDeviceID : String
  deriving DecidableEq, Repr

/-- `fanoutContext`: what is settled before the loop over the recipients. -/
structure FanoutContext where
  groupID : String
  eventID : String
  content : String
  threadID : String
  deviceID : String
  now : Time
  version : UInt64
  groupKeyVersion : UInt32
  deriving DecidableEq, Repr

def groupFanoutTransportContentType : ContentType := .other "group_fanout_transport"

section

variable (P : Primitives) {σ : Type} [SessionStore σ]

def deriveRecipientMessageID (eventID recipientID : String) : String :=
  "gmsg_" ++ hexEncode
    ((P.sha256 (bytesOf (trimSpace eventID ++ "|" ++ trimSpace recipientID))).take 12)

/-- The message `processRecipient` saves for a recipient. -/
def fanoutMessage (ctx : FanoutContext) (recipientID : String) : Message :=
  { id := deriveRecipientMessageID P ctx.eventID recipientID, contactID := recipientID
    conversationID := ctx.groupID, conversationType := .group, threadID := ctx.threadID
    content := bytesOf ctx.content, timestamp := ctx.now, direction := .outbound
    status := .pending, contentType := groupFanoutTransportContentType, edited := false }

def FanoutContext.wireMeta (ctx : FanoutContext) : GroupMessageWireMeta :=
  { groupID := ctx.groupID, eventID := ctx.eventID, membershipVersion := ctx.version
    groupKeyVersion := ctx.groupKeyVersion, senderDeviceID := ctx.deviceID }

/-- `prepareAndPublishGroupMessage` up to the publish. -/
def prepareGroupMessage (sessions : σ) (msg : Message) (wireMeta : GroupMessageWireMeta)
    (inp : EncryptInputs) : Except BuildError (WirePayload × σ) :=
  match buildWireForOutboundMessage P sessions msg inp with
  | .error e => .error e
  | .ok (wire, sessions') =>
    .ok ({ wire with
      conversationType := "group"
      conversationID := wireMeta.groupID
      threadID := trimSpace msg.threadID
      eventType := groupWireEventTypeMessage
      eventID := wireMeta.eventID
      membershipVersion := wireMeta.membershipVersion
      groupKeyVersion := wireMeta.groupKeyVersion
      senderDeviceID := wireMeta.senderDeviceID }, sessions')

end

/-! ## The service at work -/

inductive Dispatch where
  | attempt (att : Attempt)
  | fanout (msg : Message) (wire : WirePayload)
  deriving DecidableEq

def Dispatch.isRetry : Dispatch → Bool
  | .attempt att => att.isRetry
  | .fanout .. => false

/-- The message that is put into the queue, which those do who send and nobody else. -/
def MessageOp.queues : MessageOp → Option Message
  | .addOrUpdatePending message _ _ _ => some message
  | _ => none

structure Sender (σ : Type) where
  sessions : σ
  outbox : Outbox
  inFlight : List Dispatch
  /-- What `publishQueuedMessage` was called with, latest first. -/
  first : List (Message × WirePayload)
  /-- The wires that `processPendingBatch` has built, latest first. -/
  retried : List (PendingMessage × WirePayload)

inductive SenderEvent where
  | send (contactID content threadID : String) (inp : BuildInputs)
  | fanout (ctx : FanoutContext) (recipientID : String) (inp : EncryptInputs) (written : Bool)
  /-- The retry loop collects the due messages, in the order the map yields them. -/
  | tick (now : Time) (batch : List PendingMessage)
  | recover (now : Time) (batch : List PendingMessage)
  /-- The loop takes up the next message of its batch. -/
  | next (inp : BuildInputs) (onError : PublishInputs)
  /-- An attempt in flight ends. -/
  | publish (i : Nat) (inp : PublishInputs)
  /-- What others do to the message store meanwhile; `written` says whether the disk took it. -/
  | other (op : MessageOp) (hop : op.queues = none) (written : Bool)
  /-- The daemon stops; what is on disk is there when it starts again. -/
  | restart

namespace Sender

variable (P : Primitives) {σ : Type} [SessionStore σ]

def withStore (s : Sender σ) (store : MessageStore) : Sender σ :=
  { s with outbox := { s.outbox with store := store } }

def retrying (s : Sender σ) : Bool := s.inFlight.any Dispatch.isRetry

def collect (s : Sender σ) (now : Time) (batch : List PendingMessage) (recovering : Bool) :
    Sender σ :=
  if s.outbox.batch = [] ∧ s.retrying = false ∧ batch.Perm (s.outbox.store.duePending now) then
    { s with outbox := { s.outbox with batch := batch, recovering := recovering } }
  else s

/-- One recipient of a fan-out: a message that is there already is not sent again. -/
def fanout (s : Sender σ) (ctx : FanoutContext) (recipientID : String) (inp : EncryptInputs)
    (written : Bool) : Sender σ :=
  let msg := fanoutMessage P ctx recipientID
  if msg.id ∈ s.outbox.store.messages then s
  else
    match s.outbox.store.saveMessage msg written with
    | .error _ => s
    | .ok store =>
      match prepareGroupMessage P s.sessions msg ctx.wireMeta inp with
      | .error _ => s.withStore store
      | .ok (wire, sessions') =>
        { s.withStore store with
          sessions := sessions', inFlight := s.inFlight ++ [.fanout msg wire] }

def next (s : Sender σ) (inp : BuildInputs) (onError : PublishInputs) : Sender σ :=
  if s.retrying then s
  else
    match s.outbox.batch with
    | [] => s
    | p :: rest =>
      match beginRetry P s.sessions p inp with
      | .error f =>
        { s with outbox := { s.outbox with
            batch := rest, store := s.outbox.onPublishError p f onError } }
      | .ok (att, sessions') =>
        { s with
          sessions := sessions', outbox := { s.outbox with batch := rest }
          inFlight := s.inFlight ++ [.attempt att], retried := (p, att.wire) :: s.retried }

/-- The message of a send, once it has an id; it is then published for the first time. -/
def allocated (s : Sender σ) (inp : PublishInputs) : Attempt → List (Message × WirePayload)
  | .send contactID content threadID wire =>
    match allocateOutboundMessage s.outbox.store contactID content threadID
        (inp.rounds.take 3) with
    | .error _ => []
    | .ok (msg, _) => [(msg, wire)]
  | .retry .. => []

def publish (s : Sender σ) (i : Nat) (inp : PublishInputs) : Sender σ :=
  match s.inFlight[i]? with
  | none => s
  | some (.attempt att) =>
    { s.withStore (s.outbox.finish inp att).2 with
      inFlight := s.inFlight.eraseIdx i, first := s.allocated inp att ++ s.first }
  | some (.fanout msg wire) =>
    { s.withStore (publishQueuedMessage s.outbox.store msg inp).2 with
      inFlight := s.inFlight.eraseIdx i, first := (msg, wire) :: s.first }

def step (s : Sender σ) : SenderEvent → Sender σ
  | .send contactID content threadID inp =>
    match beginSend P s.sessions contactID content threadID inp with
    | .error _ => s
    | .ok (att, sessions') =>
      { s with sessions := sessions', inFlight := s.inFlight ++ [.attempt att] }
  | .fanout ctx recipientID inp written => s.fanout P ctx recipientID inp written
  | .tick now batch => s.collect now batch false
  | .recover now batch => s.collect (now + startupRecoveryLookahead) batch true
  | .next inp onError => s.next P inp onError
  | .publish i inp => s.publish i inp
  | .other op _ written => s.withStore (recorded s.outbox.store (op.apply s.outbox.store written))
  | .restart => { s with outbox := ⟨s.outbox.store, [], false⟩, inFlight := [] }

def initial (sessions : σ) (messages : GoMap String Message) : Sender σ :=
  { sessions := sessions, outbox := ⟨⟨messages, ∅⟩, [], false⟩, inFlight := [], first := []
    retried := [] }

end Sender

/-! ## What the wires say -/

/-- Where a wire belongs: the fields that a receiver routes it by, and the device it names. -/
structure WireMetadata where
  conversationType : String
  conversationID : String
  threadID : String
  eventType : String
  eventID : String
  membershipVersion : UInt64
  groupKeyVersion : UInt32
  senderDeviceID : String
  deriving DecidableEq, Repr

def WirePayload.metadata (wire : WirePayload) : WireMetadata :=
  { conversationType := wire.conversationType, conversationID := wire.conversationID
    threadID := wire.threadID, eventType := wire.eventType, eventID := wire.eventID
    membershipVersion := wire.membershipVersion, groupKeyVersion := wire.groupKeyVersion
    senderDeviceID := wire.senderDeviceID }

structure IsDirectWire (threadID : String) (wire : WirePayload) : Prop where
  metadata : wire.metadata = ⟨"", "", threadID, "", "", 0, 0, ""⟩
  route : route wire = .direct

structure IsGroupWire (wire : WirePayload) : Prop where
  eventType : wire.metadata.eventType = groupWireEventTypeMessage
  route : route wire = .groupMessage

theorem IsDirectWire.not_isGroupWire {threadID : String} {w w' : WirePayload}
    (h : IsDirectWire threadID w) (h' : IsGroupWire w') :
    w.metadata ≠ w'.metadata ∧ Messaging.route w ≠ Messaging.route w' := by
  grind [cases IsDirectWire, cases IsGroupWire, groupWireEventTypeMessage]

open WirePayload

section

variable {P : Primitives} {σ : Type} [SessionStore σ] {sessions sessions' : σ} {msg : Message}
  {inp : EncryptInputs} {wire : WirePayload}

theorem buildWireForOutboundMessage_bare
    (h : buildWireForOutboundMessage P sessions msg inp = .ok (wire, sessions')) :
    ∃ env, wire = { kind := .e2ee, envelope := env } := by
  grind [e2eeWire, buildWireForOutboundMessage]

theorem buildStoredMessageWire_isDirectWire {selfCard : Option Identity.ContactCard}
    (h : buildStoredMessageWire P sessions msg inp selfCard = .ok (wire, sessions')) :
    IsDirectWire (trimSpace msg.threadID) wire := by
  unfold buildStoredMessageWire at h
  split at h
  · split at h
    · exact absurd h (by simp)
    · obtain ⟨rfl, -⟩ := Prod.mk.inj (Except.ok.inj h)
      exact ⟨rfl, route_eq_direct_iff.mpr (by
        simp [isRevocation, isReceipt, newPlainWire])⟩
  · exact absurd h (by simp)
  · rename_i w t hw
    obtain ⟨env, rfl⟩ := buildWireForOutboundMessage_bare hw
    obtain ⟨rfl, -⟩ := Prod.mk.inj (Except.ok.inj h)
    exact ⟨rfl, route_eq_direct_iff.mpr (by
      simp [isRevocation, isReceipt])⟩

theorem prepareGroupMessage_isGroupWire {wireMeta : GroupMessageWireMeta}
    (h : prepareGroupMessage P sessions msg wireMeta inp = .ok (wire, sessions')) :
    IsGroupWire wire := by
  unfold prepareGroupMessage at h
  split at h
  · exact absurd h (by simp)
  · rename_i w t hw
    obtain ⟨env, rfl⟩ := buildWireForOutboundMessage_bare hw
    obtain ⟨rfl, -⟩ := Prod.mk.inj (Except.ok.inj h)
    refine ⟨rfl, ?_⟩
    rfl

theorem beginSend_isDirectWire {contactID content threadID : String} {build : BuildInputs}
    {att : Attempt}
    (h : beginSend P sessions contactID content threadID build = .ok (att, sessions')) :
    ∃ contactID content wire, att = .send contactID content threadID wire ∧
      IsDirectWire (trimSpace threadID) wire := by
  unfold beginSend at h
  split at h
  · exact absurd h (by simp)
  · split at h
    · exact absurd h (by simp)
    · dsimp only at h
      split at h
      · exact absurd h (by simp)
      · rename_i contact text _ _ _ wire t hw
        have hdirect := buildStoredMessageWire_isDirectWire hw
        exact ⟨contact, text, wire, (congrArg Prod.fst (Except.ok.inj h)).symm, hdirect⟩

theorem beginRetry_isDirectWire {p : PendingMessage} {build : BuildInputs} {att : Attempt}
    (h : beginRetry P sessions p build = .ok (att, sessions')) :
    att = .retry p att.wire ∧ IsDirectWire (trimSpace p.message.threadID) att.wire := by
  unfold beginRetry at h
  split at h
  · exact absurd h (by simp)
  · rename_i wire t hw
    obtain ⟨rfl, rfl⟩ := Prod.mk.inj (Except.ok.inj h)
    exact ⟨rfl, buildStoredMessageWire_isDirectWire hw⟩

end

/-! ## What is queued -/

/-- Every message in the queue satisfies `Q`. -/
def Queues (Q : Message → Prop) (store : MessageStore) : Prop :=
  ∀ (id : String) (p : PendingMessage), store.pending[id]? = some p → Q p.message

section

variable {Q : Message → Prop} {store : MessageStore} {msg : Message} {inp : PublishInputs}

theorem Queues.recorded_commit (h : Queues Q store) {store' : MessageStore} (h' : Queues Q store')
    (written : Bool) : Queues Q (recorded store (store'.commit written)) := by
  grind [recorded_commit]

theorem Queues.erase (h : Queues Q store) (messages : GoMap String Message) (id : String) :
    Queues Q ⟨messages, store.pending.erase id⟩ := by
  intro k p hp
  rw [get_erase] at hp
  split at hp
  · exact absurd hp (by simp)
  · exact h k p hp

theorem Queues.removePending (h : Queues Q store) (id : String) (written : Bool) :
    Queues Q (recorded store (store.removePending id written)) :=
  h.recorded_commit (h.erase store.messages id) written

theorem Queues.addOrUpdatePending (h : Queues Q store) (hmsg : Q msg) (retryCount : Int)
    (nextRetry : Time) (lastErr : String) (written : Bool) : Queues Q (recorded store
      (store.addOrUpdatePending msg retryCount nextRetry lastErr written)) := by
  refine h.recorded_commit (fun k p hp => ?_) written
  rw [get_insert] at hp
  split at hp
  · grind
  · exact h k p hp

theorem Queues.updateMessageStatus (h : Queues Q store) (id : String) (status : MessageStatus)
    (written : Bool) : Queues Q (recorded store (store.updateMessageStatus id status written)) := by
  intro k p hp
  rw [(store.recorded_updateMessageStatus id status written).1] at hp
  exact h k p hp

theorem Queues.markMessageAsSent (h : Queues Q store) (id : String) :
    Queues Q (markMessageAsSent store id inp) :=
  (h.updateMessageStatus id .sent inp.statusWritten).removePending id inp.pendingWritten

theorem Queues.publishQueuedMessage (h : Queues Q store) (hmsg : Q msg) :
    Queues Q (publishQueuedMessage store msg inp).2 := by
  unfold Messaging.publishQueuedMessage
  split
  · exact h.markMessageAsSent msg.id
  · rename_i f _
    split
    · have hadd := h.addOrUpdatePending hmsg 1 (nextRetryTime inp.now 1) f.text inp.pendingWritten
      split
      · exact h
      · rename_i store' hstore'
        rw [hstore'] at hadd
        exact hadd
    · exact h

theorem Queues.handleRetryPublishError (h : Queues Q store) {p : PendingMessage}
    (hp : Q p.message) (f : Failure) : Queues Q (handleRetryPublishError store p f inp) := by
  grind [Messaging.handleRetryPublishError, updateMessageStatus, removePending, addOrUpdatePending]

theorem Queues.op (h : Queues Q store) {op : MessageOp} (hop : op.queues = none)
    (written : Bool) : Queues Q (recorded store (op.apply store written)) := by
  rcases op.apply_cases store with ⟨next, hnext, hcommit⟩ | hok | hconflict
  · rw [hcommit]
    refine h.recorded_commit ?_ written
    cases hnext with
    | saved | status | content => exact h
    | deleted contactID id | unqueued id => exact h.erase _ id
    | swept gone keep hkeep => exact fun k p hp => h k p (get_of_filter hp)
    | queued => exact nomatch hop
  · rw [hok]
    exact h
  · rw [hconflict]
    exact h

end

/-! ## Every retry has a first attempt -/

theorem allocateOutboundMessage_ok {store store' : MessageStore} {msg : Message}
    {contactID content threadID : String} {rounds : List (Option String × Time × Bool)}
    (h : allocateOutboundMessage store contactID content threadID rounds = .ok (msg, store')) :
    msg.conversationType = .direct ∧ msg.threadID = trimSpace threadID ∧
      store'.pending = store.pending := by
  induction rounds with
  | nil => exact absurd h (by simp [allocateOutboundMessage])
  | cons round rounds ih =>
    obtain ⟨msgID, now, written⟩ := round
    cases msgID with
    | none => exact absurd h (by simp [allocateOutboundMessage])
    | some msgID =>
      simp only [allocateOutboundMessage] at h
      split at h
      · rename_i saved hsaved
        obtain ⟨rfl, rfl⟩ := Prod.mk.inj (Except.ok.inj h)
        exact ⟨rfl, rfl, saveMessage_pending hsaved⟩
      · -- the id is taken: nothing was saved, and the next round has its turn
        exact ih h
      · exact absurd h (by simp)

def FirstWire (msg : Message) (wire : WirePayload) : Prop :=
  (msg.conversationType = .direct ∧ IsDirectWire (trimSpace msg.threadID) wire) ∨
    (msg.conversationType = .group ∧ IsGroupWire wire)

/-- What is known of a wire in flight: of a retry, that its message was sent before. -/
def Carries (sent : List Message) : Dispatch → Prop
  | .attempt (.send _ _ threadID wire) => IsDirectWire (trimSpace threadID) wire
  | .attempt (.retry p _) => p.message ∈ sent
  | .fanout msg wire => msg.conversationType = .group ∧ IsGroupWire wire

theorem Carries.mono {sent sent' : List Message} (hsub : sent ⊆ sent') {d : Dispatch}
    (h : Carries sent d) : Carries sent' d := by
  cases d with
  | attempt att =>
    cases att with
    | send contactID content threadID wire => exact h
    | retry p wire => exact hsub h
  | fanout msg wire => exact h

namespace Sender

variable {σ : Type} {s : Sender σ}

def sent (s : Sender σ) : List Message := s.first.map Prod.fst

structure Kept (s : Sender σ) : Prop where
  queued : Queues (· ∈ s.sent) s.outbox.store
  batched : ∀ p ∈ s.outbox.batch, p.message ∈ s.sent
  inFlight : ∀ d ∈ s.inFlight, Carries s.sent d
  first : ∀ msg wire, (msg, wire) ∈ s.first → FirstWire msg wire
  retried : ∀ p wire, (p, wire) ∈ s.retried →
    p.message ∈ s.sent ∧ IsDirectWire (trimSpace p.message.threadID) wire

theorem Kept.withStore (h : s.Kept) {store : MessageStore} (hstore : Queues (· ∈ s.sent) store) :
    (s.withStore store).Kept where
  queued := hstore
  batched := h.batched
  inFlight := h.inFlight
  first := h.first
  retried := h.retried

theorem Kept.launch (h : s.Kept) {d : Dispatch} (hd : Carries s.sent d) (sessions : σ) :
    Kept { s with sessions := sessions, inFlight := s.inFlight ++ [d] } where
  queued := h.queued
  batched := h.batched
  inFlight := by
    intro d' hd'
    rcases List.mem_append.mp hd' with hmem | hmem
    · exact h.inFlight d' hmem
    · obtain rfl := List.mem_singleton.mp hmem
      exact hd
  first := h.first
  retried := h.retried

theorem Kept.land (h : s.Kept) (i : Nat) (more : List (Message × WirePayload))
    (hmore : ∀ msg wire, (msg, wire) ∈ more → FirstWire msg wire) {store : MessageStore}
    (hstore : Queues (· ∈ (more ++ s.first).map Prod.fst) store) : Kept { s.withStore store with
      inFlight := s.inFlight.eraseIdx i, first := more ++ s.first } := by
  have hsub : s.sent ⊆ (more ++ s.first).map Prod.fst :=
    List.map_subset _ (List.subset_append_right _ _)
  exact
    { queued := hstore
      batched := fun p hp => hsub (h.batched p hp)
      inFlight := fun d hd => (h.inFlight d (List.mem_of_mem_eraseIdx hd)).mono hsub
      first := fun msg wire hmem => (List.mem_append.mp hmem).elim (hmore msg wire)
        (h.first msg wire)
      retried := fun p wire hmem => ⟨hsub (h.retried p wire hmem).1, (h.retried p wire hmem).2⟩ }

theorem Kept.collect (h : s.Kept) (now : Time) (batch : List PendingMessage) (recovering : Bool) :
    (s.collect now batch recovering).Kept := by
  unfold Sender.collect
  split
  · rename_i hidle
    refine { queued := h.queued, batched := ?_, inFlight := h.inFlight, first := h.first
             retried := h.retried }
    intro p hp
    -- what is due was queued, in whatever order the map yields it
    have hdue := hidle.2.2.mem_iff.mp hp
    obtain ⟨⟨id, q⟩, hq, rfl⟩ := List.mem_map.mp (List.mem_filter.mp hdue).1
    exact h.queued id q (Std.ExtTreeMap.mem_toList_iff_getElem?_eq_some.mp hq)
  · exact h

section

variable {P : Primitives} [SessionStore σ]

theorem Kept.fanout (h : s.Kept) (ctx : FanoutContext) (recipientID : String)
    (inp : EncryptInputs) (written : Bool) : (s.fanout P ctx recipientID inp written).Kept := by
  unfold Sender.fanout
  dsimp only
  split
  · exact h
  · split
    · exact h
    · rename_i store hstore
      have hsaved : Queues (· ∈ s.sent) store := by
        intro id p hp
        exact h.queued id p (saveMessage_pending hstore ▸ hp)
      split
      · exact h.withStore hsaved
      · rename_i wire sessions' hwire
        have hcarries : Carries s.sent (.fanout (fanoutMessage P ctx recipientID) wire) :=
          ⟨rfl, prepareGroupMessage_isGroupWire hwire⟩
        exact (h.withStore hsaved).launch hcarries sessions'

theorem Kept.next (h : s.Kept) (inp : BuildInputs) (onError : PublishInputs) :
    (s.next P inp onError).Kept := by
  unfold Sender.next
  split
  · exact h
  · split
    · exact h
    · rename_i p rest hbatch
      have hp : p.message ∈ s.sent := h.batched p (by simp [hbatch])
      have hrest : ∀ q ∈ rest, q.message ∈ s.sent :=
        fun q hq => h.batched q (by simp [hbatch, hq])
      split
      · -- no wire could be built; the error handler may queue the message once more
        rename_i f _
        refine { queued := ?_, batched := hrest, inFlight := h.inFlight, first := h.first
                 retried := h.retried }
        unfold Outbox.onPublishError
        split
        · exact h.queued
        · exact h.queued.handleRetryPublishError hp f
      · rename_i att sessions' hatt
        obtain ⟨hretry, hdirect⟩ := beginRetry_isDirectWire hatt
        have hcarries : Carries s.sent (.attempt att) := by
          rw [hretry]
          exact hp
        have hlaunched := h.launch hcarries sessions'
        refine { queued := h.queued, batched := hrest, inFlight := hlaunched.inFlight
                 first := h.first, retried := ?_ }
        intro q wire hq
        rcases List.mem_cons.mp hq with heq | hq
        · obtain ⟨rfl, rfl⟩ := Prod.mk.inj heq
          exact ⟨hp, hdirect⟩
        · exact h.retried q wire hq

omit [SessionStore σ] in
theorem Kept.publish (h : s.Kept) (i : Nat) (inp : PublishInputs) : (s.publish i inp).Kept := by
  -- the first attempt of a message, whose store after it queues at most that message
  have hfirst : ∀ {msg : Message} {wire : WirePayload} {store : MessageStore},
      FirstWire msg wire → store.pending = s.outbox.store.pending →
      Kept { s.withStore (publishQueuedMessage store msg inp).2 with
        inFlight := s.inFlight.eraseIdx i, first := [(msg, wire)] ++ s.first } := by
    intro msg wire store hwire hpending
    refine h.land i [(msg, wire)] (fun m w hmem => ?_) ?_
    · simp_all
    · refine Queues.publishQueuedMessage (fun id p hp => ?_) (by simp)
      exact List.mem_cons_of_mem _ (h.queued id p (hpending ▸ hp))
  unfold Sender.publish
  split
  · exact h
  · rename_i att hatt
    have hcarries := h.inFlight _ (List.mem_of_getElem? hatt)
    cases att with
    | retry p wire =>
      refine h.land i [] (fun _ _ hmem => absurd hmem (by simp)) ?_
      simp only [Outbox.finish]
      split
      · exact h.queued.markMessageAsSent _
      · rename_i f _
        unfold Outbox.onPublishError
        split
        · exact h.queued
        · exact h.queued.handleRetryPublishError hcarries f
    | send contactID content threadID wire =>
      simp only [Outbox.finish, allocated]
      cases hallocated : allocateOutboundMessage s.outbox.store contactID content threadID
          (inp.rounds.take 3) with
      | error e => exact h.land i [] (fun _ _ hmem => absurd hmem (by simp)) h.queued
      | ok result =>
        obtain ⟨msg, store⟩ := result
        obtain ⟨hdirect, hthread, hpending⟩ := allocateOutboundMessage_ok hallocated
        -- the wire was built for a draft with the untrimmed thread
        refine hfirst (.inl ⟨hdirect, ?_⟩) hpending
        rw [hthread, trimSpace_idem]
        exact hcarries
  · rename_i msg wire hatt
    exact hfirst (.inr (h.inFlight _ (List.mem_of_getElem? hatt))) rfl

theorem Kept.step (h : s.Kept) (e : SenderEvent) : (s.step P e).Kept := by
  cases e with
  | send contactID content threadID inp =>
    grind [Sender.step, beginSend_isDirectWire, Carries, launch]
  | fanout ctx recipientID inp written => exact h.fanout ctx recipientID inp written
  | tick now batch => exact h.collect now batch false
  | recover now batch => exact h.collect (now + startupRecoveryLookahead) batch true
  | next inp onError => exact h.next inp onError
  | publish i inp => exact h.publish i inp
  | other op hop written => exact h.withStore (h.queued.op hop written)
  | restart =>
    exact { queued := h.queued, batched := fun _ hp => absurd hp List.not_mem_nil
            inFlight := fun _ hd => absurd hd List.not_mem_nil, first := h.first
            retried := h.retried }

omit [SessionStore σ] in
theorem kept_initial (sessions : σ) (messages : GoMap String Message) :
    (initial sessions messages).Kept where
  queued := fun _ _ hp => absurd hp (by simp [initial])
  batched := fun _ hp => absurd hp (by simp [initial])
  inFlight := fun _ hd => absurd hd (by simp [initial])
  first := fun _ _ hmem => absurd hmem (by simp [initial])
  retried := fun _ _ hmem => absurd hmem (by simp [initial])

/-- **What a retry sends.** In every run, a message that is sent again was published before; and
the wire of the retry says what the first wire said, and is routed as that was, exactly when the
message is a direct one. -/
theorem retried_same_iff (sessions : σ) (messages : GoMap String Message)
    (events : List SenderEvent) {s : Sender σ}
    (hrun : run (Sender.step P) (initial sessions messages) events = s) {p : PendingMessage}
    {wire : WirePayload} (hretried : (p, wire) ∈ s.retried) :
    (∃ wire₀, (p.message, wire₀) ∈ s.first) ∧ ∀ wire₀, (p.message, wire₀) ∈ s.first →
        (wire.metadata = wire₀.metadata ↔ p.message.conversationType = .direct) ∧
          (route wire = route wire₀ ↔ p.message.conversationType = .direct) := by
  have hkept : s.Kept :=
    hrun ▸ run_inv (fun _ e h => h.step e) (kept_initial sessions messages) events
  obtain ⟨hsent, hdirect⟩ := hkept.retried p wire hretried
  constructor
  · obtain ⟨⟨msg, wire₀⟩, hmem, rfl⟩ := List.mem_map.mp hsent
    exact ⟨wire₀, hmem⟩
  · intro wire₀ hfirst
    rcases hkept.first _ _ hfirst with ⟨hconversation, hdirect₀⟩ | ⟨hconversation, hgroup₀⟩
    · -- one builder for both wires, and the thread was trimmed before it was stored
      grind [cases IsDirectWire]
    · grind [IsDirectWire.not_isGroupWire]

end

/-! ## A direct message and a group message, sent offline -/

def sample : Sender InMemorySessionStore := initial (sampleStore "alice" "bob") ∅

def later : Time := 60 * second

def retryOf (message : SenderEvent) : List SenderEvent :=
  let offlineEvents := [message, .publish 0 (offline "msg_1")]
  let queued := (run (Sender.step transparent) sample offlineEvents).outbox.store
  offlineEvents ++ [.tick later (queued.duePending later), .next sampleBuild (offline "")]

def greetBob : SenderEvent := .send "bob" "hi" " topic " sampleBuild

def greetTeam : SenderEvent :=
  .fanout { groupID := "team", eventID := "e1", content := "hi", threadID := "", deviceID := "dev1"
            now := 0, version := 3, groupKeyVersion := 1 } "bob" sampleInputs true

/-- A greeting to Bob is sent again as it was. -/
theorem greeting_retried_same :
    let s := run (Sender.step transparent) sample (retryOf greetBob)
    ∃ p wire wire₀, (p, wire) ∈ s.retried ∧ (p.message, wire₀) ∈ s.first ∧
      wire.metadata = wire₀.metadata ∧ route wire = route wire₀ := by
  intro s
  have hretried : s.retried.map (fun r => r.1.message.conversationType) = [.direct] := by
    decide
  obtain ⟨⟨p, wire⟩, hmem, hdirect⟩ := List.mem_map.mp
    (hretried ▸ List.mem_singleton.mpr rfl :
      ConversationType.direct ∈ s.retried.map fun r => r.1.message.conversationType)
  obtain ⟨⟨wire₀, hfirst⟩, hsame⟩ := retried_same_iff (sampleStore "alice" "bob") ∅
    (retryOf greetBob) rfl hmem
  obtain ⟨hmetadata, hroute⟩ := hsame wire₀ hfirst
  exact ⟨p, wire, wire₀, hmem, hfirst, hmetadata.mpr hdirect, hroute.mpr hdirect⟩

/-- A greeting to the team goes to Bob as a direct message the second time. -/
theorem team_greeting_retried_direct :
    let s := run (Sender.step transparent) sample (retryOf greetTeam)
    ∃ p wire wire₀, (p, wire) ∈ s.retried ∧ (p.message, wire₀) ∈ s.first ∧
      wire.metadata ≠ wire₀.metadata ∧ route wire = .direct ∧ route wire₀ = .groupMessage := by
  intro s
  have hpair : ∃ r ∈ s.retried, ∃ f ∈ s.first, r.1.message = f.1 ∧
      r.2.metadata ≠ f.2.metadata ∧ route r.2 = .direct ∧ route f.2 = .groupMessage := by
    decide
  grind

end Sender

end Ardents.Messaging
