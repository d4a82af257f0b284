import Ardents.Messaging.Retry
import Ardents.Messaging.Status

/-!
# The queue of pending messages

Sends, fan-outs, the retry loop and everything else that uses the message store run side by side,
cut here at every use of the store: a message is saved, then published, and then marked as sent or
queued; the retry loop collects what is due, and then builds, publishes and marks or queues one
message after the other.
-/

namespace Ardents.Messaging

open Go
open Crypto

/-! ## Operations whose errors are only recorded -/

theorem MessageStore.commit_ok {next s' : MessageStore} {written : Bool}
    (h : next.commit written = .ok s') : written = true ∧ s' = next := by
  grind [MessageStore.commit]

namespace MessageOp

def perform (s : MessageStore) (ask : MessageOp × Bool) : MessageStore :=
  recorded s (ask.1.apply s ask.2)

def performAll (s : MessageStore) (asks : List (MessageOp × Bool)) : MessageStore :=
  asks.foldl perform s

@[simp] theorem performAll_nil (s : MessageStore) : performAll s [] = s := rfl

@[simp] theorem performAll_cons (s : MessageStore) (ask : MessageOp × Bool)
    (asks : List (MessageOp × Bool)) :
    performAll s (ask :: asks) = performAll (perform s ask) asks := rfl

theorem perform_fate (s : MessageStore) (ask : MessageOp × Bool) (id : String) :
    Fate id s.messages[id]? (perform s ask).messages[id]? := by
  unfold perform
  cases happly : ask.1.apply s ask.2 with
  | error e => exact .kept _
  | ok s' => exact fate happly id

theorem performAll_keeps {I : MessageStore → Prop} {C : MessageStore → MessageOp × Bool → Prop}
    (hstep : ∀ s ask, I s → C s ask → I (perform s ask)) {s : MessageStore}
    {asks : List (MessageOp × Bool)} (hs : I s) (h : Along perform C s asks) :
    I (performAll s asks) :=
  along_run hstep hs h

theorem apply_written {s s' : MessageStore} {op : MessageOp} {written : Bool}
    (h : op.apply s written = .ok s') : op.apply s true = .ok s' := by
  rcases op.apply_cases s with ⟨next, -, hnext⟩ | hok | hconflict
  · grind [MessageStore.commit]
  · exact (hok true).trans ((hok written).symm.trans h)
  · exact absurd ((hconflict written).symm.trans h) (by simp)

theorem entry {s s' : MessageStore} {op : MessageOp} {written : Bool}
    (h : op.apply s written = .ok s') {id : String} {p : PendingMessage}
    (hp : s'.pending[id]? = some p) :
    (s.pending[id]? = some p ∧ (s.messages[id]? ≠ none → s'.messages[id]? ≠ none)) ∨
      (op.queues = some p.message ∧ written = true ∧ id = p.message.id ∧
        s'.messages = s.messages) := by
  rcases apply_ok h with rfl | ⟨hwritten, hnext⟩
  · exact .inl ⟨hp, fun hne => hne⟩
  -- putting a message in takes none out
  have hinsert : ∀ {key : String} {msg : Message}, s.messages[id]? ≠ none →
      (s.messages.insert key msg)[id]? ≠ none := by
    intro key msg hne
    rw [get_insert]
    split
    · simp
    · exact hne
  cases hnext with
  | saved | status | content => exact .inl ⟨hp, hinsert⟩
  | deleted contactID messageID =>
    rw [get_erase] at hp
    split at hp
    · exact absurd hp (by simp)
    · rename_i hother
      refine .inl ⟨hp, fun hne => ?_⟩
      rw [get_erase, if_neg hother]
      exact hne
  | swept gone keep hkeep =>
    rw [Std.ExtTreeMap.getElem?_filter'] at hp
    obtain ⟨hbefore, hkept⟩ := Option.filter_eq_some_iff.mp hp
    refine .inl ⟨hbefore, fun hne => ?_⟩
    rw [get_filter, hkeep id p hkept]
    exact hne
  | queued message retryCount nextRetry lastErr =>
    rw [get_insert] at hp
    split at hp
    · rename_i hid
      obtain rfl := Option.some.inj hp
      exact .inr ⟨rfl, hwritten, hid.symm, rfl⟩
    · exact .inl ⟨hp, fun hne => hne⟩
  | unqueued messageID => exact .inl ⟨get_of_erase hp, fun hne => hne⟩

end MessageOp

/-! ## Copies and what is stored -/

section

variable {α : Type} (f : Message → α)

/-- A message is stored under the id of a copy, with the same `f`. -/
def Holds (messages : GoMap String Message) (msg : Message) : Prop :=
  ∃ m, messages[msg.id]? = some m ∧ f m = f msg

instance [DecidableEq α] (messages : GoMap String Message) (msg : Message) :
    Decidable (Holds f messages msg) :=
  decidable_of_iff ((messages[msg.id]?).any fun m => f m = f msg) (by
    unfold Holds
    cases messages[msg.id]? with
    | none => simp
    | some m => simp)

def Owned (store : MessageStore) : Prop :=
  ∀ (id : String) (p : PendingMessage), store.pending[id]? = some p →
    p.message.id = id ∧ Holds f store.messages p.message

variable {f}

theorem Owned.perform {store : MessageStore} {ask : MessageOp × Bool} (h : Owned f store)
    (hsame : ∀ (id : String) (p : PendingMessage) (m' : Message), store.pending[id]? = some p →
      (MessageOp.perform store ask).messages[id]? = some m' → f m' = f p.message)
    (hqueued : ask.2 = true → ∀ msg, ask.1.queues = some msg → Holds f store.messages msg) :
    Owned f (MessageOp.perform store ask) := by
  unfold MessageOp.perform at hsame ⊢
  cases happly : ask.1.apply store ask.2 with
  | error e => exact h
  | ok store' =>
    rw [happly] at hsame
    intro id p hp
    rcases MessageOp.entry happly hp with ⟨hbefore, hkept⟩ | ⟨hqueues, hwritten, hid, hmessages⟩
    · obtain ⟨rfl, m, hm, -⟩ := h id p hbefore
      obtain ⟨m', hm'⟩ := Option.ne_none_iff_exists'.mp (hkept (by simp [hm]))
      exact ⟨rfl, m', hm', hsame _ p m' hbefore hm'⟩
    · refine ⟨hid.symm, ?_⟩
      have hholds := hqueued hwritten p.message hqueues
      rw [← hmessages] at hholds
      exact hholds

theorem Owned.load {store : MessageStore} (h : Owned f store)
    (hnormal : ∀ m m' : Message, f m = f m' →
      f (normalizeMessageConversation m) = f (normalizeMessageConversation m')) :
    Owned f store.load := by
  intro id p hp
  obtain ⟨q, hq, rfl⟩ := get_map hp
  obtain ⟨rfl, m, hm, hf⟩ := h id q hq
  refine ⟨normalizeMessageConversation_id q.message, normalizeMessageConversation m, ?_, ?_⟩
  · simp [MessageStore.load, normalizeMessageConversation_id, hm]
  · exact hnormal m q.message hf

end

/-! ## Editing a message -/

inductive EditError where
  | invalidInput
  | messageNotFound
  | wrongContact
  | notOutbound
  | store (e : StoreError)
  deriving DecidableEq, Repr

def validateEditMessageInput (contactID messageID content : String) :
    Except EditError (String × String × String) :=
  let contactID := trimSpace contactID
  let messageID := trimSpace messageID
  let content := trimSpace content
  if contactID = "" ∨ messageID = "" ∨ content = "" then .error .invalidInput
  else .ok (contactID, messageID, content)

def ensureEditableMessage (found : Option Message) (contactID : String) :
    Except EditError Message :=
  match found with
  | none => .error .messageNotFound
  | some msg =>
    if msg.contactID ≠ contactID then .error .wrongContact
    else if msg.direction ≠ .outbound then .error .notOutbound
    else .ok msg

variable (store : MessageStore)

def editMessage (contactID messageID content : String) (now : Time)
    (written : Bool) : Except EditError Message × MessageStore :=
  match validateEditMessageInput contactID messageID content with
  | .error e => (.error e, store)
  | .ok (contactID, messageID, content) =>
    match ensureEditableMessage store.messages[messageID]? contactID with
    | .error e => (.error e, store)
    | .ok msg =>
      match store.updateMessageContent messageID (bytesOf content) msg.contentType now
          written with
      | .error e => (.error (.store e), store)
      | .ok store' =>
        match store'.messages[messageID]? with
        | none => (.error .messageNotFound, store')
        | some updated => (.ok updated, store')

def editAsks (contactID messageID content : String) (now : Time)
    (written : Bool) : List (MessageOp × Bool) :=
  match validateEditMessageInput contactID messageID content with
  | .error _ => []
  | .ok (contactID, messageID, content) =>
    match ensureEditableMessage store.messages[messageID]? contactID with
    | .error _ => []
    | .ok msg =>
      [(.updateMessageContent messageID (bytesOf content) msg.contentType now, written)]

open MessageOp

theorem editMessage_store (contactID messageID content : String) (now : Time) (written : Bool) :
    (editMessage store contactID messageID content now written).2 =
      performAll store (editAsks store contactID messageID content now written) := by
  unfold editMessage editAsks
  cases validateEditMessageInput contactID messageID content with
  | error e => rfl
  | ok input =>
    grind [performAll_cons, performAll_nil, MessageOp.perform,
      MessageOp.apply, recorded]

/-! ## Side by side -/

inductive Job where
  /-- `sendMessageWithThread` has its wire, and no id yet. -/
  | draft (contactID content threadID : String) (wire : WirePayload)
  /-- `processRecipient` has saved the message. -/
  | fanout (msg : Message) (wireMeta : GroupMessageWireMeta)
  /-- `publishQueuedMessage` is publishing. -/
  | first (msg : Message) (wire : WirePayload)
  /-- The retry loop is publishing. -/
  | retry (p : PendingMessage) (wire : WirePayload)
  deriving DecidableEq

namespace Job

def isRetry : Job → Bool
  | .retry _ _ => true
  | _ => false

def message : Job → Option Message
  | .draft _ _ _ _ => none
  | .fanout msg _ => some msg
  | .first msg _ => some msg
  | .retry p _ => some p.message

def unpublished : Job → Option Message
  | .fanout msg _ => some msg
  | .first msg _ => some msg
  | _ => none

end Job

/-- A wire that the retry loop has built: for which message and from what, and what was stored
then, and when the loop had collected its batch. -/
structure Resend (σ : Type) where
  pending : PendingMessage
  sessions : σ
  inp : BuildInputs
  wire : WirePayload
  stored : GoMap String Message
  collected : GoMap String Message

structure Queue (σ : Type) where
  sessions : σ
  store : MessageStore
  /-- What is left of the batch of the retry loop. -/
  batch : List PendingMessage
  /-- The batch is that of `recoverPendingOnStartup`, whose error handler only records. -/
  recovering : Bool
  jobs : List Job
  /-- What was stored when the batch was collected. -/
  collected : GoMap String Message
  /-- Every wire built for a retry, latest first. -/
  resends : List (Resend σ)

inductive QueueEvent where
  | send (contactID content threadID : String) (inp : BuildInputs)
  /-- A draft gets its id, and is saved. -/
  | allocate (i : Nat) (rounds : List (Option String × Time × Bool))
  | persistSenderMessage (ctx : FanoutContext) (actorID : String) (written : Bool)
  | fanout (ctx : FanoutContext) (recipientID : String) (written : Bool)
  /-- The wire of a fan-out is built. -/
  | prepare (i : Nat) (inp : EncryptInputs)
  /-- A message is published, and marked as sent or queued. -/
  | publish (i : Nat) (inp : PublishInputs)
  /-- The retry loop collects the due messages, in the order the map yields them. -/
  | tick (now : Time) (batch : List PendingMessage)
  | recover (now : Time) (batch : List PendingMessage)
  /-- The loop takes up the next message of its batch. -/
  | next (inp : BuildInputs) (onError : PublishInputs)
  | edit (contactID messageID content : String) (now : Time) (written : Bool)
  /-- Anything else that uses the store. -/
  | op (op : MessageOp) (written : Bool)
  /-- The daemon stops; what is on disk is there when it starts again. -/
  | restart

/-- What `persistSenderMessage` saves for the sender. -/
def senderMessage (P : Primitives) (ctx : FanoutContext) (actorID : String) : Message :=
  { id := deriveRecipientMessageID P ctx.eventID actorID, contactID := actorID
    conversationID := ctx.groupID, conversationType := .group, threadID := ctx.threadID
    content := bytesOf ctx.content, timestamp := ctx.now, direction := .outbound
    status := .sent, contentType := .text, edited := false }

namespace Queue

variable (P : Primitives) {σ : Type} [SessionStore σ]

def retrying (s : Queue σ) : Bool := s.jobs.any Job.isRetry

def collect (s : Queue σ) (now : Time) (batch : List PendingMessage) (recovering : Bool) :
    Queue σ :=
  if s.batch = [] ∧ s.retrying = false ∧ batch.Perm (s.store.duePending now) then
    { s with batch := batch, recovering := recovering, collected := s.store.messages }
  else s

def allocate (s : Queue σ) (i : Nat) (rounds : List (Option String × Time × Bool)) : Queue σ :=
  match s.jobs[i]? with
  | some (.draft contactID content threadID wire) =>
    match allocateOutboundMessage s.store contactID content threadID (rounds.take 3) with
    | .error _ => { s with jobs := s.jobs.eraseIdx i }
    | .ok (msg, store) =>
      { s with store := store, jobs := s.jobs.eraseIdx i ++ [.first msg wire] }
  | _ => s

def persistSenderMessage (s : Queue σ) (ctx : FanoutContext) (actorID : String)
    (written : Bool) : Queue σ :=
  let msg := senderMessage P ctx actorID
  if msg.id ∈ s.store.messages then s
  else { s with store := recorded s.store (s.store.saveMessage msg written) }

/-- One recipient of a fan-out: a message that is there already is not sent again. -/
def fanout (s : Queue σ) (ctx : FanoutContext) (recipientID : String) (written : Bool) : Queue σ :=
  let msg := fanoutMessage P ctx recipientID
  if msg.id ∈ s.store.messages then s
  else
    match s.store.saveMessage msg written with
    | .error _ => s
    | .ok store => { s with store := store, jobs := s.jobs ++ [.fanout msg ctx.wireMeta] }

def prepare (s : Queue σ) (i : Nat) (inp : EncryptInputs) : Queue σ :=
  match s.jobs[i]? with
  | some (.fanout msg wireMeta) =>
    match prepareGroupMessage P s.sessions msg wireMeta inp with
    | .error _ => { s with jobs := s.jobs.eraseIdx i }
    | .ok (wire, sessions') =>
      { s with sessions := sessions', jobs := s.jobs.eraseIdx i ++ [.first msg wire] }
  | _ => s

def onPublishError (s : Queue σ) (p : PendingMessage) (f : Failure) (inp : PublishInputs) :
    MessageStore :=
  if s.recovering then s.store else handleRetryPublishError s.store p f inp

def publish (s : Queue σ) (i : Nat) (inp : PublishInputs) : Queue σ :=
  match s.jobs[i]? with
  | some (.first msg _) =>
    { s with store := (publishQueuedMessage s.store msg inp).2, jobs := s.jobs.eraseIdx i }
  | some (.retry p _) =>
    { s with
      store := match inp.outcome with
        | .ok () => markMessageAsSent s.store p.message.id inp
        | .error f => s.onPublishError p f inp
      jobs := s.jobs.eraseIdx i }
  | _ => s

def next (s : Queue σ) (inp : BuildInputs) (onError : PublishInputs) : Queue σ :=
  if s.retrying then s
  else
    match s.batch with
    | [] => s
    | p :: rest =>
      match buildStoredMessageWire P s.sessions p.message inp.encryption inp.selfCard with
      | .error f => { s with batch := rest, store := s.onPublishError p f onError }
      | .ok (wire, sessions') =>
        { s with
          sessions := sessions', batch := rest, jobs := s.jobs ++ [.retry p wire]
          resends := ⟨p, s.sessions, inp, wire, s.store.messages, s.collected⟩ :: s.resends }

def step (s : Queue σ) : QueueEvent → Queue σ
  | .send contactID content threadID inp =>
    match beginSend P s.sessions contactID content threadID inp with
    | .ok (.send contactID content threadID wire, sessions') =>
      { s with
        sessions := sessions', jobs := s.jobs ++ [.draft contactID content threadID wire] }
    | _ => s
  | .allocate i rounds => s.allocate i rounds
  | .persistSenderMessage ctx actorID written => s.persistSenderMessage P ctx actorID written
  | .fanout ctx recipientID written => s.fanout P ctx recipientID written
  | .prepare i inp => s.prepare P i inp
  | .publish i inp => s.publish i inp
  | .tick now batch => s.collect now batch false
  | .recover now batch => s.collect (now + startupRecoveryLookahead) batch true
  | .next inp onError => s.next P inp onError
  | .edit contactID messageID content now written =>
    { s with store := (editMessage s.store contactID messageID content now written).2 }
  | .op op written => { s with store := recorded s.store (op.apply s.store written) }
  | .restart => { s with store := s.store.load, batch := [], recovering := false, jobs := [] }

def initial (sessions : σ) (store : MessageStore) : Queue σ :=
  { sessions := sessions, store := store, batch := [], recovering := false, jobs := []
    collected := ∅, resends := [] }

end Queue

/-! ## What a step asks of the store -/

/-- `markMessageAsSent`. -/
def sentAsks (messageID : String) (inp : PublishInputs) : List (MessageOp × Bool) :=
  [(.updateMessageStatus messageID .sent, inp.statusWritten),
    (.removePending messageID, inp.pendingWritten)]

/-- `publishQueuedMessage`. -/
def publishAsks (msg : Message) (inp : PublishInputs) : List (MessageOp × Bool) :=
  match inp.outcome with
  | .ok () => sentAsks msg.id inp
  | .error f =>
    if f.category = .network then
      [(.addOrUpdatePending msg 1 (nextRetryTime inp.now 1) f.text, inp.pendingWritten)]
    else []

/-- `handleRetryPublishError`. -/
def retryErrorAsks (p : PendingMessage) (f : Failure) (inp : PublishInputs) :
    List (MessageOp × Bool) :=
  if p.retryCount + 1 > 8 then
    [(.updateMessageStatus p.message.id .failed, inp.statusWritten),
      (.removePending p.message.id, inp.pendingWritten)]
  else
    [(.addOrUpdatePending p.message (p.retryCount + 1) (nextRetryTime inp.now (p.retryCount + 1))
      f.text, inp.pendingWritten)]

theorem markMessageAsSent_eq (messageID : String) (inp : PublishInputs) :
    markMessageAsSent store messageID inp =
      performAll store (sentAsks messageID inp) := rfl

theorem publishQueuedMessage_store (msg : Message) (inp : PublishInputs) :
    (publishQueuedMessage store msg inp).2 = performAll store (publishAsks msg inp) := by
  unfold publishQueuedMessage publishAsks
  cases inp.outcome with
  | ok _ => rfl
  | error f =>
    dsimp only
    split
    · simp only [performAll_cons, performAll_nil, MessageOp.perform,
        MessageOp.apply, MessageStore.addOrUpdatePending, MessageStore.commit]
      cases inp.pendingWritten with
      | true => rfl
      | false => rfl
    · rfl

theorem handleRetryPublishError_eq (p : PendingMessage) (f : Failure) (inp : PublishInputs) :
    handleRetryPublishError store p f inp =
      performAll store (retryErrorAsks p f inp) := by
  unfold handleRetryPublishError retryErrorAsks
  dsimp only
  split
  · rfl
  · rfl

theorem allocateOutboundMessage_saved {store store' : MessageStore} {msg : Message}
    {contactID content threadID : String} {rounds : List (Option String × Time × Bool)}
    (h : allocateOutboundMessage store contactID content threadID rounds = .ok (msg, store')) :
    store.saveMessage msg true = .ok store' := by
  induction rounds with
  | nil => exact absurd h (by simp [allocateOutboundMessage])
  | cons round rest ih =>
    obtain ⟨generated, now, written⟩ := round
    cases generated with
    | none => exact absurd h (by simp [allocateOutboundMessage])
    | some msgID =>
      simp only [allocateOutboundMessage] at h
      split at h
      · rename_i saved hsave
        obtain ⟨rfl, rfl⟩ := Prod.mk.inj (Except.ok.inj h)
        have happly : MessageOp.apply store written (.saveMessage _) = .ok saved := hsave
        exact apply_written happly
      · exact ih h
      · exact absurd h (by simp)

namespace Queue

variable (P : Primitives) {σ : Type} [SessionStore σ]

def errorAsks (s : Queue σ) (p : PendingMessage) (f : Failure) (inp : PublishInputs) :
    List (MessageOp × Bool) :=
  if s.recovering then [] else retryErrorAsks p f inp

def asks (s : Queue σ) : QueueEvent → List (MessageOp × Bool)
  | .allocate i rounds =>
    match s.jobs[i]? with
    | some (.draft contactID content threadID _) =>
      match allocateOutboundMessage s.store contactID content threadID (rounds.take 3) with
      | .error _ => []
      | .ok (msg, _) => [(.saveMessage msg, true)]
    | _ => []
  | .persistSenderMessage ctx actorID written =>
    let msg := senderMessage P ctx actorID
    if msg.id ∈ s.store.messages then [] else [(.saveMessage msg, written)]
  | .fanout ctx recipientID written =>
    let msg := fanoutMessage P ctx recipientID
    if msg.id ∈ s.store.messages then [] else [(.saveMessage msg, written)]
  | .publish i inp =>
    match s.jobs[i]? with
    | some (.first msg _) => publishAsks msg inp
    | some (.retry p _) =>
      match inp.outcome with
      | .ok () => sentAsks p.message.id inp
      | .error f => s.errorAsks p f inp
    | _ => []
  | .next inp onError =>
    if s.retrying then []
    else
      match s.batch with
      | [] => []
      | p :: _ =>
        match buildStoredMessageWire P s.sessions p.message inp.encryption inp.selfCard with
        | .error f => s.errorAsks p f onError
        | .ok _ => []
  | .edit contactID messageID content now written =>
    editAsks s.store contactID messageID content now written
  | .op op written => [(op, written)]
  | _ => []

omit [SessionStore σ] in
theorem onPublishError_eq (s : Queue σ) (p : PendingMessage) (f : Failure) (inp : PublishInputs) :
    s.onPublishError p f inp = performAll s.store (s.errorAsks p f inp) := by
  unfold onPublishError errorAsks
  split
  · rfl
  · exact handleRetryPublishError_eq s.store p f inp

theorem step_store (s : Queue σ) {e : QueueEvent} (he : e ≠ .restart) :
    (s.step P e).store = performAll s.store (s.asks P e) := by
  cases e with
  | send contactID content threadID inp =>
    simp only [step, asks, performAll_nil]
    split
    · rfl
    · rfl
  | allocate i rounds =>
    simp only [step, asks, allocate]
    split
    · rename_i contactID content threadID wire _
      cases hallocated : allocateOutboundMessage s.store contactID content threadID
          (rounds.take 3) with
      | error e => rfl
      | ok result =>
        obtain ⟨msg, store⟩ := result
        simp only [performAll_cons, performAll_nil, MessageOp.perform,
          MessageOp.apply, allocateOutboundMessage_saved hallocated, recorded]
    · rfl
  | persistSenderMessage ctx actorID written =>
    simp only [step, asks, persistSenderMessage]
    split
    · rfl
    · rfl
  | fanout ctx recipientID written =>
    simp only [step, asks, fanout]
    split
    · rfl
    · simp only [performAll_cons, performAll_nil, MessageOp.perform,
        MessageOp.apply]
      cases s.store.saveMessage (fanoutMessage P ctx recipientID) written with
      | error e => rfl
      | ok store => rfl
  | prepare i inp =>
    simp only [step, asks, prepare, performAll_nil]
    split
    · split
      · rfl
      · rfl
    · rfl
  | publish i inp =>
    simp only [step, asks, publish]
    split
    · exact publishQueuedMessage_store s.store _ inp
    · split
      · exact markMessageAsSent_eq s.store _ inp
      · exact s.onPublishError_eq _ _ inp
    · rfl
  | tick | recover =>
    simp only [step, asks, collect, performAll_nil]
    split
    · rfl
    · rfl
  | next inp onError =>
    simp only [step, asks, next]
    split
    · rfl
    · split
      · rfl
      · rename_i p rest _
        cases buildStoredMessageWire P s.sessions p.message inp.encryption inp.selfCard with
        | error f => exact s.onPublishError_eq p f onError
        | ok built => rfl
  | edit contactID messageID content now written =>
    exact editMessage_store s.store contactID messageID content now written
  | op op written => rfl
  | restart => exact absurd rfl he

def copies (s : Queue σ) : List Message :=
  s.batch.map (fun p => p.message) ++ s.jobs.filterMap Job.message

variable {s : Queue σ}

omit [SessionStore σ] in
theorem mem_copies {msg : Message} :
    msg ∈ s.copies ↔
      (∃ p ∈ s.batch, p.message = msg) ∨ ∃ j ∈ s.jobs, j.message = some msg := by
  simp [copies]

omit [SessionStore σ] in
theorem mem_copies_of_job {j : Job} (hj : j ∈ s.jobs) {msg : Message}
    (hmsg : j.message = some msg) : msg ∈ s.copies := mem_copies.mpr (.inr ⟨j, hj, hmsg⟩)

omit [SessionStore σ] in
theorem mem_copies_of_batch {p : PendingMessage} (hp : p ∈ s.batch) :
    p.message ∈ s.copies := mem_copies.mpr (.inl ⟨p, hp, rfl⟩)

inductive Asked (s : Queue σ) (e : QueueEvent) : List (MessageOp × Bool) → Prop where
  | nothing : Asked s e []
  | save (msg : Message) (written : Bool) : Asked s e [(.saveMessage msg, written)]
  /-- A message is sent, or given up. -/
  | settle (messageID : String) (status : MessageStatus) (statusWritten pendingWritten : Bool) :
      Asked s e [(.updateMessageStatus messageID status, statusWritten),
        (.removePending messageID, pendingWritten)]
  /-- A copy on its way is queued. -/
  | queue {msg : Message} (hmsg : msg ∈ s.copies) (retryCount : Int) (nextRetry : Time)
      (lastErr : String) (written : Bool) :
      Asked s e [(.addOrUpdatePending msg retryCount nextRetry lastErr, written)]
  | edit {contactID messageID content : String} {now : Time} {written : Bool}
      (he : e = .edit contactID messageID content now written) (contentType : ContentType) :
      Asked s e [(.updateMessageContent (trimSpace messageID) (bytesOf (trimSpace content))
        contentType now, written)]
  | other {op : MessageOp} {written : Bool} (he : e = .op op written) :
      Asked s e [(op, written)]

omit [SessionStore σ] in
theorem asked_error {e : QueueEvent} {p : PendingMessage} (hp : p.message ∈ s.copies)
    (f : Failure) (inp : PublishInputs) : Asked s e (s.errorAsks p f inp) := by
  unfold errorAsks retryErrorAsks
  split
  · exact .nothing
  · split
    · exact .settle _ _ _ _
    · exact .queue hp _ _ _ _

theorem asks_asked (s : Queue σ) (e : QueueEvent) : Asked s e (s.asks P e) := by
  cases e with
  | allocate i rounds =>
    simp only [asks]
    split
    · split
      · exact .nothing
      · exact .save _ _
    · exact .nothing
  | persistSenderMessage | fanout =>
    simp only [asks]
    split
    · exact .nothing
    · exact .save _ _
  | publish i inp =>
    simp only [asks]
    split
    · rename_i msg wire hjob
      unfold publishAsks
      split
      · exact .settle _ _ _ _
      · split
        · exact .queue (mem_copies_of_job (List.mem_of_getElem? hjob) rfl) _ _ _ _
        · exact .nothing
    · rename_i p wire hjob
      split
      · exact .settle _ _ _ _
      · exact asked_error (mem_copies_of_job (List.mem_of_getElem? hjob) rfl) _ _
    · exact .nothing
  | next inp onError =>
    simp only [asks]
    split
    · exact .nothing
    · split
      · exact .nothing
      · rename_i p rest hbatch
        split
        · exact asked_error (mem_copies_of_batch (hbatch ▸ List.mem_cons_self)) _ _
        · exact .nothing
  | edit contactID messageID content now written =>
    simp only [asks, editAsks]
    split
    · exact .nothing
    · rename_i input hinput
      -- what is edited, and the new text, come from the input trimmed
      unfold validateEditMessageInput at hinput
      dsimp only at hinput
      split at hinput
      · exact absurd hinput (by simp)
      · obtain ⟨rfl, rfl, rfl⟩ := by simpa using hinput
        split
        · exact .nothing
        · exact .edit rfl _
  | op op written => exact .other rfl
  | send | prepare | tick | recover | restart => exact .nothing

theorem asks_queue (s : Queue σ) (e : QueueEvent) :
    (∀ ask ∈ s.asks P e, ask.1.queues = none) ∨ ∃ ask, s.asks P e = [ask] := by
  have hasked := s.asks_asked P e
  generalize s.asks P e = asks at hasked ⊢
  cases hasked with
  | nothing => exact .inl (by simp)
  | save | queue | edit | other => exact .inr ⟨_, rfl⟩
  | settle messageID status statusWritten pendingWritten =>
    exact .inl (by simp [MessageOp.queues])

def queued (s : Queue σ) (e : QueueEvent) : List Message :=
  (s.asks P e).filterMap fun ask => if ask.2 then ask.1.queues else none

theorem along_asks {e : QueueEvent} {Q : GoMap String Message → Message → Prop}
    (h : ∀ msg ∈ s.queued P e, Q s.store.messages msg) :
    Along MessageOp.perform (fun store ask => ask.2 = true → ∀ msg, ask.1.queues = some msg →
      Q store.messages msg) s.store (s.asks P e) := by
  rcases s.asks_queue P e with hnone | ⟨ask, hask⟩
  · refine along_of_forall (fun store ask hmem _ msg hmsg => ?_) s.store
    exact absurd ((hnone ask hmem).symm.trans hmsg) (by simp)
  · rw [hask]
    refine ⟨fun hwritten msg hmsg => h msg ?_, trivial⟩
    simp [queued, hask, hwritten, hmsg]

/-! ## What a step hands on -/

variable {P} {s : Queue σ} {e : QueueEvent}

omit [SessionStore σ] in
theorem mem_duePending {store : MessageStore} {now : Time} {p : PendingMessage}
    (h : p ∈ store.duePending now) : ∃ id : String, store.pending[id]? = some p := by
  obtain ⟨⟨id, q⟩, hq, rfl⟩ := List.mem_map.mp (List.mem_filter.mp h).1
  exact ⟨id, Std.ExtTreeMap.mem_toList_iff_getElem?_eq_some.mp hq⟩

/-- What a step does to the batch, to the jobs and to the record of what was built again. -/
inductive Move (P : Primitives) (s s' : Queue σ) : Prop where
  /-- The batch waits. What a job carries was on its way before, or has just been saved. -/
  | hold (hbatch : s'.batch = s.batch) (hcollected : s'.collected = s.collected)
      (hresends : s'.resends = s.resends)
      (hjobs : ∀ j ∈ s'.jobs, ∀ msg, j.message = some msg →
        msg ∈ s.copies ∨ ∃ written, s.store.saveMessage msg written = .ok s'.store)
  | collect (hbatch : ∀ p ∈ s'.batch, ∃ id : String, s.store.pending[id]? = some p)
      (hcollected : s'.collected = s.store.messages) (hresends : s'.resends = s.resends)
      (hjobs : s'.jobs = s.jobs) (hstore : s'.store = s.store)
  /-- No wire can be built for the next message of the batch. -/
  | skip (p : PendingMessage) (hbatch : s.batch = p :: s'.batch)
      (hcollected : s'.collected = s.collected) (hresends : s'.resends = s.resends)
      (hjobs : s'.jobs = s.jobs)
  | rebuild (p : PendingMessage) (inp : BuildInputs) (wire : WirePayload)
      (hbatch : s.batch = p :: s'.batch) (hcollected : s'.collected = s.collected)
      (hbuild : buildStoredMessageWire P s.sessions p.message inp.encryption inp.selfCard =
        .ok (wire, s'.sessions))
      (hresends : s'.resends =
        ⟨p, s.sessions, inp, wire, s.store.messages, s.collected⟩ :: s.resends)
      (hjobs : s'.jobs = s.jobs ++ [.retry p wire]) (hstore : s'.store = s.store)
  | restart (hbatch : s'.batch = []) (hcollected : s'.collected = s.collected)
      (hresends : s'.resends = s.resends) (hjobs : s'.jobs = []) (hstore : s'.store = s.store.load)

theorem step_move : Move P s (s.step P e) := by
  -- the jobs that are left are old ones
  have hold : ∀ {s' : Queue σ}, s'.batch = s.batch → s'.collected = s.collected →
      s'.resends = s.resends → (∀ j ∈ s'.jobs, j ∈ s.jobs) → Move P s s' :=
    fun hbatch hcollected hresends hjobs => .hold hbatch hcollected hresends
      fun j hj _ hmsg => .inl (mem_copies_of_job (hjobs j hj) hmsg)
  have hself : Move P s s := hold rfl rfl rfl fun _ hj => hj
  have hcollect : ∀ (now : Time) (batch : List PendingMessage) (recovering : Bool),
      Move P s (s.collect now batch recovering) := by
    intro now batch recovering
    unfold collect
    split
    · rename_i hidle
      -- what is due was queued, in whatever order the map yields it
      exact .collect (fun p hp => mem_duePending (hidle.2.2.mem_iff.mp hp)) rfl rfl rfl rfl
    · exact hself
  cases e with
  | send contactID content threadID inp =>
    simp only [step]
    split
    · refine .hold rfl rfl rfl fun j hj msg hmsg => ?_
      rcases List.mem_append.mp hj with hj | hj
      · exact .inl (mem_copies_of_job hj hmsg)
      · obtain rfl := List.mem_singleton.mp hj
        exact absurd hmsg (by simp [Job.message])
    · exact hself
  | allocate i rounds =>
    simp only [step, allocate]
    split
    · split
      · exact hold rfl rfl rfl fun _ hj => List.mem_of_mem_eraseIdx hj
      · rename_i msg store hallocated
        refine .hold rfl rfl rfl fun j hj msg' hmsg => ?_
        rcases List.mem_append.mp hj with hj | hj
        · exact .inl (mem_copies_of_job (List.mem_of_mem_eraseIdx hj) hmsg)
        · obtain rfl := List.mem_singleton.mp hj
          obtain rfl := Option.some.inj hmsg
          exact .inr ⟨true, allocateOutboundMessage_saved hallocated⟩
    · exact hself
  | persistSenderMessage ctx actorID written =>
    simp only [step, persistSenderMessage]
    split
    · exact hself
    · exact hold rfl rfl rfl fun _ hj => hj
  | fanout ctx recipientID written =>
    simp only [step, fanout]
    split
    · exact hself
    · split
      · exact hself
      · rename_i store hsave
        refine .hold rfl rfl rfl fun j hj msg hmsg => ?_
        rcases List.mem_append.mp hj with hj | hj
        · exact .inl (mem_copies_of_job hj hmsg)
        · obtain rfl := List.mem_singleton.mp hj
          obtain rfl := Option.some.inj hmsg
          exact .inr ⟨written, hsave⟩
  | prepare i inp =>
    simp only [step, prepare]
    split
    · rename_i msg wireMeta hjob
      split
      · exact hold rfl rfl rfl fun _ hj => List.mem_of_mem_eraseIdx hj
      · refine .hold rfl rfl rfl fun j hj msg' hmsg => .inl ?_
        rcases List.mem_append.mp hj with hj | hj
        · exact mem_copies_of_job (List.mem_of_mem_eraseIdx hj) hmsg
        · obtain rfl := List.mem_singleton.mp hj
          exact mem_copies_of_job (List.mem_of_getElem? hjob) hmsg
    · exact hself
  | publish i inp =>
    simp only [step, publish]
    split
    · exact hold rfl rfl rfl fun _ hj => List.mem_of_mem_eraseIdx hj
    · exact hold rfl rfl rfl fun _ hj => List.mem_of_mem_eraseIdx hj
    · exact hself
  | tick now batch => exact hcollect now batch false
  | recover now batch => exact hcollect (now + startupRecoveryLookahead) batch true
  | next inp onError =>
    simp only [step, next]
    split
    · exact hself
    · split
      · exact hself
      · rename_i p rest hbatch
        split
        · exact .skip p hbatch rfl rfl rfl
        · rename_i wire sessions' hbuild
          exact .rebuild p inp wire hbatch rfl hbuild rfl rfl rfl
  | edit | op =>
    simp only [step]
    exact hold rfl rfl rfl fun _ hj => hj
  | restart => exact .restart rfl rfl rfl rfl rfl

end Queue

end Ardents.Messaging
