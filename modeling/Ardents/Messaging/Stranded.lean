import Ardents.Messaging.Deleted

/-!
# Messages that nobody will send

A message is saved as pending before it is published, and then waits in the queue, or its first
publish is under way. The retry loop puts back what it cannot send and marks as failed what it
gives up.
-/

namespace Ardents.Messaging

open Go
open Crypto
open MessageStore

/-! ## The queue covers what is pending -/

def Message.IsPending (msg : Message) : Prop :=
  msg.direction = .outbound ∧ msg.status = .pending

/-- Every pending message is in the queue, but for those with one of `ids`. -/
def Covers (ids : String → Prop) (store : MessageStore) : Prop :=
  ∀ (id : String) (m : Message), store.messages[id]? = some m → m.IsPending →
    id ∈ store.pending ∨ ids id

namespace Covers

variable {ids : String → Prop} {store : MessageStore}

theorem mono (h : Covers ids store) {ids' : String → Prop} (hids : ∀ id, ids id → ids' id) :
    Covers ids' store := fun id m hm hpending => (h id m hm hpending).imp_right (hids id)

theorem perform_of_apply {ask : MessageOp × Bool} (h : Covers ids store)
    (hok : ∀ store', ask.1.apply store ask.2 = .ok store' → Covers ids store') :
    Covers ids (MessageOp.perform store ask) := by
  unfold MessageOp.perform
  cases happly : ask.1.apply store ask.2 with
  | error e => exact h
  | ok store' => exact hok store' happly

theorem insert (h : Covers ids store) {key : String} {msg : Message}
    (hmsg : msg.IsPending → key ∈ store.pending ∨ ids key) :
    Covers ids { store with messages := store.messages.insert key msg } := by
  intro id m hm hpending
  rw [get_insert] at hm
  split at hm
  · simp_all
  · exact h id m hm hpending

theorem save (h : Covers ids store) (msg : Message) (written : Bool)
    (hmsg : msg.IsPending → ids msg.id) :
    Covers ids (MessageOp.perform store (.saveMessage msg, written)) := by
  refine h.perform_of_apply fun store' happly => ?_
  rcases store.saveMessage_cases msg written with ⟨existing, -, hsave⟩ | ⟨-, hsave⟩
  · grind [MessageOp.apply]
  · obtain ⟨-, rfl⟩ := commit_ok (hsave.symm.trans happly)
    refine h.insert fun hpending => .inr (hmsg ?_)
    -- normalising changes neither the direction nor the status
    have hnormal : (normalizeMessageConversation msg).direction = msg.direction ∧
        (normalizeMessageConversation msg).status = msg.status := by
      grind [normalizeMessageConversation]
    exact ⟨hnormal.1 ▸ hpending.1, hnormal.2 ▸ hpending.2⟩

theorem mergeMessageStatus_eq_pending {current candidate : MessageStatus}
    (hcandidate : candidate ≠ .pending) (h : mergeMessageStatus current candidate = .pending) :
    current = .pending := by
  grind [mergeMessageStatus]

theorem updateStatus (h : Covers ids store) (messageID : String) {status : MessageStatus}
    (written : Bool) (hstatus : status ≠ .pending) :
    Covers ids (MessageOp.perform store (.updateMessageStatus messageID status, written)) := by
  refine h.perform_of_apply fun store' happly => ?_
  simp only [MessageOp.apply, updateMessageStatus] at happly
  split at happly
  · simp_all
  · rename_i msg hmsg
    obtain ⟨-, rfl⟩ := commit_ok happly
    refine h.insert fun hpending => h messageID msg hmsg ⟨hpending.1, ?_⟩
    exact mergeMessageStatus_eq_pending hstatus hpending.2

theorem updateContent (h : Covers ids store) (messageID : String) (content : Bytes)
    (contentType : ContentType) (now : Time) (written : Bool) : Covers ids (MessageOp.perform store
      (.updateMessageContent messageID content contentType now, written)) := by
  refine h.perform_of_apply fun store' happly => ?_
  simp only [MessageOp.apply, updateMessageContent] at happly
  split at happly
  · simp_all
  · rename_i msg hmsg
    obtain ⟨-, rfl⟩ := commit_ok happly
    exact h.insert fun hpending => h messageID msg hmsg hpending

theorem queue {msg : Message} (h : Covers (fun id => ids id ∨ id = msg.id) store)
    (retryCount : Int) (nextRetry : Time) (lastErr : String) : Covers ids (MessageOp.perform store
      (.addOrUpdatePending msg retryCount nextRetry lastErr, true)) := by
  intro id m hm hpending
  change id ∈ store.pending.insert msg.id ⟨msg, retryCount, nextRetry, lastErr⟩ ∨ ids id
  rw [mem_iff_get, get_insert]
  rcases h id m hm hpending with hqueued | hid | rfl
  · obtain ⟨p, hp⟩ := mem_iff_get.mp hqueued
    grind
  · exact .inr hid
  · exact .inl ⟨_, if_pos rfl⟩

theorem settle {messageID : String} (h : Covers (fun id => ids id ∨ id = messageID) store)
    {status : MessageStatus} (hstatus : status = .sent ∨ status = .failed) :
    Covers ids (MessageOp.performAll store
      [(.updateMessageStatus messageID status, true), (.removePending messageID, true)]) := by
  intro id m hm hpending
  change (recorded store (store.updateMessageStatus messageID status true)).messages[id]? =
    some m at hm
  change id ∈ (recorded store (store.updateMessageStatus messageID status true)).pending.erase
    messageID ∨ ids id
  obtain ⟨hsame, hmessages⟩ := store.recorded_updateMessageStatus messageID status true
  rw [hmessages] at hm
  rw [hsame]
  split at hm
  · -- neither `sent` nor `failed` leaves a pending message pending
    obtain ⟨before, -, rfl⟩ := Option.map_eq_some_iff.mp hm
    have hmerged : mergeMessageStatus before.status status = .pending := hpending.2
    have hbefore : before.status = .pending := by
      grind [mergeMessageStatus_eq_pending]
    rw [hbefore] at hmerged
    rcases hstatus with rfl | rfl
    · exact absurd hmerged (by decide)
    · exact absurd hmerged (by decide)
  · rename_i hother
    have hne : id ≠ messageID := fun hid => hother ⟨rfl, hid⟩
    rcases h id m hm hpending with hqueued | hid | hid
    · grind
    · exact .inr hid
    · exact absurd hid hne

theorem sweep (h : Covers ids store) {keep : String → Bool} :
    Covers ids ⟨store.messages.filter fun id _ => keep id,
      store.pending.filter fun id _ => keep id⟩ := by
  intro id m hm hpending
  rw [get_filter] at hm
  split at hm
  · rename_i hkeep
    rcases h id m hm hpending with hqueued | hid
    · grind
    · exact .inr hid
  · exact absurd hm (by simp)

theorem delete (h : Covers ids store) (contactID messageID : String) (written : Bool) :
    Covers ids (MessageOp.perform store (.deleteMessage contactID messageID, written)) := by
  refine h.perform_of_apply fun store' happly => ?_
  simp only [MessageOp.apply, deleteMessage] at happly
  split at happly
  · simp_all
  · split at happly
    · simp_all
    · obtain ⟨-, rfl⟩ := commit_ok happly
      intro id m hm hpending
      rw [get_erase] at hm
      split at hm
      · exact absurd hm (by simp)
      · rename_i hne
        rcases h id m hm hpending with hqueued | hid
        · simp_all
        · exact .inr hid

end Covers

/-- What the rest of the service may do to the store: it moves a status on, edits, deletes, and
saves what is not pending. -/
def MessageOp.harmless : MessageOp → Bool
  | .saveMessage msg => !(msg.direction = .outbound && msg.status = .pending)
  | .updateMessageStatus _ status => status ≠ .pending
  | .clearMessages _ => false
  | .removePending _ => false
  | _ => true

theorem Covers.harmless {ids : String → Prop} {store : MessageStore} (h : Covers ids store)
    {op : MessageOp} (hop : op.harmless = true) (written : Bool) :
    Covers ids (MessageOp.perform store (op, written)) := by
  cases op with
  | saveMessage msg =>
    refine h.save _ written fun hpending => ?_
    simp [MessageOp.harmless, hpending.1, hpending.2] at hop
  | updateMessageStatus messageID status =>
    exact h.updateStatus messageID written (by simpa [MessageOp.harmless] using hop)
  | updateMessageContent messageID content contentType now =>
    exact h.updateContent messageID content contentType now written
  | deleteMessage contactID messageID => exact h.delete contactID messageID written
  | clearMessages | removePending => exact absurd hop (by simp [MessageOp.harmless])
  | addOrUpdatePending message retryCount nextRetry lastErr =>
    cases written with
    | true => exact (h.mono fun _ hid => .inl hid).queue retryCount nextRetry lastErr
    | false => exact h
  | purgeOlderThan cutoff =>
    refine h.perform_of_apply fun store' happly => ?_
    simp only [MessageOp.apply, purgeOlderThan] at happly
    split at happly
    · obtain ⟨-, rfl⟩ := commit_ok happly
      exact h.sweep
    · obtain rfl := Except.ok.inj happly
      exact h

/-! ## Sends, fan-outs and ticks -/

/-- Sends, fan-outs and retries whose writes succeed, beside what is harmless. -/
def QueueEvent.written : QueueEvent → Bool
  | .publish _ inp => inp.statusWritten && inp.pendingWritten
  | .next _ onError => onError.statusWritten && onError.pendingWritten
  | .op operation _ => operation.harmless
  | .restart => false
  | _ => true

def Unpublished (jobs : List Job) (id : String) : Prop :=
  ∃ j ∈ jobs, ∃ msg, j.unpublished = some msg ∧ msg.id = id

theorem Unpublished.append {jobs : List Job} {id : String} (h : Unpublished jobs id)
    (more : List Job) : Unpublished (jobs ++ more) id := by
  obtain ⟨j, hj, hmsg⟩ := h
  exact ⟨j, List.mem_append_left _ hj, hmsg⟩

theorem unpublished_last (jobs : List Job) {j : Job} {msg : Message}
    (h : j.unpublished = some msg) : Unpublished (jobs ++ [j]) msg.id :=
  ⟨j, List.mem_append_right _ (List.mem_singleton.mpr rfl), msg, h, rfl⟩

theorem Unpublished.erase {jobs : List Job} {i : Nat} {j : Job} (hj : jobs[i]? = some j)
    {id : String} (h : Unpublished jobs id) :
    Unpublished (jobs.eraseIdx i) id ∨ ∃ msg, j.unpublished = some msg ∧ msg.id = id := by
  obtain ⟨j', hj', hmsg⟩ := h
  obtain ⟨hi, rfl⟩ := List.getElem?_eq_some_iff.mp hj
  rcases List.mem_cons.mp ((List.getElem_cons_eraseIdx_perm hi).mem_iff.mpr hj') with rfl | hj'
  · exact .inr hmsg
  · exact .inl ⟨j', hj', hmsg⟩

namespace Queue

variable (P : Primitives) {σ : Type} [SessionStore σ]

/-- The first wire of a fan-out can be built, and the first publish of a message ends well or in
a failure of the network. -/
def firstTry (s : Queue σ) : QueueEvent → Bool
  | .prepare i inp =>
    match s.jobs[i]? with
    | some (.fanout msg _) => (buildWireForOutboundMessage P s.sessions msg inp).toBool
    | _ => true
  | .publish i inp =>
    match s.jobs[i]?, inp.outcome with
    | some (.first _ _), .error f => f.category = .network
    | _, _ => true
  | _ => true

variable {P} {s : Queue σ} {e : QueueEvent}

def Attended (s : Queue σ) : Prop := Covers (Unpublished s.jobs) s.store

omit [SessionStore σ] in
theorem Attended.onPublishError (h : s.Attended) (p : PendingMessage) (f : Failure)
    {inp : PublishInputs} (hinp : inp.statusWritten = true ∧ inp.pendingWritten = true) :
    Covers (Unpublished s.jobs) (s.onPublishError p f inp) := by
  rw [onPublishError_eq]
  unfold errorAsks retryErrorAsks
  split
  · exact h
  · rw [hinp.1, hinp.2]
    split
    · exact (h.mono fun _ hid => .inl hid).settle (.inr rfl)
    · exact (h.mono fun _ hid => .inl hid).queue _ _ _

omit [SessionStore σ] in
theorem Attended.allocate (h : s.Attended) (i : Nat) (rounds : List (Option String × Time × Bool)) :
    (s.allocate i rounds).Attended := by
  unfold Queue.allocate
  split
  · rename_i contactID content threadID wire hjob
    -- a draft is not saved yet
    have hrest : ∀ id, Unpublished s.jobs id → Unpublished (s.jobs.eraseIdx i) id := by
      intro id hid
      rcases hid.erase hjob with hid | ⟨msg, hmsg, -⟩
      · exact hid
      · exact absurd hmsg (by simp [Job.unpublished])
    split
    · exact h.mono hrest
    · rename_i msg store hallocated
      have hsaved := (h.mono fun id hid => (hrest id hid).append [.first msg wire]).save msg
        true fun _ => unpublished_last _ rfl
      simp only [MessageOp.perform, MessageOp.apply, allocateOutboundMessage_saved hallocated,
        recorded] at hsaved
      exact hsaved
  · exact h

omit [SessionStore σ] in
theorem Attended.fanout (h : s.Attended) (ctx : FanoutContext) (recipientID : String)
    (written : Bool) : (s.fanout P ctx recipientID written).Attended := by
  unfold Queue.fanout
  dsimp only
  split
  · exact h
  · split
    · exact h
    · rename_i store hsave
      have hsaved := (h.mono fun id hid => hid.append
        [.fanout (fanoutMessage P ctx recipientID) ctx.wireMeta]).save
        (fanoutMessage P ctx recipientID) written fun _ => unpublished_last _ rfl
      simp only [MessageOp.perform, MessageOp.apply, hsave, recorded] at hsaved
      exact hsaved

theorem Attended.prepare (h : s.Attended) (i : Nat) (inp : EncryptInputs)
    (hfirst : firstTry P s (.prepare i inp) = true) : (s.prepare P i inp).Attended := by
  unfold Queue.prepare
  split
  · rename_i msg wireMeta hjob
    simp only [firstTry, hjob] at hfirst
    unfold prepareGroupMessage
    cases hbuild : buildWireForOutboundMessage P s.sessions msg inp with
    | error f => exact absurd hfirst (by simp [hbuild, Except.toBool])
    | ok built =>
      obtain ⟨wire, sessions'⟩ := built
      refine h.mono fun id hid => ?_
      rcases hid.erase hjob with hid | ⟨msg', hmsg, rfl⟩
      · exact hid.append _
      · obtain rfl := Option.some.inj hmsg
        exact unpublished_last _ rfl
  · exact h

theorem Attended.publish (h : s.Attended) (i : Nat) {inp : PublishInputs}
    (hinp : inp.statusWritten = true ∧ inp.pendingWritten = true)
    (hfirst : firstTry P s (.publish i inp) = true) : (s.publish i inp).Attended := by
  unfold Queue.publish
  split
  · rename_i msg wire hjob
    have hrest : Covers (fun id => Unpublished (s.jobs.eraseIdx i) id ∨ id = msg.id) s.store := by
      refine h.mono fun id hid => ?_
      rcases hid.erase hjob with hid | ⟨msg', hmsg, rfl⟩
      · exact .inl hid
      · obtain rfl := Option.some.inj hmsg
        exact .inr rfl
    unfold Attended
    dsimp only
    rw [publishQueuedMessage_store]
    unfold publishAsks
    cases houtcome : inp.outcome with
    | ok _ =>
      simp only [sentAsks, hinp.1, hinp.2]
      exact hrest.settle (.inl rfl)
    | error f =>
      have hnetwork : f.category = .network := by
        simpa [firstTry, hjob, houtcome] using hfirst
      simp only [hnetwork, if_true, hinp.2]
      exact hrest.queue _ _ _
  · rename_i p wire hjob
    have hrest : ∀ id, Unpublished s.jobs id → Unpublished (s.jobs.eraseIdx i) id := by
      intro id hid
      rcases hid.erase hjob with hid | ⟨msg, hmsg, -⟩
      · exact hid
      · exact absurd hmsg (by simp [Job.unpublished])
    unfold Attended
    dsimp only
    split
    · rw [markMessageAsSent_eq]
      simp only [sentAsks, hinp.1, hinp.2]
      exact (h.mono fun id hid => .inl (hrest id hid)).settle (.inl rfl)
    · exact (h.onPublishError p _ hinp).mono hrest
  · exact h

theorem Attended.next (h : s.Attended) (inp : BuildInputs) {onError : PublishInputs}
    (hinp : onError.statusWritten = true ∧ onError.pendingWritten = true) :
    (s.next P inp onError).Attended := by
  unfold Queue.next
  split
  · exact h
  · split
    · exact h
    · rename_i p rest _
      split
      · exact h.onPublishError p _ hinp
      · exact h.mono fun _ hid => hid.append _

omit [SessionStore σ] in
theorem Attended.edit (h : s.Attended) (contactID messageID content : String) (now : Time)
    (written : Bool) :
    Covers (Unpublished s.jobs)
      (editMessage s.store contactID messageID content now written).2 := by
  rw [editMessage_store]
  unfold editAsks
  split
  · exact h
  · split
    · exact h
    · exact Covers.updateContent h _ _ _ _ _

omit [SessionStore σ] in
theorem Attended.collect (h : s.Attended) (now : Time) (batch : List PendingMessage)
    (recovering : Bool) : (s.collect now batch recovering).Attended := by
  unfold Queue.collect
  split
  · exact h
  · exact h

theorem Attended.step (h : s.Attended) (he : e.written = true) (hfirst : firstTry P s e = true) :
    (s.step P e).Attended := by
  cases e with
  | send contactID content threadID inp =>
    simp only [Queue.step]
    split
    · exact h.mono fun _ hid => hid.append _
    · exact h
  | allocate i rounds => exact h.allocate i rounds
  | persistSenderMessage ctx actorID written =>
    simp only [Queue.step, persistSenderMessage]
    split
    · exact h
    · -- the sender's own copy is saved as sent
      exact h.save _ written fun hpending => absurd hpending.2 (by simp [senderMessage])
  | fanout ctx recipientID written => exact h.fanout ctx recipientID written
  | prepare i inp => exact h.prepare i inp hfirst
  | publish i inp => exact h.publish i (Bool.and_eq_true _ _ ▸ he) hfirst
  | tick now batch => exact h.collect now batch false
  | recover now batch => exact h.collect (now + startupRecoveryLookahead) batch true
  | next inp onError => exact h.next inp (Bool.and_eq_true _ _ ▸ he)
  | edit contactID messageID content now written =>
    exact h.edit contactID messageID content now written
  | op op written => exact Covers.harmless h he written
  | restart => exact absurd he (by simp [QueueEvent.written])

/-- **No message is stranded.** In every run of sends, fan-outs and retries with writes that
succeed, in which the first wire of a fan-out can be built and a first publish fails in the
network only, every outbound message that is stored as pending is in the queue, unless its first
publish is under way. -/
theorem pending_in_queue (sessions : σ) {store : MessageStore}
    (hstore : Covers (fun _ => False) store) {events : List QueueEvent}
    (hwritten : ∀ e ∈ events, e.written = true)
    (h : Along (Queue.step P) (fun s e => firstTry P s e = true) (initial sessions store) events)
    {s : Queue σ} (hrun : run (Queue.step P) (initial sessions store) events = s) {id : String}
    {m : Message} (hm : s.store.messages[id]? = some m) (hout : m.direction = .outbound)
    (hpending : m.status = .pending) : id ∈ s.store.pending ∨ Unpublished s.jobs id := by
  have hinitial : (initial sessions store).Attended := hstore.mono fun _ hid => absurd hid (by simp)
  have hattended : s.Attended := hrun ▸ along_run (fun _ _ ht he => ht.step he.1 he.2) hinitial
    ((along_of_forall (fun _ e he => hwritten e he) _).and h)
  exact hattended id m hm ⟨hout, hpending⟩

/-! ### A greeting that waits, and two that are lost -/

/-- A greeting sent while the network is down is in the queue. -/
theorem greeting_waits : ∃ s, run (Queue.step transparent) sampleQueue greetingQueued = s ∧
      s.store.messages["msg_1"]? = some (newOutboundMessage "msg_1" "bob" "hi" 0) ∧
      ("msg_1" ∈ s.store.pending ∨ Unpublished s.jobs "msg_1") := by
  have hstored : (run (Queue.step transparent) sampleQueue greetingQueued).store.messages["msg_1"]?
      = some (newOutboundMessage "msg_1" "bob" "hi" 0) := by decide
  refine ⟨_, rfl, hstored, ?_⟩
  exact pending_in_queue (sampleStore "alice" "bob") (fun _ _ hm => absurd hm (by
    simp [MessageStore.empty])) (by decide) (by decide) rfl hstored rfl rfl

/-- A greeting that cannot be signed, and a greeting to a team in which there is no session with
Carol. Both are stored as pending; no job has them and neither is in the queue. -/
theorem greetings_stranded : (∃ s, run (Queue.step transparent) sampleQueue
        [.send "bob" "hi" "" sampleBuild, .allocate 0 [(some "msg_1", 0, true)],
          .publish 0 { offline "" with outcome := .error ⟨.crypto, "signing failed"⟩ }] = s ∧
      s.jobs = [] ∧ s.store.pending.isEmpty ∧
      s.store.messages.values.map (fun m => (m.direction, m.status)) = [(.outbound, .pending)]) ∧
    ∃ s, run (Queue.step transparent) sampleQueue
        [.fanout { groupID := "team", eventID := "e1", content := "hi", threadID := ""
                   deviceID := "dev1", now := 0, version := 3, groupKeyVersion := 1 } "carol" true,
          .prepare 0 sampleInputs] = s ∧
      s.jobs = [] ∧ s.store.pending.isEmpty ∧
      s.store.messages.values.map (fun m => (m.direction, m.status)) =
        [(.outbound, .pending)] := by
  refine ⟨⟨_, rfl, ?_⟩, _, rfl, ?_⟩
  · decide
  · decide

end Queue

end Ardents.Messaging
