import Ardents.Messaging.Deleted

/-!
# Edited messages and the queue

The queue keeps its own copy of every message, and so does whatever is on its way. An edit changes
what is stored, and leaves the copies.
-/

namespace Ardents.Messaging

open Go
open Crypto

/-! ## What a wire says -/

section

variable (P : Primitives) {σ : Type} [SessionStore σ]

/-- A wire that has the plaintext in the clear, or encrypted for a contact. -/
def WireCarries (sessions : σ) (contactID : String) (inp : EncryptInputs) (wire : WirePayload)
    (plaintext : Bytes) : Prop :=
  (wire.kind = .plain ∧ wire.plain = plaintext) ∨
    (wire.kind = .e2ee ∧ ∃ sessions',
      encrypt P sessions contactID plaintext inp = .ok (wire.envelope, sessions'))

variable {P} {sessions sessions' : σ} {msg : Message} {inp : EncryptInputs} {wire : WirePayload}

theorem buildWireForOutboundMessage_carries
    (h : buildWireForOutboundMessage P sessions msg inp = .ok (wire, sessions')) :
    wire.kind = .e2ee ∧ encrypt P sessions msg.contactID msg.content inp =
      .ok (wire.envelope, sessions') := by
  have he2ee : e2eeWire P sessions msg inp = .ok (wire, sessions') →
      wire.kind = .e2ee ∧ encrypt P sessions msg.contactID msg.content inp =
        .ok (wire.envelope, sessions') := by
    grind [e2eeWire]
  grind [buildWireForOutboundMessage]

theorem buildStoredMessageWire_carries {selfCard : Option Identity.ContactCard}
    (h : buildStoredMessageWire P sessions msg inp selfCard = .ok (wire, sessions')) :
    WireCarries P sessions msg.contactID inp wire msg.content := by
  unfold buildStoredMessageWire at h
  split at h
  · split at h
    · exact absurd h (by simp)
    · obtain ⟨rfl, -⟩ := Prod.mk.inj (Except.ok.inj h)
      exact .inl ⟨rfl, rfl⟩
  · exact absurd h (by simp)
  · rename_i built t hbuild
    obtain ⟨hkind, hencrypt⟩ := buildWireForOutboundMessage_carries hbuild
    obtain ⟨rfl, rfl⟩ := Prod.mk.inj (Except.ok.inj h)
    exact .inr ⟨hkind, t, hencrypt⟩

end

/-! ## Operations that edit nothing -/

def MessageOp.plain : MessageOp → Bool
  | .saveMessage _ => true
  | .updateMessageStatus _ _ => true
  | .addOrUpdatePending _ _ _ _ => true
  | .removePending _ => true
  | _ => false

variable {store : MessageStore}

theorem Holds.perform {msg : Message}
    (h : Holds Message.content store.messages msg) {ask : MessageOp × Bool}
    (hplain : ask.1.plain = true) :
    Holds Message.content (MessageOp.perform store ask).messages msg := by
  obtain ⟨m, hm, hcontent⟩ := h
  obtain ⟨op, written⟩ := ask
  cases op with
  | saveMessage saved => exact ⟨m, (store.recorded_saveMessage saved written).2 _ m hm, hcontent⟩
  | updateMessageStatus messageID status =>
    have hmessages := (store.recorded_updateMessageStatus messageID status written).2 msg.id
    rw [hm] at hmessages
    split at hmessages
    · exact ⟨_, hmessages, hcontent⟩
    · exact ⟨m, hmessages, hcontent⟩
  | addOrUpdatePending | removePending =>
    cases written with
    | true | false => exact ⟨m, hm, hcontent⟩
  | updateMessageContent messageID content contentType now =>
    exact absurd hplain (by simp [MessageOp.plain])
  | deleteMessage | clearMessages | purgeOlderThan =>
    exact absurd hplain (by simp [MessageOp.plain])

theorem content_normalizeMessageConversation (msg : Message) :
    (normalizeMessageConversation msg).content = msg.content := by
  grind [normalizeMessageConversation]

theorem saveMessage_holds {store' : MessageStore} {msg : Message} {written : Bool}
    (h : store.saveMessage msg written = .ok store') :
    Holds Message.content store'.messages msg := by
  rcases store.saveMessage_cases msg written with ⟨existing, hget, hsave⟩ | ⟨-, hsave⟩
  · rw [hsave] at h
    split at h
    · rename_i hequal
      obtain rfl := Except.ok.inj h
      have hcontent := congrArg Message.content (messagesEqual_iff.mp hequal)
      rw [content_normalizeMessageConversation, content_normalizeMessageConversation] at hcontent
      exact ⟨existing, hget, hcontent⟩
    · exact absurd h (by simp)
  · obtain ⟨-, rfl⟩ := MessageStore.commit_ok (hsave.symm.trans h)
    refine ⟨normalizeMessageConversation msg, ?_,
      content_normalizeMessageConversation msg⟩
    rw [get_insert, if_pos rfl]

structure Agrees (copies : List Message) (store : MessageStore) : Prop where
  queue : Owned Message.content store
  copies : ∀ msg ∈ copies, Holds Message.content store.messages msg

theorem Agrees.perform {copies : List Message} (h : Agrees copies store)
    {ask : MessageOp × Bool} (hplain : ask.1.plain = true)
    (hqueues : ∀ msg, ask.1.queues = some msg → msg ∈ copies) :
    Agrees copies (MessageOp.perform store ask) := by
  refine ⟨h.queue.perform (fun id p m' hp hm' => ?_) fun _ msg hmsg =>
    h.copies msg (hqueues msg hmsg), fun msg hmsg => (h.copies msg hmsg).perform hplain⟩
  obtain ⟨rfl, hholds⟩ := h.queue id p hp
  obtain ⟨m, hm, hcontent⟩ := hholds.perform hplain
  simp_all

theorem Agrees.updateMessageContent {copies : List Message}
    (h : Agrees copies store) {messageID : String} {content : Bytes}
    (hcopies : ∀ msg ∈ copies, msg.id = messageID → msg.content = content)
    (hqueue : ∀ p, store.pending[messageID]? = some p → p.message.content = content)
    (contentType : ContentType) (now : Time) (written : Bool) :
    Agrees copies (MessageOp.perform store
      (.updateMessageContent messageID content contentType now, written)) := by
  have hholds : ∀ msg : Message, Holds Message.content store.messages msg →
      (msg.id = messageID → msg.content = content) →
      Holds Message.content (MessageOp.perform store
        (.updateMessageContent messageID content contentType now, written)).messages msg := by
    rintro msg ⟨m, hm, hcontent⟩ hagree
    simp only [MessageOp.perform, MessageOp.apply, MessageStore.updateMessageContent]
    split
    · exact ⟨m, hm, hcontent⟩
    · rw [MessageStore.recorded_commit]
      split
      · dsimp only [Holds]
        rw [get_insert]
        split
        · rename_i hid
          exact ⟨_, rfl, (hagree hid.symm).symm⟩
        · exact ⟨m, hm, hcontent⟩
      · exact ⟨m, hm, hcontent⟩
  refine ⟨h.queue.perform (fun id p m' hp hm' => ?_) fun _ msg hmsg => ?_, fun msg hmsg =>
    hholds msg (h.copies msg hmsg) (hcopies msg hmsg)⟩
  · obtain ⟨rfl, hbefore⟩ := h.queue id p hp
    obtain ⟨m, hm, hcontent⟩ := hholds p.message hbefore fun hid => hqueue p (hid ▸ hp)
    obtain rfl := Option.some.inj (hm.symm.trans hm')
    exact hcontent
  · exact absurd hmsg (by simp [MessageOp.queues])

/-! ## Sends, edits, retries and status updates -/

/-- Nothing else touches the messages: others save messages, move statuses, and take entries out
of the queue. -/
def QueueEvent.plain : QueueEvent → Bool
  | .op operation _ => operation.plain && operation.queues.isNone
  | _ => true

namespace Queue

variable (P : Primitives) {σ : Type} [SessionStore σ]

def allCopies (s : Queue σ) : List Message :=
  s.copies ++ s.store.pending.toList.map fun entry => entry.2.message

def editsUncopied (s : Queue σ) : QueueEvent → Bool
  | .edit _ messageID content _ _ =>
    s.allCopies.all fun msg =>
      msg.id ≠ trimSpace messageID || msg.content = bytesOf (trimSpace content)
  | _ => true

variable {P} {s : Queue σ} {e : QueueEvent}

omit [SessionStore σ] in
theorem mem_allCopies_of_queue {id : String} {p : PendingMessage}
    (hp : s.store.pending[id]? = some p) : p.message ∈ s.allCopies := by
  have hmem : (id, p) ∈ s.store.pending.toList :=
    Std.ExtTreeMap.mem_toList_iff_getElem?_eq_some.mpr hp
  exact List.mem_append_right _ (List.mem_map.mpr ⟨(id, p), hmem, rfl⟩)

theorem agrees_asks (h : Agrees s.copies s.store) (he : e.plain = true)
    (hedit : s.editsUncopied e = true) :
    Agrees s.copies (MessageOp.performAll s.store (s.asks P e)) := by
  have hasked := s.asks_asked P e
  generalize s.asks P e = asks at hasked ⊢
  cases hasked with
  | nothing => exact h
  | save msg written => exact h.perform rfl (by simp [MessageOp.queues])
  | settle messageID status statusWritten pendingWritten =>
    have hstatus : Agrees s.copies (MessageOp.perform s.store
        (.updateMessageStatus messageID status, statusWritten)) :=
      h.perform rfl (by simp [MessageOp.queues])
    exact hstatus.perform rfl (by simp [MessageOp.queues])
  | queue hmsg retryCount nextRetry lastErr written =>
    refine h.perform rfl fun msg hqueues => ?_
    obtain rfl := Option.some.inj hqueues
    exact hmsg
  | edit he contentType =>
    subst he
    simp only [editsUncopied, List.all_eq_true, Bool.or_eq_true, decide_eq_true_eq,
      ← imp_iff_not_or] at hedit
    refine h.updateMessageContent (fun msg hmsg => ?_) (fun p hp => ?_) contentType _ _
    · exact hedit msg (List.mem_append_left _ hmsg)
    · exact hedit p.message (mem_allCopies_of_queue hp) (h.queue _ p hp).1
  | other he' =>
    simp_all [QueueEvent.plain, Agrees.perform]

/-- Every copy says what is stored, and so did every wire that was built again. -/
structure InStep (P : Primitives) (s : Queue σ) : Prop where
  agrees : Agrees s.copies s.store
  resends : ∀ r ∈ s.resends, ∀ m, r.stored[r.pending.message.id]? = some m →
    WireCarries P r.sessions r.pending.message.contactID r.inp.encryption r.wire m.content

theorem InStep.copies (h : InStep P s)
    (hstore : ∀ msg ∈ s.copies, Holds Message.content (s.step P e).store.messages msg) :
    ∀ msg ∈ (s.step P e).copies, Holds Message.content (s.step P e).store.messages msg := by
  intro msg hmsg
  have hmove := step_move (P := P) (s := s) (e := e)
  rcases mem_copies.mp hmsg with ⟨p, hp, rfl⟩ | ⟨j, hj, hjob⟩
  · cases hmove with
    | hold hbatch _ _ _ => exact hstore _ (mem_copies_of_batch (hbatch ▸ hp))
    | collect hbatch _ _ _ hsame =>
      obtain ⟨id, hid⟩ := hbatch p hp
      rw [hsame]
      exact (h.agrees.queue id p hid).2
    | skip q hbatch _ _ _ | rebuild q inp wire hbatch _ _ _ _ _ =>
      exact hstore _ (mem_copies_of_batch (hbatch ▸ List.mem_cons_of_mem q hp))
    | restart hbatch _ _ _ _ => exact absurd (hbatch ▸ hp) List.not_mem_nil
  · cases hmove with
    | hold _ _ _ hjobs =>
      grind [saveMessage_holds]
    | collect _ _ _ hjobs _ | skip _ _ _ _ hjobs =>
      exact hstore msg (mem_copies_of_job (hjobs ▸ hj) hjob)
    | rebuild p inp wire hbatch _ _ _ hjobs _ =>
      rcases List.mem_append.mp (hjobs ▸ hj) with hj | hj
      · exact hstore msg (mem_copies_of_job hj hjob)
      · obtain rfl := List.mem_singleton.mp hj
        obtain rfl := Option.some.inj hjob
        exact hstore _ (mem_copies_of_batch (hbatch ▸ List.mem_cons_self))
    | restart _ _ _ hjobs _ => exact absurd (hjobs ▸ hj) List.not_mem_nil

theorem InStep.agrees_step (h : InStep P s) (he : e.plain = true)
    (hedit : s.editsUncopied e = true) : Agrees (s.step P e).copies (s.step P e).store := by
  by_cases hrestart : e = .restart
  · -- reading the file back changes no content, and nothing is on its way
    subst hrestart
    refine ⟨h.agrees.queue.load fun m m' hcontent => ?_, fun _ hmsg => ?_⟩
    · rw [content_normalizeMessageConversation, content_normalizeMessageConversation, hcontent]
    · exact absurd hmsg (by simp [Queue.step, Queue.copies])
  · have hstore := agrees_asks (P := P) h.agrees he hedit
    rw [← s.step_store P hrestart] at hstore
    exact ⟨hstore.queue, h.copies hstore.copies⟩

theorem InStep.step (h : InStep P s) (he : e.plain = true) (hedit : s.editsUncopied e = true) :
    InStep P (s.step P e) := by
  refine ⟨h.agrees_step he hedit, ?_⟩
  cases step_move (P := P) (s := s) (e := e) with
  | hold _ _ hresends _ | collect _ _ hresends _ _ | skip _ _ _ hresends _
  | restart _ _ hresends _ _ =>
    rw [hresends]
    exact h.resends
  | rebuild p inp wire hbatch _ hbuild hresends _ _ =>
    rw [hresends]
    intro r hr m hm
    rcases List.mem_cons.mp hr with rfl | hr
    · -- the wire is built from the copy, which says what is stored
      have hp := mem_copies_of_batch (s := s) (hbatch ▸ List.mem_cons_self)
      obtain ⟨m', hm', hcontent⟩ := h.agrees.copies p.message hp
      grind [buildStoredMessageWire_carries]
    · exact h.resends r hr m hm

/-- **Retries send what the user sees.** In every run of sends, edits, retries and status updates
in which no edit meets a copy that says something else, every wire the retry loop has built
carries what was then stored under the id of its message. -/
theorem retry_sends_stored (sessions : σ) {store : MessageStore}
    (hstore : Owned Message.content store) {events : List QueueEvent}
    (hplain : ∀ e ∈ events, e.plain = true)
    (h : Along (Queue.step P) (fun s e => s.editsUncopied e = true) (initial sessions store) events)
    {s : Queue σ} (hrun : run (Queue.step P) (initial sessions store) events = s) :
    ∀ r ∈ s.resends, ∀ m, r.stored[r.pending.message.id]? = some m →
      WireCarries P r.sessions r.pending.message.contactID r.inp.encryption r.wire m.content := by
  have hinitial : InStep P (initial sessions store) :=
    ⟨⟨hstore, fun _ hmsg => absurd hmsg (by simp [initial, Queue.copies])⟩,
      fun _ hr => absurd hr List.not_mem_nil⟩
  have hinstep : InStep P s := hrun ▸ along_run (fun _ _ ht he => ht.step he.1 he.2) hinitial
    ((along_of_forall (fun _ e he => hplain e he) _).and h)
  exact hinstep.resends

/-! ### A note to Carol, in the clear -/

/-- Carol gets a card along with the note, for there is no session with them. -/
def carolBuild : BuildInputs :=
  { sampleBuild with selfCard := some ⟨"alice", "Alice", [], []⟩ }

def noteQueued : List QueueEvent :=
  [.send "carol" "hi" "" carolBuild, .allocate 0 [(some "msg_1", 0, true)],
    .publish 0 (offline "")]

def noteRetried (events : List QueueEvent) : List QueueEvent :=
  let store := (run (Queue.step transparent) sampleQueue events).store
  events ++ [.tick Sender.later (store.duePending Sender.later), .next carolBuild (offline "")]

/-- An edit that changes nothing; the wire of the retry says what is stored. -/
theorem note_sent_as_stored : ∃ s, run (Queue.step transparent) sampleQueue
        (noteRetried (noteQueued ++ [.edit "carol" "msg_1" "hi" 5 true])) = s ∧
      s.resends.length = 1 ∧ ∀ r ∈ s.resends, ∀ m, r.stored[r.pending.message.id]? = some m →
        WireCarries transparent r.sessions r.pending.message.contactID r.inp.encryption r.wire
          m.content := by
  refine ⟨_, rfl, by decide, ?_⟩
  exact retry_sends_stored (sampleStore "alice" "bob") (fun _ _ hp => absurd hp (by
    simp [MessageStore.empty])) (by decide) (by decide) rfl

/-- The note is edited while it waits, and sent as it was. -/
theorem edited_note_sent_as_before : ∃ s, run (Queue.step transparent) sampleQueue
        (noteRetried (noteQueued ++ [.edit "carol" "msg_1" "bye" 5 true])) = s ∧
      ∃ r ∈ s.resends, ∃ m, r.stored[r.pending.message.id]? = some m ∧
        m.content = bytesOf "bye" ∧ r.wire.kind = .plain ∧ r.wire.plain = bytesOf "hi" ∧
        ¬ WireCarries transparent r.sessions r.pending.message.contactID r.inp.encryption r.wire
          m.content := by
  refine ⟨_, rfl, ?_⟩
  have hnote : ∃ r ∈ (run (Queue.step transparent) sampleQueue (noteRetried (noteQueued ++
      [.edit "carol" "msg_1" "bye" 5 true]))).resends,
      (r.stored[r.pending.message.id]?).map Message.content = some (bytesOf "bye") ∧
        r.wire.kind = .plain ∧ r.wire.plain = bytesOf "hi" := by decide
  obtain ⟨r, hr, hstored, hkind, hplain⟩ := hnote
  obtain ⟨m, hm, hcontent⟩ := Option.map_eq_some_iff.mp hstored
  refine ⟨r, hr, m, hm, hcontent, hkind, hplain, ?_⟩
  rintro (⟨-, hsays⟩ | ⟨he2ee, -⟩)
  · rw [hplain, hcontent] at hsays
    exact absurd hsays (by decide)
  · exact absurd (hkind.symm.trans he2ee) (by simp)

end Queue

end Ardents.Messaging
