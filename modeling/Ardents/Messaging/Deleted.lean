import Ardents.Messaging.Queue

/-!
# Deleted messages and the queue

The retry loop works on copies. A message that is deleted while the loop is publishing it is put
back in the queue when the publish fails, and then there is an entry in the queue that has no
message. The next tick sends it.
-/

namespace Ardents.Messaging

open Go
open Crypto

theorem Fate.contactID {id : String} {m m' : Message} (h : Fate id (some m) (some m')) :
    m'.contactID = m.contactID := by
  cases h with
  | kept | status | content => rfl

theorem contactID_normalizeMessageConversation (msg : Message) :
    (normalizeMessageConversation msg).contactID = trimSpace msg.contactID := by
  grind [normalizeMessageConversation]

namespace Queue

variable {P : Primitives} {σ : Type} [SessionStore σ] {s : Queue σ} {e : QueueEvent}

/-- Every entry has its message, and so had those of the batch when it was collected. -/
structure Backed (s : Queue σ) : Prop where
  queue : Owned Message.contactID s.store
  batch : ∀ p ∈ s.batch, Holds Message.contactID s.collected p.message
  resends : ∀ r ∈ s.resends, Holds Message.contactID r.collected r.pending.message

def QueuesStored (P : Primitives) (s : Queue σ) (e : QueueEvent) : Prop :=
  ∀ msg ∈ s.queued P e, Holds Message.contactID s.store.messages msg

instance (P : Primitives) (s : Queue σ) (e : QueueEvent) : Decidable (QueuesStored P s e) :=
  inferInstanceAs (Decidable (∀ msg ∈ s.queued P e, Holds Message.contactID s.store.messages msg))

theorem Backed.store (h : s.Backed) (he : QueuesStored P s e) :
    Owned Message.contactID (s.step P e).store := by
  by_cases hrestart : e = .restart
  · subst hrestart
    refine h.queue.load fun m m' hcontact => ?_
    rw [contactID_normalizeMessageConversation, contactID_normalizeMessageConversation, hcontact]
  · rw [s.step_store P hrestart]
    refine MessageOp.performAll_keeps (fun store ask howned hask => ?_) h.queue
      (along_asks P (Q := Holds Message.contactID) he)
    refine howned.perform (fun id p m' hp hm' => ?_) hask
    obtain ⟨rfl, m, hm, hcontact⟩ := howned id p hp
    have hfate := MessageOp.perform_fate store ask p.message.id
    rw [hm, hm'] at hfate
    exact hfate.contactID.trans hcontact

theorem Backed.step (h : s.Backed) (he : QueuesStored P s e) : (s.step P e).Backed := by
  have hstore := h.store he
  cases step_move (P := P) (s := s) (e := e) with
  | hold hbatch hcollected hresends _ =>
    refine ⟨hstore, ?_, ?_⟩
    · rw [hbatch, hcollected]
      exact h.batch
    · rw [hresends]
      exact h.resends
  | collect hbatch hcollected hresends _ _ =>
    refine ⟨hstore, ?_, ?_⟩
    · rw [hcollected]
      intro p hp
      obtain ⟨id, hid⟩ := hbatch p hp
      exact (h.queue id p hid).2
    · rw [hresends]
      exact h.resends
  | skip p hbatch hcollected hresends _ =>
    refine ⟨hstore, ?_, ?_⟩
    · grind [cases Backed]
    · rw [hresends]
      exact h.resends
  | rebuild p inp wire hbatch hcollected _ hresends _ _ =>
    refine ⟨hstore, ?_, ?_⟩
    · grind [cases Backed]
    · grind [cases Backed]
  | restart hbatch _ hresends _ _ =>
    refine ⟨hstore, ?_, ?_⟩
    · simp_all
    · rw [hresends]
      exact h.resends

/-- **Deleted messages are not sent again.** In every run in which what is put in the queue is
still stored, every entry of the queue has its message, with the same contact; and what the
retry loop sends was stored when its tick began. -/
theorem deleted_not_resent (sessions : σ) {store : MessageStore}
    (hstore : Owned Message.contactID store) {events : List QueueEvent}
    (h : Along (Queue.step P) (QueuesStored P) (initial sessions store) events) {s : Queue σ}
    (hrun : run (Queue.step P) (initial sessions store) events = s) :
    (∀ (id : String) (p : PendingMessage), s.store.pending[id]? = some p →
      ∃ m, s.store.messages[id]? = some m ∧ m.contactID = p.message.contactID) ∧
      ∀ r ∈ s.resends, ∃ m, r.collected[r.pending.message.id]? = some m ∧
        m.contactID = r.pending.message.contactID := by
  have hinitial : (initial sessions store).Backed :=
    ⟨hstore, fun _ hp => absurd hp List.not_mem_nil, fun _ hr => absurd hr List.not_mem_nil⟩
  have hbacked : s.Backed := hrun ▸ along_run (fun _ _ ht he => ht.step he) hinitial h
  refine ⟨fun id p hp => ?_, hbacked.resends⟩
  obtain ⟨rfl, hholds⟩ := hbacked.queue id p hp
  exact hholds

/-! ### A greeting, queued and deleted -/

def sampleQueue : Queue InMemorySessionStore :=
  initial (sampleStore "alice" "bob") MessageStore.empty

def greetingQueued : List QueueEvent :=
  [.send "bob" "hi" "" sampleBuild, .allocate 0 [(some "msg_1", 0, true)],
    .publish 0 (offline "")]

def comesRound (events : List QueueEvent) : List QueueEvent :=
  let store := (run (Queue.step transparent) sampleQueue events).store
  events ++ [.tick Sender.later (store.duePending Sender.later), .next sampleBuild (offline "")]

/-- The greeting is not deleted, and sent again and again. -/
theorem greeting_kept : ∃ s, run (Queue.step transparent) sampleQueue
        (comesRound (comesRound greetingQueued ++ [.publish 0 (offline "")])) = s ∧
      s.resends.length = 2 ∧ ∀ r ∈ s.resends, ∃ m, r.collected[r.pending.message.id]? = some m ∧
        m.contactID = r.pending.message.contactID := by
  refine ⟨_, rfl, by decide, ?_⟩
  exact (deleted_not_resent (sampleStore "alice" "bob") (fun _ _ hp => absurd hp (by
    simp [MessageStore.empty])) (by decide) rfl).2

/-- Alice deletes the greeting while it is being published. It is queued all the same, and goes
out with the next tick. -/
theorem deleted_greeting_resent : ∃ s, run (Queue.step transparent) sampleQueue
        (comesRound (comesRound greetingQueued ++
          [.op (.deleteMessage "bob" "msg_1") true, .publish 0 (offline "")])) = s ∧
      "msg_1" ∈ s.store.pending ∧ "msg_1" ∉ s.store.messages ∧
      ∃ r ∈ s.resends, r.pending.message.id = "msg_1" ∧ "msg_1" ∉ r.collected := by
  refine ⟨_, rfl, ?_⟩
  decide

end Queue

end Ardents.Messaging
