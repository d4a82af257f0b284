import Ardents.Go.Run
import Ardents.Messaging.InboundService

/-!
# The message bus

`message_bus.go`: nodes of one process hand messages to each other over a bus. A recipient with a
handler is called for each message; mail for the others is kept until they subscribe. The lock of
the bus is given back before any handler is called, so the calls of `subscribe` and the goroutines
of `publish` run beside each other and beside whatever the bus does next.

A run is any interleaving of the four: a message is published, a recipient subscribes or
unsubscribes, or one of the callers outside the lock hands over its next message. What is asked of
the bus is stated against the events of the run: a message is delivered or on its way as often as
it was published, and goes to no handler that was not subscribed for its recipient before.
-/

namespace Ardents.Messaging

open Go

/-- `messageBus`; `η` are the handlers. -/
structure MessageBus (η : Type) where
  subscribers : GoMap String η
  mailbox : GoMap String (List InboundPrivateMessage)

namespace MessageBus

variable {η : Type} (b : MessageBus η)

/-- `publish`, and the handler that it starts a goroutine for. -/
def publish (msg : InboundPrivateMessage) : Option η × MessageBus η :=
  match b.subscribers[msg.recipient]? with
  | some handler => (some handler, b)
  | none => (none, { b with
      mailbox := b.mailbox.insert msg.recipient (b.mailbox.getD msg.recipient [] ++ [msg]) })

/-- `subscribe` under the lock, and the messages that it then calls the handler for. -/
def subscribe (recipient : String) (handler : η) : List InboundPrivateMessage × MessageBus η :=
  (b.mailbox.getD recipient [],
    ⟨b.subscribers.insert recipient handler, b.mailbox.erase recipient⟩)

/-- `unsubscribe`; mail that was not picked up stays. -/
def unsubscribe (recipient : String) : MessageBus η :=
  { b with subscribers := b.subscribers.erase recipient }

end MessageBus

/-- The bus, and for every goroutine and `subscribe` that is calling a handler the messages it has
yet to hand over; with what has been handed over. -/
structure BusRun (η : Type) where
  bus : MessageBus η
  callers : List (η × List InboundPrivateMessage)
  handed : List (η × InboundPrivateMessage)

/-- What can happen next: a call of the bus, or a caller that hands over a message. -/
inductive BusEvent (η : Type) where
  | publish (msg : InboundPrivateMessage)
  | subscribe (recipient : String) (handler : η)
  | unsubscribe (recipient : String)
  | hand (caller : Nat)

/-- The message an event publishes. -/
def BusEvent.message? {η : Type} : BusEvent η → Option InboundPrivateMessage
  | .publish msg => some msg
  | _ => none

namespace BusRun

variable {η : Type}

def step (s : BusRun η) : BusEvent η → BusRun η
  | .publish msg =>
    { s with
      bus := (s.bus.publish msg).2
      callers := ((s.bus.publish msg).1.map fun h => (h, [msg])).toList ++ s.callers }
  | .subscribe recipient handler =>
    { s with
      bus := (s.bus.subscribe recipient handler).2
      callers := (handler, (s.bus.subscribe recipient handler).1) :: s.callers }
  | .unsubscribe recipient => { s with bus := s.bus.unsubscribe recipient }
  | .hand caller =>
    match s.callers[caller]? with
    | some (handler, msg :: rest) =>
      { s with
        callers := (handler, rest) :: s.callers.eraseIdx caller
        handed := (handler, msg) :: s.handed }
    | _ => s

/-- A bus that nobody has used. -/
def empty : BusRun η := ⟨⟨∅, ∅⟩, [], []⟩

/-- How often a message is on its way: with a caller, or in its recipient's mailbox. -/
def waiting (s : BusRun η) (msg : InboundPrivateMessage) : Nat :=
  (s.callers.map fun c => c.2.count msg).sum + (s.bus.mailbox.getD msg.recipient []).count msg

/-- **Nothing is lost, repeated or misdelivered.** After the events `earlier`, a message has been
handed over or is on its way as often as it was published. Mail is for its recipient, who has no
handler. The handlers on the bus, those being called and those a message was handed to were
subscribed for the recipient in question by one of the events. -/
structure Sound (earlier : List (BusEvent η)) (s : BusRun η) : Prop where
  conserved : ∀ msg, (earlier.filterMap BusEvent.message?).count msg
    = (s.handed.map Prod.snd).count msg + s.waiting msg
  filed : ∀ r, ∀ msg ∈ s.bus.mailbox.getD r [], msg.recipient = r ∧ r ∉ s.bus.subscribers
  known : ∀ (r : String) h, s.bus.subscribers[r]? = some h → .subscribe r h ∈ earlier
  calling : ∀ c ∈ s.callers, ∀ msg ∈ c.2, .subscribe msg.recipient c.1 ∈ earlier
  handed : ∀ c ∈ s.handed, .subscribe c.2.recipient c.1 ∈ earlier

section

variable {earlier : List (BusEvent η)} {s : BusRun η}

/-- Once among the events, a subscription stays among them. -/
theorem mem_snoc {event : BusEvent η} (h : event ∈ earlier) (next : BusEvent η) :
    event ∈ earlier ++ [next] := List.mem_append_left _ h

theorem published_snoc (next : BusEvent η) (msg : InboundPrivateMessage) :
    ((earlier ++ [next]).filterMap BusEvent.message?).count msg
      = (earlier.filterMap BusEvent.message?).count msg + next.message?.toList.count msg := by
  rw [List.filterMap_append, List.count_append]
  cases next <;> rfl

theorem Sound.publish (h : s.Sound earlier) (msg : InboundPrivateMessage) :
    (s.step (.publish msg)).Sound (earlier ++ [.publish msg]) := by
  have hcalling : ∀ c ∈ s.callers, ∀ m ∈ c.2,
      BusEvent.subscribe m.recipient c.1 ∈ earlier ++ [.publish msg] :=
    fun c hc m hm => mem_snoc (h.calling c hc m hm) _
  cases hget : s.bus.subscribers[msg.recipient]? with
  | some handler =>
    simp only [step, MessageBus.publish, hget]
    refine ⟨fun m => ?_, h.filed, fun r h' hr => mem_snoc (h.known r h' hr) _, fun c hc => ?_,
      fun c hc => mem_snoc (h.handed c hc) _⟩
    · have hm := h.conserved m
      rw [published_snoc]
      simp only [waiting, BusEvent.message?, Option.map_some, Option.toList_some,
        List.singleton_append, List.map_cons, List.sum_cons] at hm ⊢
      omega
    · rcases List.mem_cons.mp hc with rfl | hc
      · intro m hm
        rw [List.mem_singleton.mp hm]
        exact mem_snoc (h.known _ _ hget) _
      · exact hcalling c hc
  | none =>
    simp only [step, MessageBus.publish, hget]
    refine ⟨fun m => ?_, fun r m hm => ?_, fun r h' hr => mem_snoc (h.known r h' hr) _, hcalling,
      fun c hc => mem_snoc (h.handed c hc) _⟩
    · -- the mailbox of the recipient has one message more
      have hm := h.conserved m
      rw [published_snoc]
      simp only [waiting, BusEvent.message?, Option.toList_some,
        Std.ExtTreeMap.getD_insert] at hm ⊢
      grind
    · simp only [Std.ExtTreeMap.getD_insert] at hm
      grind [h.filed r m]

theorem Sound.subscribe (h : s.Sound earlier) (recipient : String) (handler : η) :
    (s.step (.subscribe recipient handler)).Sound (earlier ++ [.subscribe recipient handler]) := by
  simp only [step, MessageBus.subscribe]
  have hmail := h.filed recipient
  have hnew : BusEvent.subscribe recipient handler ∈ earlier ++ [.subscribe recipient handler] :=
    List.mem_append_right _ (List.mem_singleton_self _)
  refine ⟨fun m => ?_, fun r m hm => ?_, fun r h' hr => ?_, fun c hc => ?_,
    fun c hc => mem_snoc (h.handed c hc) _⟩
  · -- the mailbox is emptied into the caller
    have hm := h.conserved m
    have hnone := List.count_eq_zero (a := m) (l := s.bus.mailbox.getD recipient [])
    rw [published_snoc]
    simp only [waiting, BusEvent.message?, Option.toList_none, List.count_nil, List.map_cons,
      List.sum_cons, Std.ExtTreeMap.getD_erase] at hm ⊢
    grind
  · simp only [Std.ExtTreeMap.getD_erase] at hm
    grind [h.filed r m]
  · rw [get_insert] at hr
    split at hr
    · rename_i heq
      rw [← heq, ← Option.some.inj hr]
      exact hnew
    · exact mem_snoc (h.known r h' hr) _
  · rcases List.mem_cons.mp hc with rfl | hc
    · intro m hm
      rw [(hmail m hm).1]
      exact hnew
    · exact fun m hm => mem_snoc (h.calling c hc m hm) _

theorem Sound.unsubscribe (h : s.Sound earlier) (recipient : String) :
    (s.step (.unsubscribe recipient)).Sound (earlier ++ [.unsubscribe recipient]) := by
  refine ⟨fun m => ?_, fun r m hm => ?_, fun r h' hr => ?_,
    fun c hc m hm => mem_snoc (h.calling c hc m hm) _, fun c hc => mem_snoc (h.handed c hc) _⟩
  · rw [published_snoc]
    exact h.conserved m
  · obtain ⟨haddressed, hnone⟩ := h.filed r m hm
    exact ⟨haddressed, fun hr => hnone (Std.ExtTreeMap.mem_of_mem_erase hr)⟩
  · exact mem_snoc (h.known r h' (get_of_erase hr)) _

theorem Sound.hand (h : s.Sound earlier) (caller : Nat) :
    (s.step (.hand caller)).Sound (earlier ++ [.hand caller]) := by
  have hknown : ∀ (r : String) h', s.bus.subscribers[r]? = some h' →
      BusEvent.subscribe r h' ∈ earlier ++ [.hand caller] :=
    fun r h' hr => mem_snoc (h.known r h' hr) _
  have hcalling : ∀ c ∈ s.callers, ∀ m ∈ c.2,
      BusEvent.subscribe m.recipient c.1 ∈ earlier ++ [.hand caller] :=
    fun c hc m hm => mem_snoc (h.calling c hc m hm) _
  simp only [step]
  split
  · rename_i handler msg rest hcaller
    obtain ⟨hlt, hget⟩ := List.getElem?_eq_some_iff.mp hcaller
    have hmem := hcalling _ (List.mem_of_getElem? hcaller)
    refine ⟨fun m => ?_, h.filed, hknown, fun c hc => ?_, fun c hc => ?_⟩
    · -- one message fewer with the callers, one more handed over
      have hm := h.conserved m
      have hsum := ((List.getElem_cons_eraseIdx_perm hlt).map fun c => c.2.count m).sum_eq
      rw [hget] at hsum
      rw [published_snoc]
      simp only [waiting, BusEvent.message?, Option.toList_none, List.count_nil, List.map_cons,
        List.sum_cons, List.count_cons] at hm hsum ⊢
      omega
    · rcases List.mem_cons.mp hc with rfl | hc
      · exact fun m hm => hmem m (List.mem_cons_of_mem _ hm)
      · exact hcalling c (List.mem_of_mem_eraseIdx hc)
    · rcases List.mem_cons.mp hc with rfl | hc
      · exact hmem msg List.mem_cons_self
      · exact mem_snoc (h.handed c hc) _
  · refine ⟨fun m => ?_, h.filed, hknown, hcalling, fun c hc => mem_snoc (h.handed c hc) _⟩
    rw [published_snoc]
    exact h.conserved m

end

/-- However publishers, subscribers and the callers of their handlers come between each other, the
bus is sound after every run from an empty one, with respect to the events of that run. -/
theorem bus_sound (events : List (BusEvent η)) : (run step empty events).Sound events := by
  refine run_history (I := Sound) ?_ (fun earlier s event h => ?_) events
  · constructor <;> simp [empty, waiting]
  · cases event with
    | publish msg => exact h.publish msg
    | subscribe recipient handler => exact h.subscribe recipient handler
    | unsubscribe recipient => exact h.unsubscribe recipient
    | hand caller => exact h.hand caller

end BusRun

end Ardents.Messaging
