import Ardents.Identity.Revocation
import Ardents.Messaging.InboundDaemon

/-!
# Accepting a message request

`AcceptMessageRequest` takes a thread out of the request inbox, adds the sender as a contact, and
saves the messages one by one. Each of these takes a lock of its own, so messages of the same
sender may be queued at any point in between, and each may fail.
-/

namespace Ardents.Inbox

open Go
open Crypto (Time)
open Messaging

/-- Why `AddContact` fails: the manager refuses the id, or its state is not persisted. -/
inductive AddContactError where
  | identity (err : Identity.IdentityError)
  | storage
  deriving DecidableEq, Repr

inductive AcceptError where
  | contactIDRequired
  | messageRequestNotFound
  | storage
  | addContact (err : AddContactError)
  /-- `errors.Join`: neither could the contact be added nor the thread be put back. -/
  | addContactAndStorage (err : AddContactError)
  deriving DecidableEq, Repr

/-! ## The calls of `AcceptMessageRequest` -/

section

variable {γ : Type}

variable (d : Daemon γ)

/-- `Inbox[senderID]`. -/
def threadOf (senderID : String) : List Message := (d.inbox[senderID]?).getD []

/-- `takeMessageRequestThread`; an empty thread is not found. -/
def takeMessageRequestThread (senderID : String) (written : Bool) :
    Except AcceptError (List Message × Daemon γ) :=
  if threadOf d senderID = [] then .ok ([], d)
  else if written then .ok (threadOf d senderID, { d with inbox := d.inbox.erase senderID })
  else .error .storage

def restoreMessageRequestThreadIfEmpty (senderID : String) (thread : List Message)
    (written : Bool) : Except AcceptError (Daemon γ) :=
  if threadOf d senderID ≠ [] then .ok d
  else if written then .ok { d with inbox := d.inbox.insert senderID thread }
  else .error .storage

/-- `AddContact` of the identity service. The contact is in memory also where it cannot be
persisted. -/
def addContact (contactID displayName : String) (now : Time) (written : Bool) :
    Option AddContactError × Daemon γ :=
  match d.identity.addContactByIdentityID contactID displayName now with
  | .error e => (some (.identity e), d)
  | .ok identity => (if written then none else some .storage, { d with identity := identity })

/-! ## Step by step -/

/-- What `AcceptMessageRequest` does next. -/
inductive Phase where
  | takeThread
  | hasContact
  | addContact (thread : List Message)
  | restoreThreadIfEmpty (thread : List Message) (err : AddContactError)
  /-- `moved` messages were in the thread, and `rest` are still to be saved. -/
  | saveMessages (moved : Nat) (rest : List Message)
  | returned (result : Except AcceptError Bool)
  deriving DecidableEq

def Phase.inHand : Phase → List Message
  | .addContact thread => thread
  | .restoreThreadIfEmpty thread _ => thread
  | .saveMessages _ rest => rest
  | _ => []

structure Acceptance (γ : Type) where
  senderID : String
  daemon : Daemon γ
  phase : Phase
  owed : List Message

def acceptMessageRequest (senderID : String) : Acceptance γ :=
  let senderID := trimSpace senderID
  { senderID := senderID, daemon := d, owed := threadOf d senderID
    phase := if senderID = "" then .returned (.error .contactIDRequired) else .takeThread }

def saveStep (senderID : String) (moved : Nat) (msg : Message) (rest : List Message)
    (written : Bool) : Daemon γ × Phase :=
  match d.store.saveMessage msg written with
  | .ok store =>
    (({ d with store := store }).notify (.messageNew senderID msg), .saveMessages moved rest)
  | .error .messageIDConflict => (d, .saveMessages moved rest)
  | .error .storage => (d.recordError .storage, .returned (.error .storage))

/-- The next call of `AcceptMessageRequest`. -/
def acceptStep (senderID : String) (now : Time) (written : Bool) : Phase → Daemon γ × Phase
  | .takeThread =>
    match takeMessageRequestThread d senderID written with
    | .error e => (d.recordError .storage, .returned (.error e))
    | .ok ([], d) => (d, .hasContact)
    | .ok (thread, d) => (d, .addContact thread)
  | .hasContact =>
    (d, .returned (if d.identity.hasContact senderID then .ok true
      else .error .messageRequestNotFound))
  | .addContact thread =>
    match addContact d senderID senderID now written with
    | (some err, d) => (d, .restoreThreadIfEmpty thread err)
    | (none, d) => (d, .saveMessages thread.length thread)
  | .restoreThreadIfEmpty thread err =>
    match restoreMessageRequestThreadIfEmpty d senderID thread written with
    | .error _ => (d.recordError .storage, .returned (.error (.addContactAndStorage err)))
    | .ok d => (d, .returned (.error (.addContact err)))
  | .saveMessages moved [] => (d.notify (.requestAccepted senderID moved), .returned (.ok true))
  | .saveMessages moved (msg :: rest) => saveStep d senderID moved msg rest written
  | .returned result => (d, .returned result)

/-- What happens next: a call of the acceptance, or a message that is queued. -/
inductive Event where
  | accept (now : Time) (written : Bool)
  | persistInboundRequest (msg : Message) (written : Bool)

namespace Acceptance

def step (a : Acceptance γ) : Event → Acceptance γ
  | .accept now written =>
    let (d, phase) := acceptStep a.daemon a.senderID now written a.phase
    { a with daemon := d, phase := phase }
  | .persistInboundRequest msg written =>
    let (queued, d) := a.daemon.persistInboundRequest msg written
    { a with
      daemon := d
      owed := if queued ∧ msg.contactID = a.senderID then a.owed ++ [msg] else a.owed }

variable {a : Acceptance γ} {written : Bool}

theorem step_accept {now : Time} {d : Daemon γ} {phase : Phase}
    (h : acceptStep a.daemon a.senderID now written a.phase = (d, phase)) :
    a.step (.accept now written) = { a with daemon := d, phase := phase } := by
  simp only [step, h]

theorem step_queue {msg : Message} {queued : Bool} {d : Daemon γ}
    (h : a.daemon.persistInboundRequest msg written = (queued, d)) :
    a.step (.persistInboundRequest msg written) = { a with
      daemon := d
      owed := if queued ∧ msg.contactID = a.senderID then a.owed ++ [msg] else a.owed } := by
  simp only [step, h]

def Stored (a : Acceptance γ) (msg : Message) : Prop := a.daemon.store.messages[msg.id]? ≠ none

/-- Every message is in the store, or its id is taken there, or it is in the inbox. -/
def Conserved (a : Acceptance γ) : Prop :=
  ∀ msg ∈ a.owed, a.Stored msg ∨ msg ∈ threadOf a.daemon a.senderID

/-- Putting the thread back meets an empty inbox and is written; saving a message is written, or
its id is in the store already. -/
def SafeCall (a : Acceptance γ) (written : Bool) : Phase → Prop
  | .restoreThreadIfEmpty _ _ => threadOf a.daemon a.senderID = [] ∧ written = true
  | .saveMessages _ (msg :: _) => written = true ∨ a.Stored msg
  | _ => True

def Safe (a : Acceptance γ) : Event → Prop
  | .accept _ written => a.SafeCall written a.phase
  | .persistInboundRequest _ _ => True

instance (a : Acceptance γ) (msg : Message) : Decidable (a.Stored msg) :=
  inferInstanceAs (Decidable (_ ≠ none))

instance (a : Acceptance γ) : Decidable a.Conserved :=
  inferInstanceAs (Decidable (∀ msg ∈ a.owed, a.Stored msg ∨ msg ∈ threadOf a.daemon a.senderID))

instance (a : Acceptance γ) (written : Bool) : ∀ phase, Decidable (a.SafeCall written phase)
  | .restoreThreadIfEmpty _ _ =>
    inferInstanceAs (Decidable (threadOf a.daemon a.senderID = [] ∧ written = true))
  | .saveMessages _ (msg :: _) => inferInstanceAs (Decidable (written = true ∨ a.Stored msg))
  | .saveMessages _ [] => isTrue trivial
  | .takeThread => isTrue trivial
  | .hasContact => isTrue trivial
  | .addContact _ => isTrue trivial
  | .returned _ => isTrue trivial

instance (a : Acceptance γ) : ∀ e, Decidable (a.Safe e)
  | .accept _ written => inferInstanceAs (Decidable (a.SafeCall written a.phase))
  | .persistInboundRequest _ _ => isTrue trivial

/-! ## Nothing is lost -/

def Located (a : Acceptance γ) : Prop :=
  ∀ msg ∈ a.owed, a.Stored msg ∨ msg ∈ threadOf a.daemon a.senderID ∨ msg ∈ a.phase.inHand

theorem located_acceptMessageRequest (d : Daemon γ) (senderID : String) :
    (acceptMessageRequest d senderID).Located :=
  fun _ hmsg => .inr (.inl hmsg)

theorem Located.of_frame {a' : Acceptance γ} (h : a.Located) (howed : a'.owed = a.owed)
    (hsender : a'.senderID = a.senderID) (hstore : a'.daemon.store = a.daemon.store)
    (hinbox : a'.daemon.inbox = a.daemon.inbox)
    (hhand : ∀ msg ∈ a.phase.inHand, msg ∈ a'.phase.inHand) : a'.Located := by
  intro msg hmsg
  rw [howed] at hmsg
  rcases h msg hmsg with hstored | hthread | hheld
  · grind [Stored]
  · grind [threadOf]
  · exact .inr (.inr (hhand msg hheld))

theorem persistInboundRequest_cases (d : Daemon γ) (msg : Message) (written : Bool) :
    (∃ d', d.persistInboundRequest msg written = (true, d') ∧ d'.store = d.store ∧
        d'.inbox = d.inbox.insert msg.contactID (threadOf d msg.contactID ++ [msg])) ∨
      ∃ d', d.persistInboundRequest msg written = (false, d') ∧ d'.store = d.store ∧
        d'.inbox = d.inbox := by
  unfold Daemon.persistInboundRequest
  dsimp only
  split
  · exact .inr ⟨_, rfl, rfl, rfl⟩
  · split
    · exact .inl ⟨_, rfl, rfl, rfl⟩
    · exact .inr ⟨_, rfl, rfl, rfl⟩

theorem threadOf_queued {d d' : Daemon γ} {msg : Message}
    (h : d'.inbox = d.inbox.insert msg.contactID (threadOf d msg.contactID ++ [msg]))
    (senderID : String) : threadOf d' senderID =
      if msg.contactID = senderID then threadOf d senderID ++ [msg] else threadOf d senderID := by
  unfold threadOf
  rw [h, get_insert]
  split
  · rename_i hsender
    rw [hsender]
    rfl
  · rfl

theorem located_queue (h : a.Located) (msg : Message) (written : Bool) :
    (a.step (.persistInboundRequest msg written)).Located := by
  rcases persistInboundRequest_cases a.daemon msg written with
    ⟨d', hqueue, hstore, hinbox⟩ | ⟨d', hqueue, hstore, hinbox⟩
  · have hthread := threadOf_queued hinbox a.senderID
    have hold : ∀ m ∈ a.owed, a.Stored m ∨ m ∈ threadOf d' a.senderID ∨ m ∈ a.phase.inHand := by
      intro m hm
      refine (h m hm).imp_right (Or.imp_left fun hmem => ?_)
      grind
    rw [step_queue hqueue]
    intro m hm
    grind [Stored]
  · rw [step_queue hqueue]
    exact h.of_frame (by simp) rfl hstore hinbox fun m hm => hm

theorem located_quiet {now : Time} {phase : Phase} (h : a.Located) (hhand : a.phase.inHand = [])
    (hstep : acceptStep a.daemon a.senderID now written a.phase = (a.daemon, phase)) :
    (a.step (.accept now written)).Located := by
  rw [step_accept hstep]
  exact h.of_frame rfl rfl rfl rfl fun m hm => absurd (hhand ▸ hm) List.not_mem_nil

theorem located_takeThread (h : a.Located) (hphase : a.phase = .takeThread)
    (now : Time) (written : Bool) : (a.step (.accept now written)).Located := by
  have hhand : ∀ m, m ∉ a.phase.inHand := by simp [hphase, Phase.inHand]
  by_cases hempty : threadOf a.daemon a.senderID = []
  · have hstep : acceptStep a.daemon a.senderID now written a.phase = (a.daemon, .hasContact) := by
      simp [hphase, acceptStep, takeMessageRequestThread, hempty]
    exact located_quiet h (by rw [hphase]; rfl) hstep
  · cases written with
    | false =>
      have hstep : acceptStep a.daemon a.senderID now false a.phase =
          (a.daemon.recordError .storage, .returned (.error .storage)) := by
        simp [hphase, acceptStep, takeMessageRequestThread, hempty]
      rw [step_accept hstep]
      exact h.of_frame rfl rfl rfl rfl fun m hm => absurd hm (hhand m)
    | true =>
      have hstep : acceptStep a.daemon a.senderID now true a.phase =
          ({ a.daemon with inbox := a.daemon.inbox.erase a.senderID },
            .addContact (threadOf a.daemon a.senderID)) := by
        grind [acceptStep, takeMessageRequestThread]
      rw [step_accept hstep]
      intro m hm
      rcases h m hm with hstored | hthread | hheld
      · exact .inl hstored
      · exact .inr (.inr hthread)
      · exact absurd hheld (hhand m)

theorem addContact_frame (d : Daemon γ) (contactID displayName : String) (now : Time)
    (written : Bool) : (addContact d contactID displayName now written).2.store = d.store ∧
      (addContact d contactID displayName now written).2.inbox = d.inbox := by
  unfold addContact
  grind

theorem located_addContact {thread : List Message} (h : a.Located)
    (hphase : a.phase = .addContact thread) (now : Time) (written : Bool) :
    (a.step (.accept now written)).Located := by
  obtain ⟨hstore, hinbox⟩ := addContact_frame a.daemon a.senderID a.senderID now written
  have hhand : a.phase.inHand = thread := by rw [hphase]; rfl
  rcases hadd : addContact a.daemon a.senderID a.senderID now written with ⟨err, d'⟩
  rw [hadd] at hstore hinbox
  cases err with
  | none =>
    have hstep : acceptStep a.daemon a.senderID now written a.phase =
        (d', .saveMessages thread.length thread) := by
      simp only [hphase, acceptStep, hadd]
    rw [step_accept hstep]
    exact h.of_frame rfl rfl hstore hinbox fun m hm => hhand ▸ hm
  | some err =>
    have hstep : acceptStep a.daemon a.senderID now written a.phase =
        (d', .restoreThreadIfEmpty thread err) := by
      simp only [hphase, acceptStep, hadd]
    rw [step_accept hstep]
    exact h.of_frame rfl rfl hstore hinbox fun m hm => hhand ▸ hm

theorem located_restore {thread : List Message} {err : AddContactError}
    (h : a.Located) (hphase : a.phase = .restoreThreadIfEmpty thread err)
    (hempty : threadOf a.daemon a.senderID = []) (now : Time) :
    (a.step (.accept now true)).Located := by
  have hstep : acceptStep a.daemon a.senderID now true a.phase =
      ({ a.daemon with inbox := a.daemon.inbox.insert a.senderID thread },
        .returned (.error (.addContact err))) := by
    simp [hphase, acceptStep, restoreMessageRequestThreadIfEmpty, hempty]
  rw [step_accept hstep]
  intro m hm
  rcases h m hm with hstored | hthread | hheld
  · exact .inl hstored
  · simp_all
  · right; left
    rw [hphase] at hheld
    simpa [threadOf, Phase.inHand] using hheld

theorem saveStep_stored {d : Daemon γ} {msg : Message} (senderID : String) (moved : Nat)
    (rest : List Message) (h : written = true ∨ d.store.messages[msg.id]? ≠ none) :
    ∃ d', saveStep d senderID moved msg rest written = (d', .saveMessages moved rest) ∧
      d'.inbox = d.inbox ∧ d'.store.messages[msg.id]? ≠ none ∧
      ∀ id : String, d.store.messages[id]? ≠ none → d'.store.messages[id]? ≠ none := by
  unfold saveStep
  rcases d.store.saveMessage_cases msg written with ⟨existing, hget, hsave⟩ | ⟨hnone, hsave⟩
  · have hsome : d.store.messages[msg.id]? ≠ none := by simp [hget]
    rw [hsave]
    by_cases hequal : messagesEqual existing msg = true
    · rw [if_pos hequal]
      exact ⟨_, rfl, rfl, hsome, fun _ hid => hid⟩
    · rw [if_neg hequal]
      exact ⟨_, rfl, rfl, hsome, fun _ hid => hid⟩
  · have hwritten : written = true := h.resolve_right (not_not.mpr hnone)
    rw [hsave, hwritten]
    refine ⟨_, rfl, rfl, ?_, fun id hid => ?_⟩
    · simp [Daemon.notify]
    · grind [Daemon.notify]

theorem located_saveMessage {moved : Nat} {msg : Message} {rest : List Message}
    (h : a.Located) (hphase : a.phase = .saveMessages moved (msg :: rest))
    (hsafe : written = true ∨ a.Stored msg) (now : Time) :
    (a.step (.accept now written)).Located := by
  obtain ⟨d', hsave, hinbox, hstored, hmono⟩ :=
    saveStep_stored a.senderID moved rest hsafe
  have hstep : acceptStep a.daemon a.senderID now written a.phase =
      (d', .saveMessages moved rest) := by
    rw [hphase]
    exact hsave
  rw [step_accept hstep]
  intro m hm
  rcases h m hm with hold | hthread | hheld
  · exact .inl (hmono m.id hold)
  · right; left
    unfold threadOf at hthread ⊢
    rwa [hinbox]
  · rw [hphase] at hheld
    rcases List.mem_cons.mp hheld with rfl | hheld
    · exact .inl hstored
    · exact .inr (.inr hheld)

theorem located_step {e : Event} (h : a.Located) (hsafe : a.Safe e) : (a.step e).Located := by
  cases e with
  | persistInboundRequest msg written => exact located_queue h msg written
  | accept now written =>
    have hsafe : a.SafeCall written a.phase := hsafe
    cases hphase : a.phase with
    | takeThread => exact located_takeThread h hphase now written
    | hasContact | returned =>
      exact located_quiet h (by rw [hphase]; rfl) (by rw [hphase]; rfl)
    | addContact thread => exact located_addContact h hphase now written
    | restoreThreadIfEmpty thread err =>
      rw [hphase] at hsafe
      obtain ⟨hempty, rfl⟩ := hsafe
      exact located_restore h hphase hempty now
    | saveMessages moved rest =>
      cases rest with
      | nil =>
        have hstep : acceptStep a.daemon a.senderID now written a.phase =
            (a.daemon.notify (.requestAccepted a.senderID moved), .returned (.ok true)) := by
          rw [hphase]
          rfl
        rw [step_accept hstep]
        refine h.of_frame rfl rfl rfl rfl fun m hm => ?_
        rw [hphase] at hm
        exact absurd hm List.not_mem_nil
      | cons msg rest =>
        rw [hphase] at hsafe
        exact located_saveMessage h hphase hsafe now

theorem located_run {events : List Event} (h : a.Located)
    (hsafe : Along step Safe a events) : (run step a events).Located :=
  along_run (fun _ _ hs he => located_step hs he) h hsafe

/-- **Accepting a request loses nothing.** If every thread that is put back meets an empty inbox and
is written, and every message is saved or has its id in the store, then once the acceptance has
returned each message of the thread, and each one queued since, is in the store or in the inbox. -/
theorem acceptMessageRequest_conserves (d : Daemon γ) (senderID : String) {events : List Event}
    {result : Except AcceptError Bool}
    (hsafe : Along step Safe (acceptMessageRequest d senderID) events)
    (hreturned : (run step (acceptMessageRequest d senderID) events).phase = .returned result) :
    (run step (acceptMessageRequest d senderID) events).Conserved := by
  intro msg hmsg
  rcases located_run (located_acceptMessageRequest d senderID) hsafe msg hmsg with
    hstored | hthread | hheld
  · exact .inl hstored
  · exact .inr hthread
  · grind [Phase.inHand]

/-! ## Alice's request -/

def waiting (id : String) : Message :=
  { id := id, contactID := Identity.aliceID, conversationID := Identity.aliceID
    conversationType := .direct, threadID := "", content := bytesOf "hi", timestamp := 1
    direction := .inbound, status := .delivered, contentType := .text, edited := false }

def requestedDaemon : Daemon Unit :=
  { identity := Identity.strangers, store := .empty, privacyMode := .requests, blocklist := ∅
    inbox := (∅ : GoMap String (List Message)).insert Identity.aliceID [waiting "m1", waiting "m2"]
    notified := [], errors := [], rest := () }

def aliceAccepted (events : List Event) : Acceptance Unit :=
  run step (acceptMessageRequest requestedDaemon Identity.aliceID) events

/-- Every call succeeds, and a third message is queued once the thread is taken. -/
def smooth : List Event :=
  [.accept 5 true, .persistInboundRequest (waiting "m3") true, .accept 5 true, .accept 5 true,
    .accept 5 true, .accept 5 true]

theorem smooth_conserves :
    (aliceAccepted smooth).phase = .returned (.ok true) ∧ (aliceAccepted smooth).Conserved := by
  have hreturned : (aliceAccepted smooth).phase = .returned (.ok true) := by decide
  exact ⟨hreturned, acceptMessageRequest_conserves requestedDaemon Identity.aliceID
    (by decide) hreturned⟩

def diskFull : List Event := [.accept 5 true, .accept 5 true, .accept 5 false]

/-- The contact is not persisted, and a third message is queued before the thread is back. -/
def overtaken : List Event :=
  [.accept 5 true, .accept 5 false, .persistInboundRequest (waiting "m3") true, .accept 5 true]

/-- Both messages of the request are gone, from the inbox and from the store. -/
theorem request_lost : ((aliceAccepted diskFull).phase = .returned (.error .storage) ∧
      ¬ (aliceAccepted diskFull).Conserved) ∧
    ((aliceAccepted overtaken).phase = .returned (.error (.addContact .storage)) ∧
      ¬ (aliceAccepted overtaken).Conserved) := by
  decide

end Acceptance

end

end Ardents.Inbox
