import Ardents.Messaging.Receipts
import Ardents.Messaging.Trust

/-!
# Unknown senders in everyone mode

In everyone mode the first direct message of an unknown sender is let in without a card:
`ShouldAutoAddUnknownSenderContact` has the sender added as a contact by id, without a key. The
policy then calls the sender a trusted contact, and the trust check asks for the card that
everyone mode did not need.
-/

namespace Ardents.Messaging

open Go
open Calls (exec exec_bind exec_perform)
open Identity (Contact Manager)

variable {γ : Type} {S : Surroundings γ} {d : Daemon γ} {msg : InboundPrivateMessage}
  {wire : WirePayload} {sender : String}

structure CardlessDirect (sender : String) (S : Surroundings γ) (msg : InboundPrivateMessage)
    (wire : WirePayload) : Prop where
  sent : msg.senderID = sender
  decoded : S.json.unmarshal msg.payload = some wire
  valid : validateWirePayload wire = .ok ()
  isPlain : wire.kind = .plain
  isDirect : trimSpace wire.conversationType ≠ "group"
  cardless : wire.card = none

def Stores (S : Surroundings γ) (d : Daemon γ) (msg : InboundPrivateMessage) : Prop :=
  d.store.messages[msg.id]? = none ∧
    ∃ stored, (d.handleIncomingPrivateMessage S msg).store.messages[msg.id]? = some stored ∧
      stored.contactID = msg.senderID

structure KnownWithoutKey (sender : String) (d : Daemon γ) : Prop where
  known : d.identity.hasContact sender = true
  unverified : d.identity.hasVerifiedContact sender = false
  unblocked : d.isBlockedSender sender = false

/-! ## Every later message -/

theorem validateInboundContactTrust_cardless {m : Manager} {P : Identity.Primitives}
    {now : Crypto.Time} (hunverified : m.hasVerifiedContact sender = false)
    (hcard : wire.card = none) : validateInboundContactTrust P m sender wire now =
      (some ⟨"unverified_sender_missing_card",
        "unverified sender did not provide contact card"⟩, m) := by
  unfold validateInboundContactTrust
  rw [hunverified, hcard]
  rfl

def Daemon.turnAway (d : Daemon γ) (sender : String) : Daemon γ :=
  (d.recordError .crypto).notify (.securityAlert "unverified_sender_missing_card" sender
    "unverified sender did not provide contact card")

theorem CardlessDirect.admitSender_known (h : CardlessDirect sender S msg wire)
    (hknown : KnownWithoutKey sender d) :
    exec (Daemon.answer S) (admitSender msg ⟨.accept, .trustedContact, none⟩ wire) d =
      (some false, d.turnAway sender) := by
  obtain rfl := h.sent
  have hadd : exec (Daemon.answer S)
      (shouldAutoAddUnknownSender ⟨.accept, .trustedContact, none⟩ msg.senderID wire) d =
        (some false, d) := by
    have hasked : exec (Daemon.answer S) (ask (.hasVerifiedContact msg.senderID)) d =
        (some false, d) := exec_perform (by simp only [Daemon.answer, hknown.unverified])
    refine (exec_bind hasked).trans ?_
    have htest : shouldAutoAddUnknownSenderContact .trustedContact wire.conversationType false
        wire.card.isSome = false := by
      simp [shouldAutoAddUnknownSenderContact, unknownSenderWithoutCard]
    rw [htest]
    rfl
  have htrust : exec (Daemon.answer S)
      (ask (.validateInboundContactTrust msg.senderID wire)) d =
        (some (some ⟨"unverified_sender_missing_card",
          "unverified sender did not provide contact card"⟩), d) := by
    refine exec_perform ?_
    simp only [Daemon.answer, validateInboundContactTrust_cardless hknown.unverified h.cardless]
  exact (exec_bind hadd).trans (exec_bind htrust)

theorem CardlessDirect.handle_known (h : CardlessDirect sender S msg wire)
    (hknown : KnownWithoutKey sender d) :
    d.handleIncomingPrivateMessage S msg = d.turnAway sender := by
  obtain rfl := h.sent
  have hpolicy : exec (Daemon.answer S) (ask (.evaluateInboundPolicy msg.senderID)) d =
      (some ⟨.accept, .trustedContact, none⟩, d) := by
    refine exec_perform ?_
    simp only [Daemon.answer, Daemon.evaluateInboundPolicy, evaluateInboundMessagePolicy,
      hknown.unblocked, hknown.known]
    rfl
  have hwire : exec (Daemon.answer S) (processInboundWire S.json msg
      ⟨.accept, .trustedContact, none⟩) d = (some none, d.turnAway msg.senderID) := by
    unfold processInboundWire
    rw [decodeInboundWire_valid h.decoded h.valid]
    exact exec_bind (h.admitSender_known hknown)
  unfold Daemon.handleIncomingPrivateMessage handleIncomingPrivateMessage
  rw [exec_bind hpolicy]
  exact congrArg Prod.snd (exec_bind hwire)

theorem KnownWithoutKey.turnAway (h : KnownWithoutKey sender d) :
    KnownWithoutKey sender (d.turnAway sender) :=
  ⟨h.known, h.unverified, h.unblocked⟩

/-! ## The first message -/

theorem exec_recordErr (category : ErrorCategory) (err : Option String) :
    exec (Daemon.answer S) (recordErr category err) d =
      (some (), if err.isSome then d.recordError category else d) := by
  cases err with
  | none => rfl
  | some text => exact exec_perform rfl

def contactByID (sender : String) (now : Crypto.Time) : Contact :=
  { id := sender, displayName := sender, publicKey := [], addedAt := now, lastSeen := 0 }

theorem addContactByIdentityID_unknown {m : Manager} {now : Crypto.Time}
    (hid : normalizeIdentityID sender = some sender) (hunknown : m.hasContact sender = false) :
    m.addContactByIdentityID sender sender now = .ok (m.putContact (contactByID sender now)) := by
  unfold normalizeIdentityID at hid
  dsimp only at hid
  split at hid
  · exact absurd hid (by simp)
  · rename_i hform
    have htrim : trimSpace sender = sender := Option.some.inj hid
    rw [htrim] at hform
    have hget : m.contacts[sender]? = none := Manager.hasContact_eq_false.mp hunknown
    unfold Manager.addContactByIdentityID Manager.contactPublicKey
    simp only [htrim, if_neg hform, hget]
    simp [contactByID]

structure UnknownSender (sender : String) (d : Daemon γ) : Prop where
  everyone : normalizePrivacyMode d.privacyMode = .everyone
  unblocked : d.isBlockedSender sender = false
  unknown : d.identity.hasContact sender = false
  wellFormed : normalizeIdentityID sender = some sender

namespace UnknownSender

theorem unverified (h : UnknownSender sender d) : d.identity.hasVerifiedContact sender = false := by
  unfold Manager.hasVerifiedContact
  rw [Manager.hasContact_eq_false.mp h.unknown]

theorem evaluateInboundPolicy (h : UnknownSender sender d) :
    d.evaluateInboundPolicy sender = ⟨.accept, .unknownEveryoneMode, none⟩ := by
  simp [Daemon.evaluateInboundPolicy, evaluateInboundMessagePolicy, h.unblocked, h.unknown,
    h.everyone]

end UnknownSender

def Daemon.withContact (d : Daemon γ) (sender : String) (now : Crypto.Time) : Daemon γ :=
  { d with identity := d.identity.putContact (contactByID sender now) }

theorem CardlessDirect.unknownSender (h : CardlessDirect sender S msg wire)
    (hunverified : d.identity.hasVerifiedContact sender = false) : exec (Daemon.answer S) (do
      let verified ← ask (.hasVerifiedContact msg.senderID)
      return unknownSenderWithoutCard .unknownEveryoneMode wire.conversationType verified
        wire.card.isSome) d = (some true, d) := by
  obtain rfl := h.sent
  have hasked : exec (Daemon.answer S) (ask (.hasVerifiedContact msg.senderID)) d =
      (some false, d) := exec_perform (by simp only [Daemon.answer, hunverified])
  have htest : unknownSenderWithoutCard .unknownEveryoneMode wire.conversationType false
      wire.card.isSome = true := by
    simp [unknownSenderWithoutCard, h.isDirect, h.cardless]
  rw [exec_bind hasked, htest]
  rfl

theorem knownWithoutKey_withContact (hunblocked : d.isBlockedSender sender = false)
    (now : Crypto.Time) : KnownWithoutKey sender (d.withContact sender now) where
  known := by
    simp [Daemon.withContact, Manager.hasContact, Manager.putContact, contactByID]
  unverified := by
    simp [Daemon.withContact, Manager.hasVerifiedContact, Manager.putContact, contactByID,
      Identity.publicKeySize]
  unblocked := hunblocked

theorem CardlessDirect.admitSender_unknown (h : CardlessDirect sender S msg wire)
    (hunknown : UnknownSender sender d) :
    exec (Daemon.answer S) (admitSender msg ⟨.accept, .unknownEveryoneMode, none⟩ wire) d =
      (some true, d.withContact sender S.now) := by
  have hadd := h.unknownSender hunknown.unverified
  obtain rfl := h.sent
  have hcontact : exec (Daemon.answer S)
      (ask (.addContactByIdentityID msg.senderID msg.senderID)) d =
        (some none, d.withContact msg.senderID S.now) := by
    refine exec_perform ?_
    simp only [Daemon.answer, Daemon.identityCall,
      addContactByIdentityID_unknown hunknown.wellFormed hunknown.unknown]
    rfl
  exact (exec_bind hadd).trans (exec_bind hcontact)

theorem CardlessDirect.route_direct (h : CardlessDirect sender S msg wire) :
    route wire = .direct := by
  have hgroup : wire.conversationType ≠ "group" := by
    intro hgroup
    exact h.isDirect (by rw [hgroup]; decide)
  unfold route resolveInboundReceiptHandling
  rw [h.isPlain]
  simp [hgroup]

theorem CardlessDirect.processInboundWire_unknown (h : CardlessDirect sender S msg wire)
    (hunknown : UnknownSender sender d) :
    ∃ content d', exec (Daemon.answer S) (processInboundWire S.json msg
        ⟨.accept, .unknownEveryoneMode, none⟩) d = (some (some content), d') ∧
      d'.identity = (d.withContact sender S.now).identity ∧ d'.blocklist = d.blocklist := by
  let d₁ := d.withContact sender S.now
  have hknown : KnownWithoutKey sender d₁ := knownWithoutKey_withContact hunknown.unblocked S.now
  have hdevice : exec (Daemon.answer S)
      (authenticateDevice msg ⟨.accept, .unknownEveryoneMode, none⟩ wire) d₁ = (some true, d₁) :=
    exec_bind (h.unknownSender hknown.unverified)
  rcases hresolve : S.resolve d₁.rest msg wire with ⟨⟨⟨content, contentType⟩, err⟩, rest⟩
  have hcontent : exec (Daemon.answer S) (ask (.resolveInboundContent msg wire)) d₁ =
      (some ((content, contentType), err), { d₁ with rest := rest }) :=
    exec_perform (by simp only [Daemon.answer, hresolve])
  refine ⟨(wire, content, contentType), if err.isSome then
    ({ d₁ with rest := rest }).recordError .crypto else { d₁ with rest := rest }, ?_, ?_, ?_⟩
  · unfold processInboundWire
    rw [decodeInboundWire_valid h.decoded h.valid]
    refine (exec_bind (h.admitSender_unknown hunknown)).trans ?_
    rw [if_pos rfl, h.route_direct]
    refine (exec_bind hdevice).trans ?_
    rw [if_pos rfl, h.route_direct]
    exact (exec_bind hcontent).trans (exec_bind (exec_recordErr .crypto err))
  · split
    · rfl
    · rfl
  · split
    · rfl
    · rfl

theorem persistInboundAndSendReceipt_leavesSenders (content : Content) :
    Calls.Only (fun op => op.changesIdentity = false) (persistInboundAndSendReceipt msg content
      fun stored => ask (.persistInboundMessage stored msg.senderID)) := by
  refine ⟨rfl, fun now => ⟨rfl, fun saved => ?_⟩⟩
  cases saved with
  | false => exact trivial
  | true =>
    refine ⟨rfl, fun verified => ?_⟩
    cases verified with
    | false => exact trivial
    | true =>
      refine ⟨rfl, fun err => ?_⟩
      cases err with
      | none => exact trivial
      | some text => exact ⟨rfl, fun _ => trivial⟩

theorem KnownWithoutKey.of_eq {d' : Daemon γ} (h : KnownWithoutKey sender d)
    (hid : d'.identity = d.identity) (hblock : d'.blocklist = d.blocklist) :
    KnownWithoutKey sender d' where
  known := hid ▸ h.known
  unverified := hid ▸ h.unverified
  unblocked := (congrArg (blocklistContains · sender) hblock).trans h.unblocked

theorem CardlessDirect.handle_unknown (h : CardlessDirect sender S msg wire)
    (hunknown : UnknownSender sender d) :
    KnownWithoutKey sender (d.handleIncomingPrivateMessage S msg) := by
  obtain ⟨content, d', hwire, hidentity, hblocklist⟩ := h.processInboundWire_unknown hunknown
  have hknown : KnownWithoutKey sender d' :=
    (knownWithoutKey_withContact hunknown.unblocked S.now).of_eq hidentity hblocklist
  obtain rfl := h.sent
  have hpolicy : exec (Daemon.answer S) (ask (.evaluateInboundPolicy msg.senderID)) d =
      (some ⟨.accept, .unknownEveryoneMode, none⟩, d) :=
    exec_perform (by simp only [Daemon.answer, hunknown.evaluateInboundPolicy])
  unfold Daemon.handleIncomingPrivateMessage handleIncomingPrivateMessage
  rw [exec_bind hpolicy]
  rw [exec_bind hwire]
  refine Calls.exec_keeps (fun op hop d hd => ?_)
    (persistInboundAndSendReceipt_leavesSenders content) hknown
  exact hd.of_eq (Daemon.answer_frame S hop d).1 (Daemon.answer_frame S hop d).2

/-! ## A sender's messages -/

abbrev Arrival (γ : Type) : Type := Surroundings γ × InboundPrivateMessage

def Arrival.handle (d : Daemon γ) (a : Arrival γ) : Daemon γ :=
  d.handleIncomingPrivateMessage a.1 a.2

def Arrival.IsCardless (sender : String) (a : Arrival γ) : Prop :=
  ∃ wire, CardlessDirect sender a.1 a.2 wire

theorem knownWithoutKey_run {arrivals : List (Arrival γ)} (hknown : KnownWithoutKey sender d)
    (h : ∀ a ∈ arrivals, a.IsCardless sender) :
    KnownWithoutKey sender (run Arrival.handle d arrivals) := by
  refine along_run (C := fun _ a => a.IsCardless sender) (fun d a hd ha => ?_) hknown
    (along_of_forall (fun _ => h) d)
  obtain ⟨wire, hwire⟩ := ha
  unfold Arrival.handle
  rw [hwire.handle_known hd]
  exact hd.turnAway

theorem CardlessDirect.not_stores_known (h : CardlessDirect sender S msg wire)
    (hknown : KnownWithoutKey sender d) : ¬ Stores S d msg := by
  rintro ⟨hnew, stored, hstored, -⟩
  rw [h.handle_known hknown] at hstored
  exact absurd (hnew.symm.trans hstored) (by simp)

theorem not_stores_later {first a : Arrival γ} {pre : List (Arrival γ)}
    (hunknown : UnknownSender sender d) (hfirst : first.IsCardless sender)
    (hpre : ∀ b ∈ pre, b.IsCardless sender) (ha : a.IsCardless sender) :
    ¬ Stores a.1 (run Arrival.handle d (first :: pre)) a.2 := by
  obtain ⟨wire₁, hfirst⟩ := hfirst
  obtain ⟨wire₂, ha⟩ := ha
  have hknown : KnownWithoutKey sender (first.handle d) := hfirst.handle_unknown hunknown
  rw [run_cons]
  exact ha.not_stores_known (knownWithoutKey_run hknown hpre)

/--
**Everyone mode takes one message.** An unknown sender with a well-formed id, not blocked,
sends direct messages without a card, and the first one is stored. The messages after it are all
stored too just when there are none.
-/
theorem everyone_mode_stores_iff {first : Arrival γ} {later : List (Arrival γ)}
    (hunknown : UnknownSender sender d) (h : ∀ a ∈ first :: later, a.IsCardless sender)
    (_hfirst : Stores first.1 d first.2) :
    (∀ pre a post, later = pre ++ a :: post →
        Stores a.1 (run Arrival.handle d (first :: pre)) a.2) ↔ later = [] := by
  constructor
  · intro hall
    by_contra hlater
    obtain ⟨a, post, rfl⟩ := List.exists_cons_of_ne_nil hlater
    have ha : a.IsCardless sender := h a (List.mem_cons_of_mem _ List.mem_cons_self)
    exact not_stores_later hunknown (h first List.mem_cons_self) (by simp) ha (hall [] a post rfl)
  · rintro rfl pre a post hsplit
    exact absurd hsplit (by simp)

/-! ## Alice writes to Bob, unknown -/

section

def openDaemon : Daemon Unit :=
  { identity := { bobsIdentity with contacts := ∅ }, store := ⟨∅, ∅⟩, privacyMode := .everyone
    blocklist := ∅, inbox := ∅, notified := [], errors := [], rest := () }

def greetingArrives : Surroundings Unit :=
  { receiptArrives "" with
    json := ⟨fun _ => .error "", fun _ => some greetingWire, silentJSON.marshalAuth_inj⟩ }

def greeting (id : String) : Arrival Unit :=
  (greetingArrives, { id := id, senderID := Identity.aliceID, recipient := "bob", payload := [1] })

theorem greeting_isCardless (id : String) : (greeting id).IsCardless Identity.aliceID :=
  ⟨greetingWire,
    { sent := rfl, decoded := rfl, valid := by decide, isPlain := rfl
      isDirect := by decide, cardless := rfl }⟩

theorem openDaemon_unknownSender : UnknownSender Identity.aliceID openDaemon where
  everyone := rfl
  unblocked := by decide
  unknown := by decide
  wellFormed := by decide

theorem first_greeting_stores : Stores (greeting "m1").1 openDaemon (greeting "m1").2 := by
  refine ⟨by decide, buildInboundStoredMessage (greeting "m1").2 "" (bytesOf "hi") .text 7,
    ?_, rfl⟩
  decide

theorem single_greeting_stored : Stores (greeting "m1").1 openDaemon (greeting "m1").2 ∧
      ∀ pre a post, ([] : List (Arrival Unit)) = pre ++ a :: post →
        Stores a.1 (run Arrival.handle openDaemon (greeting "m1" :: pre)) a.2 := by
  refine ⟨first_greeting_stores, ?_⟩
  refine (everyone_mode_stores_iff openDaemon_unknownSender ?_ first_greeting_stores).mpr rfl
  intro a ha
  obtain rfl := List.mem_singleton.mp ha
  exact greeting_isCardless "m1"

/-- The second greeting is turned away: Alice is a contact by now, and has no key. -/
theorem second_greeting_lost : UnknownSender Identity.aliceID openDaemon ∧
      (∀ a ∈ [greeting "m1", greeting "m2"], a.IsCardless Identity.aliceID) ∧
      Stores (greeting "m1").1 openDaemon (greeting "m1").2 ∧
      ¬ Stores (greeting "m2").1 (run Arrival.handle openDaemon [greeting "m1"])
        (greeting "m2").2 := by
  grind [openDaemon_unknownSender, first_greeting_stores, greeting_isCardless, not_stores_later]

end

end Ardents.Messaging
