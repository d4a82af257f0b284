import Ardents.Messaging.InboundService

/-!
# Every inbound effect is authenticated

The handler is cut into its blocks: those before authentication have no effect, and the blocks
that check end with `true` only where the check passed.
-/

namespace Ardents.Messaging

open Go
open Calls (Trace Ends Only)
open Calls

def InboundOp.isEffect : InboundOp → Bool
  | .persistInboundMessage .. => true
  | .applyInboundReceiptStatus _ => true
  | .handleInboundGroupMessage .. => true
  | .handleInboundGroupEvent .. => true
  | _ => false

def VerifiedIn (senderID : String) (l : List InboundCall) : Prop :=
  ∀ ans, (⟨.hasVerifiedContact senderID, ans⟩ : InboundCall) ∈ l → ans = true

structure Authenticated (msg : InboundPrivateMessage) (wire : WirePayload) (l : List InboundCall) :
    Prop where
  trust : (⟨.validateInboundContactTrust msg.senderID wire, none⟩ : InboundCall) ∈ l
  device : (⟨.validateInboundDeviceAuth msg wire, none⟩ : InboundCall) ∈ l

section

variable {msg : InboundPrivateMessage} {decision : InboundPolicyDecision} {wire : WirePayload}
  {l l₁ l₂ : List InboundCall}

theorem VerifiedIn.left (h : VerifiedIn msg.senderID (l₁ ++ l₂)) : VerifiedIn msg.senderID l₁ :=
  fun ans hmem => h ans (List.mem_append_left _ hmem)

theorem VerifiedIn.right (h : VerifiedIn msg.senderID (l₁ ++ l₂)) : VerifiedIn msg.senderID l₂ :=
  fun ans hmem => h ans (List.mem_append_right _ hmem)

theorem Authenticated.append_right (h : Authenticated msg wire l₁) :
    Authenticated msg wire (l₁ ++ l₂) :=
  ⟨List.mem_append_left _ h.trust, List.mem_append_left _ h.device⟩

theorem Authenticated.append_left (h : Authenticated msg wire l₂) :
    Authenticated msg wire (l₁ ++ l₂) :=
  ⟨List.mem_append_right _ h.trust, List.mem_append_right _ h.device⟩

/-! ## Blocks without an effect -/

theorem isBasic_isEffect {op : InboundOp} (h : op.isBasic = true) : op.isEffect = false := by
  cases op <;> simp [InboundOp.isBasic, InboundOp.isEffect] at h ⊢

variable {c : InboundCall}

theorem not_mem_quiet {α : Type} {p : Inbound α} (hp : Quiet p) (h : Trace p l)
    (heffect : c.1.isEffect = true) : c ∉ l := by
  intro hc
  exact absurd (heffect.symm.trans (isBasic_isEffect (hp.trace h c hc))) (by simp)

theorem handleInboundMessageRequest_only (json : WireJSON) :
    Only (fun op => op.isEffect = false) (handleInboundMessageRequest json msg) := by
  refine ((requestContent_quiet json).mono fun _ => isBasic_isEffect).bind fun content => ?_
  cases content with
  | none => exact trivial
  | some content =>
    exact persistInboundAndSendReceipt_only (fun _ => isBasic_isEffect) fun now =>
      only_perform.mpr rfl

/-! ## Blocks that check -/

theorem admitSender_true (h : Ends (admitSender msg decision wire) l true)
    (hverified : VerifiedIn msg.senderID l) :
    (⟨.validateInboundContactTrust msg.senderID wire, none⟩ : InboundCall) ∈ l := by
  obtain ⟨l₁, add, l₂, rfl, hadd, hrest⟩ := ends_bind.mp h
  obtain ⟨verified, l₃, rfl, rfl, rfl⟩ := ends_perform_bind.mp hadd
  -- a verified sender is not added on the fly
  obtain rfl : verified = true := hverified verified (by simp)
  simp only [shouldAutoAddUnknownSenderContact, unknownSenderWithoutCard_verified,
    Bool.false_eq_true, if_false] at hrest
  obtain ⟨violation, l₃, rfl, hnext⟩ := ends_perform_bind.mp hrest
  cases violation with
  | none => simp
  | some violation =>
    obtain ⟨l₄, -, l₅, -, -, hnext⟩ := ends_bind.mp hnext
    obtain ⟨-, l₆, -, hnext⟩ := ends_perform_bind.mp hnext
    exact absurd (ends_pure.mp hnext).2 (by simp)

theorem authenticateDevice_true (h : Ends (authenticateDevice msg decision wire) l true)
    (hverified : VerifiedIn msg.senderID l) :
    (⟨.validateInboundDeviceAuth msg wire, none⟩ : InboundCall) ∈ l := by
  obtain ⟨l₁, bypass, l₂, rfl, hbypass, hrest⟩ := ends_bind.mp h
  obtain ⟨verified, l₃, rfl, rfl, rfl⟩ := ends_perform_bind.mp hbypass
  obtain rfl : verified = true := hverified verified (by simp)
  simp only [shouldBypassInboundDeviceAuth, unknownSenderWithoutCard_verified,
    Bool.false_eq_true, if_false] at hrest
  obtain ⟨failure, l₃, rfl, hnext⟩ := ends_perform_bind.mp hrest
  cases failure with
  | none => simp
  | some failure =>
    obtain ⟨l₄, -, l₅, -, -, hnext⟩ := ends_bind.mp hnext
    exact absurd (ends_pure.mp hnext).2 (by simp)

/-! ## The whole -/

theorem deliverAuthenticated_effect (h : Trace (deliverAuthenticated msg decision wire) l)
    (hverified : VerifiedIn msg.senderID l) (hc : c ∈ l) (heffect : c.1.isEffect = true) :
    (⟨.validateInboundDeviceAuth msg wire, none⟩ : InboundCall) ∈ l := by
  rcases trace_bind.mp h with hdevice | ⟨l₁, passed, l₂, rfl, hdevice, hrest⟩
  · exact absurd hc (not_mem_quiet authenticateDevice_quiet hdevice heffect)
  cases passed with
  | true =>
    exact List.mem_append_left _ (authenticateDevice_true hdevice hverified.left)
  | false =>
    rcases List.mem_append.mp hc with hmem | hmem
    · exact absurd hmem (not_mem_quiet authenticateDevice_quiet hdevice.trace heffect)
    · exact absurd hmem (not_mem_quiet (pure_quiet _) hrest heffect)

theorem processValidWire_effect (h : Trace (processValidWire msg decision wire) l)
    (hverified : VerifiedIn msg.senderID l) (hc : c ∈ l)
    (heffect : c.1.isEffect = true) : Authenticated msg wire l := by
  rcases trace_bind.mp h with hadmit | ⟨l₁, admitted, l₂, rfl, hadmit, hrest⟩
  · exact absurd hc (not_mem_quiet admitSender_quiet hadmit heffect)
  have hc₂ : c ∈ l₂ := (List.mem_append.mp hc).resolve_left
    (not_mem_quiet admitSender_quiet hadmit.trace heffect)
  cases admitted with
  | false => exact absurd hc₂ (not_mem_quiet (pure_quiet _) hrest heffect)
  | true =>
    rw [if_pos rfl] at hrest
    split at hrest
    · exact absurd hc₂ (not_mem_quiet (revokeDevice_quiet _) hrest heffect)
    · exact ⟨List.mem_append_left _ (admitSender_true hadmit hverified.left),
        List.mem_append_right _
          (deliverAuthenticated_effect hrest hverified.right hc₂ heffect)⟩

theorem processValidWire_authenticated {content : Content}
    (h : Ends (processValidWire msg decision wire) l (some content))
    (hverified : VerifiedIn msg.senderID l) : Authenticated msg wire l := by
  obtain ⟨l₁, l₂, l₃, rfl, hadmit, hdevice, -⟩ := processValidWire_some h
  exact ⟨List.mem_append_left _ (admitSender_true hadmit hverified.left),
    List.mem_append_right _
      (List.mem_append_left _ (authenticateDevice_true hdevice hverified.right.left))⟩

theorem persistInboundMessage_effect {content : Content}
    (h : Trace (persistInboundAndSendReceipt msg content fun stored =>
      ask (.persistInboundMessage stored msg.senderID)) l) (hc : c ∈ l)
    (heffect : c.1.isEffect = true) :
    ∃ now, c.1 = .persistInboundMessage
      (buildInboundStoredMessage msg content.1.threadID content.2.1 content.2.2 now)
      msg.senderID := by
  have hbasic : ∀ op : InboundOp, op.isBasic = true → op.isEffect = true → ∃ now,
      op = .persistInboundMessage
        (buildInboundStoredMessage msg content.1.threadID content.2.1 content.2.2 now)
        msg.senderID :=
    fun op h h' => absurd ((isBasic_isEffect h).symm.trans h') (by simp)
  exact (persistInboundAndSendReceipt_only hbasic fun now =>
    only_perform.mpr fun _ => ⟨now, rfl⟩).trace h c hc heffect

variable {json : WireJSON}

theorem processInboundWire_effect (h : Trace (processInboundWire json msg decision) l)
    (hverified : VerifiedIn msg.senderID l) (hc : c ∈ l) (heffect : c.1.isEffect = true) :
    ∃ wire, json.unmarshal msg.payload = some wire ∧ Authenticated msg wire l := by
  rcases trace_bind.mp h with hdecode | ⟨l₁, decoded, l₂, rfl, hdecode, hrest⟩
  · exact absurd hc (not_mem_quiet (decodeInboundWire_quiet json) hdecode heffect)
  have hc₂ : c ∈ l₂ := (List.mem_append.mp hc).resolve_left
    (not_mem_quiet (decodeInboundWire_quiet json) hdecode.trace heffect)
  rcases decodeInboundWire_ends hdecode with ⟨rfl, -⟩ | rfl | ⟨wire, rfl, hwire, -⟩
  · exact absurd hc₂ (not_mem_quiet (pure_quiet _) hrest heffect)
  · exact absurd hc₂ (not_mem_quiet (pure_quiet _) hrest heffect)
  · exact ⟨wire, hwire,
      (processValidWire_effect hrest hverified.right hc₂ heffect).append_left⟩

theorem processInboundWire_some {content : Content}
    (h : Ends (processInboundWire json msg decision) l (some content))
    (hverified : VerifiedIn msg.senderID l) :
    (json.unmarshal msg.payload = none ∧ content = (emptyWire, msg.payload, .text)) ∨
      ∃ wire, json.unmarshal msg.payload = some wire ∧ Authenticated msg wire l := by
  obtain ⟨l₁, decoded, l₂, rfl, hdecode, hrest⟩ := ends_bind.mp h
  rcases decodeInboundWire_ends hdecode with ⟨rfl, hnone⟩ | rfl | ⟨wire, rfl, hwire, -⟩
  · exact .inl ⟨hnone, (Option.some.inj (ends_pure.mp hrest).2).symm⟩
  · exact absurd (ends_pure.mp hrest).2 (by simp)
  · exact .inr ⟨wire, hwire, (processValidWire_authenticated hrest hverified.right).append_left⟩

theorem handleIncomingPrivateMessage_effect (h : Trace (handleIncomingPrivateMessage json msg) l)
    (hverified : VerifiedIn msg.senderID l) (hc : c ∈ l) (heffect : c.1.isEffect = true) :
    (∃ wire, json.unmarshal msg.payload = some wire ∧ Authenticated msg wire l) ∨
      (json.unmarshal msg.payload = none ∧ ∃ now, c.1 = .persistInboundMessage
        (buildInboundStoredMessage msg "" msg.payload .text now) msg.senderID) := by
  rcases trace_perform_bind.mp h with rfl | ⟨decision, l₁, rfl, hrest⟩
  · exact absurd hc (by simp)
  have hc₁ : c ∈ l₁ := by
    grind [InboundOp.isEffect]
  have hverified₁ : VerifiedIn msg.senderID l₁ :=
    fun ans hmem => hverified ans (List.mem_cons_of_mem _ hmem)
  have hlift : ∀ {wire : WirePayload}, Authenticated msg wire l₁ →
      Authenticated msg wire (⟨.evaluateInboundPolicy msg.senderID, decision⟩ :: l₁) :=
    fun h => ⟨List.mem_cons_of_mem _ h.trust, List.mem_cons_of_mem _ h.device⟩
  split at hrest
  · exact absurd hc₁ (not_mem_quiet (recordErr_quiet _ _) hrest heffect)
  · have hnone := (handleInboundMessageRequest_only json).trace hrest c hc₁
    exact absurd (heffect.symm.trans hnone) (by simp)
  · rcases trace_bind.mp hrest with hwire | ⟨l₂, content, l₃, rfl, hwire, hpersist⟩
    · obtain ⟨wire, hsome, hauth⟩ := processInboundWire_effect hwire hverified₁ hc₁ heffect
      exact .inl ⟨wire, hsome, hlift hauth⟩
    · rcases List.mem_append.mp hc₁ with hc₂ | hc₃
      · obtain ⟨wire, hsome, hauth⟩ :=
          processInboundWire_effect hwire.trace hverified₁.left hc₂ heffect
        exact .inl ⟨wire, hsome, hlift hauth.append_right⟩
      · cases content with
        | none => exact absurd hc₃ (not_mem_quiet (pure_quiet _) hpersist heffect)
        | some content =>
          rcases processInboundWire_some hwire hverified₁.left with
            ⟨hnone, rfl⟩ | ⟨wire, hsome, hauth⟩
          · exact .inr ⟨hnone, persistInboundMessage_effect hpersist hc₃ heffect⟩
          · exact .inl ⟨wire, hsome, hlift hauth.append_right⟩

/-- **Authenticated inbound effects.** Whatever the dependencies answer: when a message from a
verified contact is stored, a receipt applied or a group handler invoked, the trust check and the
device check have passed before, for this message and the wire it decodes to. Only a payload that
does not decode is stored unchecked, as the text of a message. -/
theorem effects_authenticated {pre post : List InboundCall} {c : InboundCall}
    (h : Trace (handleIncomingPrivateMessage json msg) (pre ++ c :: post))
    (hverified : VerifiedIn msg.senderID pre) (heffect : c.1.isEffect = true) :
    (∃ wire, json.unmarshal msg.payload = some wire ∧ Authenticated msg wire pre) ∨
      (json.unmarshal msg.payload = none ∧ ∃ now, c.1 = .persistInboundMessage
        (buildInboundStoredMessage msg "" msg.payload .text now) msg.senderID) := by
  -- the run up to `c`; neither check is `c` itself
  have hwhole : Trace (handleIncomingPrivateMessage json msg) (pre ++ [c] ++ post) := by
    simpa using h
  have hcut := hwhole.left
  have hbefore : ∀ {op : InboundOp} {ans : op.Answer}, op.isEffect = false →
      (⟨op, ans⟩ : InboundCall) ∈ pre ++ [c] → (⟨op, ans⟩ : InboundCall) ∈ pre := by
    grind
  have hverified' : VerifiedIn msg.senderID (pre ++ [c]) :=
    fun ans hmem => hverified ans (hbefore rfl hmem)
  rcases handleIncomingPrivateMessage_effect hcut hverified' (by simp) heffect with
    ⟨wire, hwire, hauth⟩ | hraw
  · exact .inl ⟨wire, hwire, hbefore rfl hauth.trust, hbefore rfl hauth.device⟩
  · exact .inr hraw

end

/-! ## Two messages from a verified contact -/

def permissive : (op : InboundOp) → op.Answer
  | .evaluateInboundPolicy _ => ⟨.accept, .trustedContact, none⟩
  | .hasVerifiedContact _ => true
  | .addContactByIdentityID _ _ => none
  | .validateInboundContactTrust _ _ => none
  | .notifySecurityAlert _ _ _ => ()
  | .applyDeviceRevocation _ _ => none
  | .validateInboundDeviceAuth _ _ => none
  | .resolveInboundContent _ wire => ((wire.plain, .text), none)
  | .handleInboundGroupMessage _ _ => ()
  | .handleInboundGroupEvent _ _ => ()
  | .applyInboundReceiptStatus _ => ()
  | .persistInboundMessage _ _ => true
  | .persistInboundRequest _ => true
  | .sendReceiptDelivered _ _ => none
  | .recordError _ _ => ()
  | .now => 7

/-- A decoder for one wire, written as the byte `1`. -/
def oneWireJSON (wire : WirePayload) : WireJSON :=
  { marshalAuth := fun _ => .error "not needed"
    unmarshal := fun payload => if payload = [1] then some wire else none
    marshalAuth_inj := fun _ _ _ h => absurd h (by simp) }

def greetingWire : WirePayload := newPlainWire (bytesOf "hi")

def fromAlice (payload : Bytes) : InboundPrivateMessage :=
  { id := "m1", senderID := "alice", recipient := "bob", payload := payload }

def beforeGreeting : List InboundCall :=
  [⟨.evaluateInboundPolicy "alice", ⟨.accept, .trustedContact, none⟩⟩,
    ⟨.hasVerifiedContact "alice", true⟩,
    ⟨.validateInboundContactTrust "alice" greetingWire, none⟩,
    ⟨.hasVerifiedContact "alice", true⟩,
    ⟨.validateInboundDeviceAuth (fromAlice [1]) greetingWire, none⟩,
    ⟨.resolveInboundContent (fromAlice [1]) greetingWire, ((bytesOf "hi", .text), none)⟩,
    ⟨.now, (7 : Int)⟩]

/-- A greeting is stored once both checks have passed. -/
theorem greeting_authenticated : Authenticated (fromAlice [1]) greetingWire beforeGreeting := by
  have htrace : Trace (handleIncomingPrivateMessage (oneWireJSON greetingWire) (fromAlice [1]))
      (beforeGreeting ++ ⟨.persistInboundMessage (buildInboundStoredMessage (fromAlice [1]) ""
        (bytesOf "hi") .text 7) "alice", true⟩ ::
          [⟨.hasVerifiedContact "alice", true⟩, ⟨.sendReceiptDelivered "alice" "m1", none⟩]) :=
    trace_transcript permissive _
  have hverified : VerifiedIn (fromAlice [1]).senderID beforeGreeting := by
    intro ans hans
    simp_all [beforeGreeting]
  rcases effects_authenticated htrace hverified rfl with ⟨wire, hwire, hauth⟩ | ⟨hnone, -⟩
  · obtain rfl : greetingWire = wire := Option.some.inj hwire
    exact hauth
  · exact absurd hnone (by simp [oneWireJSON, fromAlice])

/-- A payload that is no wire is stored as a message, with neither check made. -/
theorem raw_payload_stored : ¬ ∀ l, Trace (handleIncomingPrivateMessage (oneWireJSON greetingWire)
        (fromAlice (bytesOf "raw payload"))) l → VerifiedIn "alice" l →
      ∀ c ∈ l, c.1.isEffect = true →
        ∃ wire, Authenticated (fromAlice (bytesOf "raw payload")) wire l := by
  intro h
  have htrace : Trace (handleIncomingPrivateMessage (oneWireJSON greetingWire)
      (fromAlice (bytesOf "raw payload")))
      [⟨.evaluateInboundPolicy "alice", ⟨.accept, .trustedContact, none⟩⟩, ⟨.now, (7 : Int)⟩,
        ⟨.persistInboundMessage (buildInboundStoredMessage (fromAlice (bytesOf "raw payload")) ""
          (bytesOf "raw payload") .text 7) "alice", true⟩,
        ⟨.hasVerifiedContact "alice", true⟩, ⟨.sendReceiptDelivered "alice" "m1", none⟩] :=
    trace_transcript permissive _
  obtain ⟨wire, hauth⟩ := h _ htrace (fun ans hans => by simpa using hans) _
    (List.mem_cons_of_mem _ (List.mem_cons_of_mem _ List.mem_cons_self)) rfl
  exact absurd hauth.trust (by simp)

end Ardents.Messaging
