import Ardents.Messaging.Mediation

/-!
# Does the signature decide the route?

A device signs the fields of a wire with white space trimmed. `processInboundWire` compares the
conversation type and the event type as they stand. So the sender of a group wire, or whoever
carries it, can add white space that no signature covers and that sends the wire another way; and
the queue of message requests does not look at the conversation type at all.
-/

namespace Ardents.Messaging

open Go
open Calls (Trace Ends Only)
open Calls

/-! ## Routes of wires with one signature -/

def WirePayload.isRevocation (wire : WirePayload) : Prop :=
  wire.kind = .deviceRevoke ∧ wire.revocation ≠ none

/-- The untrimmed types are told apart from `group` and from `message` alike. -/
def SpelledAlike (w w' : WirePayload) : Prop :=
  (w.conversationType = "group" ↔ w'.conversationType = "group") ∧
    (w.conversationType = "group" →
      (w.eventType = groupWireEventTypeMessage ↔ w'.eventType = groupWireEventTypeMessage))

theorem route_of_isRevocation {wire : WirePayload} (h : wire.isRevocation) :
    ∃ rev, wire.revocation = some rev ∧ route wire = .deviceRevocation rev := by
  obtain ⟨hkind, hrev⟩ := h
  obtain ⟨rev, hsome⟩ := Option.ne_none_iff_exists'.mp hrev
  grind [route]

def groupRoute (wire : WirePayload) : Route :=
  if wire.eventType = groupWireEventTypeMessage then .groupMessage else .groupEvent

def plainRoute (handling : InboundReceiptHandling) : Route :=
  if handling.handled then .receipt handling else .direct

theorem route_of_not_isRevocation {wire : WirePayload} (h : ¬ wire.isRevocation) : route wire =
      if wire.conversationType = "group" then groupRoute wire
      else plainRoute (resolveInboundReceiptHandling wire) := by
  unfold route
  split
  · rename_i rev hkind hrev
    exact absurd ⟨hkind, by simp [hrev]⟩ h
  · rfl

theorem groupRoute_eq_iff (w w' : WirePayload) : groupRoute w = groupRoute w' ↔
      (w.eventType = groupWireEventTypeMessage ↔ w'.eventType = groupWireEventTypeMessage) := by
  grind [groupRoute]

theorem groupRoute_ne_plainRoute (wire : WirePayload) (handling : InboundReceiptHandling) :
    groupRoute wire ≠ plainRoute handling := by
  grind [groupRoute, plainRoute]

theorem route_ne_deviceRevocation {wire : WirePayload} (h : ¬ wire.isRevocation)
    (rev : Identity.DeviceRevocation) : route wire ≠ .deviceRevocation rev := by
  grind [route_of_not_isRevocation, groupRoute, plainRoute]

theorem route_eq_iff {w w' : WirePayload} (hkind : w.kind = w'.kind)
    (hrev : w.revocation = w'.revocation) (hreceipt : w.receipt = w'.receipt) :
    route w = route w' ↔ w.isRevocation ∨ SpelledAlike w w' := by
  by_cases hrevocation : w.isRevocation
  · have hrevocation' : w'.isRevocation := ⟨hkind ▸ hrevocation.1, hrev ▸ hrevocation.2⟩
    grind [route_of_isRevocation]
  have hrevocation' : ¬ w'.isRevocation :=
    fun h => hrevocation ⟨hkind.trans h.1, hrev ▸ h.2⟩
  have hhandling : resolveInboundReceiptHandling w = resolveInboundReceiptHandling w' := by
    unfold resolveInboundReceiptHandling
    rw [hkind, hreceipt]
  rw [route_of_not_isRevocation hrevocation, route_of_not_isRevocation hrevocation', hhandling,
    or_iff_right hrevocation]
  -- neither is a revocation, so the spelling of the types is all that is left to differ
  grind [SpelledAlike, groupRoute_eq_iff, groupRoute_ne_plainRoute]

/-! ## Group wires among the direct messages -/

/-- Storing a message of a direct conversation, as a message or as a request. -/
def InboundOp.storesDirect : InboundOp → Bool
  | .persistInboundMessage stored _ => stored.conversationType = .direct
  | .persistInboundRequest stored => stored.conversationType = .direct
  | _ => false

theorem isBasic_storesDirect {op : InboundOp} (h : op.isBasic = true) :
    op.storesDirect = false := by
  cases op <;> simp [InboundOp.isBasic, InboundOp.storesDirect] at h ⊢

section

variable {msg : InboundPrivateMessage} {decision : InboundPolicyDecision} {wire : WirePayload}
  {json : WireJSON} {l : List InboundCall}

theorem deliver_only (r : Route) :
    Only (fun op => op.storesDirect = false) (deliver msg wire r) := by
  cases r with
  | deviceRevocation rev => exact trivial
  | groupMessage | groupEvent => exact ⟨rfl, fun _ => trivial⟩
  | receipt handling =>
    dsimp only [deliver]
    split
    · exact ⟨rfl, fun _ => trivial⟩
    · exact trivial
  | direct =>
    exact ⟨rfl, fun _ => ((recordErr_quiet _ _).mono fun _ => isBasic_storesDirect).bind
      fun _ => trivial⟩

theorem processValidWire_only :
    Only (fun op => op.storesDirect = false) (processValidWire msg decision wire) := by
  refine (admitSender_quiet.mono fun _ => isBasic_storesDirect).bind fun admitted => ?_
  cases admitted with
  | false => exact trivial
  | true =>
    rw [if_pos rfl]
    split
    · exact (revokeDevice_quiet _).mono fun _ => isBasic_storesDirect
    · refine (authenticateDevice_quiet.mono fun _ => isBasic_storesDirect).bind fun passed => ?_
      cases passed with
      | false => exact trivial
      | true => exact deliver_only _

theorem processInboundWire_only :
    Only (fun op => op.storesDirect = false) (processInboundWire json msg decision) := by
  refine ((decodeInboundWire_quiet json).mono fun _ => isBasic_storesDirect).bind fun decoded => ?_
  cases decoded with
  | notParsed => exact trivial
  | invalid => exact trivial
  | valid wire => exact processValidWire_only

theorem processInboundWire_none (hwire : json.unmarshal msg.payload = some wire)
    (hroute : route wire ≠ .direct) {content : Content} :
    ¬ Ends (processInboundWire json msg decision) l (some content) := by
  intro h
  obtain ⟨l₁, decoded, l₂, -, hdecode, hrest⟩ := ends_bind.mp h
  rcases decodeInboundWire_ends hdecode with ⟨-, hnone⟩ | rfl | ⟨wire', rfl, hwire', -⟩
  · exact absurd (hnone.symm.trans hwire) (by simp)
  · exact absurd (ends_pure.mp hrest).2 (by simp)
  · obtain rfl : wire = wire' := Option.some.inj (hwire.symm.trans hwire')
    obtain ⟨l₃, l₄, l₅, -, -, -, hdirect⟩ := processValidWire_some hrest
    exact hroute hdirect

theorem requestContent_none (hwire : json.unmarshal msg.payload = some wire)
    (hhandled : (resolveInboundReceiptHandling wire).handled = true) {content : Content} :
    ¬ Ends (requestContent json msg) l (some content) := by
  intro h
  obtain ⟨l₁, decoded, l₂, -, hdecode, hrest⟩ := ends_bind.mp h
  rcases decodeInboundWire_ends hdecode with ⟨-, hnone⟩ | rfl | ⟨wire', rfl, hwire', -⟩
  · exact absurd (hnone.symm.trans hwire) (by simp)
  · exact absurd (ends_pure.mp hrest).2 (by simp)
  · simp_all

theorem not_storesDirect_of_none {p : Inbound (Option Content)}
    (hp : Only (fun op => op.storesDirect = false) p)
    (hnone : ∀ l content, ¬ Ends p l (some content)) {store : Content → Inbound Unit} (h : Trace (do
      match ← p with
      | none => return ()
      | some content => store content) l) : ∀ c ∈ l, c.1.storesDirect = false := by
  rcases trace_bind.mp h with h | ⟨l₁, result, l₂, rfl, hend, hrest⟩
  · exact hp.trace h
  · cases result with
    | some content => exact absurd hend (hnone l₁ content)
    | none =>
      obtain rfl : l₂ = [] := hrest
      rw [List.append_nil]
      exact hp.trace hend.trace

/-! ## The condition -/

def WirePayload.isReceipt (wire : WirePayload) : Prop :=
  wire.kind = .receipt ∧ wire.receipt ≠ none

/-- What keeps a group wire out of the direct messages: it is rejected, spelled `group`
without white space, or of a kind that is never stored. -/
def WirePayload.keptApart (wire : WirePayload) : InboundPolicyAction → Prop
  | .reject => True
  | .queue => wire.isReceipt
  | .accept => wire.isRevocation ∨ wire.conversationType = "group" ∨ wire.isReceipt

theorem route_eq_direct_iff : route wire = .direct ↔
      ¬ (wire.isRevocation ∨ wire.conversationType = "group" ∨ wire.isReceipt) := by
  by_cases hrevocation : wire.isRevocation
  · grind [route_of_isRevocation]
  rw [route_of_not_isRevocation hrevocation]
  by_cases hgroup : wire.conversationType = "group"
  · refine iff_of_false ?_ fun h => h (.inr (.inl hgroup))
    rw [if_pos hgroup]
    exact groupRoute_ne_plainRoute wire ⟨false, false, "", ""⟩
  · rw [if_neg hgroup]
    unfold plainRoute
    by_cases hreceipt : wire.isReceipt
    · rw [if_pos (resolveInboundReceiptHandling_handled.mpr hreceipt)]
      exact iff_of_false (by simp) fun h => h (.inr (.inr hreceipt))
    · rw [if_neg (resolveInboundReceiptHandling_handled.not.mpr hreceipt)]
      exact iff_of_true rfl fun h => h.elim hrevocation fun h => h.elim hgroup hreceipt

theorem handleIncomingPrivateMessage_trace : Trace (handleIncomingPrivateMessage json msg)
        (⟨.evaluateInboundPolicy msg.senderID, decision⟩ :: l) ↔
      Trace (match decision.action with
        | .reject => recordErr .crypto decision.err
        | .queue => handleInboundMessageRequest json msg
        | .accept => do
          match ← processInboundWire json msg decision with
          | none => return ()
          | some content =>
            persistInboundAndSendReceipt msg content fun stored =>
              ask (.persistInboundMessage stored msg.senderID)) l := by
  constructor
  · intro h
    rcases trace_perform_bind.mp h with h | ⟨decision', l', h, hrest⟩
    · exact absurd h (by simp)
    · simp only [List.cons.injEq, Sigma.mk.injEq, heq_eq_eq, true_and] at h
      obtain ⟨rfl, rfl⟩ := h
      exact hrest
  · intro h
    exact trace_perform_bind.mpr (.inr ⟨decision, l, rfl, h⟩)

theorem keptApart_not_stored (hwire : json.unmarshal msg.payload = some wire)
    (hapart : wire.keptApart decision.action) (h : Trace (handleIncomingPrivateMessage json msg)
      (⟨.evaluateInboundPolicy msg.senderID, decision⟩ :: l)) :
    ∀ c ∈ l, c.1.storesDirect = false := by
  have hrest := handleIncomingPrivateMessage_trace.mp h
  cases haction : decision.action with
  | reject =>
    rw [haction] at hrest
    exact ((recordErr_quiet _ _).mono fun _ => isBasic_storesDirect).trace hrest
  | queue =>
    rw [haction] at hrest hapart
    exact not_storesDirect_of_none
      ((requestContent_quiet json).mono fun _ => isBasic_storesDirect)
      (fun _ _ => requestContent_none hwire (resolveInboundReceiptHandling_handled.mpr hapart))
      hrest
  | accept =>
    rw [haction] at hrest hapart
    exact not_storesDirect_of_none processInboundWire_only
      (fun _ _ => processInboundWire_none hwire fun hdirect =>
        route_eq_direct_iff.mp hdirect hapart) hrest

theorem decodeInboundWire_valid (hwire : json.unmarshal msg.payload = some wire)
    (hvalid : validateWirePayload wire = .ok ()) :
    decodeInboundWire json msg = pure (.valid wire) := by
  grind [decodeInboundWire]

theorem processInboundWire_direct (hwire : json.unmarshal msg.payload = some wire)
    (hvalid : validateWirePayload wire = .ok ()) (hroute : route wire = .direct) :
    ∃ l, Ends (processInboundWire json msg decision) l (some (wire, [], .text)) := by
  refine ⟨[⟨.hasVerifiedContact msg.senderID, true⟩,
    ⟨.validateInboundContactTrust msg.senderID wire, none⟩,
    ⟨.hasVerifiedContact msg.senderID, true⟩, ⟨.validateInboundDeviceAuth msg wire, none⟩,
    ⟨.resolveInboundContent msg wire, (([], .text), none)⟩], ?_⟩
  unfold processInboundWire
  rw [decodeInboundWire_valid hwire hvalid]
  refine ends_bind.mpr ⟨[], .valid wire, _, rfl, ⟨rfl, rfl⟩, ?_⟩
  -- the answer "verified" keeps both shortcuts for unknown senders closed
  refine ends_bind.mpr ⟨[⟨.hasVerifiedContact msg.senderID, true⟩,
    ⟨.validateInboundContactTrust msg.senderID wire, none⟩], true, _, rfl, ?_, ?_⟩
  · refine ends_bind.mpr ⟨[⟨.hasVerifiedContact msg.senderID, true⟩], false, _, rfl,
      ⟨true, [], rfl, rfl, unknownSenderWithoutCard_verified _ _ _⟩, none, [], rfl, rfl, rfl⟩
  · rw [if_pos rfl, hroute]
    refine ends_bind.mpr ⟨[⟨.hasVerifiedContact msg.senderID, true⟩,
      ⟨.validateInboundDeviceAuth msg wire, none⟩], true, _, rfl, ?_, ?_⟩
    · exact ends_bind.mpr ⟨[⟨.hasVerifiedContact msg.senderID, true⟩], false, _, rfl,
        ⟨true, [], rfl, rfl, unknownSenderWithoutCard_verified _ _ _⟩, none, [], rfl, rfl, rfl⟩
    · rw [if_pos rfl, hroute]
      exact ⟨(([], .text), none), [], rfl, rfl, rfl⟩

theorem requestContent_some (hwire : json.unmarshal msg.payload = some wire)
    (hvalid : validateWirePayload wire = .ok ()) (hreceipt : ¬ wire.isReceipt) :
    ∃ l, Ends (requestContent json msg) l (some (wire, [], .text)) := by
  refine ⟨[⟨.resolveInboundContent msg wire, (([], .text), none)⟩], ?_⟩
  unfold requestContent
  rw [decodeInboundWire_valid hwire hvalid]
  refine ends_bind.mpr ⟨[], .valid wire, _, rfl, ⟨rfl, rfl⟩, ?_⟩
  dsimp only
  rw [if_neg (resolveInboundReceiptHandling_handled.not.mpr hreceipt)]
  exact ⟨(([], .text), none), [], rfl, rfl, rfl⟩

theorem stores_content {p : Inbound (Option Content)} {content : Content}
    (hp : ∃ l, Ends p l (some content)) {persist : Message → Inbound Bool}
    (hpersist : ∀ stored : Message, stored.conversationType = .direct →
      ∃ c : InboundCall, Trace (persist stored) [c] ∧ c.1.storesDirect = true) : ∃ l, Trace (do
      match ← p with
      | none => return ()
      | some content => persistInboundAndSendReceipt msg content persist) l ∧
      ∃ c ∈ l, c.1.storesDirect = true := by
  obtain ⟨l, hend⟩ := hp
  obtain ⟨c, hstore, hc⟩ := hpersist
    (buildInboundStoredMessage msg content.1.threadID content.2.1 content.2.2 0) rfl
  refine ⟨l ++ [⟨.now, (0 : Int)⟩, c], ?_, c, by simp, hc⟩
  refine trace_bind.mpr (.inr ⟨l, some content, _, rfl, hend, ?_⟩)
  refine trace_perform_bind.mpr (.inr ⟨(0 : Int), [c], rfl, ?_⟩)
  exact trace_bind.mpr (.inl hstore)

theorem not_keptApart_stored (hwire : json.unmarshal msg.payload = some wire)
    (hvalid : validateWirePayload wire = .ok ()) (hapart : ¬ wire.keptApart decision.action) :
    ∃ l, Trace (handleIncomingPrivateMessage json msg)
        (⟨.evaluateInboundPolicy msg.senderID, decision⟩ :: l) ∧
      ∃ c ∈ l, c.1.storesDirect = true := by
  simp only [handleIncomingPrivateMessage_trace]
  cases haction : decision.action with
  | reject =>
    rw [haction] at hapart
    exact absurd trivial hapart
  | queue =>
    rw [haction] at hapart
    exact stores_content (requestContent_some hwire hvalid hapart) fun stored hdirect =>
      ⟨⟨.persistInboundRequest stored, true⟩, .inr ⟨true, [], rfl, rfl⟩, decide_eq_true hdirect⟩
  | accept =>
    rw [haction] at hapart
    exact stores_content
      (processInboundWire_direct hwire hvalid (route_eq_direct_iff.mpr hapart))
      fun stored hdirect => ⟨⟨.persistInboundMessage stored msg.senderID, true⟩,
        .inr ⟨true, [], rfl, rfl⟩, decide_eq_true hdirect⟩

/-- **What decides the route.** Two valid wires with one signed text are routed alike exactly when
they are revocations or are spelled alike, white space included. A valid group wire is never
stored as a direct message exactly when it is kept apart: on the way of accepted messages by the
untrimmed spelling of its type, in the request queue by being a receipt. -/
theorem signed_decides_route_iff (json : WireJSON) (w w' : WirePayload)
    (hvalid : validateWirePayload w = .ok ()) : (∀ messageID senderID recipient text,
      buildWireAuthPayload json messageID senderID recipient w = .ok text →
      buildWireAuthPayload json messageID senderID recipient w' = .ok text →
      (route w = route w' ↔ w.isRevocation ∨ SpelledAlike w w')) ∧
    ∀ msg decision, json.unmarshal msg.payload = some w →
      ((w.isGroup → ∀ l, Trace (handleIncomingPrivateMessage json msg)
          (⟨.evaluateInboundPolicy msg.senderID, decision⟩ :: l) →
            ∀ c ∈ l, c.1.storesDirect = false) ↔ (w.isGroup → w.keptApart decision.action)) := by
  constructor
  · intro messageID senderID recipient text hw hw'
    have hauth := buildWireAuthPayload_inj hw hw'
    exact route_eq_iff (congrArg WireAuth.kind hauth) (congrArg WireAuth.revocation hauth)
      (congrArg WireAuth.receipt hauth)
  · intro msg decision hwire
    -- a wire that is not kept apart is stored once its sender is verified and the checks pass
    refine imp_congr_right fun _ => ⟨fun hnever => ?_, fun hapart l h =>
      keptApart_not_stored hwire hapart h⟩
    by_contra hapart
    obtain ⟨l, htrace, c, hc, hstores⟩ := not_keptApart_stored hwire hvalid hapart
    exact absurd ((hnever l htrace c hc).symm.trans hstores) (by simp)

end

/-! ## A group message with white space added -/

def groupWire (conversationType : String) : WirePayload :=
  { kind := .plain, plain := bytesOf "hi", conversationID := "team", eventID := "e1"
    conversationType := conversationType, eventType := "message", membershipVersion := 1
    groupKeyVersion := 1, senderDeviceID := "laptop" }

/-- Alice's group message under a JSON that reads it with its type spelled like this. -/
def groupMessageJSON (conversationType : String) : WireJSON :=
  .only (wireAuth "m1" "alice" "bob" (groupWire "group")) (groupWire conversationType)

/-- Spelled as it is signed, a group message is not stored as a direct one, and more padding does
not send it another way. -/
theorem group_message_kept_apart :
    route (groupWire "group") = route { groupWire "group" with padding := "0000" } ∧
      ∀ l, Trace (handleIncomingPrivateMessage (groupMessageJSON "group") (fromAlice [1]))
          (⟨.evaluateInboundPolicy "alice", ⟨.accept, .trustedContact, none⟩⟩ :: l) →
        ∀ c ∈ l, c.1.storesDirect = false := by
  have hvalid : validateWirePayload (groupWire "group") = .ok () := by decide
  obtain ⟨hroute, hstored⟩ := signed_decides_route_iff (groupMessageJSON "group")
    (groupWire "group") { groupWire "group" with padding := "0000" } hvalid
  constructor
  · exact (hroute "m1" "alice" "bob" [2] (by decide) (by decide)).mpr
      (Or.inr ⟨Iff.rfl, fun _ => Iff.rfl⟩)
  · exact (hstored (fromAlice [1]) ⟨.accept, .trustedContact, none⟩ rfl).mpr
      (fun _ => .inr (.inl rfl)) (.inl (by decide))

/-- One signed text, two routes: with a blank before its type a group message is a direct message,
and is stored as one. In the request queue it is stored as one without the blank. -/
theorem padded_group_message_direct :
    (∃ text, buildWireAuthPayload (groupMessageJSON " group") "m1" "alice" "bob"
          (groupWire "group") = .ok text ∧
        buildWireAuthPayload (groupMessageJSON " group") "m1" "alice" "bob"
          (groupWire " group") = .ok text ∧
        route (groupWire "group") = .groupMessage ∧ route (groupWire " group") = .direct) ∧
      ((groupWire " group").isGroup ∧ ∃ l,
        Trace (handleIncomingPrivateMessage (groupMessageJSON " group") (fromAlice [1]))
          (⟨.evaluateInboundPolicy "alice", ⟨.accept, .trustedContact, none⟩⟩ :: l) ∧
        ∃ c ∈ l, c.1.storesDirect = true) ∧ ((groupWire "group").isGroup ∧ ∃ l,
        Trace (handleIncomingPrivateMessage (groupMessageJSON "group") (fromAlice [1]))
          (⟨.evaluateInboundPolicy "alice", ⟨.queue, .unknownMessageReq, none⟩⟩ :: l) ∧
        ∃ c ∈ l, c.1.storesDirect = true) := by
  refine ⟨⟨[2], by decide, by decide, by decide, by decide⟩,
    ⟨by decide, ?_⟩, by decide, ?_⟩
  · have hdirect : route (groupWire " group") = .direct := by decide
    exact not_keptApart_stored rfl (by decide) (route_eq_direct_iff.mp hdirect)
  · exact not_keptApart_stored rfl (by decide) fun hreceipt : WirePayload.isReceipt _ =>
      absurd hreceipt.1 (by decide)

end Ardents.Messaging
