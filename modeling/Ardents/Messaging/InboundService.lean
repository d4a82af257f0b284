import Ardents.Go.Calls
import Ardents.Messaging.Wire

/-!
# Receiving private messages

`InboundService` asks the privacy policy, decodes the wire, has the sender and the device checked,
and routes the wire to whoever handles it. Everything it decides on comes from its dependencies,
so it is a program over calls to them, and whatever they answer is possible.
-/

namespace Ardents.Messaging

open Go
open Crypto (Time)
open Identity (DeviceRevocation)
open Calls

structure InboundPrivateMessage where
  id : String
  senderID : String
  recipient : String
  payload : Bytes
  deriving DecidableEq, Repr

/-! ## Policy -/

inductive InboundPolicyAction where
  | reject
  | accept
  | queue
  deriving DecidableEq, Repr

inductive InboundPolicyReason where
  | trustedContact
  | blockedSender
  | unknownContactsOnly
  | unknownMessageReq
  | unknownEveryoneMode
  deriving DecidableEq, Repr

structure InboundPolicyDecision where
  action : InboundPolicyAction
  reason : InboundPolicyReason
  err : Option String
  deriving DecidableEq, Repr

def unknownSenderWithoutCard (reason : InboundPolicyReason) (conversationType : String)
    (isVerifiedContact hasCard : Bool) : Bool :=
  if trimSpace conversationType = "group" then false
  else if reason ≠ .unknownEveryoneMode then false
  else if isVerifiedContact then false
  else !hasCard

def shouldAutoAddUnknownSenderContact : InboundPolicyReason → String → Bool → Bool → Bool :=
  unknownSenderWithoutCard

def shouldBypassInboundDeviceAuth : InboundPolicyReason → String → Bool → Bool → Bool :=
  unknownSenderWithoutCard

@[simp] theorem unknownSenderWithoutCard_verified (reason : InboundPolicyReason)
    (conversationType : String) (hasCard : Bool) :
    unknownSenderWithoutCard reason conversationType true hasCard = false := by
  unfold unknownSenderWithoutCard
  simp

/-! ## Dependencies -/

structure InboundContactTrustViolation where
  alertCode : String
  err : String
  deriving DecidableEq, Repr

/-- The calls of `InboundServiceDeps`, and the clock. -/
inductive InboundOp where
  | evaluateInboundPolicy (senderID : String)
  | hasVerifiedContact (senderID : String)
  | addContactByIdentityID (contactID displayName : String)
  | validateInboundContactTrust (senderID : String) (wire : WirePayload)
  | notifySecurityAlert (kind contactID message : String)
  | applyDeviceRevocation (senderID : String) (rev : DeviceRevocation)
  | validateInboundDeviceAuth (msg : InboundPrivateMessage) (wire : WirePayload)
  | resolveInboundContent (msg : InboundPrivateMessage) (wire : WirePayload)
  | handleInboundGroupMessage (msg : InboundPrivateMessage) (wire : WirePayload)
  | handleInboundGroupEvent (msg : InboundPrivateMessage) (wire : WirePayload)
  | applyInboundReceiptStatus (handling : InboundReceiptHandling)
  | persistInboundMessage (stored : Message) (senderID : String)
  | persistInboundRequest (stored : Message)
  | sendReceiptDelivered (senderID messageID : String)
  | recordError (category : ErrorCategory) (text : String)
  | now
  deriving DecidableEq, Repr

abbrev InboundOp.Answer : InboundOp → Type
  | .evaluateInboundPolicy _ => InboundPolicyDecision
  | .hasVerifiedContact _ => Bool
  | .addContactByIdentityID _ _ => Option String
  | .validateInboundContactTrust _ _ => Option InboundContactTrustViolation
  | .notifySecurityAlert _ _ _ => Unit
  | .applyDeviceRevocation _ _ => Option String
  | .validateInboundDeviceAuth _ _ => Option Failure
  | .resolveInboundContent _ _ => (Bytes × ContentType) × Option String
  | .handleInboundGroupMessage _ _ => Unit
  | .handleInboundGroupEvent _ _ => Unit
  | .applyInboundReceiptStatus _ => Unit
  | .persistInboundMessage _ _ => Bool
  | .persistInboundRequest _ => Bool
  | .sendReceiptDelivered _ _ => Option String
  | .recordError _ _ => Unit
  | .now => Time

abbrev Inbound : Type → Type := Calls InboundOp InboundOp.Answer

abbrev InboundCall : Type := Called InboundOp InboundOp.Answer

/-! ## Routing -/

inductive Route where
  | deviceRevocation (rev : DeviceRevocation)
  | groupMessage
  | groupEvent
  | receipt (handling : InboundReceiptHandling)
  | direct
  deriving DecidableEq, Repr

/-- The tests of `processInboundWire` that decide who handles a wire. -/
def route (wire : WirePayload) : Route :=
  match wire.kind, wire.revocation with
  | .deviceRevoke, some rev => .deviceRevocation rev
  | _, _ =>
    if wire.conversationType = "group" then
      if wire.eventType = groupWireEventTypeMessage then .groupMessage else .groupEvent
    else
      let handling := resolveInboundReceiptHandling wire
      if handling.handled then .receipt handling else .direct

/-! ## The service -/

def buildInboundStoredMessage (msg : InboundPrivateMessage) (threadID : String) (content : Bytes)
    (contentType : ContentType) (now : Time) : Message :=
  { id := msg.id, contactID := msg.senderID, conversationID := msg.senderID
    conversationType := .direct, threadID := trimSpace threadID, content := content
    timestamp := now, direction := .inbound, status := .delivered, contentType := contentType
    edited := false }

/-- The zero `WirePayload`. -/
def emptyWire : WirePayload := { kind := .other "" (by decide) }

inductive Decoded where
  | notParsed
  | invalid
  | valid (wire : WirePayload)
  deriving DecidableEq, Repr

abbrev Content : Type := WirePayload × Bytes × ContentType

abbrev ask (op : InboundOp) : Inbound op.Answer := Calls.perform op

section

def recordErr (category : ErrorCategory) : Option String → Inbound Unit
  | none => pure ()
  | some text => ask (.recordError category text)

def shouldAutoAddUnknownSender (decision : InboundPolicyDecision) (senderID : String)
    (wire : WirePayload) : Inbound Bool := do
  let verified ← ask (.hasVerifiedContact senderID)
  return shouldAutoAddUnknownSenderContact decision.reason wire.conversationType verified
    wire.card.isSome

def shouldBypassInboundDevice (decision : InboundPolicyDecision) (senderID : String)
    (wire : WirePayload) : Inbound Bool := do
  let verified ← ask (.hasVerifiedContact senderID)
  return shouldBypassInboundDeviceAuth decision.reason wire.conversationType verified
    wire.card.isSome

/-- The first block of `processInboundWire`: is the sender someone to go on with? -/
def admitSender (msg : InboundPrivateMessage) (decision : InboundPolicyDecision)
    (wire : WirePayload) : Inbound Bool := do
  if ← shouldAutoAddUnknownSender decision msg.senderID wire then
    let err ← ask (.addContactByIdentityID msg.senderID msg.senderID)
    recordErr .crypto err
    return true
  else
    match ← ask (.validateInboundContactTrust msg.senderID wire) with
    | none => return true
    | some violation =>
      recordErr .crypto (some violation.err)
      ask (.notifySecurityAlert violation.alertCode msg.senderID violation.err)
      return false

def authenticateDevice (msg : InboundPrivateMessage) (decision : InboundPolicyDecision)
    (wire : WirePayload) : Inbound Bool := do
  if ← shouldBypassInboundDevice decision msg.senderID wire then return true
  else
    match ← ask (.validateInboundDeviceAuth msg wire) with
    | none => return true
    | some failure =>
      recordErr failure.category (some failure.text)
      return false

/-- The second block: a revocation is signed by the identity key and needs no device. -/
def revokeDevice (msg : InboundPrivateMessage) (rev : DeviceRevocation) :
    Inbound (Option Content) := do
  let err ← ask (.applyDeviceRevocation msg.senderID rev)
  recordErr .crypto err
  return none

/-- What comes after authentication; `none` where nothing is left to be stored. -/
def deliver (msg : InboundPrivateMessage) (wire : WirePayload) : Route → Inbound (Option Content)
  | .deviceRevocation _ => return none
  | .groupMessage => do
    ask (.handleInboundGroupMessage msg wire)
    return none
  | .groupEvent => do
    ask (.handleInboundGroupEvent msg wire)
    return none
  | .receipt handling => do
    if handling.shouldUpdate then ask (.applyInboundReceiptStatus handling)
    return none
  | .direct => do
    let ((content, contentType), decryptErr) ← ask (.resolveInboundContent msg wire)
    recordErr .crypto decryptErr
    return some (wire, content, contentType)

def deliverAuthenticated (msg : InboundPrivateMessage) (decision : InboundPolicyDecision)
    (wire : WirePayload) : Inbound (Option Content) := do
  if ← authenticateDevice msg decision wire then deliver msg wire (route wire)
  else return none

/-- What `processInboundWire` does with a valid wire. -/
def processValidWire (msg : InboundPrivateMessage) (decision : InboundPolicyDecision)
    (wire : WirePayload) : Inbound (Option Content) := do
  if ← admitSender msg decision wire then
    match route wire with
    | .deviceRevocation rev => revokeDevice msg rev
    | _ => deliverAuthenticated msg decision wire
  else return none

def persistInboundAndSendReceipt (msg : InboundPrivateMessage) (content : Content)
    (persist : Message → Inbound Bool) : Inbound Unit := do
  let now ← ask .now
  let (wire, bytes, contentType) := content
  if ← persist (buildInboundStoredMessage msg wire.threadID bytes contentType now) then
    if ← ask (.hasVerifiedContact msg.senderID) then
      let err ← ask (.sendReceiptDelivered msg.senderID msg.id)
      recordErr .network err

variable (json : WireJSON)

def decodeInboundWire (msg : InboundPrivateMessage) : Inbound Decoded :=
  match json.unmarshal msg.payload with
  | none => return .notParsed
  | some wire =>
    match validateWirePayload wire with
    | .error e => do
      recordErr .api (some e.text)
      return .invalid
    | .ok () => return .valid wire

/-- `processInboundWire`; `none` where the message is dealt with. -/
def processInboundWire (msg : InboundPrivateMessage) (decision : InboundPolicyDecision) :
    Inbound (Option Content) := do
  match ← decodeInboundWire json msg with
  | .notParsed => return some (emptyWire, msg.payload, .text)
  | .invalid => return none
  | .valid wire => processValidWire msg decision wire

def requestContent (msg : InboundPrivateMessage) : Inbound (Option Content) := do
  match ← decodeInboundWire json msg with
  | .notParsed => return some (emptyWire, msg.payload, .text)
  | .invalid => return none
  | .valid wire =>
    if (resolveInboundReceiptHandling wire).handled then return none
    else
      let ((content, contentType), decryptErr) ← ask (.resolveInboundContent msg wire)
      recordErr .crypto decryptErr
      return some (wire, content, contentType)

def handleInboundMessageRequest (msg : InboundPrivateMessage) : Inbound Unit := do
  match ← requestContent json msg with
  | none => return ()
  | some content =>
    persistInboundAndSendReceipt msg content fun stored =>
      ask (.persistInboundRequest stored)

def handleIncomingPrivateMessage (msg : InboundPrivateMessage) : Inbound Unit := do
  let decision ← ask (.evaluateInboundPolicy msg.senderID)
  match decision.action with
  | .reject => recordErr .crypto decision.err
  | .queue => handleInboundMessageRequest json msg
  | .accept =>
    match ← processInboundWire json msg decision with
    | none => return ()
    | some content =>
      persistInboundAndSendReceipt msg content fun stored =>
        ask (.persistInboundMessage stored msg.senderID)

end

/-! ## What the blocks call

All blocks but the last ones only ask, check and record. -/

def InboundOp.isBasic : InboundOp → Bool
  | .handleInboundGroupMessage .. => false
  | .handleInboundGroupEvent .. => false
  | .applyInboundReceiptStatus _ => false
  | .persistInboundMessage .. => false
  | .persistInboundRequest _ => false
  | _ => true

abbrev Quiet {α : Type} (p : Inbound α) : Prop := Calls.Only (fun op => op.isBasic = true) p

section

variable {msg : InboundPrivateMessage} {decision : InboundPolicyDecision} {wire : WirePayload}

theorem ask_quiet {op : InboundOp} (h : op.isBasic = true) : Quiet (ask op) :=
  only_perform.mpr h

theorem pure_quiet {α : Type} (a : α) : Quiet (pure a : Inbound α) := trivial

theorem recordErr_quiet (category : ErrorCategory) (err : Option String) :
    Quiet (recordErr category err) := by
  cases err with
  | none => exact pure_quiet ()
  | some text => exact ask_quiet rfl

theorem admitSender_quiet : Quiet (admitSender msg decision wire) := by
  refine ((ask_quiet rfl).bind fun _ => pure_quiet _).bind fun add => ?_
  cases add with
  | true => exact (ask_quiet rfl).bind fun err => (recordErr_quiet _ err).bind fun _ => pure_quiet _
  | false =>
    refine (ask_quiet rfl).bind fun violation => ?_
    cases violation with
    | none => exact pure_quiet _
    | some violation =>
      exact (recordErr_quiet _ _).bind fun _ => (ask_quiet rfl).bind fun _ => pure_quiet _

theorem authenticateDevice_quiet : Quiet (authenticateDevice msg decision wire) := by
  refine ((ask_quiet rfl).bind fun _ => pure_quiet _).bind fun bypass => ?_
  cases bypass with
  | true => exact pure_quiet _
  | false =>
    refine (ask_quiet rfl).bind fun failure => ?_
    cases failure with
    | none => exact pure_quiet _
    | some failure => exact (recordErr_quiet _ _).bind fun _ => pure_quiet _

theorem revokeDevice_quiet (rev : DeviceRevocation) : Quiet (revokeDevice msg rev) :=
  (ask_quiet rfl).bind fun err => (recordErr_quiet _ err).bind fun _ => pure_quiet _

theorem decodeInboundWire_quiet (json : WireJSON) : Quiet (decodeInboundWire json msg) := by
  unfold decodeInboundWire
  split
  · exact pure_quiet _
  · split
    · exact (recordErr_quiet _ _).bind fun _ => pure_quiet _
    · exact pure_quiet _

theorem requestContent_quiet (json : WireJSON) : Quiet (requestContent json msg) := by
  refine (decodeInboundWire_quiet json).bind fun decoded => ?_
  cases decoded with
  | notParsed => exact pure_quiet _
  | invalid => exact pure_quiet _
  | valid wire =>
    dsimp only
    split
    · exact pure_quiet _
    · exact (ask_quiet rfl).bind fun _ => (recordErr_quiet _ _).bind fun _ => pure_quiet _

theorem persistInboundAndSendReceipt_only {S : InboundOp → Prop}
    (hbasic : ∀ op : InboundOp, op.isBasic = true → S op) {content : Content}
    {persist : Message → Inbound Bool} (hpersist : ∀ now, Only S (persist
      (buildInboundStoredMessage msg content.1.threadID content.2.1 content.2.2 now))) :
    Only S (persistInboundAndSendReceipt msg content persist) := by
  refine ⟨hbasic _ rfl, fun now => (hpersist now).bind fun stored => ?_⟩
  cases stored with
  | false => exact trivial
  | true =>
    refine ⟨hbasic _ rfl, fun verified => ?_⟩
    cases verified with
    | false => exact trivial
    | true => exact ⟨hbasic _ rfl, fun err => (recordErr_quiet .network err).mono hbasic⟩

theorem decodeInboundWire_ends {json : WireJSON} {l : List InboundCall} {decoded : Decoded}
    (h : Ends (decodeInboundWire json msg) l decoded) :
    (decoded = .notParsed ∧ json.unmarshal msg.payload = none) ∨ decoded = .invalid ∨
      ∃ wire, decoded = .valid wire ∧ json.unmarshal msg.payload = some wire ∧
        validateWirePayload wire = .ok () := by
  unfold decodeInboundWire at h
  split at h
  · rename_i hnone
    exact .inl ⟨(ends_pure.mp h).2.symm, hnone⟩
  · rename_i wire hsome
    split at h
    · obtain ⟨l₁, -, l₂, -, -, h⟩ := ends_bind.mp h
      exact .inr (.inl (ends_pure.mp h).2.symm)
    · simp_all

theorem deliver_some {r : Route} {l : List InboundCall} {content : Content}
    (h : Ends (deliver msg wire r) l (some content)) : r = .direct := by
  have hnone : ∀ {l : List InboundCall}, ¬ Ends (pure none : Inbound (Option Content)) l
      (some content) := fun h => absurd (ends_pure.mp h).2 (by simp)
  cases r with
  | deviceRevocation rev => exact absurd h hnone
  | groupMessage | groupEvent =>
    obtain ⟨-, l₁, -, h⟩ := ends_perform_bind.mp h
    exact absurd h hnone
  | receipt handling =>
    dsimp only [deliver] at h
    split at h
    · obtain ⟨-, l₁, -, h⟩ := ends_perform_bind.mp h
      exact absurd h hnone
    · exact absurd h hnone
  | direct => rfl

theorem processValidWire_some {l : List InboundCall} {content : Content}
    (h : Ends (processValidWire msg decision wire) l (some content)) :
    ∃ l₁ l₂ l₃, l = l₁ ++ (l₂ ++ l₃) ∧ Ends (admitSender msg decision wire) l₁ true ∧
      Ends (authenticateDevice msg decision wire) l₂ true ∧ route wire = .direct := by
  obtain ⟨l₁, admitted, l₂, rfl, hadmit, hrest⟩ := ends_bind.mp h
  cases admitted with
  | false => exact absurd (ends_pure.mp hrest).2 (by simp)
  | true =>
    rw [if_pos rfl] at hrest
    split at hrest
    · -- a revocation is over once it is applied
      obtain ⟨err, l₃, -, hrest⟩ := ends_perform_bind.mp hrest
      obtain ⟨l₄, -, l₅, -, -, hrest⟩ := ends_bind.mp hrest
      exact absurd (ends_pure.mp hrest).2 (by simp)
    · obtain ⟨l₃, passed, l₄, rfl, hdevice, hrest⟩ := ends_bind.mp hrest
      cases passed with
      | false => exact absurd (ends_pure.mp hrest).2 (by simp)
      | true => exact ⟨l₁, l₃, l₄, rfl, hadmit, hdevice, deliver_some hrest⟩

end

end Ardents.Messaging
