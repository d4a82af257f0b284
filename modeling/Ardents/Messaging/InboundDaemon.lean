import Ardents.Identity.Manager
import Ardents.Messaging.InboundService

/-!
# The daemon around the inbound service

`buildInboundMessagingDeps` ties the calls of the inbound service to the identity manager, the
privacy core, the message store and the inbox of message requests. Here they are functions on a
state that holds these parts.
-/

namespace Ardents.Messaging

open Go
open Crypto (Time)
open Identity (ContactCard Manager Primitives verifyContactCard)

/-! ## Privacy -/

/-- `NormalizeIdentityID`; `none` is its error. -/
def normalizeIdentityID (identityID : String) : Option String :=
  let identityID := trimSpace identityID
  if ¬ (bytesOf "aim1").isPrefixOf (bytesOf identityID) ∨ (bytesOf identityID).length < 12 then none
  else some identityID

/-- `Blocklist.Contains`. -/
def blocklistContains (entries : GoMap String Unit) (identityID : String) : Bool :=
  match normalizeIdentityID identityID with
  | none => false
  | some id => entries.contains id

inductive MessagePrivacyMode where
  | contactsOnly
  | requests
  | everyone
  | invalid
  deriving DecidableEq, Repr

/-- What `NormalizePrivacySettings` does to the mode. -/
def normalizePrivacyMode : MessagePrivacyMode → MessagePrivacyMode
  | .invalid => .everyone
  | mode => mode

def evaluateInboundMessagePolicy (isKnownContact isBlocked : Bool) (mode : MessagePrivacyMode) :
    InboundPolicyAction × InboundPolicyReason :=
  if isBlocked then (.reject, .blockedSender)
  else if isKnownContact then (.accept, .trustedContact)
  else
    match normalizePrivacyMode mode with
    | .requests => (.queue, .unknownMessageReq)
    | .everyone => (.accept, .unknownEveryoneMode)
    | _ => (.reject, .unknownContactsOnly)

def inboundPolicyError : InboundPolicyReason → String
  | .blockedSender => "sender is blocked"
  | .unknownContactsOnly => "sender is not an added contact"
  | .unknownMessageReq => "sender must be accepted through message requests"
  | _ => "inbound message rejected by policy"

/-! ## Trust and devices -/

section

variable (P : Primitives)

/-- The checks on a card that `ValidateInboundContactTrust` makes of every sender. -/
def cardViolation (senderID : String) (card : ContactCard) : Option InboundContactTrustViolation :=
  if card.identityID ≠ senderID then
    some ⟨"contact_card_identity_mismatch", "contact card identity mismatch"⟩
  else
    match verifyContactCard P card with
    | .error e => some ⟨"contact_card_verification_failed", e.text⟩
    | .ok false => some ⟨"contact_card_verification_failed", "contact card verification failed"⟩
    | .ok true => none

/-- `ValidateInboundContactTrust`. The card of an unverified sender makes them a contact. -/
def validateInboundContactTrust (m : Manager) (senderID : String) (wire : WirePayload)
    (now : Time) : Option InboundContactTrustViolation × Manager :=
  if m.hasVerifiedContact senderID then
    match wire.card with
    | none => (none, m)
    | some card =>
      match cardViolation P senderID card with
      | some violation => (some violation, m)
      | none =>
        if ∃ pinnedKey ∈ m.contactPublicKey senderID, pinnedKey ≠ card.publicKey then
          (some ⟨"contact_key_pin_mismatch",
            "contact public key changed for verified contact"⟩, m)
        else (none, m)
  else
    match wire.card with
    | none =>
      (some ⟨"unverified_sender_missing_card",
        "unverified sender did not provide contact card"⟩, m)
    | some card =>
      match cardViolation P senderID card with
      | some violation => (some violation, m)
      | none =>
        match m.addContact P card now with
        | .error e => (some ⟨"contact_key_pin_mismatch", e.text⟩, m)
        | .ok m' => (none, m')

/-- `ValidateInboundDeviceAuth`; the outer `none` is a panic, the inner one success. -/
def validateInboundDeviceAuth (json : WireJSON) (m : Manager) (msg : InboundPrivateMessage)
    (wire : WirePayload) : Option (Option Failure) :=
  match buildWireAuthPayload json msg.id msg.senderID msg.recipient wire with
  | .error e => some (some ⟨.api, e.text⟩)
  | .ok authPayload =>
    match wire.device with
    | none => some (some ⟨.crypto, "missing device authentication"⟩)
    | some device =>
      if wire.deviceSig = [] then some (some ⟨.crypto, "missing device authentication"⟩)
      else
        match m.verifyInboundDevice P msg.senderID device authPayload wire.deviceSig with
        | none => none
        | some (.error e) => some (some ⟨.crypto, e.text⟩)
        | some (.ok ()) => some none

end

/-! ## The daemon -/

inductive Notification where
  | messageNew (contactID : String) (message : Message)
  | messageStatus (messageID contactID status : String)
  | groupMessageNew (groupID : String) (message : Message)
  | requestNew (contactID : String) (message : Message)
  | requestAccepted (contactID : String) (moved : Nat)
  | securityAlert (kind contactID message : String)
  deriving DecidableEq, Repr

/-- The parts of the daemon that inbound messages reach. `γ` is the state of the rest. -/
structure Daemon (γ : Type) where
  identity : Manager
  store : MessageStore
  privacyMode : MessagePrivacyMode
  blocklist : GoMap String Unit
  inbox : GoMap String (List Message)
  /-- Latest first. -/
  notified : List Notification
  /-- What the error counters have counted, latest first. -/
  errors : List ErrorCategory
  rest : γ

structure Surroundings (γ : Type) where
  primitives : Primitives
  json : WireJSON
  now : Time
  /-- Does the disk take a write? Handling a message makes at most one. -/
  written : Bool
  /-- `ResolveInboundContent` on the sessions. -/
  resolve : γ → InboundPrivateMessage → WirePayload →
    ((Bytes × ContentType) × Option String) × γ
  /-- The content of a group message, if its group takes it. -/
  groupMessage : γ → InboundPrivateMessage → WirePayload → Option (Bytes × ContentType) × γ
  groupEvent : γ → InboundPrivateMessage → WirePayload → γ
  /-- Publishing a receipt. -/
  publishReceipt : γ → String → String → Option String × γ

def MessageStatus.ofString : String → MessageStatus
  | "pending" => .pending
  | "sent" => .sent
  | "delivered" => .delivered
  | "read" => .read
  | "failed" => .failed
  | raw => .other raw

def buildInboundGroupStoredMessage (msg : InboundPrivateMessage) (conversationID threadID : String)
    (content : Bytes) (contentType : ContentType) (now : Time) : Message :=
  { id := msg.id, contactID := msg.senderID, conversationID := trimSpace conversationID
    conversationType := .group, threadID := trimSpace threadID, content := content
    timestamp := now, direction := .inbound, status := .delivered, contentType := contentType
    edited := false }

def InboundOp.changesIdentity : InboundOp → Bool
  | .addContactByIdentityID .. => true
  | .validateInboundContactTrust .. => true
  | .applyDeviceRevocation .. => true
  | _ => false

namespace Daemon

variable {γ : Type}

variable (d : Daemon γ)

def isBlockedSender (senderID : String) : Bool :=
  blocklistContains d.blocklist senderID

/-- `evaluateInboundPolicy`, with the error that the wiring adds. -/
def evaluateInboundPolicy (senderID : String) : InboundPolicyDecision :=
  match evaluateInboundMessagePolicy (d.identity.hasContact senderID) (d.isBlockedSender senderID)
      d.privacyMode with
  | (.reject, reason) => ⟨.reject, reason, some (inboundPolicyError reason)⟩
  | (action, reason) => ⟨action, reason, none⟩

def recordError (category : ErrorCategory) : Daemon γ :=
  { d with errors := category :: d.errors }

def notify (notification : Notification) : Daemon γ :=
  { d with notified := notification :: d.notified }

def notifyMessageStatus (messageID status : String) : Daemon γ :=
  match d.store.messages[messageID]? with
  | none => d
  | some msg => d.notify (.messageStatus messageID msg.contactID status)

def updateMessageStatusAndNotify (messageID status : String) (written : Bool) : Daemon γ :=
  match d.store.updateMessageStatus messageID (.ofString status) written with
  | .error _ => d.recordError .storage
  | .ok store => ({ d with store := store }).notifyMessageStatus messageID status

def applyInboundReceiptStatus (handling : InboundReceiptHandling) (written : Bool) : Daemon γ :=
  d.updateMessageStatusAndNotify handling.messageID handling.status written

def persistInboundMessage (msg : Message) (senderID : String) (written : Bool) : Bool × Daemon γ :=
  match d.store.saveMessage msg written with
  | .error .messageIDConflict => (false, d)
  | .error .storage => (false, d.recordError .storage)
  | .ok store => (true, ({ d with store := store }).notify (.messageNew senderID msg))

/-- `persistInboundRequest`. The timestamp is the clock's, so normalising it changes nothing. -/
def persistInboundRequest (msg : Message) (written : Bool) : Bool × Daemon γ :=
  let thread := (d.inbox[msg.contactID]?).getD []
  if thread.any (fun m => m.id = msg.id) then (false, d)
  else if written then
    (true, ({ d with inbox := d.inbox.insert msg.contactID (thread ++ [msg]) }).notify
      (.requestNew msg.contactID msg))
  else (false, d.recordError .storage)

/-- `handleInboundGroupMessage`: a message that its group takes is saved. -/
def handleInboundGroupMessage (S : Surroundings γ) (msg : InboundPrivateMessage)
    (wire : WirePayload) : Daemon γ :=
  match S.groupMessage d.rest msg wire with
  | (none, rest) => { d with rest := rest }
  | (some (content, contentType), rest) =>
    let d := { d with rest := rest }
    let stored := buildInboundGroupStoredMessage msg wire.conversationID wire.threadID content
      contentType S.now
    match d.store.saveMessage stored S.written with
    | .error .messageIDConflict => d
    | .error .storage => d.recordError .storage
    | .ok store =>
      ({ d with store := store }).notify (.groupMessageNew wire.conversationID stored)

/-- `sendReceipt`, to verified contacts only. -/
def sendReceipt (S : Surroundings γ) (contactID messageID : String) : Option String × Daemon γ :=
  if d.identity.hasVerifiedContact contactID then
    let (err, rest) := S.publishReceipt d.rest contactID messageID
    (err, { d with rest := rest })
  else (some "receipt target is not a verified contact", d)

/-- An operation of the identity manager that returns an error, or nothing. -/
def identityCall (result : Except Identity.IdentityError Manager) : Option String × Daemon γ :=
  match result with
  | .error e => (some e.text, d)
  | .ok identity => (none, { d with identity := identity })

/-- `buildInboundMessagingDeps`; no answer is a panic. -/
def answer (S : Surroundings γ) (op : InboundOp) (d : Daemon γ) : Option op.Answer × Daemon γ :=
  match op with
  | .evaluateInboundPolicy senderID => (some (d.evaluateInboundPolicy senderID), d)
  | .hasVerifiedContact senderID => (some (d.identity.hasVerifiedContact senderID), d)
  | .addContactByIdentityID contactID displayName =>
    let (err, d) := d.identityCall
      (d.identity.addContactByIdentityID contactID displayName S.now)
    (some err, d)
  | .validateInboundContactTrust senderID wire =>
    let (violation, identity) :=
      validateInboundContactTrust S.primitives d.identity senderID wire S.now
    (some violation, { d with identity := identity })
  | .notifySecurityAlert kind contactID message =>
    (some (), d.notify (.securityAlert kind contactID message))
  | .applyDeviceRevocation senderID rev =>
    let (err, d) := d.identityCall (d.identity.applyDeviceRevocation S.primitives senderID rev)
    (some err, d)
  | .validateInboundDeviceAuth msg wire =>
    (validateInboundDeviceAuth S.primitives S.json d.identity msg wire, d)
  | .resolveInboundContent msg wire =>
    let (content, rest) := S.resolve d.rest msg wire
    (some content, { d with rest := rest })
  | .handleInboundGroupMessage msg wire => (some (), d.handleInboundGroupMessage S msg wire)
  | .handleInboundGroupEvent msg wire => (some (), { d with rest := S.groupEvent d.rest msg wire })
  | .applyInboundReceiptStatus handling =>
    (some (), d.applyInboundReceiptStatus handling S.written)
  | .persistInboundMessage stored senderID =>
    let (saved, d) := d.persistInboundMessage stored senderID S.written
    (some saved, d)
  | .persistInboundRequest stored =>
    let (saved, d) := d.persistInboundRequest stored S.written
    (some saved, d)
  | .sendReceiptDelivered senderID messageID =>
    let (err, d) := d.sendReceipt S senderID messageID
    (some err, d)
  | .recordError category _ => (some (), d.recordError category)
  | .now => (some S.now, d)

def handleIncomingPrivateMessage (S : Surroundings γ) (d : Daemon γ)
    (msg : InboundPrivateMessage) : Daemon γ :=
  (Calls.exec (answer S) (Messaging.handleIncomingPrivateMessage S.json msg) d).2

theorem answer_frame (S : Surroundings γ) {op : InboundOp} (h : op.changesIdentity = false)
    (d : Daemon γ) : (answer S op d).2.identity = d.identity ∧
      (answer S op d).2.blocklist = d.blocklist := by
  cases op with
  | evaluateInboundPolicy | hasVerifiedContact | notifySecurityAlert
  | validateInboundDeviceAuth | resolveInboundContent | handleInboundGroupEvent | recordError
  | now => exact ⟨rfl, rfl⟩
  | addContactByIdentityID | validateInboundContactTrust | applyDeviceRevocation =>
    exact Bool.noConfusion h
  | handleInboundGroupMessage msg wire =>
    simp only [answer, handleInboundGroupMessage]
    split
    · exact ⟨rfl, rfl⟩
    · split
      · exact ⟨rfl, rfl⟩
      · exact ⟨rfl, rfl⟩
      · exact ⟨rfl, rfl⟩
  | applyInboundReceiptStatus handling =>
    simp only [answer, applyInboundReceiptStatus, updateMessageStatusAndNotify]
    split
    · exact ⟨rfl, rfl⟩
    · unfold notifyMessageStatus
      split
      · exact ⟨rfl, rfl⟩
      · exact ⟨rfl, rfl⟩
  | persistInboundMessage stored senderID =>
    simp only [answer, persistInboundMessage]
    split
    · exact ⟨rfl, rfl⟩
    · exact ⟨rfl, rfl⟩
    · exact ⟨rfl, rfl⟩
  | persistInboundRequest stored =>
    simp only [answer, persistInboundRequest]
    split
    · exact ⟨rfl, rfl⟩
    · split
      · exact ⟨rfl, rfl⟩
      · exact ⟨rfl, rfl⟩
  | sendReceiptDelivered senderID messageID =>
    simp only [answer, sendReceipt]
    split
    · exact ⟨rfl, rfl⟩
    · exact ⟨rfl, rfl⟩

end Daemon

end Ardents.Messaging
