import Ardents.Groups.Domain
import Ardents.Identity.Statements
import Ardents.Messaging.MessageStore

/-!
# Wires

The wire, the checks on its group metadata, and the text that the sending device signs.
`ValidateWirePayload` and `BuildWireAuthPayload` look at the strings with white space trimmed, so
wires that differ in white space only are valid alike and are signed alike.
-/

namespace Ardents.Messaging

open Go
open Crypto (MessageEnvelope Time)
open Identity (ContactCard Device DeviceRevocation)

inductive ErrorCategory where
  | api
  | crypto
  | storage
  | network
  deriving DecidableEq, Repr

structure Failure where
  category : ErrorCategory
  text : String
  deriving DecidableEq, Repr

inductive WireKind where
  | plain
  | e2ee
  | receipt
  | deviceRevoke
  | other (raw : String) (unknown : raw ∉ ["plain", "e2ee", "receipt", "device_revoke"])
  deriving DecidableEq, Repr

structure MessageReceipt where
  messageID : String
  status : String
  timestamp : Time
  deriving DecidableEq, Repr

/-- The zero `MessageEnvelope`, which wires of other kinds carry. -/
def zeroEnvelope : MessageEnvelope :=
  { version := 0, sessionID := "", messageID := "", ratchetPubKey := [], chainIndex := 0
    previousCount := 0, nonce := [], ciphertext := [], sentAt := 0 }

/-- `WirePayload`, with Go's zero values for what is left out. -/
structure WirePayload where
  kind : WireKind
  envelope : MessageEnvelope := zeroEnvelope
  plain : Bytes := []
  padding : String := ""
  conversationID : String := ""
  conversationType : String := ""
  threadID : String := ""
  eventID : String := ""
  eventType : String := ""
  membershipVersion : UInt64 := 0
  groupKeyVersion : UInt32 := 0
  senderDeviceID : String := ""
  card : Option ContactCard := none
  receipt : Option MessageReceipt := none
  device : Option Device := none
  deviceSig : Bytes := []
  revocation : Option DeviceRevocation := none
  deriving DecidableEq, Repr

def newPlainWire (content : Bytes) : WirePayload := { kind := .plain, plain := content }

def newReceiptWire (messageID status : String) (now : Time) : WirePayload :=
  { kind := .receipt, receipt := some ⟨messageID, status, now⟩ }

/-! ## Validation -/

inductive WireError where
  | invalidGroupWirePayload
  /-- The signed text cannot be written as JSON. -/
  | marshal (text : String)
  deriving DecidableEq, Repr

def WireError.text : WireError → String
  | .invalidGroupWirePayload => "invalid group wire payload"
  | .marshal text => text

namespace WirePayload

def hasGroupMetadata (wire : WirePayload) : Prop :=
  trimSpace wire.eventID ≠ "" ∨ trimSpace wire.eventType ≠ "" ∨ wire.membershipVersion > 0 ∨
    wire.groupKeyVersion > 0 ∨ trimSpace wire.senderDeviceID ≠ ""

instance (wire : WirePayload) : Decidable wire.hasGroupMetadata :=
  inferInstanceAs (Decidable (_ ∨ _ ∨ _ ∨ _ ∨ _))

/-- What `ValidateWirePayload` treats as a group wire. -/
def isGroup (wire : WirePayload) : Prop :=
  trimSpace wire.conversationType = "group" ∨ wire.hasGroupMetadata

instance (wire : WirePayload) : Decidable wire.isGroup :=
  inferInstanceAs (Decidable (_ ∨ _))

end WirePayload

def groupWireEventTypeMessage : String := "message"

def validateWirePayload (wire : WirePayload) : Except WireError Unit :=
  let conversationType := trimSpace wire.conversationType
  if conversationType ≠ "" ∧ conversationType ≠ "direct" ∧ conversationType ≠ "group" then
    .error .invalidGroupWirePayload
  else if ¬ wire.isGroup then .ok ()
  else if conversationType ≠ "group" then .error .invalidGroupWirePayload
  else if trimSpace wire.conversationID = "" then .error .invalidGroupWirePayload
  else if trimSpace wire.eventID = "" then .error .invalidGroupWirePayload
  else if trimSpace wire.senderDeviceID = "" then .error .invalidGroupWirePayload
  else if wire.membershipVersion = 0 then .error .invalidGroupWirePayload
  else if trimSpace wire.eventType = groupWireEventTypeMessage then
    if wire.groupKeyVersion = 0 then .error .invalidGroupWirePayload else .ok ()
  else
    match Groups.parseGroupEventType (trimSpace wire.eventType) with
    | .error _ => .error .invalidGroupWirePayload
    | .ok _ => .ok ()

/-! ## What a device signs -/

structure WireAuth where
  messageID : String
  senderID : String
  recipient : String
  kind : WireKind
  conversationID : String
  conversationType : String
  threadID : String
  eventID : String
  eventType : String
  membershipVersion : UInt64
  groupKeyVersion : UInt32
  senderDeviceID : String
  envelope : MessageEnvelope
  plain : Bytes
  card : Option ContactCard
  receipt : Option MessageReceipt
  revocation : Option DeviceRevocation
  deriving DecidableEq, Repr

/-- JSON as the messaging code uses it. Texts that are written are different for different
fields. -/
structure WireJSON where
  /-- `json.Marshal` of the signed fields. -/
  marshalAuth : WireAuth → Except String Bytes
  /-- `json.Unmarshal` into a wire. -/
  unmarshal : Bytes → Option WirePayload
  marshalAuth_inj : ∀ a b text, marshalAuth a = .ok text → marshalAuth b = .ok text → a = b

def wireAuth (messageID senderID recipient : String) (wire : WirePayload) : WireAuth :=
  { messageID := messageID, senderID := senderID, recipient := recipient, kind := wire.kind
    conversationID := trimSpace wire.conversationID
    conversationType := trimSpace wire.conversationType
    threadID := trimSpace wire.threadID
    eventID := trimSpace wire.eventID
    eventType := trimSpace wire.eventType
    membershipVersion := wire.membershipVersion
    groupKeyVersion := wire.groupKeyVersion
    senderDeviceID := trimSpace wire.senderDeviceID
    envelope := wire.envelope, plain := wire.plain, card := wire.card, receipt := wire.receipt
    revocation := wire.revocation }

/-- JSON with a text for one record of signed fields, which reads one payload. -/
def WireJSON.only (signed : WireAuth) (wire : WirePayload) : WireJSON :=
  { marshalAuth := fun auth => if auth = signed then .ok [2] else .error "not needed"
    unmarshal := fun payload => if payload = [1] then some wire else none
    marshalAuth_inj := by
      intro a b text ha hb
      split at ha
      · split at hb
        · rename_i ha' hb'
          exact ha'.trans hb'.symm
        · exact absurd hb (by simp)
      · exact absurd ha (by simp) }

def buildWireAuthPayload (json : WireJSON) (messageID senderID recipient : String)
    (wire : WirePayload) : Except WireError Bytes :=
  match validateWirePayload wire with
  | .error e => .error e
  | .ok () =>
    match json.marshalAuth (wireAuth messageID senderID recipient wire) with
    | .error e => .error (.marshal e)
    | .ok text => .ok text

theorem buildWireAuthPayload_ok {json : WireJSON} {messageID senderID recipient : String}
    {wire : WirePayload} {text : Bytes}
    (h : buildWireAuthPayload json messageID senderID recipient wire = .ok text) :
    validateWirePayload wire = .ok () ∧
      json.marshalAuth (wireAuth messageID senderID recipient wire) = .ok text := by
  grind [buildWireAuthPayload]

theorem buildWireAuthPayload_inj {json : WireJSON} {messageID senderID recipient : String}
    {w w' : WirePayload} {text : Bytes}
    (h : buildWireAuthPayload json messageID senderID recipient w = .ok text)
    (h' : buildWireAuthPayload json messageID senderID recipient w' = .ok text) :
    wireAuth messageID senderID recipient w = wireAuth messageID senderID recipient w' :=
  json.marshalAuth_inj _ _ _ (buildWireAuthPayload_ok h).2 (buildWireAuthPayload_ok h').2

/-! ## Receipts -/

def shouldApplyReceiptStatus (status : String) : Bool := status = "delivered" || status = "read"

structure InboundReceiptHandling where
  handled : Bool
  shouldUpdate : Bool
  messageID : String
  status : String
  deriving DecidableEq, Repr

def resolveInboundReceiptHandling (wire : WirePayload) : InboundReceiptHandling :=
  match wire.kind, wire.receipt with
  | .receipt, some receipt =>
    if shouldApplyReceiptStatus receipt.status then
      ⟨true, true, receipt.messageID, receipt.status⟩
    else ⟨true, false, "", ""⟩
  | _, _ => ⟨false, false, "", ""⟩

theorem resolveInboundReceiptHandling_handled {wire : WirePayload} :
    (resolveInboundReceiptHandling wire).handled = true ↔
      wire.kind = .receipt ∧ wire.receipt ≠ none := by
  unfold resolveInboundReceiptHandling
  split
  · grind
  · rename_i hnot
    constructor
    · intro h
      exact absurd h (by simp)
    · rintro ⟨hkind, hreceipt⟩
      obtain ⟨receipt, hsome⟩ := Option.ne_none_iff_exists'.mp hreceipt
      exact absurd hsome (hnot receipt hkind)

end Ardents.Messaging
