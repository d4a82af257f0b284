import Ardents.Crypto.SessionManager
import Ardents.Messaging.Wire

/-!
# Sending direct messages

The outbound path of the messaging service and of the daemon around it: building
the wire for a message, `sendMessageWithThread`, the first publish, and the loop
that tries pending messages again.
-/

namespace Ardents.Messaging

open Go
open Crypto
open Identity (ContactCard)

/-! ## Building a wire -/

inductive BuildError where
  | session (e : SessionError)
  | outboundSessionRequired
  deriving DecidableEq, Repr

def BuildError.text : BuildError → String
  | .session e => e.text
  | .outboundSessionRequired => "outbound session is required"

section

variable (P : Primitives) {σ : Type} [SessionStore σ]

/-- `Encrypt` wrapped into a wire. -/
def e2eeWire (sessions : σ) (msg : Message) (inp : EncryptInputs) :
    Except BuildError (WirePayload × σ) :=
  match encrypt P sessions msg.contactID msg.content inp with
  | .error e => .error (.session e)
  | .ok (env, sessions') =>
    .ok ({ kind := .e2ee, envelope := env }, sessions')

def buildWireForOutboundMessage (sessions : σ) (msg : Message) (inp : EncryptInputs) :
    Except BuildError (WirePayload × σ) :=
  if msg.contentType = .e2ee then e2eeWire P sessions msg inp
  else
    match SessionStore.get sessions msg.contactID with
    | .error e => .error (.session e)
    | .ok none => .error .outboundSessionRequired
    | .ok (some _) => e2eeWire P sessions msg inp

/-- `BuildStoredMessageWire`; without a session the message goes out in the clear, with a card. -/
def buildStoredMessageWire (sessions : σ) (msg : Message) (inp : EncryptInputs)
    (selfCard : Option ContactCard) : Except Failure (WirePayload × σ) :=
  match buildWireForOutboundMessage P sessions msg inp with
  | .error .outboundSessionRequired =>
    match selfCard with
    | none => .error ⟨.crypto, BuildError.outboundSessionRequired.text⟩
    | some card =>
      .ok ({ newPlainWire msg.content with
        threadID := trimSpace msg.threadID, card := some card }, sessions)
  | .error e => .error ⟨.crypto, e.text⟩
  | .ok (wire, sessions') => .ok ({ wire with threadID := trimSpace msg.threadID }, sessions')

/-- `ResolveInboundContent`: what the receiving end makes of a wire. -/
def resolveInboundContent (sessions : σ) (senderID : String) (payload : Bytes)
    (wire : WirePayload) (now : Time) : (Bytes × ContentType) × σ :=
  match wire.kind with
  | .plain => ((wire.plain, .text), sessions)
  | .e2ee =>
    match decrypt P sessions senderID wire.envelope now with
    | .error _ => ((payload, .e2eeUnreadable), sessions)
    | .ok (plaintext, sessions') => ((plaintext, .e2ee), sessions')
  | _ => ((payload, .text), sessions)

end

/-! ## Sending a message -/

inductive SendError where
  | invalidInput
  | contactNotAdded
  | build (f : Failure)
  | generateID
  | store (e : StoreError)
  | noUniqueID
  | publish (f : Failure)
  deriving DecidableEq, Repr

/-- `ValidateSendMessageInput`: the trimmed contact and content, neither empty. -/
def validateSendMessageInput (contactID content : String) : Except SendError (String × String) :=
  let contactID := trimSpace contactID
  let content := trimSpace content
  if contactID = "" ∨ content = "" then .error .invalidInput else .ok (contactID, content)

def newOutboundMessage (messageID contactID content : String) (now : Time) : Message :=
  { id := messageID, contactID := contactID, conversationID := contactID
    conversationType := .direct, threadID := "", content := bytesOf content, timestamp := now
    direction := .outbound, status := .pending, contentType := .text, edited := false }

/-- The rounds of `AllocateOutboundMessage`: a generated id, the clock, and whether the store
could write. -/
def allocateOutboundMessage (store : MessageStore) (contactID content threadID : String) :
    List (Option String × Time × Bool) → Except SendError (Message × MessageStore)
  | [] => .error .noUniqueID
  | (none, _, _) :: _ => .error .generateID
  | (some msgID, now, written) :: rest =>
    let msg := { newOutboundMessage msgID contactID content now with
      threadID := trimSpace threadID }
    match store.saveMessage msg written with
    | .ok store' => .ok (msg, store')
    | .error .messageIDConflict => allocateOutboundMessage store contactID content threadID rest
    | .error e => .error (.store e)

structure PublishInputs where
  /-- The rounds of id allocation, of which at most three are used. -/
  rounds : List (Option String × Time × Bool)
  outcome : Except Failure Unit
  now : Time
  statusWritten : Bool
  pendingWritten : Bool

def markMessageAsSent (store : MessageStore) (messageID : String) (inp : PublishInputs) :
    MessageStore :=
  let store := recorded store (store.updateMessageStatus messageID .sent inp.statusWritten)
  recorded store (store.removePending messageID inp.pendingWritten)

/-- `publishQueuedMessage`: a network failure queues the message, any other is returned. -/
def publishQueuedMessage (store : MessageStore) (msg : Message) (inp : PublishInputs) :
    Except SendError String × MessageStore :=
  match inp.outcome with
  | .ok () => (.ok msg.id, markMessageAsSent store msg.id inp)
  | .error f =>
    if f.category = .network then
      match store.addOrUpdatePending msg 1 (nextRetryTime inp.now 1) f.text
          inp.pendingWritten with
      | .error e => (.error (.store e), store)
      | .ok store' => (.ok msg.id, store')
    else (.error (.publish f), store)

def handleRetryPublishError (store : MessageStore) (p : PendingMessage) (f : Failure)
    (inp : PublishInputs) : MessageStore :=
  let nextCount := p.retryCount + 1
  if nextCount > 8 then
    let store := recorded store (store.updateMessageStatus p.message.id .failed inp.statusWritten)
    recorded store (store.removePending p.message.id inp.pendingWritten)
  else
    recorded store (store.addOrUpdatePending p.message nextCount
      (nextRetryTime inp.now nextCount) f.text inp.pendingWritten)

/-! ## The service at work

Sends and the retry loop run in goroutines of their own. A send and each round of
the loop have two parts, the second of which starts when the wire is built and ends
when it is published; other goroutines run in between.
-/

inductive Attempt where
  | send (contactID content threadID : String) (wire : WirePayload)
  | retry (p : PendingMessage) (wire : WirePayload)
  deriving DecidableEq

namespace Attempt

def recipient : Attempt → String
  | .send contactID _ _ _ => contactID
  | .retry p _ => p.message.contactID

def content : Attempt → Bytes
  | .send _ content _ _ => bytesOf content
  | .retry p _ => p.message.content

def wire : Attempt → WirePayload
  | .send _ _ _ wire => wire
  | .retry _ wire => wire

def isRetry : Attempt → Bool
  | .send .. => false
  | .retry .. => true

end Attempt

structure BuildInputs where
  hasContact : Bool
  now : Time
  encryption : EncryptInputs
  selfCard : Option ContactCard

section

variable (P : Primitives) {σ : Type} [SessionStore σ]

/-- The first part of `sendMessageWithThread`: checks, and the wire, built for a draft. -/
def beginSend (sessions : σ) (contactID content threadID : String) (inp : BuildInputs) :
    Except SendError (Attempt × σ) :=
  match validateSendMessageInput contactID content with
  | .error e => .error e
  | .ok (contactID, content) =>
    if inp.hasContact = false then .error .contactNotAdded
    else
      let draft := { newOutboundMessage "draft" contactID content inp.now with
        threadID := threadID }
      match buildStoredMessageWire P sessions draft inp.encryption inp.selfCard with
      | .error f => .error (.build f)
      | .ok (wire, sessions') => .ok (.send contactID content threadID wire, sessions')

/-- The first part of a round of `ProcessPendingMessages`. -/
def beginRetry (sessions : σ) (p : PendingMessage) (inp : BuildInputs) :
    Except Failure (Attempt × σ) :=
  match buildStoredMessageWire P sessions p.message inp.encryption inp.selfCard with
  | .error f => .error f
  | .ok (wire, sessions') => .ok (.retry p wire, sessions')

end

/-- The message store and the loop that works through its pending messages. -/
structure Outbox where
  store : MessageStore
  /-- What is left of the batch the loop is working through. -/
  batch : List PendingMessage
  /-- The batch is that of `recoverPendingOnStartup`, whose error handler only records. -/
  recovering : Bool

namespace Outbox

def onPublishError (o : Outbox) (p : PendingMessage) (f : Failure) (inp : PublishInputs) :
    MessageStore :=
  if o.recovering then o.store else handleRetryPublishError o.store p f inp

/-- The second part of an attempt: whether its wire was published, and the store after it. -/
def finish (o : Outbox) (inp : PublishInputs) : Attempt → Bool × MessageStore
  | .send contactID content threadID _ =>
    match allocateOutboundMessage o.store contactID content threadID (inp.rounds.take 3) with
    | .error _ => (false, o.store)
    | .ok (msg, store) => (inp.outcome.toBool, (publishQueuedMessage store msg inp).2)
  | .retry p _ =>
    match inp.outcome with
    | .ok () => (true, markMessageAsSent o.store p.message.id inp)
    | .error f => (false, o.onPublishError p f inp)

end Outbox

end Ardents.Messaging
