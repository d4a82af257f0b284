import Ardents.Go.Map
import Ardents.Crypto.Keys

/-!
# Sessions and what `Encrypt` and `Decrypt` do to them

The bodies of `Encrypt` and `Decrypt`, between the `Get` that loads a session and the `Save` that
stores it again. A session record is generic in what stands for its `SkippedKeys` map: a value
where a store hands out copies, a reference where it hands out the map itself. `decryptState` also
returns what the map holds when it is done: `Decrypt` writes into the map before it knows whether
the message is genuine, so the contents can change on a call that fails.
-/

namespace Ardents.Crypto

open Go

/-- An instant, in nanoseconds; `0` is Go's zero `time.Time`. -/
abbrev Time : Type := Int

inductive SessionError where
  | invalidPeerKey
  | invalidContact
  | sessionNotFound
  | replayDetected
  | invalidChainIndex
  | invalidVersion
  | missingIdentifiers
  | invalidEnvelopePayload
  | sessionMismatch
  -- reported by the primitives and by the store
  | badKeyLength
  | authenticationFailed
  | randomUnavailable
  | storage
  deriving DecidableEq, Repr

/-- The text of each error; the last four belong to code outside the package. -/
def SessionError.text : SessionError → String
  | .invalidPeerKey => "invalid peer key"
  | .invalidContact => "invalid contact id"
  | .sessionNotFound => "session not found"
  | .replayDetected => "replay detected"
  | .invalidChainIndex => "invalid chain index"
  | .invalidVersion => "invalid version"
  | .missingIdentifiers => "missing identifiers"
  | .invalidEnvelopePayload => "invalid envelope payload"
  | .sessionMismatch => "session mismatch"
  | .badKeyLength => "chacha20poly1305: bad key length"
  | .authenticationFailed => "chacha20poly1305: message authentication failed"
  | .randomUnavailable => "random source unavailable"
  | .storage => "storage failure"

def maxSeenMessageIDs : Nat := 1024
def maxSkippedChainGap : UInt64 := 512
def maxSkippedMessageKey : Nat := 2048

/-- The contents of a `SkippedKeys` map: message keys by chain index. -/
abbrev SkippedKeys : Type := GoMap UInt64 Bytes

/-- `SessionState`, with `K` for its `SkippedKeys` field. -/
structure SessionRecord (K : Type) where
  sessionID : String
  contactID : String
  peerPublicKey : Bytes
  rootKey : Bytes
  sendChainKey : Bytes
  recvChainKey : Bytes
  sendChainIndex : UInt64
  recvChainIndex : UInt64
  seenMessageIDs : List String
  skippedKeys : K
  createdAt : Time
  updatedAt : Time

abbrev SessionState : Type := SessionRecord SkippedKeys

def SessionRecord.withKeys {K L : Type} (st : SessionRecord K) (keys : L) : SessionRecord L :=
  { st with skippedKeys := keys }

structure MessageEnvelope where
  version : UInt8
  sessionID : String
  messageID : String
  ratchetPubKey : Bytes
  chainIndex : UInt64
  previousCount : UInt64
  nonce : Bytes
  ciphertext : Bytes
  sentAt : Time
  deriving DecidableEq, Repr

def validateEnvelope (env : MessageEnvelope) : Except SessionError Unit :=
  if env.version = 0 then .error .invalidVersion
  else if env.sessionID = "" ∨ env.messageID = "" then .error .missingIdentifiers
  else if env.ratchetPubKey.length = 0 ∨ env.nonce.length ≠ nonceSizeX
      ∨ env.ciphertext.length = 0 then .error .invalidEnvelopePayload
  else .ok ()

def seen (list : List String) (value : String) : Bool := list.contains value

def appendSeen (list : List String) (value : String) (max : Nat) : List String :=
  let list := list ++ [value]
  if list.length ≤ max then list else list.drop (list.length - max)

/-! ## The skipped keys -/

/-- The second loop of `pruneSkippedKeys`: drop the smallest index until `max` remain. -/
def evictOldest (max : Nat) : Nat → SkippedKeys → SkippedKeys
  | 0, keys => keys
  | fuel + 1, keys =>
    if keys.size > max then
      match keys.minKey? with
      | none => keys
      | some minIdx => evictOldest max fuel (keys.erase minIdx)
    else keys

/-- `pruneSkippedKeys`. The addition is on `uint64` and wraps. -/
def pruneSkippedKeys (keys : SkippedKeys) (recvChainIndex : UInt64) (max : Nat) : SkippedKeys :=
  if keys.size = 0 then keys
  else
    let kept := keys.filter fun idx _ => !decide (idx + maxSkippedChainGap < recvChainIndex)
    evictOldest max kept.size kept

section

variable (P : Primitives)

/-- The derivation loop of `Decrypt`: chain key, index and map after it has run up to `target`. -/
def skipForward (target : UInt64) :
    Nat → Bytes → UInt64 → SkippedKeys → Bytes × UInt64 × SkippedKeys
  | 0, chainKey, index, keys => (chainKey, index, keys)
  | fuel + 1, chainKey, index, keys =>
    if index < target then
      let derived := deriveMessageKey P chainKey index
      skipForward target fuel derived.2 (index + 1) (keys.insert index derived.1)
    else (chainKey, index, keys)

/-- `NewX` and `Open` on an envelope, under a session's id. -/
def openEnvelope (key : Bytes) (sessionID : String) (env : MessageEnvelope) :
    Except SessionError Bytes :=
  if key.length ≠ keySize then .error .badKeyLength
  else
    match P.aeadOpen key env.nonce env.ciphertext
        (envelopeAAD sessionID env.messageID env.chainIndex) with
    | none => .error .authenticationFailed
    | some plaintext => .ok plaintext

/--
The body of `Decrypt` once the envelope is valid and the session is loaded: the
contents of the `SkippedKeys` map afterwards, and the session to save with the
plaintext, or the error.
-/
def decryptState (st : SessionState) (env : MessageEnvelope) (now : Time) :
    SkippedKeys × Except SessionError (SessionState × Bytes) :=
  if env.sessionID ≠ st.sessionID then (st.skippedKeys, .error .sessionMismatch)
  else if seen st.seenMessageIDs env.messageID then (st.skippedKeys, .error .replayDetected)
  else
    match st.skippedKeys[env.chainIndex]? with
    | some skippedKey =>
      match openEnvelope P skippedKey st.sessionID env with
      | .error e => (st.skippedKeys, .error e)
      | .ok plaintext =>
        let keys := st.skippedKeys.erase env.chainIndex
        (keys, .ok ({ st with
          skippedKeys := keys
          seenMessageIDs := appendSeen st.seenMessageIDs env.messageID maxSeenMessageIDs
          updatedAt := now }, plaintext))
    | none =>
      if env.chainIndex < st.recvChainIndex then (st.skippedKeys, .error .invalidChainIndex)
      else if env.chainIndex - st.recvChainIndex > maxSkippedChainGap then
        (st.skippedKeys, .error .invalidChainIndex)
      else
        let (chainKey, index, keys) := skipForward P env.chainIndex
          (env.chainIndex - st.recvChainIndex).toNat
          st.recvChainKey st.recvChainIndex st.skippedKeys
        let keys := pruneSkippedKeys keys st.recvChainIndex maxSkippedMessageKey
        let (msgKey, nextChainKey) := deriveMessageKey P chainKey index
        match openEnvelope P msgKey st.sessionID env with
        | .error e => (keys, .error e)
        | .ok plaintext =>
          let next := env.chainIndex + 1
          let keys := pruneSkippedKeys keys next maxSkippedMessageKey
          (keys, .ok ({ st with
            recvChainKey := nextChainKey
            recvChainIndex := next
            seenMessageIDs := appendSeen st.seenMessageIDs env.messageID maxSeenMessageIDs
            skippedKeys := keys
            updatedAt := now }, plaintext))

/-! ## Sending -/

/-- A nonce drawn by `rand.Read`. -/
abbrev Nonce : Type := { b : Bytes // b.length = nonceSizeX }

/-- What one call of `Encrypt` reads from its environment: the clock and the random source. -/
structure EncryptInputs where
  unixNano : Int
  nonce : Option Nonce
  sentAt : Time
  updatedAt : Time

/-- The message id `dr_<nanoseconds>_<index>`. -/
def messageIDFor (unixNano : Int) (idx : UInt64) : String :=
  "dr_" ++ toString unixNano ++ "_" ++ toString idx.toNat

/-- The body of `Encrypt`: the session to save, and the envelope to return once it is saved. -/
def encryptState {K : Type} (st : SessionRecord K) (plaintext : Bytes) (inp : EncryptInputs) :
    Except SessionError (SessionRecord K × MessageEnvelope) :=
  let messageID := messageIDFor inp.unixNano st.sendChainIndex
  let (msgKey, nextChainKey) := deriveMessageKey P st.sendChainKey st.sendChainIndex
  match inp.nonce with
  | none => .error .randomUnavailable
  | some nonce =>
    if msgKey.length ≠ keySize then .error .badKeyLength
    else
      let ad := envelopeAAD st.sessionID messageID st.sendChainIndex
      let ciphertext := P.aeadSeal msgKey nonce.1 plaintext ad
      let env : MessageEnvelope := {
        version := 1
        sessionID := st.sessionID
        messageID := messageID
        ratchetPubKey := deriveRatchetPubKey P st.rootKey st.sendChainIndex
        chainIndex := st.sendChainIndex
        previousCount := st.recvChainIndex
        nonce := nonce.1
        ciphertext := ciphertext
        sentAt := inp.sentAt }
      .ok ({ st with
        sendChainIndex := st.sendChainIndex + 1
        sendChainKey := nextChainKey
        updatedAt := inp.updatedAt }, env)

/-- The session `InitSession` builds. -/
def newSession {K : Type} (localIdentityID contactID : String) (peerPublicKey : Bytes)
    (noKeys : K) (now : Time) : SessionRecord K :=
  let rootKey := deriveRootKey P localIdentityID contactID peerPublicKey
  let chains := deriveInitialChainKeys P rootKey localIdentityID contactID
  { sessionID := buildSessionID P localIdentityID contactID peerPublicKey
    contactID := contactID
    peerPublicKey := peerPublicKey
    rootKey := rootKey
    sendChainKey := chains.1
    recvChainKey := chains.2
    sendChainIndex := 0
    recvChainIndex := 0
    seenMessageIDs := []
    skippedKeys := noKeys
    createdAt := now
    updatedAt := now }

/-- The checks `InitSession` makes on its arguments. -/
def checkInitSession (contactID : String) (peerPublicKey : Bytes) : Except SessionError Unit :=
  if contactID = "" then .error .invalidContact
  else if peerPublicKey.length ≠ 32 then .error .invalidPeerKey
  else .ok ()

end

end Ardents.Crypto
