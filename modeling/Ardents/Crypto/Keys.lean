import Ardents.Go.Text

/-!
# Key derivation for direct sessions

The derivations of `internal/crypto/session.go`. Two ends that share a 32-byte key derive one root
key, and from it a chain key for each direction. A chain key at position `n` yields the message
key for `n` and the chain key for `n + 1`.
-/

namespace Ardents.Crypto

open Go

structure Primitives where
  /-- SHA-256. -/
  sha256 : Bytes → Bytes
  /-- `kdf32 input info`: 32 bytes of HKDF-SHA256 with no salt. -/
  kdf32 : Bytes → Bytes → Bytes
  /-- `Seal` of XChaCha20-Poly1305: key, nonce, plaintext, associated data. -/
  aeadSeal : Bytes → Bytes → Bytes → Bytes → Bytes
  /-- `Open`: key, nonce, ciphertext, associated data; `none` when authentication fails. -/
  aeadOpen : Bytes → Bytes → Bytes → Bytes → Option Bytes
  /-- The output of the key derivation has the length of a key. -/
  kdf32_length : ∀ input info, (kdf32 input info).length = 32
  /-- A ciphertext carries a tag, so it is never empty. -/
  seal_ne_nil : ∀ key nonce plaintext ad, aeadSeal key nonce plaintext ad ≠ []
  /-- Opening undoes sealing. -/
  open_seal : ∀ key nonce plaintext ad,
    aeadOpen key nonce (aeadSeal key nonce plaintext ad) ad = some plaintext

/-- `chacha20poly1305.NonceSizeX`. -/
def nonceSizeX : Nat := 24

/-- `chacha20poly1305.KeySize`. -/
def keySize : Nat := 32

/-- `hex.EncodeToString`. -/
def hexEncode (b : Bytes) : String :=
  String.ofList (b.flatMap fun x => [Nat.digitChar (x.toNat / 16), Nat.digitChar (x.toNat % 16)])

/-- `normalizeIDs`: the two identities in byte order, which for UTF-8 is code-point order. -/
def normalizeIDs (a b : String) : String × String := if a ≤ b then (a, b) else (b, a)

theorem normalizeIDs_comm (a b : String) : normalizeIDs a b = normalizeIDs b a := by
  grind [normalizeIDs]

def appendUint64Suffix (base : Bytes) (idx : UInt64) : Bytes := base ++ bigEndian64 idx

theorem appendUint64Suffix_inj {a b : Bytes} {i j : UInt64}
    (h : appendUint64Suffix a i = appendUint64Suffix b j) : a = b ∧ i = j := by
  obtain ⟨h1, h2⟩ := List.append_inj' h (by simp)
  exact ⟨h1, bigEndian64_inj h2⟩

/-- `envelopeAAD`: the data a message authenticates besides its ciphertext. -/
def envelopeAAD (sessionID messageID : String) (chainIndex : UInt64) : Bytes :=
  bytesOf sessionID ++ [0] ++ bytesOf messageID ++ [0] ++ bigEndian64 chainIndex

theorem envelopeAAD_inj {sid m m' : String} {i j : UInt64}
    (h : envelopeAAD sid m i = envelopeAAD sid m' j) : m = m' ∧ i = j := by
  obtain ⟨h1, h2⟩ := List.append_inj' h (by simp)
  have h3 := List.append_inj_left' h1 (by simp)
  have h4 := List.append_cancel_left h3
  exact ⟨bytesOf_inj h4, bigEndian64_inj h2⟩

section

variable (P : Primitives)

def buildSessionID (localIdentityID contactID : String) (peerPublicKey : Bytes) : String :=
  let ids := normalizeIDs localIdentityID contactID
  let h := P.sha256 (bytesOf (ids.1 ++ ":" ++ ids.2 ++ ":") ++ peerPublicKey)
  "sess1_" ++ hexEncode (h.take 16)

def deriveRootKey (localIdentityID contactID : String) (peerPublicKey : Bytes) : Bytes :=
  let ids := normalizeIDs localIdentityID contactID
  let salt := bytesOf (ids.1 ++ ":" ++ ids.2)
  P.kdf32 peerPublicKey (bytesOf "aim/session/root/v1|" ++ salt)

/-- `deriveInitialChainKeys`: the sending and the receiving chain key of this end. -/
def deriveInitialChainKeys (rootKey : Bytes) (localID contactID : String) : Bytes × Bytes :=
  let a2b := P.kdf32 rootKey (bytesOf "aim/ratchet/chain/a2b/v1")
  let b2a := P.kdf32 rootKey (bytesOf "aim/ratchet/chain/b2a/v1")
  let idA := (normalizeIDs localID contactID).1
  if localID = idA then (a2b, b2a) else (b2a, a2b)

/-- `deriveMessageKey`: the message key at a position and the chain key after it. -/
def deriveMessageKey (chainKey : Bytes) (idx : UInt64) : Bytes × Bytes :=
  let seed := appendUint64Suffix chainKey idx
  (P.kdf32 seed (bytesOf "aim/ratchet/message-key/v1"),
    P.kdf32 seed (bytesOf "aim/ratchet/chain-key/v1"))

def deriveRatchetPubKey (rootKey : Bytes) (idx : UInt64) : Bytes :=
  P.kdf32 (appendUint64Suffix rootKey idx) (bytesOf "aim/ratchet/pubkey/v1")

/-! ## Both ends derive the same things -/

theorem buildSessionID_comm (a b : String) (k : Bytes) :
    buildSessionID P a b k = buildSessionID P b a k := by
  unfold buildSessionID
  rw [normalizeIDs_comm]

theorem deriveRootKey_comm (a b : String) (k : Bytes) :
    deriveRootKey P a b k = deriveRootKey P b a k := by
  unfold deriveRootKey
  rw [normalizeIDs_comm]

theorem deriveInitialChainKeys_swap (root : Bytes) {a b : String} (hab : a ≠ b) :
    deriveInitialChainKeys P root b a = (deriveInitialChainKeys P root a b).swap := by
  grind [deriveInitialChainKeys, normalizeIDs]

/-! ## Positions on a chain -/

/-- The chain key at position `n` of the chain that starts at `ck`. -/
def chainKeyAt (ck : Bytes) : Nat → Bytes
  | 0 => ck
  | n + 1 => (deriveMessageKey P (chainKeyAt ck n) (UInt64.ofNat n)).2

/-- The message key at position `n` of the chain that starts at `ck`. -/
def messageKeyAt (ck : Bytes) (n : Nat) : Bytes :=
  (deriveMessageKey P (chainKeyAt P ck n) (UInt64.ofNat n)).1

theorem deriveMessageKey_at (ck : Bytes) (i : UInt64) :
    deriveMessageKey P (chainKeyAt P ck i.toNat) i
      = (messageKeyAt P ck i.toNat, chainKeyAt P ck (i.toNat + 1)) := by
  simp only [messageKeyAt, chainKeyAt, UInt64.ofNat_toNat, Prod.mk.eta]

theorem messageKeyAt_length (ck : Bytes) (n : Nat) : (messageKeyAt P ck n).length = keySize :=
  P.kdf32_length _ _

theorem deriveMessageKey_length (ck : Bytes) (i : UInt64) :
    (deriveMessageKey P ck i).1.length = keySize :=
  P.kdf32_length _ _

end

/-! ## An instance to evaluate with -/

def digest (b : Bytes) : Nat := b.foldl (fun acc x => acc * 257 + x.toNat + 1) 0

/--
Stand-ins that can be computed. Sealing appends key, nonce and associated data in
the clear, so a ciphertext opens under the 32-byte key it was sealed with and no other.
-/
def transparent : Primitives where
  sha256 b := b
  kdf32 input info :=
    (List.range 32).map fun i => UInt8.ofNat (digest (input ++ 0 :: info) / 256 ^ i)
  aeadSeal key nonce plaintext ad := plaintext ++ 0 :: (key ++ nonce ++ ad)
  aeadOpen key nonce ciphertext ad :=
    let tag := 0 :: (key ++ nonce ++ ad)
    if tag <:+ ciphertext then some (ciphertext.take (ciphertext.length - tag.length)) else none
  kdf32_length _ _ := by simp
  seal_ne_nil _ _ _ _ := by simp
  open_seal key nonce plaintext ad := by
    rw [if_pos (List.suffix_append _ _), List.length_append, Nat.add_sub_cancel,
      List.take_left]

theorem transparent_key_unique {key key' nonce plaintext ad : Bytes}
    (hk : key.length = keySize) (hk' : key'.length = keySize)
    (h : transparent.aeadOpen key' nonce (transparent.aeadSeal key nonce plaintext ad) ad ≠ none) :
    key' = key := by
  have hsuf : 0 :: (key' ++ nonce ++ ad) <:+ plaintext ++ 0 :: (key ++ nonce ++ ad) := by
    by_contra hc
    exact h (if_neg hc)
  have hlen : (0 :: (key' ++ nonce ++ ad)).length = (0 :: (key ++ nonce ++ ad)).length := by
    simp [hk, hk']
  have heq := (List.suffix_of_suffix_length_le hsuf (List.suffix_append plaintext _)
    (Nat.le_of_eq hlen)).eq_of_length hlen
  simp_all

/-! ## X3DH -/

inductive X3DHError where
  | invalidPeerKey
  | lowOrderPoint
  deriving DecidableEq, Repr

structure DiffieHellman where
  /-- `curve25519.X25519`. -/
  x25519 : (priv pub : Bytes) → Except X3DHError Bytes
  publicOf : Bytes → Bytes
  publicOf_length : ∀ {a}, a.length = 32 → (publicOf a).length = 32
  x25519_comm : ∀ {a b}, a.length = 32 → b.length = 32 →
    x25519 a (publicOf b) = x25519 b (publicOf a)

structure DHPair where
  priv : Bytes
  pub : Bytes

section

variable (D : DiffieHellman) (P : Primitives)

def combineDHTriplet (a b c : DHPair) : Except X3DHError Bytes := do
  let dh1 ← D.x25519 a.priv a.pub
  let dh2 ← D.x25519 b.priv b.pub
  let dh3 ← D.x25519 c.priv c.pub
  return dh1 ++ dh2 ++ dh3

def baseX3DHMaterial (required : List Bytes) (a b c : DHPair) : Except X3DHError Bytes :=
  if required.any (·.length ≠ 32) then .error .invalidPeerKey else combineDHTriplet D a b c

def x3dhInitiatorSharedSecret (ikPriv ekPriv peerIKPub peerSPKPub peerOPKPub : Bytes) :
    Except X3DHError Bytes := do
  let material ← baseX3DHMaterial D [ikPriv, ekPriv, peerIKPub, peerSPKPub]
    ⟨ikPriv, peerSPKPub⟩ ⟨ekPriv, peerIKPub⟩ ⟨ekPriv, peerSPKPub⟩
  let dh4 ← if peerOPKPub.length = 32 then D.x25519 ekPriv peerOPKPub else pure []
  return P.kdf32 (material ++ dh4) (bytesOf "aim/x3dh/v1")

def x3dhResponderSharedSecret (ikPriv spkPriv opkPriv peerIKPub peerEKPub : Bytes)
    (useOPK : Bool) : Except X3DHError Bytes := do
  let material ← baseX3DHMaterial D [ikPriv, spkPriv, peerIKPub, peerEKPub]
    ⟨spkPriv, peerIKPub⟩ ⟨ikPriv, peerEKPub⟩ ⟨spkPriv, peerEKPub⟩
  let dh4 ← if useOPK then
      if opkPriv.length ≠ 32 then throw .invalidPeerKey else D.x25519 opkPriv peerEKPub
    else pure []
  return P.kdf32 (material ++ dh4) (bytesOf "aim/x3dh/v1")

variable {D P} {ikA ekA ikB spkB opkB : Bytes}

/-- The two ends of X3DH come to the same secret, or to the same error. -/
theorem x3dh_agreement (hikA : ikA.length = 32) (hekA : ekA.length = 32) (hikB : ikB.length = 32)
    (hspkB : spkB.length = 32) (hopkB : opkB.length = 32) (useOPK : Bool) :
    x3dhInitiatorSharedSecret D P ikA ekA (D.publicOf ikB) (D.publicOf spkB)
        (if useOPK then D.publicOf opkB else []) =
      x3dhResponderSharedSecret D P ikB spkB opkB (D.publicOf ikA) (D.publicOf ekA) useOPK := by
  -- each term of the initiator is the responder's with the roles of the keys exchanged
  have hmaterial : baseX3DHMaterial D [ikA, ekA, D.publicOf ikB, D.publicOf spkB]
        ⟨ikA, D.publicOf spkB⟩ ⟨ekA, D.publicOf ikB⟩ ⟨ekA, D.publicOf spkB⟩ =
      baseX3DHMaterial D [ikB, spkB, D.publicOf ikA, D.publicOf ekA]
        ⟨spkB, D.publicOf ikA⟩ ⟨ikB, D.publicOf ekA⟩ ⟨spkB, D.publicOf ekA⟩ := by
    simp [baseX3DHMaterial, combineDHTriplet, D.publicOf_length, hikA, hekA, hikB, hspkB,
      D.x25519_comm hikA hspkB, D.x25519_comm hekA hikB, D.x25519_comm hekA hspkB]
  unfold x3dhInitiatorSharedSecret x3dhResponderSharedSecret
  rw [hmaterial]
  cases useOPK with
  | false => simp
  | true => simp [D.publicOf_length hopkB, hopkB, D.x25519_comm hekA hopkB]

end

/-- A Diffie-Hellman in name only: a public key is the private one, and two keys add up. -/
def additiveDH : DiffieHellman where
  x25519 a b := .ok (List.zipWith (· + ·) a b)
  publicOf a := a
  publicOf_length h := h
  x25519_comm _ _ := congrArg Except.ok (List.zipWith_comm_of_comm UInt8.add_comm)

theorem additiveDH_agreement :
    x3dhInitiatorSharedSecret additiveDH transparent (.replicate 32 1) (.replicate 32 2)
        (.replicate 32 3) (.replicate 32 4) (.replicate 32 5) =
      x3dhResponderSharedSecret additiveDH transparent (.replicate 32 3) (.replicate 32 4)
        (.replicate 32 5) (.replicate 32 1) (.replicate 32 2) true :=
  x3dh_agreement (D := additiveDH) rfl rfl rfl rfl rfl true

end Ardents.Crypto
