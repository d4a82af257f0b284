import Ardents.Crypto.Session

/-!
# What an identity key signs

An identity key signs contact cards, certificates of devices, revocations of devices and
statements that bind the account to a node. The verifier of one kind knows nothing of the others.
-/

namespace Ardents.Identity

open Go
open Crypto (Time)

/-- The digits of `base58.Encode`. -/
def base58Alphabet : List Char :=
  "123456789ABCDEFGHJKLMNPQRSTUVWXYZabcdefghijkmnopqrstuvwxyz".toList

structure Primitives where
  /-- `blake2b.Sum256`. -/
  blake2b256 : Bytes → Bytes
  /-- `base58.Encode`, of the package `mr-tron/base58`. -/
  base58Encode : Bytes → String
  base58_alphabet : ∀ b, ∀ c ∈ (base58Encode b).toList, c ∈ base58Alphabet
  /-- A byte takes at least one digit. -/
  base58_length : ∀ b, b.length ≤ (base58Encode b).toList.length
  /-- `sha256.Sum256`. -/
  sha256 : Bytes → Bytes
  /-- `ed25519.Sign`: private key and message. -/
  sign : Bytes → Bytes → Bytes
  /-- `ed25519.Verify` for a public key of the right size: key, message, signature. -/
  verify : Bytes → Bytes → Bytes → Bool
  /-- `Format(time.RFC3339Nano)` of a time in UTC. -/
  rfc3339Nano : Time → String

/-- `ed25519.PublicKeySize`. -/
def publicKeySize : Nat := 32

/-- `ed25519.SignatureSize`. -/
def signatureSize : Nat := 64

/-- `ed25519.PrivateKeySize`. -/
def privateKeySize : Nat := 64

inductive IdentityError where
  | invalidSigningPublicKeySize (n : Nat)
  | invalidContactCard
  | identityMismatch
  | invalidContactID
  | contactKeyMismatch
  | deviceNotFound
  | deviceRevoked
  | invalidDeviceSig
  | invalidDeviceCert
  | unverifiedContact
  deriving DecidableEq, Repr

def IdentityError.text : IdentityError → String
  | .invalidSigningPublicKeySize n => "invalid signing public key size: " ++ toString n
  | .invalidContactCard => "invalid contact card"
  | .identityMismatch => "identity_id does not match public key"
  | .invalidContactID => "invalid contact id"
  | .contactKeyMismatch => "contact public key mismatch"
  | .deviceNotFound => "device not found"
  | .deviceRevoked => "device revoked"
  | .invalidDeviceSig => "invalid device signature"
  | .invalidDeviceCert => "invalid device certificate"
  | .unverifiedContact => "contact is not verified"

structure ContactCard where
  identityID : String
  displayName : String
  publicKey : Bytes
  signature : Bytes
  deriving DecidableEq, Repr

structure Device where
  id : String
  name : String
  publicKey : Bytes
  certSig : Bytes
  createdAt : Time
  isRevoked : Bool
  revokedAt : Time
  deriving DecidableEq, Repr

structure DeviceRevocation where
  identityID : String
  deviceID : String
  timestamp : Time
  signature : Bytes
  deriving DecidableEq, Repr

/-! ## Identity ids -/

def buildIdentityID (P : Primitives) (signingPublicKey : Bytes) : Except IdentityError String :=
  if signingPublicKey.length ≠ publicKeySize then
    .error (.invalidSigningPublicKeySize signingPublicKey.length)
  else .ok ("aim1" ++ P.base58Encode (P.blake2b256 signingPublicKey))

/-- An id of the form `BuildIdentityID` produces. -/
def IsIdentityID (P : Primitives) (identityID : String) : Prop :=
  ∃ pub, buildIdentityID P pub = .ok identityID

/-- The bytes that end an identity id wherever it is followed by something. -/
def isSeparator (b : UInt8) : Bool := b == 0 || b == 58

theorem utf8EncodeChar_not_separator {c : Char} (h : c ∈ base58Alphabet) :
    ∀ b ∈ String.utf8EncodeChar c, isSeparator b = false := by
  have hall : base58Alphabet.all
      (fun c => (String.utf8EncodeChar c).all fun b => !isSeparator b) = true := by decide
  grind

theorem IsIdentityID.eq {P : Primitives} {identityID : String} (h : IsIdentityID P identityID) :
    ∃ digest, identityID = "aim1" ++ P.base58Encode digest := by
  obtain ⟨pub, hpub⟩ := h
  grind [buildIdentityID]

theorem IsIdentityID.bytesOf_eq {P : Primitives} {identityID : String}
    (h : IsIdentityID P identityID) :
    ∃ rest, bytesOf identityID = 97 :: 105 :: 109 :: 49 :: rest := by
  obtain ⟨digest, rfl⟩ := h.eq
  have haim : bytesOf "aim1" = [97, 105, 109, 49] := by decide
  exact ⟨bytesOf (P.base58Encode digest), by rw [bytesOf_append, haim]; rfl⟩

theorem IsIdentityID.not_separator {P : Primitives} {identityID : String}
    (h : IsIdentityID P identityID) : ∀ b ∈ bytesOf identityID, isSeparator b = false := by
  obtain ⟨digest, rfl⟩ := h.eq
  have haim : bytesOf "aim1" = [97, 105, 109, 49] := by decide
  intro b hb
  rw [bytesOf_append, List.mem_append, haim] at hb
  rcases hb with hb | hb
  · have hall : ([97, 105, 109, 49] : Bytes).all (fun b => !isSeparator b) = true := by decide
    simpa using List.all_eq_true.mp hall b hb
  · rw [bytesOf_eq_flatMap, List.mem_flatMap] at hb
    obtain ⟨c, hc, hbc⟩ := hb
    exact utf8EncodeChar_not_separator (P.base58_alphabet digest c hc) b hbc

/-! ## The four encodings -/

def contactCardSigningBytes (card : ContactCard) : Bytes :=
  bytesOf card.identityID ++ 0 :: (bytesOf card.displayName ++ 0 :: card.publicKey)

def deviceCertBytes (identityID deviceID : String) (pub : Bytes) : Bytes :=
  bytesOf identityID ++ 0 :: (bytesOf deviceID ++ 0 :: pub)

/-- `ts` is `UnixNano`. -/
def deviceRevocationBytes (identityID deviceID : String) (ts : Time) : Bytes :=
  bytesOf (identityID ++ ":" ++ deviceID ++ ":" ++ toString (ts : Int))

def nodeBindingAccountBytes (P : Primitives) (identityID nodeID challenge : String) (ts : Time) :
    Bytes :=
  bytesOf ("aim-bind-v1|account|" ++ identityID ++ "|" ++ nodeID ++ "|" ++ challenge ++ "|"
    ++ P.rfc3339Nano ts)

inductive Statement where
  | contactCard (card : ContactCard)
  | deviceCert (identityID deviceID : String) (pub : Bytes)
  | deviceRevocation (identityID deviceID : String) (ts : Time)
  | nodeBinding (identityID nodeID challenge : String) (ts : Time)
  deriving DecidableEq, Repr

namespace Statement

inductive Purpose where
  | contactCard
  | deviceCert
  | deviceRevocation
  | nodeBinding
  deriving DecidableEq, Repr

def purpose : Statement → Purpose
  | contactCard _ => .contactCard
  | deviceCert .. => .deviceCert
  | deviceRevocation .. => .deviceRevocation
  | nodeBinding .. => .nodeBinding

def identityID : Statement → String
  | contactCard card => card.identityID
  | deviceCert identityID .. => identityID
  | deviceRevocation identityID .. => identityID
  | nodeBinding identityID .. => identityID

def bytes (P : Primitives) : Statement → Bytes
  | contactCard card => contactCardSigningBytes card
  | deviceCert identityID deviceID pub => deviceCertBytes identityID deviceID pub
  | deviceRevocation identityID deviceID ts => deviceRevocationBytes identityID deviceID ts
  | nodeBinding identityID nodeID challenge ts =>
    nodeBindingAccountBytes P identityID nodeID challenge ts

end Statement

/-! ## Telling them apart -/

section

variable {P : Primitives}

theorem deviceRevocationBytes_eq (identityID deviceID : String) (ts : Time) :
    ∃ rest, deviceRevocationBytes identityID deviceID ts = bytesOf identityID ++ 58 :: rest := by
  have hcolon : bytesOf ":" = [58] := by decide
  simp_all [deviceRevocationBytes, bytesOf_append]

theorem nodeBindingAccountBytes_eq (P : Primitives) (identityID nodeID challenge : String)
    (ts : Time) : ∃ rest, nodeBindingAccountBytes P identityID nodeID challenge ts
      = 97 :: 105 :: 109 :: 45 :: rest := by
  have htag : bytesOf "aim-bind-v1|account|" = 97 :: 105 :: 109 :: 45 ::
      bytesOf "bind-v1|account|" := by decide
  simp_all [nodeBindingAccountBytes, bytesOf_append]

theorem zero_ne_colon {x y : String} (hx : IsIdentityID P x) (hy : IsIdentityID P y)
    (r t : Bytes) : bytesOf x ++ 0 :: r ≠ bytesOf y ++ 58 :: t := by
  intro h
  obtain ⟨-, hsep, -⟩ := first_separator_unique (by decide) (by decide) hx.not_separator
    hy.not_separator h
  exact absurd hsep (by decide)

theorem id_ne_nodeBinding {x : String} (hx : IsIdentityID P x) (r : Bytes)
    (identityID nodeID challenge : String) (ts : Time) :
    bytesOf x ++ r ≠ nodeBindingAccountBytes P identityID nodeID challenge ts := by
  intro h
  obtain ⟨rest, hrest⟩ := hx.bytesOf_eq
  obtain ⟨tail, htail⟩ := nodeBindingAccountBytes_eq P identityID nodeID challenge ts
  rw [hrest, htail] at h
  simp at h

/-- The text `x` and the key `p` read like the text `y` and the key `q`: they are the same, or
one text goes on past a zero byte where the other has its key. -/
def Overlap (x p y q : Bytes) : Prop :=
  (x = y ∧ p = q) ∨ (∃ r, y = x ++ 0 :: r ∧ p = r ++ 0 :: q) ∨
    ∃ r, x = y ++ 0 :: r ∧ q = r ++ 0 :: p

theorem overlap_iff {x p y q : Bytes} : x ++ 0 :: p = y ++ 0 :: q ↔ Overlap x p y q := by
  constructor
  · intro h
    -- one text is the longer one; what it has over the other begins with the separator
    rcases List.append_eq_append_iff.mp h with ⟨z, hy, hp⟩ | ⟨z, hx, hq⟩
    · cases z with
      | nil => exact .inl ⟨by simpa using hy.symm, by simpa using hp⟩
      | cons b z =>
        obtain ⟨rfl, htail⟩ := List.cons.inj hp
        exact .inr (.inl ⟨z, hy, htail⟩)
    · cases z with
      | nil => exact .inl ⟨by simpa using hx, by simpa using hq.symm⟩
      | cons b z =>
        obtain ⟨rfl, htail⟩ := List.cons.inj hq
        exact .inr (.inr ⟨z, hx, htail⟩)
  · rintro (⟨rfl, rfl⟩ | ⟨r, rfl, rfl⟩ | ⟨r, rfl, rfl⟩)
    · rfl
    · simp
    · simp

theorem Overlap.eq {x p y q : Bytes} (h : Overlap x p y q) (hlen : p.length = q.length) :
    x = y ∧ p = q := by
  rcases h with h | ⟨r, -, rfl⟩ | ⟨r, -, rfl⟩
  · exact h
  · rw [List.length_append, List.length_cons] at hlen
    omega
  · rw [List.length_append, List.length_cons] at hlen
    omega

theorem Overlap.eq_of_no_zero {x p y q : Bytes} (h : Overlap x p y q) (hx : 0 ∉ x) (hp : 0 ∉ p) :
    x = y ∧ p = q := by
  rcases h with h | ⟨r, -, rfl⟩ | ⟨r, rfl, -⟩
  · exact h
  · exact absurd (List.mem_append_right r List.mem_cons_self) hp
  · exact absurd (List.mem_append_right y List.mem_cons_self) hx

theorem labelled_key_eq_iff {x y : String} (hx : IsIdentityID P x) (hy : IsIdentityID P y)
    {a b : String} {p q : Bytes} :
    bytesOf x ++ 0 :: (bytesOf a ++ 0 :: p) = bytesOf y ++ 0 :: (bytesOf b ++ 0 :: q) ↔
      x = y ∧ Overlap (bytesOf a) p (bytesOf b) q := by
  rw [← overlap_iff]
  constructor
  · intro h
    obtain ⟨hid, -, htail⟩ := first_separator_unique (by decide) (by decide) hx.not_separator
      hy.not_separator h
    exact ⟨bytesOf_inj hid, htail⟩
  · rintro ⟨rfl, htail⟩
    rw [htail]

/-- A card that is a certificate: made for the same identity, its display name and key reading
like the device id and the device's key. -/
def CardIsCert (card : ContactCard) (identityID deviceID : String) (pub : Bytes) : Prop :=
  card.identityID = identityID ∧
    Overlap (bytesOf card.displayName) card.publicKey (bytesOf deviceID) pub

def Confusable : Statement → Statement → Prop
  | .contactCard card, .deviceCert identityID deviceID pub =>
    CardIsCert card identityID deviceID pub
  | .deviceCert identityID deviceID pub, .contactCard card =>
    CardIsCert card identityID deviceID pub
  | _, _ => False

theorem card_eq_cert_iff {card : ContactCard} {identityID deviceID : String} {pub : Bytes}
    (hcard : IsIdentityID P card.identityID) (hid : IsIdentityID P identityID) :
    contactCardSigningBytes card = deviceCertBytes identityID deviceID pub ↔
      CardIsCert card identityID deviceID pub :=
  labelled_key_eq_iff hcard hid

theorem labelled_key_ne_revocation {x y : String} (hx : IsIdentityID P x) (hy : IsIdentityID P y)
    (a deviceID : String) (p : Bytes) (ts : Time) :
    bytesOf x ++ 0 :: (bytesOf a ++ 0 :: p) ≠ deviceRevocationBytes y deviceID ts := by
  obtain ⟨rest, hrest⟩ := deviceRevocationBytes_eq y deviceID ts
  rw [hrest]
  exact zero_ne_colon hx hy _ _

theorem revocation_ne_nodeBinding {x : String} (hx : IsIdentityID P x) (deviceID : String)
    (ts : Time) (identityID nodeID challenge : String) (ts' : Time) :
    deviceRevocationBytes x deviceID ts ≠
      nodeBindingAccountBytes P identityID nodeID challenge ts' := by
  obtain ⟨rest, hrest⟩ := deviceRevocationBytes_eq x deviceID ts
  grind [id_ne_nodeBinding]

/-- **Signatures made for one purpose.** The bytes of two statements made for different purposes
are different, except those of a card and a certificate that carry the same fields. -/
theorem purposes_differ_iff {s t : Statement} (hs : IsIdentityID P s.identityID)
    (ht : IsIdentityID P t.identityID) (hpurpose : s.purpose ≠ t.purpose) :
    s.bytes P ≠ t.bytes P ↔ ¬ Confusable s t := by
  -- every other pair differs where the identity id ends, or in its fourth byte
  have hapart : ∀ {x y : Bytes}, x ≠ y → (x ≠ y ↔ ¬ False) := fun h => iff_of_true h not_false
  cases s with
  | contactCard card =>
    cases t with
    | contactCard card' => exact absurd rfl hpurpose
    | deviceCert id dev pub => exact not_congr (card_eq_cert_iff hs ht)
    | deviceRevocation id dev ts => exact hapart (labelled_key_ne_revocation hs ht _ dev _ ts)
    | nodeBinding id node challenge ts =>
      exact hapart (id_ne_nodeBinding hs _ id node challenge ts)
  | deviceCert id dev pub =>
    cases t with
    | contactCard card => exact not_congr (eq_comm.trans (card_eq_cert_iff ht hs))
    | deviceCert id' dev' pub' => exact absurd rfl hpurpose
    | deviceRevocation id' dev' ts =>
      exact hapart (labelled_key_ne_revocation hs ht dev dev' pub ts)
    | nodeBinding id' node challenge ts =>
      exact hapart (id_ne_nodeBinding hs _ id' node challenge ts)
  | deviceRevocation id dev ts =>
    cases t with
    | contactCard card => exact hapart (labelled_key_ne_revocation ht hs _ dev _ ts).symm
    | deviceCert id' dev' pub =>
      exact hapart (labelled_key_ne_revocation ht hs dev' dev pub ts).symm
    | deviceRevocation id' dev' ts' => exact absurd rfl hpurpose
    | nodeBinding id' node challenge ts' =>
      exact hapart (revocation_ne_nodeBinding hs dev ts id' node challenge ts')
  | nodeBinding id node challenge ts =>
    cases t with
    | contactCard | deviceCert => exact hapart (id_ne_nodeBinding ht _ id node challenge ts).symm
    | deviceRevocation id' dev ts' =>
      exact hapart (revocation_ne_nodeBinding ht dev ts' id node challenge ts).symm
    | nodeBinding id' node' challenge' ts' => exact absurd rfl hpurpose

end

/-- Two digits to a byte. -/
def twoDigits (x : UInt8) : List Char :=
  [x.toNat / 16, x.toNat % 16].map (base58Alphabet.getD · '1')

theorem twoDigits_alphabet {x : UInt8} {c : Char} (h : c ∈ twoDigits x) : c ∈ base58Alphabet := by
  obtain ⟨d, -, rfl⟩ := List.mem_map.mp h
  by_cases hd : d < base58Alphabet.length
  · rw [List.getD_eq_getElem _ _ hd]
    exact List.getElem_mem hd
  · rw [List.getD_eq_default _ _ (not_lt.mp hd)]
    decide

def samplePrimitives (verify : Bytes → Bytes → Bytes → Bool) : Primitives where
  blake2b256 b := b
  base58Encode b := String.ofList (b.flatMap twoDigits)
  base58_alphabet b c hc := by
    rw [String.toList_ofList] at hc
    obtain ⟨x, -, hx⟩ := List.mem_flatMap.mp hc
    exact twoDigits_alphabet hx
  base58_length b := by
    rw [String.toList_ofList, List.length_flatMap]
    simp [twoDigits]
    omega
  sha256 b := b
  sign _ _ := List.replicate 64 0
  verify := verify
  rfc3339Nano _ := "1970-01-01T00:00:00Z"

def aliceKey : Bytes := List.replicate 32 7

def aliceID : String := "aim1" ++ String.ofList (aliceKey.flatMap twoDigits)

theorem aliceID_isIdentityID (verify : Bytes → Bytes → Bytes → Bool) :
    IsIdentityID (samplePrimitives verify) aliceID :=
  ⟨aliceKey, if_neg (by decide)⟩

def aliceCard (displayName : String) : ContactCard :=
  { identityID := aliceID, displayName := displayName, publicKey := aliceKey
    signature := List.replicate 64 0 }

/-- The card of Alice is not the certificate of the device that holds the identity key. -/
theorem alice_card_not_cert :
    (Statement.contactCard (aliceCard "Alice")).bytes (samplePrimitives fun _ _ _ => false) ≠
      (Statement.deviceCert aliceID "dev1_0707070707070707" aliceKey).bytes
        (samplePrimitives fun _ _ _ => false) := by
  refine (purposes_differ_iff (aliceID_isIdentityID _) (aliceID_isIdentityID _) (by decide)).mpr ?_
  rintro ⟨-, hoverlap⟩
  exact absurd (bytesOf_inj (hoverlap.eq rfl).1) (by decide)

/-- Unless Alice calls themself by the id of that device: then signing the card has signed the
certificate. -/
theorem card_signed_is_cert_signed :
    ¬ ∀ s t : Statement, IsIdentityID (samplePrimitives fun _ _ _ => false) s.identityID →
      IsIdentityID (samplePrimitives fun _ _ _ => false) t.identityID → s.purpose ≠ t.purpose →
        s.bytes (samplePrimitives fun _ _ _ => false) ≠
          t.bytes (samplePrimitives fun _ _ _ => false) := by
  intro h
  exact h (.contactCard (aliceCard "dev1_0707070707070707"))
    (.deviceCert aliceID "dev1_0707070707070707" aliceKey) (aliceID_isIdentityID _)
    (aliceID_isIdentityID _) (by decide) rfl

end Ardents.Identity
