import Ardents.Identity.Manager

/-!
# One's own keys

The other half of `identity/domain.Manager`: the identity key, the devices it certifies, and the
seed it was derived from, encrypted under a password. Restoring an identity key starts over: the
contacts are dropped and the devices with them.
-/

namespace Ardents.Identity

open Go
open Crypto (Time)

/-! ## Keys and devices -/

structure KeyGen where
  /-- The public half of `ed25519.NewKeyFromSeed`. -/
  publicOf : Bytes → Bytes
  /-- `deriveDeviceSeed`. -/
  deriveDeviceSeed : Bytes → Nat → Bytes
  /-- The seed of the signing key that `bip39.NewSeed` and `DeriveKeys` make of a mnemonic. -/
  signingSeed : Bytes → Bytes
  publicOf_length : ∀ seed, (publicOf seed).length = publicKeySize
  deriveDeviceSeed_length : ∀ seed index, (deriveDeviceSeed seed index).length = 32
  signingSeed_length : ∀ mnemonic, (signingSeed mnemonic).length = 32

section

variable (P : Primitives) (G : KeyGen)

/-- `ed25519.NewKeyFromSeed`. -/
def newKeyFromSeed (seed : Bytes) : Bytes := seed ++ G.publicOf seed

/-- `priv.Public()`. -/
def publicHalf (priv : Bytes) : Bytes := priv.drop 32

theorem newKeyFromSeed_length {G : KeyGen} {seed : Bytes} (h : seed.length = 32) :
    (newKeyFromSeed G seed).length = privateKeySize := by
  unfold newKeyFromSeed
  rw [List.length_append, h, G.publicOf_length]
  rfl

namespace Manager

variable (m : Manager)

def deviceWithKey (name : String) (priv : Bytes) (now : Time) : DevicePrivate :=
  let pub := publicHalf priv
  let id := deviceIDFromPub P pub
  { model :=
      { id := id, name := name, publicKey := pub
        certSig := P.sign m.selfPriv (deviceCertBytes m.identityID id pub)
        createdAt := now, isRevoked := false, revokedAt := 0 }
    priv := priv }

/-- `m.devices[id] = device`. -/
def putDevice (d : DevicePrivate) : Manager :=
  { m with devices := m.devices.insert d.model.id d }

/-- `initPrimaryDevice`, for an identity key of the right size. -/
def initPrimaryDevice (now : Time) : Manager :=
  let d := m.deviceWithKey P "primary" (newKeyFromSeed G (m.selfPriv.take 32)) now
  { m with devices := (∅ : GoMap String DevicePrivate).insert d.model.id d
           activeDeviceID := d.model.id }

/-- What `CreateIdentity`, `ImportIdentity` and `RestoreIdentityPrivateKey` do once they have the
key. -/
def startOver (identityID : String) (priv : Bytes) (now : Time) : Manager :=
  ({ m with
      identityID := identityID, signingPublicKey := publicHalf priv, selfPriv := priv
      contacts := ∅, revokedDevices := ∅ } : Manager).initPrimaryDevice P G now

def restoreIdentityPrivateKey (privateKey : Bytes) (now : Time) : Except IdentityError Manager := do
  require (privateKey.length = privateKeySize) .invalidContactCard
  let id ← buildIdentityID P (publicHalf privateKey)
  return m.startOver P G id privateKey now

theorem restoreIdentityPrivateKey_ok {P : Primitives} {G : KeyGen} {m m' : Manager}
    {priv : Bytes} {now : Time} : m.restoreIdentityPrivateKey P G priv now = .ok m' ↔
      priv.length = privateKeySize ∧ ∃ id, buildIdentityID P (publicHalf priv) = .ok id ∧
        m' = m.startOver P G id priv now := by
  unfold restoreIdentityPrivateKey
  simp only [bind_ok, require_ok, pure_ok]
  grind

/-- `newIdentityManager`, with the key that was generated. -/
def newIdentityManager (priv : Bytes) (now : Time) : Except IdentityError Manager := do
  let id ← buildIdentityID P (publicHalf priv)
  return Manager.startOver P G
    { identityID := "", signingPublicKey := [], selfPriv := [], contacts := ∅, devices := ∅
      activeDeviceID := "", revokedDevices := ∅ } id priv now

def addDevice (name : String) (now : Time) : Manager :=
  let name := if trimSpace name = "" then "device" else trimSpace name
  let seed := G.deriveDeviceSeed (m.selfPriv.take 32) (m.devices.size + 1)
  m.putDevice (m.deviceWithKey P name (newKeyFromSeed G seed) now)

/-- `buildRevocationLocked`. -/
def buildRevocation (deviceID : String) (now : Time) : DeviceRevocation :=
  { identityID := m.identityID, deviceID := deviceID, timestamp := now
    signature := P.sign m.selfPriv (deviceRevocationBytes m.identityID deviceID now) }

def revokeDevice (deviceID : String) (now : Time) :
    Except IdentityError (DeviceRevocation × Manager) :=
  match m.devices[deviceID]? with
  | none => .error .deviceNotFound
  | some d =>
    if d.model.isRevoked then .ok (m.buildRevocation P deviceID now, m)
    else
      let d := { d with model := { d.model with isRevoked := true, revokedAt := now } }
      .ok (m.buildRevocation P deviceID now,
        { m with devices := m.devices.insert deviceID d })

end Manager

end

/-! ## The seed -/

inductive SeedError where
  | passwordRequired
  | mnemonicRequired
  | invalidMnemonic
  | invalidPassword
  | seedNotAvailable
  | passwordLocked
  | encryption
  deriving DecidableEq, Repr

/-- The encryption of seeds; `ε` are the envelopes. `rand` is the salt and the nonce. -/
structure SeedCrypto (ε : Type) where
  encryptSeed : (rand seed : Bytes) → (password : String) → Option ε
  decryptSeed : ε → String → Option Bytes
  /-- `json.Marshal` and `json.Unmarshal` of an envelope. -/
  marshal : ε → Bytes
  unmarshal : Bytes → Option ε
  unmarshal_marshal : ∀ env, unmarshal (marshal env) = some env
  marshal_ne_nil : ∀ env, marshal env ≠ []
  /-- `bip39.IsMnemonicValid`. -/
  isMnemonicValid : Bytes → Bool

structure SeedManager (ε : Type) where
  envelope : Option ε
  failedAttempts : Nat
  lockedUntil : Option Time

/-- `failedAttemptBackoff`: one second, doubled with each attempt up to 32. -/
def failedAttemptBackoff (attempt : Nat) : Time :=
  if attempt = 0 then 0 else 1000000000 * 2 ^ min (attempt - 1) 5

namespace SeedManager

variable {ε : Type} (C : SeedCrypto ε)

def new : SeedManager ε := { envelope := none, failedAttempts := 0, lockedUntil := none }

variable (s : SeedManager ε)

def ensureUnlocked (now : Time) : Bool :=
  match s.lockedUntil with
  | none => true
  | some t => t ≤ now

def onFailedPasswordAttempt (now : Time) : SeedManager ε :=
  { s with
    failedAttempts := s.failedAttempts + 1
    lockedUntil := some (now + failedAttemptBackoff (s.failedAttempts + 1)) }

def resetPasswordAttemptState : SeedManager ε :=
  { s with failedAttempts := 0, lockedUntil := none }

/-- `Import`, for a mnemonic that has been checked. -/
def importSeed (mnemonic rand : Bytes) (password : String) : Except SeedError (SeedManager ε) :=
  if mnemonic = [] then .error .mnemonicRequired
  else if trimSpace password = "" then .error .passwordRequired
  else if C.isMnemonicValid mnemonic = false then .error .invalidMnemonic
  else
    match C.encryptSeed rand mnemonic password with
    | none => .error .encryption
    | some env => .ok { s with envelope := some env }

/-- `Export`: the mnemonic, and the attempts counted. -/
def exportSeed (password : String) (now : Time) : Except SeedError Bytes × SeedManager ε :=
  if trimSpace password = "" then (.error .passwordRequired, s)
  else if s.ensureUnlocked now = false then (.error .passwordLocked, s)
  else
    match s.envelope with
    | none => (.error .seedNotAvailable, s)
    | some env =>
      match C.decryptSeed env password with
      | none => (.error .invalidPassword, s.onFailedPasswordAttempt now)
      | some mnemonic =>
        let s := s.resetPasswordAttemptState
        if C.isMnemonicValid (trimSpaceBytes mnemonic) then (.ok (trimSpaceBytes mnemonic), s)
        else (.error .invalidMnemonic, s)

def changePassword (oldPassword newPassword : String) (rand : Bytes)
    (now : Time) : Except SeedError Unit × SeedManager ε :=
  let oldPassword := trimSpace oldPassword
  let newPassword := trimSpace newPassword
  if oldPassword = "" ∨ newPassword = "" then (.error .passwordRequired, s)
  else if s.ensureUnlocked now = false then (.error .passwordLocked, s)
  else
    match s.envelope with
    | none => (.error .seedNotAvailable, s)
    | some env =>
      match C.decryptSeed env oldPassword with
      | none => (.error .invalidPassword, s.onFailedPasswordAttempt now)
      | some mnemonic =>
        match C.encryptSeed rand mnemonic newPassword with
        | none => (.error .encryption, s)
        | some env => (.ok (), ({ s with envelope := some env }).resetPasswordAttemptState)

/-- `SnapshotSeedEnvelopeJSON`; empty where there is no seed. -/
def snapshotEnvelopeJSON : Bytes :=
  match s.envelope with
  | none => []
  | some env => C.marshal env

/-- `RestoreSeedEnvelopeJSON`; `none` is the error of the decoder. -/
def restoreEnvelopeJSON (raw : Bytes) : Option (SeedManager ε) :=
  if raw = [] then some s
  else (C.unmarshal raw).map fun env =>
    ({ s with envelope := some env }).resetPasswordAttemptState

def Accepts (password : String) : Prop :=
  ∃ env mnemonic, s.envelope = some env ∧ C.decryptSeed env password = some mnemonic ∧
    C.isMnemonicValid (trimSpaceBytes mnemonic) = true

instance (s : SeedManager ε) (password : String) : Decidable (s.Accepts C password) :=
  decidable_of_iff ((s.envelope.bind fun env => C.decryptSeed env password).any
      (fun mnemonic => C.isMnemonicValid (trimSpaceBytes mnemonic)) = true) (by
    unfold Accepts
    cases s.envelope with
    | none => simp
    | some env => simp [Option.any_eq_true])

end SeedManager

def sampleKeyGen : KeyGen where
  publicOf _ := List.replicate 32 7
  deriveDeviceSeed _ _ := List.replicate 32 3
  signingSeed _ := List.replicate 32 5
  publicOf_length _ := rfl
  deriveDeviceSeed_length _ _ := rfl
  signingSeed_length _ := rfl

/-- One seed there is, and its envelope is the password it is encrypted under. -/
def sampleSeedCrypto : SeedCrypto Bytes where
  encryptSeed _ seed password := if seed = [1] then some (bytesOf password) else none
  decryptSeed env password := if env = bytesOf password then some [1] else none
  marshal env := 1 :: env
  unmarshal raw := raw.tail?
  unmarshal_marshal _ := rfl
  marshal_ne_nil env := List.cons_ne_nil 1 env
  isMnemonicValid _ := true

end Ardents.Identity
