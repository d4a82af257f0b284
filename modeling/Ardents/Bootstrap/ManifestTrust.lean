import Ardents.Go.Base64
import Ardents.Go.Checks
import Ardents.Identity.Statements

/-!
# The keys that sign network manifests

A trust bundle lists root keys, which sign the next bundle, and manifest keys, which sign
manifests while their window is open. `VerifyAndApplyUpdate` lets a bundle be replaced by one that
a root key of it has signed, if the two share a root key and an active manifest key id.
-/

namespace Ardents.Bootstrap

open Go
open Crypto (Time)
open Identity (publicKeySize)

/-! ## Bundles -/

/-- What is wrong with a bundle: the texts that follow `ErrTrustBundleInvalid`. -/
inductive BundleDefect where
  | version
  | bundleID
  | generatedAt
  | rootKeys
  | manifestKeys
  | keyID
  | algorithm (algorithm : String)
  | publicKeyBase64 (keyID : String)
  | publicKeySize (keyID : String)
  | window
  | signedByKeyID
  | signatureBase64
  | encoding
  deriving DecidableEq, Repr

/-- The text of a defect; `quote` is the verb `%q`. A failed encoding has its library's text. -/
def BundleDefect.text (quote : String → String) (encoding : String) : BundleDefect → String
  | .version => "version must be > 0"
  | .bundleID => "bundle_id is required"
  | .generatedAt => "generated_at is required"
  | .rootKeys => "root_keys are required"
  | .manifestKeys => "manifest_keys are required"
  | .keyID => "key_id is required"
  | .algorithm a => "unsupported algorithm " ++ quote a
  | .publicKeyBase64 id => "invalid public key base64 for " ++ quote id
  | .publicKeySize id => "invalid public key size for " ++ quote id
  | .window => "invalid manifest key validity window"
  | .signedByKeyID => "signed_by_key_id is required"
  | .signatureBase64 => "signature_base64 is required"
  | .encoding => encoding

inductive TrustError where
  | trustBundleInvalid (defect : BundleDefect)
  | trustUpdateChainInvalid
  | trustUpdateSignatureInvalid
  | manifestKeyUnknown
  | manifestKeyInactive
  | manifestSignatureInvalid
  deriving DecidableEq, Repr

structure RootKey where
  keyID : String
  algorithm : String
  publicKeyBase64 : String
  deriving DecidableEq, Repr

structure ManifestKey where
  keyID : String
  algorithm : String
  publicKeyBase64 : String
  notBefore : Time
  notAfter : Time
  deriving DecidableEq, Repr

/-- The window is open: it begins at `NotBefore` and ends before `NotAfter`. -/
def ManifestKey.IsActive (k : ManifestKey) (at' : Time) : Prop :=
  (k.notBefore ≠ 0 ∧ k.notAfter ≠ 0) ∧ k.notBefore ≤ at' ∧ at' < k.notAfter

instance (k : ManifestKey) (at' : Time) : Decidable (k.IsActive at') :=
  inferInstanceAs (Decidable (_ ∧ _))

structure Bundle where
  version : Int
  bundleID : String
  generatedAt : Time
  rootKeys : List RootKey
  manifestKeys : List ManifestKey
  deriving DecidableEq, Repr

def decodeEd25519PublicKey (value : String) : Option Bytes :=
  (base64StdDecode value).filter fun raw => raw.length = publicKeySize

def validatePublicKeyFields (keyID algorithm publicKeyBase64 : String) :
    Except TrustError Unit := do
  require (keyID ≠ "") (.trustBundleInvalid .keyID)
  require (algorithm = "ed25519") (.trustBundleInvalid (.algorithm algorithm))
  match base64StdDecode publicKeyBase64 with
  | none => .error (.trustBundleInvalid (.publicKeyBase64 keyID))
  | some raw => require (raw.length = publicKeySize) (.trustBundleInvalid (.publicKeySize keyID))

namespace Bundle

def validateManifestKey (key : ManifestKey) : Except TrustError Unit := do
  validatePublicKeyFields key.keyID key.algorithm key.publicKeyBase64
  require (key.notBefore ≠ 0 ∧ key.notAfter ≠ 0 ∧ key.notBefore < key.notAfter)
    (.trustBundleInvalid .window)

def validate (b : Bundle) : Except TrustError Unit := do
  require (0 < b.version) (.trustBundleInvalid .version)
  require (b.bundleID ≠ "") (.trustBundleInvalid .bundleID)
  require (b.generatedAt ≠ 0) (.trustBundleInvalid .generatedAt)
  require (b.rootKeys ≠ []) (.trustBundleInvalid .rootKeys)
  require (b.manifestKeys ≠ []) (.trustBundleInvalid .manifestKeys)
  b.rootKeys.forM fun key => validatePublicKeyFields key.keyID key.algorithm key.publicKeyBase64
  b.manifestKeys.forM validateManifestKey

def hasRootKeyByID (b : Bundle) (keyID : String) : Bool := b.rootKeys.any (·.keyID = keyID)

def findManifestKey (b : Bundle) (keyID : String) : Option ManifestKey :=
  b.manifestKeys.find? (·.keyID = keyID)

def activeManifestKeys (b : Bundle) (at' : Time) : List ManifestKey :=
  b.manifestKeys.filter (·.IsActive at')

end Bundle

structure BundleUpdateEnvelope where
  bundle : Bundle
  signedByKeyID : String
  signatureBase64 : String
  deriving DecidableEq, Repr

def BundleUpdateEnvelope.validate (e : BundleUpdateEnvelope) : Except TrustError Unit := do
  e.bundle.validate
  require (e.signedByKeyID ≠ "") (.trustBundleInvalid .signedByKeyID)
  require (e.signatureBase64 ≠ "") (.trustBundleInvalid .signatureBase64)

/-! ## Signatures -/

/-- The signature scheme: `sign` takes a private key, `verify` a public key of the right size. -/
structure Ed25519 where
  /-- The private key that belongs to a public key. -/
  privateKey : Bytes → Bytes
  sign : Bytes → Bytes → Bytes
  verify : Bytes → Bytes → Bytes → Bool

/-- Exactly what the private key signed is accepted, and nothing is accepted for two keys. -/
structure Ed25519.Sound (E : Ed25519) : Prop where
  accepts : ∀ pub payload signature, pub.length = publicKeySize →
    (E.verify pub payload signature = true ↔ signature = E.sign (E.privateKey pub) payload)
  disjoint : ∀ pub pub' payload signature, pub.length = publicKeySize →
    pub'.length = publicKeySize → E.verify pub payload signature = true →
    E.verify pub' payload signature = true → pub = pub'

variable (E : Ed25519)

def verifyManifestSignature (b : Bundle) (keyID : String) (payload signature : Bytes)
    (at' : Time) : Except TrustError Unit := do
  match b.findManifestKey keyID with
  | none => .error .manifestKeyUnknown
  | some key =>
    require (key.IsActive at') .manifestKeyInactive
    match decodeEd25519PublicKey key.publicKeyBase64 with
    | none => .error (.trustBundleInvalid .encoding)
    | some pub => require (E.verify pub payload signature = true) .manifestSignatureInvalid

/-! ## Updates -/

def findRootKey (keys : List RootKey) (keyID : String) : Option RootKey :=
  keys.find? (·.keyID = keyID)

/-- The signature of an update; `marshal` is `json.Marshal`. -/
def verifyBundleUpdateSignature (marshal : Bundle → Option Bytes) (root : RootKey)
    (update : BundleUpdateEnvelope) : Except TrustError Unit :=
  match decodeEd25519PublicKey root.publicKeyBase64 with
  | none => .error (.trustBundleInvalid .encoding)
  | some pub =>
    match marshal update.bundle with
    | none => .error (.trustBundleInvalid .encoding)
    | some msg =>
      match base64StdDecode update.signatureBase64 with
      | none => .error .trustUpdateSignatureInvalid
      | some sig => require (E.verify pub msg sig = true) .trustUpdateSignatureInvalid

/-- Some root key of the next bundle is one of the current bundle, id and public key. -/
def verifyRootContinuity (current next : Bundle) : Except TrustError Unit :=
  require (∃ nextRoot ∈ next.rootKeys, ∃ curRoot ∈ current.rootKeys,
      nextRoot.keyID = curRoot.keyID ∧ nextRoot.publicKeyBase64 = curRoot.publicKeyBase64)
    .trustUpdateChainInvalid

def verifyBundleMonotonic (current next : Bundle) : Except TrustError Unit := do
  require (current.version ≤ next.version) .trustUpdateChainInvalid
  require (¬ (next.version = current.version ∧ next.bundleID ≠ current.bundleID))
    .trustUpdateChainInvalid

def verifyActiveManifestKeys (bundle : Bundle) (at' : Time) : Except TrustError Unit :=
  require (bundle.activeManifestKeys at' ≠ []) .trustUpdateChainInvalid

/-- Some active entry of the current bundle has the id of an active entry of the next one. -/
def verifyRotationOverlap (current next : Bundle) (at' : Time) : Except TrustError Unit := do
  let currentActive := current.activeManifestKeys at'
  let nextActive := next.activeManifestKeys at'
  require (¬ (currentActive = [] ∨ nextActive = [])) .trustUpdateChainInvalid
  let nextSet := nextActive.map (·.keyID)
  require (∃ k ∈ currentActive, k.keyID ∈ nextSet) .trustUpdateChainInvalid

def verifyAndApplyUpdate (marshal : Bundle → Option Bytes) (current : Bundle)
    (update : BundleUpdateEnvelope) (at' : Time) : Except TrustError Bundle := do
  current.validate
  update.validate
  require (current.hasRootKeyByID update.signedByKeyID = true) .trustUpdateChainInvalid
  match findRootKey current.rootKeys update.signedByKeyID with
  | none => .error .trustUpdateChainInvalid
  | some signerRoot =>
    verifyBundleUpdateSignature E marshal signerRoot update
    verifyRootContinuity current update.bundle
    verifyBundleMonotonic current update.bundle
    verifyActiveManifestKeys update.bundle at'
    verifyRotationOverlap current update.bundle at'
    return update.bundle

variable {E : Ed25519} {marshal : Bundle → Option Bytes} {current applied : Bundle}
  {update : BundleUpdateEnvelope} {b b' : Bundle} {k : String} {t : Time}

theorem verifyAndApplyUpdate_ok
    (h : verifyAndApplyUpdate E marshal current update t = .ok applied) :
    verifyRootContinuity current update.bundle = .ok () ∧
      verifyBundleMonotonic current update.bundle = .ok () ∧ applied = update.bundle := by
  obtain ⟨_, _, h⟩ := bind_ok.mp h
  obtain ⟨_, _, h⟩ := bind_ok.mp h
  obtain ⟨_, _, h⟩ := bind_ok.mp h
  cases hroot : findRootKey current.rootKeys update.signedByKeyID with
  | none =>
    rw [hroot] at h
    cases h
  | some root =>
    rw [hroot] at h
    obtain ⟨_, _, h⟩ := bind_ok.mp h
    obtain ⟨_, hcontinuity, h⟩ := bind_ok.mp h
    obtain ⟨_, hmonotonic, h⟩ := bind_ok.mp h
    obtain ⟨_, _, h⟩ := bind_ok.mp h
    obtain ⟨_, _, h⟩ := bind_ok.mp h
    exact ⟨hcontinuity, hmonotonic, (pure_ok.mp h).symm⟩

theorem applied_eq (h : verifyAndApplyUpdate E marshal current update t = .ok applied) :
    applied = update.bundle :=
  (verifyAndApplyUpdate_ok h).2.2

/-! ## What a bundle accepts for an id -/

/-- The public key that an id stands for at a time: that of the first entry with the id, if this
entry is active. -/
def Bundle.keyInForce (b : Bundle) (keyID : String) (at' : Time) : Option Bytes :=
  ((b.findManifestKey keyID).filter (·.IsActive at')).bind fun key =>
    decodeEd25519PublicKey key.publicKeyBase64

theorem decodeEd25519PublicKey_length {value : String} {pub : Bytes}
    (h : decodeEd25519PublicKey value = some pub) : pub.length = publicKeySize := by
  simp_all [decodeEd25519PublicKey]

theorem Bundle.keyInForce_length {pub : Bytes} (h : b.keyInForce k t = some pub) :
    pub.length = publicKeySize := by
  obtain ⟨key, _, hkey⟩ := Option.bind_eq_some_iff.mp h
  exact decodeEd25519PublicKey_length hkey

open Bundle

theorem verifyManifestSignature_ok {payload signature : Bytes} :
    verifyManifestSignature E b k payload signature t = .ok () ↔
      ∃ pub, b.keyInForce k t = some pub ∧ E.verify pub payload signature = true := by
  unfold verifyManifestSignature keyInForce
  cases hfind : b.findManifestKey k with
  | none => simp
  | some key =>
    by_cases hactive : key.IsActive t
    · -- the window is open: it is down to the encoding of the key and the signature
      grind [bind_ok, require_ok]
    · simp [Option.filter, bind_ok, require_ok, hactive]

def AcceptsHonest (E : Ed25519) (b b' : Bundle) (k : String) (t : Time) : Prop :=
  ∃ pub payload, let signature := E.sign (E.privateKey pub) payload
    verifyManifestSignature E b k payload signature t = .ok () ∧
      verifyManifestSignature E b' k payload signature t = .ok ()

/-- Under some id the two bundles accept the same pairs at that time, and not none at all. -/
def KeepsManifestKey (E : Ed25519) (b b' : Bundle) (t : Time) : Prop :=
  ∃ k, (∀ payload signature, verifyManifestSignature E b k payload signature t = .ok () ↔
      verifyManifestSignature E b' k payload signature t = .ok ()) ∧ AcceptsHonest E b b' k t

/-- Some id has the first of its entries active in both bundles, with one public key. -/
def ShareKey (b b' : Bundle) (t : Time) : Prop :=
  ∃ key ∈ b.manifestKeys, ∃ key' ∈ b'.manifestKeys,
    b.findManifestKey key.keyID = some key ∧ b'.findManifestKey key.keyID = some key' ∧
      key.IsActive t ∧ key'.IsActive t ∧
      ∃ pub, decodeEd25519PublicKey key.publicKeyBase64 = some pub ∧
        decodeEd25519PublicKey key'.publicKeyBase64 = some pub

theorem Bundle.keyInForce_eq_some {pub : Bytes} :
    b.keyInForce k t = some pub ↔ ∃ key, b.findManifestKey k = some key ∧ key.IsActive t ∧
      decodeEd25519PublicKey key.publicKeyBase64 = some pub := by
  unfold keyInForce
  rw [Option.bind_eq_some_iff]
  constructor
  · simp_all
  · rintro ⟨key, hfind, hactive, hpub⟩
    exact ⟨key, Option.filter_eq_some_iff.mpr ⟨hfind, decide_eq_true hactive⟩, hpub⟩

theorem Bundle.findManifestKey_some {key : ManifestKey} (h : b.findManifestKey k = some key) :
    key ∈ b.manifestKeys ∧ key.keyID = k := by
  grind [findManifestKey]

theorem shareKey_iff :
    ShareKey b b' t ↔ ∃ k pub, b.keyInForce k t = some pub ∧ b'.keyInForce k t = some pub := by
  constructor
  · rintro ⟨key, _, key', _, hfind, hfind', hactive, hactive', pub, hpub, hpub'⟩
    refine ⟨key.keyID, pub, ?_, ?_⟩
    · exact keyInForce_eq_some.mpr ⟨key, hfind, hactive, hpub⟩
    · exact keyInForce_eq_some.mpr ⟨key', hfind', hactive', hpub'⟩
  · rintro ⟨k, pub, h, h'⟩
    obtain ⟨key, hfind, hactive, hpub⟩ := keyInForce_eq_some.mp h
    obtain ⟨key', hfind', hactive', hpub'⟩ := keyInForce_eq_some.mp h'
    obtain ⟨hmem, rfl⟩ := findManifestKey_some hfind
    obtain ⟨hmem', _⟩ := findManifestKey_some hfind'
    exact ⟨key, hmem, key', hmem', hfind, hfind', hactive, hactive', pub, hpub, hpub'⟩

theorem keeps_of_keyInForce (hE : E.Sound) {pub : Bytes} (h : b.keyInForce k t = some pub)
    (h' : b'.keyInForce k t = some pub) : KeepsManifestKey E b b' t := by
  refine ⟨k, ?_, pub, [], ?_, ?_⟩
  · intro payload signature
    rw [verifyManifestSignature_ok, verifyManifestSignature_ok, h, h']
  · have hsigned := (hE.accepts pub [] _ (keyInForce_length h)).mpr rfl
    exact verifyManifestSignature_ok.mpr ⟨pub, h, hsigned⟩
  · have hsigned := (hE.accepts pub [] _ (keyInForce_length h)).mpr rfl
    exact verifyManifestSignature_ok.mpr ⟨pub, h', hsigned⟩

theorem keyInForce_of_accepts (hE : E.Sound) {payload signature : Bytes}
    (h : verifyManifestSignature E b k payload signature t = .ok ())
    (h' : verifyManifestSignature E b' k payload signature t = .ok ()) :
    ∃ pub, b.keyInForce k t = some pub ∧ b'.keyInForce k t = some pub := by
  obtain ⟨pub, hpub, hverify⟩ := verifyManifestSignature_ok.mp h
  obtain ⟨pub', hpub', hverify'⟩ := verifyManifestSignature_ok.mp h'
  grind [keyInForce_length, cases Ed25519.Sound]

/-- An accepted update leaves a manifest key that works before and after exactly when the two
bundles share the public key of some id. -/
theorem rotation_keeps_key_iff (E : Ed25519) (hE : E.Sound) (marshal : Bundle → Option Bytes)
    (current : Bundle) (update : BundleUpdateEnvelope) (t : Time) (applied : Bundle)
    (h : verifyAndApplyUpdate E marshal current update t = .ok applied) :
    KeepsManifestKey E current applied t ↔ ShareKey current update.bundle t := by
  rw [applied_eq h, shareKey_iff]
  constructor
  · rintro ⟨k, _, pub, payload, hcurrent, happlied⟩
    exact ⟨k, keyInForce_of_accepts hE hcurrent happlied⟩
  · grind [keeps_of_keyInForce]

/-! ## Two rotations -/

def openSignatures : Ed25519 where
  privateKey := id
  sign key payload := key ++ payload
  verify pub payload signature := signature == pub ++ payload

theorem openSignatures_sound : openSignatures.Sound where
  accepts pub payload signature _ := by simp [openSignatures]
  disjoint pub pub' payload signature hlength hlength' h h' := by
    have hsame : pub ++ payload = pub' ++ payload := by
      rw [← eq_of_beq h, ← eq_of_beq h']
    exact List.append_cancel_right hsame

def zeroKey : String := "AAAAAAAAAAAAAAAAAAAAAAAAAAAAAAAAAAAAAAAAAAA="

def otherKey : String := "BAAAAAAAAAAAAAAAAAAAAAAAAAAAAAAAAAAAAAAAAAA="

def bundleWith (version : Int) (bundleID : String) (keys : List (String × String)) : Bundle where
  version := version
  bundleID := bundleID
  generatedAt := 1
  rootKeys := [⟨"root-1", "ed25519", zeroKey⟩]
  manifestKeys := keys.map fun key => ⟨key.1, "ed25519", key.2, 1, 100⟩

/-- A text of all the fields of a bundle, one a line. -/
def bundleText (b : Bundle) : Bytes :=
  bytesOf (String.intercalate "\n" ([toString b.version, b.bundleID, toString b.generatedAt] ++
    b.rootKeys.flatMap (fun key => [key.keyID, key.algorithm, key.publicKeyBase64]) ++
    b.manifestKeys.flatMap fun key => [key.keyID, key.algorithm, key.publicKeyBase64,
      toString key.notBefore, toString key.notAfter]))

/-- Bytes in base 64, in the alphabet with `+` and `/`. -/
def base64Text (b : Bytes) : String :=
  let digits := (urlAlphabet.encode b).map fun c =>
    if c = '-' then '+' else if c = '_' then '/' else c
  String.ofList (digits ++ List.replicate ((3 - b.length % 3) % 3) '=')

/-- An update with the zero key's signature of the bundle's text. -/
def signedUpdate (b : Bundle) : BundleUpdateEnvelope :=
  ⟨b, "root-1", base64Text (List.replicate 32 0 ++ bundleText b)⟩

/-- The rotation of the repository's test: the old key stays beside the new one. -/
theorem overlap_keeps_key :
    KeepsManifestKey openSignatures (bundleWith 1 "tb-1" [("manifest-old", zeroKey)])
      (bundleWith 2 "tb-2" [("manifest-old", zeroKey), ("manifest-new", otherKey)]) 10 := by
  refine (rotation_keeps_key_iff openSignatures openSignatures_sound (some <| bundleText ·) _
    (signedUpdate (bundleWith 2 "tb-2" [("manifest-old", zeroKey), ("manifest-new", otherKey)]))
    10 _ (by decide +kernel)).mpr ?_
  rw [shareKey_iff]
  exact ⟨"manifest-old", List.replicate 32 0, by decide, by decide⟩

/-- The new bundle has another key under the old id: the update is accepted, and no manifest that
could be signed before can be signed after. -/
theorem replaced_key_accepted :
    let current := bundleWith 1 "tb-1" [("manifest", zeroKey)]
    let next := bundleWith 2 "tb-2" [("manifest", otherKey)]
    verifyAndApplyUpdate openSignatures (some <| bundleText ·) current (signedUpdate next) 10 =
        .ok next ∧
      ¬ KeepsManifestKey openSignatures current next 10 := by
  refine ⟨by decide +kernel, ?_⟩
  rintro ⟨k, _, pub, payload, hcurrent, hnext⟩
  obtain ⟨pub, hpub, hpub'⟩ := keyInForce_of_accepts openSignatures_sound hcurrent hnext
  obtain ⟨key, hfind, _, hkey⟩ := keyInForce_eq_some.mp hpub
  obtain ⟨key', hfind', _, hkey'⟩ := keyInForce_eq_some.mp hpub'
  -- each bundle has one entry, so the two keys are the zero key and the other one
  have hzero := List.mem_singleton.mp (findManifestKey_some hfind).1
  have hother := List.mem_singleton.mp (findManifestKey_some hfind').1
  subst hzero hother
  rw [← hkey'] at hkey
  revert hkey
  decide

end Ardents.Bootstrap
