import Ardents.Bootstrap.ManifestTrust

/-!
# Network manifests

`networkmanifest/manifest.go`. A manifest is parsed strictly, must not have expired, must not be
older than the last one applied, and must be signed by a manifest key that is active in the trust
bundle.
-/

namespace Ardents.Bootstrap

open Go
open Crypto (Time)

/-! ## Texts -/

/-- The text of a trust error; `quote` is the verb `%q`, `encoding` what a failed decoding says. -/
def TrustError.text (quote : String → String) (encoding : String) : TrustError → String
  | .trustBundleInvalid defect => "trust bundle invalid: " ++ defect.text quote encoding
  | .trustUpdateChainInvalid => "trust update chain invalid"
  | .trustUpdateSignatureInvalid => "trust update signature invalid"
  | .manifestKeyUnknown => "manifest key unknown"
  | .manifestKeyInactive => "manifest key inactive"
  | .manifestSignatureInvalid => "manifest signature invalid"

inductive RejectCode where
  | schemaInvalid
  | expired
  | replay
  | keyUnknown
  | signatureInvalid
  | policyInvalid
  deriving DecidableEq, Repr

def RejectCode.text : RejectCode → String
  | .schemaInvalid => "MANIFEST_SCHEMA_INVALID"
  | .expired => "MANIFEST_EXPIRED"
  | .replay => "MANIFEST_REPLAY_DETECTED"
  | .keyUnknown => "MANIFEST_KEY_UNKNOWN"
  | .signatureInvalid => "MANIFEST_SIGNATURE_INVALID"
  | .policyInvalid => "MANIFEST_POLICY_INVALID"

/-- `VerifyError`, with the text of the error it wraps. -/
structure VerifyError where
  code : RejectCode
  reason : String
  deriving DecidableEq, Repr

def VerifyError.text (e : VerifyError) : String := e.code.text ++ ": " ++ e.reason

/-! ## Manifests -/

structure ReconnectPolicy where
  baseIntervalMS : Int
  maxIntervalMS : Int
  jitterRatio : Rat
  deriving DecidableEq

structure Manifest where
  version : Int
  generatedAt : Time
  expiresAt : Time
  bootstrapNodes : List String
  minPeers : Int
  reconnectPolicy : ReconnectPolicy
  keyID : String
  signature : String
  deriving DecidableEq

structure CanonicalFields where
  version : Int
  generatedAt : Time
  expiresAt : Time
  bootstrapNodes : List String
  minPeers : Int
  reconnectPolicy : ReconnectPolicy
  keyID : String

/-- What a decoder finds after the value it has read: the end, another token, or no JSON. -/
inductive Trailing where
  | eof
  | token
  | garbage (text : String)

/-- What the packages of Go do for the manifest: signatures, `%q`, the error of a base64 text, and
the decoders and the encoder of JSON. -/
structure Libraries where
  E : Ed25519
  quote : String → String
  encoding : String
  decodeManifest : Bytes → Except String (Manifest × Trailing)
  decodeBundle : Bytes → Except String Bundle
  marshal : CanonicalFields → Except String Bytes

variable (L : Libraries)

/-- `^[a-zA-Z0-9._:-]+$` -/
def matchesKeyIDPattern (keyID : String) : Bool :=
  keyID ≠ "" ∧ keyID.toList.all fun c => c.isAlphanum || "._:-".toList.contains c

def schemaError (reason : String) : VerifyError := ⟨.schemaInvalid, reason⟩

def policyError (reason : String) : VerifyError := ⟨.policyInvalid, reason⟩

def validateSchema (m : Manifest) : Except VerifyError Unit := do
  require (1 ≤ m.version) (schemaError "version must be >= 1")
  require (m.generatedAt ≠ 0) (schemaError "generated_at is required")
  require (m.expiresAt ≠ 0) (schemaError "expires_at is required")
  require (m.generatedAt < m.expiresAt)
    (schemaError "expires_at must be greater than generated_at")
  require (1 ≤ m.bootstrapNodes.length ∧ m.bootstrapNodes.length ≤ 64)
    (schemaError "bootstrap_nodes size must be within [1..64]")
  m.bootstrapNodes.forM fun node =>
    require (trimSpace node ≠ "" ∧ (bytesOf (trimSpace node)).length ≤ 512)
      (schemaError "bootstrap node entry is invalid")
  require (1 ≤ m.minPeers ∧ m.minPeers ≤ 128) (schemaError "min_peers must be within [1..128]")
  require (500 ≤ m.reconnectPolicy.baseIntervalMS ∧ m.reconnectPolicy.baseIntervalMS ≤ 120000)
    (policyError "base_interval_ms must be within [500..120000]")
  require (500 ≤ m.reconnectPolicy.maxIntervalMS ∧ m.reconnectPolicy.maxIntervalMS ≤ 300000)
    (policyError "max_interval_ms must be within [500..300000]")
  require (m.reconnectPolicy.baseIntervalMS ≤ m.reconnectPolicy.maxIntervalMS)
    (policyError "max_interval_ms must be >= base_interval_ms")
  require (0 ≤ m.reconnectPolicy.jitterRatio ∧ m.reconnectPolicy.jitterRatio ≤ 1)
    (policyError "jitter_ratio must be within [0..1]")
  require (m.keyID ≠ "" ∧ (bytesOf m.keyID).length ≤ 128 ∧ matchesKeyIDPattern m.keyID = true)
    (schemaError "key_id is invalid")
  require (16 ≤ (bytesOf m.signature).length ∧ (bytesOf m.signature).length ≤ 4096)
    (schemaError "signature length is invalid")

def parseStrict (raw : Bytes) : Except VerifyError Manifest :=
  match L.decodeManifest raw with
  | .error text => .error (schemaError text)
  | .ok (_, .token) => .error (schemaError "unexpected trailing json tokens")
  | .ok (_, .garbage text) => .error (schemaError text)
  | .ok (m, .eof) =>
    match validateSchema m with
    | .error e => .error e
    | .ok () => .ok m

def canonicalPayload (m : Manifest) : Except String Bytes :=
  L.marshal { version := m.version, generatedAt := m.generatedAt, expiresAt := m.expiresAt
              bootstrapNodes := m.bootstrapNodes, minPeers := m.minPeers
              reconnectPolicy := m.reconnectPolicy, keyID := m.keyID }

/-! ## Verifying -/

structure VerifyRequest where
  raw : Bytes
  trustBundle : Bundle
  now : Time
  lastAppliedVersion : Int

/-- The time a manifest is verified at; `wall` is what the clock reads where none is given. -/
def effectiveNow (now wall : Time) : Time := if now = 0 then wall else now

def rejectCodeFor : TrustError → RejectCode
  | .manifestKeyUnknown => .keyUnknown
  | .manifestKeyInactive => .keyUnknown
  | .manifestSignatureInvalid => .signatureInvalid
  | _ => .schemaInvalid

def verify (req : VerifyRequest) (wall : Time) : Except VerifyError Manifest := do
  let now := effectiveNow req.now wall
  let manifest ← parseStrict L req.raw
  require (now < manifest.expiresAt) ⟨.expired, "manifest expired"⟩
  require (¬ (0 < req.lastAppliedVersion ∧ manifest.version < req.lastAppliedVersion))
    ⟨.replay, "manifest version is older than last applied"⟩
  match base64StdDecode manifest.signature with
  | none => .error ⟨.signatureInvalid, "signature is not valid base64"⟩
  | some signature =>
    match canonicalPayload L manifest with
    | .error text => .error (schemaError text)
    | .ok payload =>
      match verifyManifestSignature L.E req.trustBundle manifest.keyID payload signature
          now with
      | .error e => .error ⟨rejectCodeFor e, e.text L.quote L.encoding⟩
      | .ok () => .ok manifest

/-! ## What a manifest has passed -/

variable {L}

theorem parseStrict_version {raw : Bytes} {m : Manifest} (h : parseStrict L raw = .ok m) :
    1 ≤ m.version := by
  unfold parseStrict at h
  split at h
  · exact nomatch h
  · exact nomatch h
  · exact nomatch h
  · split at h
    · exact nomatch h
    · rename_i hvalid
      obtain rfl := Except.ok.inj h
      obtain ⟨⟨⟩, hversion, -⟩ := bind_ok.mp hvalid
      exact require_ok.mp hversion

/-- The manifest was signed, with a key of the bundle that is active at that time. -/
def SignedBy (L : Libraries) (b : Bundle) (m : Manifest) (at' : Time) : Prop :=
  ∃ key ∈ b.manifestKeys, key.keyID = m.keyID ∧ key.IsActive at' ∧ ∃ pub payload,
    decodeEd25519PublicKey key.publicKeyBase64 = some pub ∧
    canonicalPayload L m = .ok payload ∧
    base64StdDecode m.signature = some (L.E.sign (L.E.privateKey pub) payload)

theorem verify_ok (hE : L.E.Sound) {req : VerifyRequest} {wall : Time} {m : Manifest}
    (h : verify L req wall = .ok m) :
    parseStrict L req.raw = .ok m ∧ effectiveNow req.now wall < m.expiresAt ∧
      req.lastAppliedVersion ≤ m.version ∧
      SignedBy L req.trustBundle m (effectiveNow req.now wall) := by
  unfold verify at h
  simp only [bind_ok, require_ok] at h
  obtain ⟨manifest, hparse, ⟨⟩, hfresh, ⟨⟩, hnew, h⟩ := h
  split at h
  · cases h
  rename_i signature hsignature
  split at h
  · cases h
  rename_i payload hpayload
  split at h
  · cases h
  rename_i hverified
  obtain rfl := Except.ok.inj h
  have hversion := parseStrict_version hparse
  refine ⟨hparse, hfresh, ?_, ?_⟩
  · -- a last version that is not positive is below every version
    omega
  · obtain ⟨pub, hpub, hpass⟩ := verifyManifestSignature_ok.mp hverified
    obtain ⟨key, hfind, hactive, hkey⟩ := Bundle.keyInForce_eq_some.mp hpub
    obtain ⟨hmem, hid⟩ := Bundle.findManifestKey_some hfind
    have hsigned := (hE.accepts pub payload signature (decodeEd25519PublicKey_length hkey)).mp hpass
    refine ⟨key, hmem, hid, hactive, pub, payload, hkey, hpayload, ?_⟩
    rw [hsignature, hsigned]

end Ardents.Bootstrap
