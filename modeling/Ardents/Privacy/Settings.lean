import Ardents.Go.Checks
import Ardents.Go.Text

/-!
# Privacy settings and the storage policy

The part of `privacy/model` that says how long content is kept. A policy is parsed from what the
user enters or taken from stored settings, and is normalised either way.
-/

namespace Ardents.Privacy

open Go

inductive StorageProtectionMode where
  | standard
  | protected_
  | other (raw : String)
  deriving DecidableEq, Repr

inductive ContentRetentionMode where
  | persistent
  | ephemeral
  | zeroRetention
  | other (raw : String)
  deriving DecidableEq, Repr

def StorageProtectionMode.valid : StorageProtectionMode → Bool
  | .standard => true
  | .protected_ => true
  | .other _ => false

def ContentRetentionMode.valid : ContentRetentionMode → Bool
  | .persistent => true
  | .ephemeral => true
  | .zeroRetention => true
  | .other _ => false

/-- `StoragePolicy`; `PrivacySettings` has the same fields among others. -/
structure StoragePolicy where
  storageProtection : StorageProtectionMode
  contentRetentionMode : ContentRetentionMode
  messageTTLSeconds : Int
  imageTTLSeconds : Int
  fileTTLSeconds : Int
  imageQuotaMB : Int
  fileQuotaMB : Int
  imageMaxItemSizeMB : Int
  fileMaxItemSizeMB : Int
  deriving DecidableEq, Repr

/-- `PrivacySettings`, as far as it is about storage. -/
abbrev PrivacySettings : Type := StoragePolicy

inductive PolicyError where
  | invalidStorageProtectionMode
  | invalidContentRetentionMode
  | invalidTTLSeconds
  deriving DecidableEq, Repr

def defaultEphemeralMessageTTLSeconds : Int := 86400

def defaultEphemeralFileTTLSeconds : Int := 0

def defaultPrivacySettings : PrivacySettings :=
  { storageProtection := .standard, contentRetentionMode := .persistent, messageTTLSeconds := 0
    imageTTLSeconds := 0, fileTTLSeconds := 0, imageQuotaMB := 0, fileQuotaMB := 0
    imageMaxItemSizeMB := 0, fileMaxItemSizeMB := 0 }

/-- `normalizeTTLSeconds` and `normalizeLimitValue`. -/
def normalizeLimitValue (v : Int) : Int := if v < 0 then 0 else v

variable (s : PrivacySettings)

def normalizePrivacySettings : PrivacySettings :=
  let mode := if s.contentRetentionMode.valid then s.contentRetentionMode
    else defaultPrivacySettings.contentRetentionMode
  let messageTTL := normalizeLimitValue s.messageTTLSeconds
  let fileTTL := normalizeLimitValue s.fileTTLSeconds
  { storageProtection := if s.storageProtection.valid then s.storageProtection
      else defaultPrivacySettings.storageProtection
    contentRetentionMode := mode
    messageTTLSeconds := if mode ≠ .ephemeral then 0
      else if messageTTL = 0 then defaultEphemeralMessageTTLSeconds else messageTTL
    imageTTLSeconds := if mode ≠ .ephemeral then 0 else normalizeLimitValue s.imageTTLSeconds
    fileTTLSeconds := if mode ≠ .ephemeral then 0
      else if fileTTL = 0 then defaultEphemeralFileTTLSeconds else fileTTL
    imageQuotaMB := normalizeLimitValue s.imageQuotaMB
    fileQuotaMB := normalizeLimitValue s.fileQuotaMB
    imageMaxItemSizeMB := normalizeLimitValue s.imageMaxItemSizeMB
    fileMaxItemSizeMB := normalizeLimitValue s.fileMaxItemSizeMB }

def normalizeStoragePolicy (policy : StoragePolicy) : StoragePolicy :=
  normalizePrivacySettings policy

def storagePolicyFromSettings (settings : PrivacySettings) : StoragePolicy :=
  normalizePrivacySettings settings

def parseStorageProtectionMode (raw : String) : Except PolicyError StorageProtectionMode :=
  if trimSpace raw = "standard" then .ok .standard
  else if trimSpace raw = "protected" then .ok .protected_
  else .error .invalidStorageProtectionMode

def parseContentRetentionMode (raw : String) : Except PolicyError ContentRetentionMode :=
  if trimSpace raw = "persistent" then .ok .persistent
  else if trimSpace raw = "ephemeral" then .ok .ephemeral
  else if trimSpace raw = "zero_retention" then .ok .zeroRetention
  else .error .invalidContentRetentionMode

/-- What `UpdateStoragePolicy` is called with. -/
structure PolicyArguments where
  storageProtection : String
  retention : String
  messageTTLSeconds : Int
  imageTTLSeconds : Int
  fileTTLSeconds : Int
  imageQuotaMB : Int
  fileQuotaMB : Int
  imageMaxItemSizeMB : Int
  fileMaxItemSizeMB : Int

def parseStoragePolicy (args : PolicyArguments) : Except PolicyError StoragePolicy := do
  let protectionMode ← parseStorageProtectionMode args.storageProtection
  let retentionMode ← parseContentRetentionMode args.retention
  require (0 ≤ args.messageTTLSeconds ∧ 0 ≤ args.imageTTLSeconds ∧ 0 ≤ args.fileTTLSeconds)
    .invalidTTLSeconds
  require (0 ≤ args.imageQuotaMB ∧ 0 ≤ args.fileQuotaMB ∧ 0 ≤ args.imageMaxItemSizeMB ∧
    0 ≤ args.fileMaxItemSizeMB) .invalidTTLSeconds
  return normalizeStoragePolicy
    { storageProtection := protectionMode, contentRetentionMode := retentionMode
      messageTTLSeconds := args.messageTTLSeconds, imageTTLSeconds := args.imageTTLSeconds
      fileTTLSeconds := args.fileTTLSeconds, imageQuotaMB := args.imageQuotaMB
      fileQuotaMB := args.fileQuotaMB, imageMaxItemSizeMB := args.imageMaxItemSizeMB
      fileMaxItemSizeMB := args.fileMaxItemSizeMB }

/-! ## What settings come down to -/

def retentionOf : ContentRetentionMode :=
  (normalizePrivacySettings s).contentRetentionMode

theorem retentionOf_eq :
    retentionOf s = if s.contentRetentionMode.valid then s.contentRetentionMode else .persistent :=
  rfl

theorem retentionOf_valid : (retentionOf s).valid = true := by
  rw [retentionOf_eq]
  split
  · assumption
  · rfl

@[simp] theorem retentionOf_normalize :
    retentionOf (normalizePrivacySettings s) = retentionOf s := by
  rw [retentionOf_eq]
  exact if_pos (retentionOf_valid s)

theorem normalizeLimitValue_of_nonneg {v : Int} (h : 0 ≤ v) : normalizeLimitValue v = v :=
  if_neg (by omega)

theorem normalizeLimitValue_nonneg (v : Int) : 0 ≤ normalizeLimitValue v := by
  grind [normalizeLimitValue]

theorem filled_in_normal {default v : Int} (hdefault : 0 ≤ default) (hv : 0 ≤ v) :
    (if normalizeLimitValue (if v = 0 then default else v) = 0 then default
      else normalizeLimitValue (if v = 0 then default else v)) =
      if v = 0 then default else v := by
  grind [normalizeLimitValue_of_nonneg]

theorem normalizePrivacySettings_idem :
    normalizePrivacySettings (normalizePrivacySettings s) = normalizePrivacySettings s := by
  have hprotection : (if s.storageProtection.valid = true then s.storageProtection
      else defaultPrivacySettings.storageProtection).valid = true := by
    split
    · assumption
    · rfl
  have hmode := retentionOf_valid s
  rw [retentionOf_eq] at hmode
  have hlimit : ∀ v, normalizeLimitValue (normalizeLimitValue v) = normalizeLimitValue v :=
    fun v => normalizeLimitValue_of_nonneg (normalizeLimitValue_nonneg v)
  unfold normalizePrivacySettings
  simp only [hprotection, hlimit, if_true]
  generalize hm : (if s.contentRetentionMode.valid = true then s.contentRetentionMode
    else defaultPrivacySettings.contentRetentionMode) = mode
  have hvalid : mode.valid = true := hm ▸ hmode
  simp only [hvalid, if_true]
  by_cases hephemeral : mode = .ephemeral
  · simp only [hephemeral, ne_eq, not_true, if_false, hlimit]
    congr 1
    · exact filled_in_normal (by decide) (normalizeLimitValue_nonneg _)
    · exact filled_in_normal (by decide) (normalizeLimitValue_nonneg _)
  · simp [hephemeral]

@[simp] theorem retentionOf_storagePolicyFromSettings :
    retentionOf (storagePolicyFromSettings s) = retentionOf s := retentionOf_normalize s

theorem valid_of_parseContentRetentionMode {raw : String} {mode : ContentRetentionMode}
    (h : parseContentRetentionMode raw = .ok mode) : mode.valid = true := by
  unfold parseContentRetentionMode at h
  split at h
  · obtain rfl := Except.ok.inj h
    rfl
  · split at h
    · obtain rfl := Except.ok.inj h
      rfl
    · split at h
      · obtain rfl := Except.ok.inj h
        rfl
      · exact absurd h (by simp)

theorem retentionOf_parseStoragePolicy {args : PolicyArguments} {policy : StoragePolicy}
    (h : parseStoragePolicy args = .ok policy) :
    parseContentRetentionMode args.retention = .ok (retentionOf policy) := by
  unfold parseStoragePolicy at h
  simp only [bind_ok, require_ok, pure_ok] at h
  obtain ⟨protectionMode, -, mode, hmode, -, -, -, -, rfl⟩ := h
  rw [hmode]
  unfold normalizeStoragePolicy
  rw [retentionOf_normalize, retentionOf_eq, if_pos (valid_of_parseContentRetentionMode hmode)]

end Ardents.Privacy
