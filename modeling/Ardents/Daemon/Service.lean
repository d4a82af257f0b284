import Ardents.Attachments.Store
import Ardents.Privacy.Service

/-!
# The storage policy of the running service

What `UpdateStoragePolicy`, `SetBlobNodePreset` and `StopNetworking` do to the stores. A change of
policy is applied first, and where nothing may be retained everything is wiped. Only then is the
new policy written to `privacy.enc`. If that fails, the policy of before is applied in turn.
-/

namespace Ardents.Daemon

open Go
open Ardents.Attachments (AttachmentClassLimits AttachmentHardCapPolicy mbToBytes)
open Privacy (PrivacySettings StoragePolicy PolicyArguments PolicyError NodePolicies
  normalizeStoragePolicy normalizePrivacySettings storagePolicyFromSettings parseStoragePolicy
  retentionOf defaultNodePolicies)

/-! ## Presets of a blob node -/

inductive BlobReplicationMode where
  | onDemand
  | pinnedOnly
  | none
  deriving DecidableEq, Repr

inductive BlobNodePreset where
  | custom
  | assist
  | lite
  | cache
  | pin
  deriving DecidableEq, Repr

structure BlobFeatureFlags where
  announceEnabled : Bool
  fetchEnabled : Bool
  rolloutPercent : Int
  deriving DecidableEq, Repr

/-- `blobNodePresetConfig`, without the limits on bandwidth and requests. -/
structure BlobNodePresetConfig where
  preset : BlobNodePreset
  storageProtection : String
  retention : String
  imageQuotaMB : Int
  fileQuotaMB : Int
  imageMaxItemSizeMB : Int
  fileMaxItemSizeMB : Int
  replicationMode : String
  relayEnabled : Bool
  publicDiscoveryEnabled : Bool
  publicServingEnabled : Bool
  publicStoreEnabled : Bool
  personalStoreEnabled : Bool
  announceEnabled : Bool
  fetchEnabled : Bool
  rolloutPercent : Int
  highWatermarkPercent : Int
  fullCapPercent : Int
  aggressiveTargetPercent : Int
  deriving DecidableEq, Repr

inductive ServiceError where
  | policy (e : PolicyError)
  | wipe
  | storage
  | network
  | invalidBlobNodePreset
  | invalidBlobReplicationMode
  deriving DecidableEq, Repr

def parseBlobReplicationMode [LowerCase] (raw : String) : Except ServiceError BlobReplicationMode :=
  let mode := toLower (trimSpace raw)
  if mode = "" then .ok .onDemand
  else if mode = "on_demand" then .ok .onDemand
  else if mode = "pinned_only" then .ok .pinnedOnly
  else if mode = "none" then .ok .none
  else .error .invalidBlobReplicationMode

def parseBlobNodePreset [LowerCase] (raw : String) : Except ServiceError BlobNodePreset :=
  let preset := toLower (trimSpace raw)
  if preset = "custom" then .ok .custom
  else if preset = "assist" then .ok .assist
  else if preset = "lite" then .ok .lite
  else if preset = "cache" then .ok .cache
  else if preset = "pin" then .ok .pin
  else .error .invalidBlobNodePreset

def clampRolloutPercent (raw : Int) : Int :=
  if raw < 0 then 0 else if 100 < raw then 100 else raw

def defaultBlobNodePresetProfile : BlobNodePresetConfig where
  preset := .custom
  storageProtection := "standard"
  retention := "persistent"
  imageQuotaMB := 0
  fileQuotaMB := 0
  imageMaxItemSizeMB := 0
  fileMaxItemSizeMB := 0
  replicationMode := "on_demand"
  relayEnabled := true
  publicDiscoveryEnabled := true
  publicServingEnabled := true
  publicStoreEnabled := false
  personalStoreEnabled := true
  announceEnabled := true
  fetchEnabled := true
  rolloutPercent := 100
  highWatermarkPercent := 90
  fullCapPercent := 100
  aggressiveTargetPercent := 75

def buildBlobNodePresetConfig (preset : BlobNodePreset) : BlobNodePresetConfig :=
  let cfg := { defaultBlobNodePresetProfile with preset := preset }
  match preset with
  | .custom => cfg
  | .assist =>
    { cfg with
      imageQuotaMB := 1024, fileQuotaMB := 9216, imageMaxItemSizeMB := 20
      fileMaxItemSizeMB := 100, replicationMode := "on_demand", announceEnabled := true
      fetchEnabled := true, highWatermarkPercent := 85, aggressiveTargetPercent := 70 }
  | .lite =>
    { cfg with
      imageQuotaMB := 256, fileQuotaMB := 512, imageMaxItemSizeMB := 8
      fileMaxItemSizeMB := 16, replicationMode := "none", announceEnabled := false
      fetchEnabled := true, highWatermarkPercent := 85, aggressiveTargetPercent := 65 }
  | .cache =>
    { cfg with
      imageQuotaMB := 1024, fileQuotaMB := 4096, imageMaxItemSizeMB := 16
      fileMaxItemSizeMB := 64, replicationMode := "on_demand", announceEnabled := true
      fetchEnabled := true, highWatermarkPercent := 90, aggressiveTargetPercent := 75 }
  | .pin =>
    { cfg with
      imageQuotaMB := 2048, fileQuotaMB := 8192, imageMaxItemSizeMB := 32
      fileMaxItemSizeMB := 128, replicationMode := "pinned_only", announceEnabled := true
      fetchEnabled := true, highWatermarkPercent := 90, aggressiveTargetPercent := 80 }

namespace BlobNodePresetConfig

/-- What `SetBlobNodePreset` calls `UpdateStoragePolicy` with. -/
def policyArguments (cfg : BlobNodePresetConfig) : PolicyArguments where
  storageProtection := cfg.storageProtection
  retention := cfg.retention
  messageTTLSeconds := 0
  imageTTLSeconds := 0
  fileTTLSeconds := 0
  imageQuotaMB := cfg.imageQuotaMB
  fileQuotaMB := cfg.fileQuotaMB
  imageMaxItemSizeMB := cfg.imageMaxItemSizeMB
  fileMaxItemSizeMB := cfg.fileMaxItemSizeMB

/-- The policies that `syncNodePoliciesFromPreset` writes. -/
def nodePolicies (cfg : BlobNodePresetConfig) : NodePolicies :=
  { defaultNodePolicies with
    personal := { defaultNodePolicies.personal with storeEnabled := cfg.personalStoreEnabled }
    public_ :=
      { defaultNodePolicies.public_ with
        storeEnabled := cfg.publicStoreEnabled
        relayEnabled := cfg.relayEnabled
        discoveryEnabled := cfg.publicDiscoveryEnabled
        servingEnabled := cfg.publicServingEnabled } }

end BlobNodePresetConfig

/-! ## The service -/

/-- The limits that `SetClassPolicies` sets for a policy. -/
def classLimits (policy : StoragePolicy) : AttachmentClassLimits where
  imageQuotaBytes := mbToBytes policy.imageQuotaMB
  imageMaxItemBytes := mbToBytes policy.imageMaxItemSizeMB
  fileQuotaBytes := mbToBytes policy.fileQuotaMB
  fileMaxItemBytes := mbToBytes policy.fileMaxItemSizeMB

/-- The percentages that `SetHardCapPolicy` sets for a preset. -/
def hardCapPolicy (cfg : BlobNodePresetConfig) : AttachmentHardCapPolicy :=
  let high := min (max cfg.highWatermarkPercent 1) 100
  { highWatermarkPercent := high
    fullCapPercent := min (max cfg.fullCapPercent high) 100
    aggressiveTargetPercent := min (max cfg.aggressiveTargetPercent 1) high }

structure Service (δ γ β : Type) extends Stores δ γ β where
  /-- The limits in force in the attachment store. -/
  limits : AttachmentClassLimits
  hardCap : AttachmentHardCapPolicy
  nodePreset : BlobNodePresetConfig
  replicationMode : BlobReplicationMode
  blobFlags : BlobFeatureFlags
  nodePolicies : NodePolicies

structure PolicyCourse (δ : Type) where
  removed : δ → ContentFile → Bool
  /-- `privacy.enc` is written. -/
  persisted : Bool
  /-- What can be removed when the policy of before is applied again. -/
  removedAgain : δ → ContentFile → Bool

namespace Service

variable {δ γ β : Type} [DecidableEq δ]

def applyStoragePolicy (removed : δ → ContentFile → Bool) (s : Service δ γ β)
    (policy : StoragePolicy) : Bool × Service δ γ β :=
  let policy := normalizeStoragePolicy policy
  match s.toStores.applyStoragePolicy removed policy with
  | (ok, stores) =>
    (ok,
      { s with
        toStores := stores
        limits := classLimits policy
        hardCap := hardCapPolicy s.nodePreset })

def updateStoragePolicy (C : PolicyCourse δ) (s : Service δ γ β) (args : PolicyArguments) :
    Except ServiceError StoragePolicy × Service δ γ β :=
  let previousPolicy := storagePolicyFromSettings (normalizePrivacySettings s.privacy)
  match parseStoragePolicy args with
  | .error e => (.error (.policy e), s)
  | .ok policy =>
    match s.applyStoragePolicy C.removed policy with
    | (false, s) => (.error .wipe, s)
    | (true, s) =>
      if C.persisted then
        (.ok (storagePolicyFromSettings (normalizePrivacySettings policy)),
          { s with privacy := normalizePrivacySettings policy })
      -- only what runs is rolled back, as far as that goes
      else (.error .storage, (s.applyStoragePolicy C.removedAgain previousPolicy).2)

/-- `SetBlobNodePreset`; `synced` is whether the node policies are written. -/
def setBlobNodePreset [LowerCase] (C : PolicyCourse δ) (synced : Bool) (s : Service δ γ β)
    (rawPreset : String) : Except ServiceError BlobNodePresetConfig × Service δ γ β :=
  match parseBlobNodePreset rawPreset with
  | .error e => (.error e, s)
  | .ok preset =>
    let cfg := buildBlobNodePresetConfig preset
    match s.updateStoragePolicy C cfg.policyArguments with
    | (.error e, s) => (.error e, s)
    | (.ok _, s) =>
      match parseBlobReplicationMode cfg.replicationMode with
      | .error e => (.error e, s)
      | .ok mode =>
        let s :=
          { s with
            replicationMode := mode
            blobFlags :=
              ⟨cfg.announceEnabled, cfg.fetchEnabled,
                clampRolloutPercent cfg.rolloutPercent⟩
            hardCap := hardCapPolicy cfg
            nodePreset := cfg }
        if synced then
          (.ok cfg,
            { s with
              privacy := normalizePrivacySettings s.privacy
              nodePolicies := cfg.nodePolicies })
        else (.error .storage, s)

/-- `StopNetworking`. If the node was running and does not stop, nothing is cleaned up. -/
def stopNetworking (removed : δ → ContentFile → Bool) (running stopped : Bool)
    (s : Service δ γ β) : Except ServiceError Unit × Service δ γ β :=
  if running ∧ ¬stopped then (.error .network, s)
  else
    match s.toStores.cleanupOnStopIfZeroRetention removed with
    | (true, stores) => (.ok (), { s with toStores := stores })
    | (false, stores) => (.error .wipe, { s with toStores := stores })

/-! ### What a policy does -/

variable {removed : δ → ContentFile → Bool} {s s' : Service δ γ β} {policy : StoragePolicy}

theorem applyStoragePolicy_of_retained (h : retentionOf policy ≠ .zeroRetention) :
    s.applyStoragePolicy removed policy = (true, { s with
          toStores := s.toStores.setPersistenceEnabled true
          limits := classLimits (normalizeStoragePolicy policy)
          hardCap := hardCapPolicy s.nodePreset }) := by
  grind [normalizeStoragePolicy, Privacy.retentionOf_normalize, applyStoragePolicy,
    Stores.applyStoragePolicy_of_retained]

theorem applyStoragePolicy_of_zeroRetention (h : retentionOf policy = .zeroRetention) :
    s.applyStoragePolicy removed policy =
      (((s.toStores.setPersistenceEnabled false).wipeContentState removed).1, { s with
          toStores := ((s.toStores.setPersistenceEnabled false).wipeContentState removed).2
          limits := classLimits (normalizeStoragePolicy policy)
          hardCap := hardCapPolicy s.nodePreset }) := by
  grind [normalizeStoragePolicy, Privacy.retentionOf_normalize, applyStoragePolicy,
    Stores.applyStoragePolicy_of_zeroRetention]

structure Applied (removed : δ → ContentFile → Bool) (policy : StoragePolicy)
    (s s' : Service δ γ β) : Prop where
  memory : ∀ f, s'.memory f =
    if retentionOf policy = .zeroRetention then f.empty else s.memory f
  disk : ∀ d f, s'.disk d f =
    if retentionOf policy = .zeroRetention ∧ s.dir f = some d ∧ removed d f = true then f.empty
    else s.disk d f
  persist : ∀ f, s'.persist f =
    if f.hasFlag then decide (retentionOf policy ≠ .zeroRetention) else s.persist f
  limits : s'.limits = classLimits (normalizeStoragePolicy policy)
  hardCap : s'.hardCap = hardCapPolicy s.nodePreset
  dir : s'.dir = s.dir
  nodePreset : s'.nodePreset = s.nodePreset
  privacy : s'.privacy = s.privacy

theorem applyStoragePolicy_applied (removed : δ → ContentFile → Bool) (s : Service δ γ β)
    (policy : StoragePolicy) :
    Applied removed policy s (s.applyStoragePolicy removed policy).2 := by
  by_cases hzero : retentionOf policy = .zeroRetention
  · rw [applyStoragePolicy_of_zeroRetention hzero]
    refine ⟨fun f => ?_, fun d f => ?_, fun f => ?_, rfl, rfl, rfl, rfl, rfl⟩
    · rw [if_pos hzero]
      rfl
    · simp only [hzero, true_and]
      rfl
    · simp only [hzero, ne_eq, not_true, decide_false]
      rfl
  · rw [applyStoragePolicy_of_retained hzero]
    refine ⟨fun f => ?_, fun d f => ?_, fun f => ?_, rfl, rfl, rfl, rfl, rfl⟩
    · rw [if_neg hzero]
      rfl
    · rw [if_neg fun h => hzero h.1]
      rfl
    · simp only [hzero, ne_eq, not_false_eq_true, decide_true]
      rfl

theorem Applied.of_settings {settings : PrivacySettings}
    (h : Applied removed (storagePolicyFromSettings (normalizePrivacySettings settings)) s s') :
    Applied removed settings s s' := by
  have hretention : retentionOf (storagePolicyFromSettings (normalizePrivacySettings settings)) =
      retentionOf settings := by
    rw [Privacy.retentionOf_storagePolicyFromSettings, Privacy.retentionOf_normalize]
  have hnormal : normalizeStoragePolicy
      (storagePolicyFromSettings (normalizePrivacySettings settings)) =
        normalizeStoragePolicy settings := by
    simp [normalizeStoragePolicy, storagePolicyFromSettings, Privacy.normalizePrivacySettings_idem]
  obtain ⟨hmemory, hdisk, hpersist, hlimits, hhardCap, hdir, hnodePreset, hprivacy⟩ := h
  rw [hretention] at hmemory hdisk hpersist
  rw [hnormal] at hlimits
  exact ⟨hmemory, hdisk, hpersist, hlimits, hhardCap, hdir, hnodePreset, hprivacy⟩

def WipeFails (removed : δ → ContentFile → Bool) (s : Service δ γ β) (policy : StoragePolicy) :
    Prop :=
  retentionOf policy = .zeroRetention ∧ ∃ f d, s.dir f = some d ∧ removed d f = false

theorem applyStoragePolicy_fails_iff :
    (s.applyStoragePolicy removed policy).1 = false ↔ s.WipeFails removed policy := by
  by_cases hzero : retentionOf policy = .zeroRetention
  · rw [applyStoragePolicy_of_zeroRetention hzero, ← Bool.not_eq_true, Stores.wipeContentState_ok]
    simp only [not_forall, Bool.not_eq_true, WipeFails, hzero, true_and, exists_prop]
    rfl
  · rw [applyStoragePolicy_of_retained hzero]
    constructor
    · simp
    · intro hfails
      exact absurd hfails.1 hzero

/-! ### What an update does -/

inductive Updated (C : PolicyCourse δ) (s : Service δ γ β) (args : PolicyArguments) :
    Except ServiceError StoragePolicy × Service δ γ β → Prop
  | refused (e : PolicyError) : parseStoragePolicy args = .error e →
      Updated C s args (.error (.policy e), s)
  | notWiped (policy : StoragePolicy) (s' : Service δ γ β) : parseStoragePolicy args = .ok policy →
      Applied C.removed policy s s' → s.WipeFails C.removed policy →
      Updated C s args (.error .wipe, s')
  | written (policy : StoragePolicy) (s' : Service δ γ β) : parseStoragePolicy args = .ok policy →
      Applied C.removed policy s s' → ¬s.WipeFails C.removed policy → C.persisted = true →
      Updated C s args (.ok (storagePolicyFromSettings (normalizePrivacySettings policy)),
        { s' with privacy := normalizePrivacySettings policy })
  | rolledBack (policy : StoragePolicy) (s' s'' : Service δ γ β) :
      parseStoragePolicy args = .ok policy → Applied C.removed policy s s' →
      ¬s.WipeFails C.removed policy → C.persisted = false →
      Applied C.removedAgain s.privacy s' s'' → Updated C s args (.error .storage, s'')

theorem updateStoragePolicy_updated (C : PolicyCourse δ) (s : Service δ γ β)
    (args : PolicyArguments) : Updated C s args (s.updateStoragePolicy C args) := by
  unfold updateStoragePolicy
  cases hparse : parseStoragePolicy args with
  | error e => exact .refused e hparse
  | ok policy =>
    have happlied := applyStoragePolicy_applied C.removed s policy
    have hfails : (s.applyStoragePolicy C.removed policy).1 = false ↔
        s.WipeFails C.removed policy := applyStoragePolicy_fails_iff
    dsimp only
    generalize s.applyStoragePolicy C.removed policy = r at happlied hfails ⊢
    obtain ⟨ok, s'⟩ := r
    cases ok with
    | false => exact .notWiped policy s' hparse happlied (hfails.mp rfl)
    | true =>
      have hwiped : ¬s.WipeFails C.removed policy := fun hwipe =>
        absurd (hfails.mpr hwipe) (by simp)
      have hagain := (applyStoragePolicy_applied C.removedAgain s'
        (storagePolicyFromSettings (normalizePrivacySettings s.privacy))).of_settings
      cases hpersisted : C.persisted with
      | true => exact .written policy s' hparse happlied hwiped hpersisted
      | false => exact .rolledBack policy s' _ hparse happlied hwiped hpersisted hagain

end Service

end Ardents.Daemon
