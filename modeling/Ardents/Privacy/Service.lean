import Ardents.Go.Machine
import Ardents.Go.Map
import Ardents.Go.Run
import Ardents.Privacy.Settings

/-!
# The privacy service

All of `PrivacySettings`, and the service that holds them. Every update reads the settings,
changes its part, normalises the whole, writes it to `privacy.enc` and then publishes it in
memory.
-/

namespace Ardents.Privacy

open Go

/-! ## Settings -/

inductive MessagePrivacyMode where
  | contactsOnly
  | requests
  | everyone
  | other (raw : String)
  deriving DecidableEq, Repr

def MessagePrivacyMode.valid : MessagePrivacyMode → Bool
  | .other _ => false
  | _ => true

inductive SettingsError where
  | policy (e : PolicyError)
  | invalidMessagePrivacyMode
  | invalidStoragePolicyScope
  | invalidStoragePolicyScopeID
  | infiniteTTLRequiresPinned
  | storage
  deriving DecidableEq, Repr

/-- `StoragePolicyOverride`: the fields of a policy and two more. -/
structure StoragePolicyOverride where
  policy : StoragePolicy
  infiniteTTL : Bool
  pinRequiredForInfinite : Bool
  deriving DecidableEq, Repr

structure NodePersonalPolicy where
  storeEnabled : Bool
  ttlDays : Int
  quotaMB : Int
  pinEnabled : Bool
  deriving DecidableEq, Repr

structure NodePublicPolicy where
  relayEnabled : Bool
  discoveryEnabled : Bool
  servingEnabled : Bool
  storeEnabled : Bool
  ttlDays : Int
  quotaMB : Int
  deriving DecidableEq, Repr

structure NodePolicies where
  profileSchemaVersion : Int
  personal : NodePersonalPolicy
  public_ : NodePublicPolicy
  deriving DecidableEq, Repr

/-- `PrivacySettings` with all its fields; those of a storage policy are in `storage`. -/
structure ProfileSettings where
  profileSchemaVersion : Int
  messagePrivacyMode : MessagePrivacyMode
  storage : PrivacySettings
  storageScopeOverrides : GoMap String StoragePolicyOverride
  nodePolicies : Option NodePolicies
  deriving DecidableEq

def currentProfileSchemaVersion : Int := 2

def defaultNodePolicies : NodePolicies where
  profileSchemaVersion := currentProfileSchemaVersion
  personal := { storeEnabled := true, ttlDays := 0, quotaMB := 10 * 1024, pinEnabled := true }
  public_ :=
    { relayEnabled := true, discoveryEnabled := true, servingEnabled := true
      storeEnabled := false, ttlDays := 0, quotaMB := 0 }

/-- `DefaultPrivacySettings`. -/
def defaultProfileSettings : ProfileSettings where
  profileSchemaVersion := currentProfileSchemaVersion
  messagePrivacyMode := .everyone
  storage := defaultPrivacySettings
  storageScopeOverrides := ∅
  nodePolicies := some defaultNodePolicies

def parseMessagePrivacyMode (raw : String) : Except SettingsError MessagePrivacyMode :=
  if trimSpace raw = "contacts_only" then .ok .contactsOnly
  else if trimSpace raw = "requests" then .ok .requests
  else if trimSpace raw = "everyone" then .ok .everyone
  else .error .invalidMessagePrivacyMode

/-! ## Normalising -/

def normalizeProfileSchemaVersion (v : Int) : Int :=
  if v ≤ 0 then currentProfileSchemaVersion
  else if currentProfileSchemaVersion < v then currentProfileSchemaVersion
  else v

def normalizeNodePolicies : Option NodePolicies → NodePolicies
  | none => defaultNodePolicies
  | some policies =>
    { profileSchemaVersion := normalizeProfileSchemaVersion policies.profileSchemaVersion
      personal :=
        { policies.personal with
          ttlDays := normalizeLimitValue policies.personal.ttlDays
          quotaMB := normalizeLimitValue policies.personal.quotaMB }
      public_ :=
        { policies.public_ with
          ttlDays := normalizeLimitValue policies.public_.ttlDays
          quotaMB := normalizeLimitValue policies.public_.quotaMB } }

def normalizeStoragePolicyOverride (override : StoragePolicyOverride) : StoragePolicyOverride :=
  let base := normalizeStoragePolicy override.policy
  { override with
    policy :=
      if override.infiniteTTL then
        { base with
          contentRetentionMode := .persistent
          messageTTLSeconds := 0, imageTTLSeconds := 0, fileTTLSeconds := 0 }
      else base }

@[simp] theorem normalizeStoragePolicy_idem (policy : StoragePolicy) :
    normalizeStoragePolicy (normalizeStoragePolicy policy) = normalizeStoragePolicy policy :=
  normalizePrivacySettings_idem policy

theorem normalizeStoragePolicy_infinite (policy : StoragePolicy) :
    let infinite : StoragePolicy :=
      { normalizeStoragePolicy policy with
        contentRetentionMode := .persistent
        messageTTLSeconds := 0, imageTTLSeconds := 0, fileTTLSeconds := 0 }
    normalizeStoragePolicy infinite = infinite := by
  grind [normalizeStoragePolicy_idem, normalizeStoragePolicy, normalizePrivacySettings,
    ContentRetentionMode.valid]

@[simp] theorem normalizeStoragePolicyOverride_idem (override : StoragePolicyOverride) :
    normalizeStoragePolicyOverride (normalizeStoragePolicyOverride override) =
      normalizeStoragePolicyOverride override := by
  unfold normalizeStoragePolicyOverride
  simp_all [normalizeStoragePolicy_infinite]

theorem normalizeProfileSchemaVersion_idem (v : Int) :
    normalizeProfileSchemaVersion (normalizeProfileSchemaVersion v) =
      normalizeProfileSchemaVersion v := by
  unfold normalizeProfileSchemaVersion currentProfileSchemaVersion
  split_ifs <;> omega

theorem normalizeLimitValue_idem (v : Int) :
    normalizeLimitValue (normalizeLimitValue v) = normalizeLimitValue v :=
  normalizeLimitValue_of_nonneg (normalizeLimitValue_nonneg v)

theorem normalizeNodePolicies_idem (policies : Option NodePolicies) :
    normalizeNodePolicies (some (normalizeNodePolicies policies)) =
      normalizeNodePolicies policies := by
  cases policies with
  | none => rfl
  | some policies =>
    simp only [normalizeNodePolicies, normalizeProfileSchemaVersion_idem,
      normalizeLimitValue_idem]

abbrev Ranging : Type := RangeOrder String StoragePolicyOverride

section

variable [LowerCase]

def normalizeEntry (out : GoMap String StoragePolicyOverride)
    (entry : String × StoragePolicyOverride) : GoMap String StoragePolicyOverride :=
  let key := trimSpace (toLower entry.1)
  if key = "" then out else out.insert key (normalizeStoragePolicyOverride entry.2)

def normalizeStorageScopeOverrides (r : Ranging) (overrides : GoMap String StoragePolicyOverride) :
    GoMap String StoragePolicyOverride :=
  (r.entries overrides).foldl normalizeEntry ∅

/-- `NormalizePrivacySettings`. -/
def normalizeProfileSettings (r : Ranging) (settings : ProfileSettings) : ProfileSettings where
  profileSchemaVersion := normalizeProfileSchemaVersion settings.profileSchemaVersion
  messagePrivacyMode :=
    if settings.messagePrivacyMode.valid then settings.messagePrivacyMode else .everyone
  storage := normalizePrivacySettings settings.storage
  storageScopeOverrides := normalizeStorageScopeOverrides r settings.storageScopeOverrides
  nodePolicies := some (normalizeNodePolicies settings.nodePolicies)

/-! ## What normalising leaves alone -/

/-- A map of overrides whose keys and values are as normalising leaves them. -/
structure NormalOverrides (m : GoMap String StoragePolicyOverride) : Prop where
  key : ∀ {k : String}, k ∈ m → trimSpace (toLower k) = k ∧ k ≠ ""
  value : ∀ {k : String} {override : StoragePolicyOverride}, m[k]? = some override →
    normalizeStoragePolicyOverride override = override

variable {m : GoMap String StoragePolicyOverride}

theorem NormalOverrides.normalize_eq
    (h : NormalOverrides m) (r : Ranging) : normalizeStorageScopeOverrides r m = m := by
  refine foldl_rebuild_of (r.lists m) ?_ fun _ hk => hk
  grind [cases NormalOverrides, normalizeEntry]

theorem normalOverrides_empty : NormalOverrides ∅ where
  key hk := absurd hk (by simp)
  value hget := absurd hget (by simp)

theorem NormalOverrides.insert (h : NormalOverrides m)
    {key : String} (hkey : trimSpace (toLower key) = key) (hne : key ≠ "")
    (override : StoragePolicyOverride) :
    NormalOverrides (m.insert key (normalizeStoragePolicyOverride override)) where
  key {k} hk := by
    obtain ⟨v, hget⟩ := mem_iff_get.mp hk
    rw [get_insert] at hget
    split at hget
    · rename_i heq
      exact heq ▸ ⟨hkey, hne⟩
    · exact h.key (mem_iff_get.mpr ⟨v, hget⟩)
  value {k v} hget := by
    rw [get_insert] at hget
    split at hget
    · rw [← Option.some.inj hget, normalizeStoragePolicyOverride_idem]
    · exact h.value hget

theorem NormalOverrides.erase (h : NormalOverrides m)
    (key : String) : NormalOverrides (m.erase key) where
  key {k} hk := by
    obtain ⟨v, hget⟩ := mem_iff_get.mp hk
    exact h.key (mem_iff_get.mpr ⟨v, get_of_erase hget⟩)
  value hget := h.value (get_of_erase hget)

theorem normalizeProfileSettings_overrides {settings : ProfileSettings} (r : Ranging)
    (h : NormalOverrides settings.storageScopeOverrides) :
    (normalizeProfileSettings r settings).storageScopeOverrides = settings.storageScopeOverrides :=
  h.normalize_eq r

/-- `unicode.ToLower` has nothing more to do where it has been. -/
def LowerCase.Idempotent : Prop :=
  ∀ c : Char, LowerCase.toLower (LowerCase.toLower c) = LowerCase.toLower c

theorem toLower_of_fixed {s : String} (h : ∀ c ∈ s.toList, LowerCase.toLower c = c) :
    toLower s = s := by
  unfold toLower
  rw [List.map_congr_left h, List.map_id', String.ofList_toList]

theorem trimSpace_toLower_idem {s : String}
    (h : ∀ c ∈ s.toList, LowerCase.toLower (LowerCase.toLower c) = LowerCase.toLower c) :
    trimSpace (toLower (trimSpace (toLower s))) = trimSpace (toLower s) := by
  have hfixed : ∀ c ∈ (trimSpace (toLower s)).toList, LowerCase.toLower c = c := by
    intro c hc
    have hmem : c ∈ (toLower s).toList := by
      unfold trimSpace at hc
      rw [String.toList_ofList] at hc
      exact (List.dropWhile_sublist _).mem ((List.rdropWhile_prefix _ _).sublist.mem hc)
    unfold toLower at hmem
    rw [String.toList_ofList] at hmem
    obtain ⟨d, hd, rfl⟩ := List.mem_map.mp hmem
    exact h d hd
  rw [toLower_of_fixed hfixed, trimSpace_idem]

theorem normalOverrides_normalize (h : ∀ k ∈ m, ∀ c ∈ k.toList,
    LowerCase.toLower (LowerCase.toLower c) = LowerCase.toLower c) (r : Ranging) :
    NormalOverrides (normalizeStorageScopeOverrides r m) := by
  -- every round of the loop keeps the map normal
  have hround : ∀ (entries : List (String × StoragePolicyOverride))
      (out : GoMap String StoragePolicyOverride), (∀ entry ∈ entries, entry.1 ∈ m) →
      NormalOverrides out → NormalOverrides (entries.foldl normalizeEntry out) := by
    intro entries
    induction entries with
    | nil =>
      intro out _ hout
      exact hout
    | cons entry rest ih =>
      intro out hm hout
      rw [List.foldl_cons]
      refine ih _ (fun entry hentry => hm entry (List.mem_cons_of_mem _ hentry)) ?_
      unfold normalizeEntry
      dsimp only
      split
      · exact hout
      · rename_i hne
        exact hout.insert (trimSpace_toLower_idem (h _ (hm entry List.mem_cons_self))) hne entry.2
  exact hround _ ∅ (fun entry hentry => mem_iff_get.mpr ⟨_, (r.lists m _ _).mp hentry⟩)
    normalOverrides_empty

def Normal (settings : ProfileSettings) : Prop :=
  ∀ r : Ranging, normalizeProfileSettings r settings = settings

theorem normal_normalize (r : Ranging) (settings : ProfileSettings)
    (h : ∀ k ∈ settings.storageScopeOverrides, ∀ c ∈ k.toList,
      LowerCase.toLower (LowerCase.toLower c) = LowerCase.toLower c) :
    Normal (normalizeProfileSettings r settings) := by
  intro r'
  have hmode : (if settings.messagePrivacyMode.valid then settings.messagePrivacyMode
      else MessagePrivacyMode.everyone).valid = true := by
    split
    · assumption
    · rfl
  have hoverrides := (normalOverrides_normalize h r).normalize_eq r'
  grind [normalizeProfileSettings, normalizeProfileSchemaVersion_idem,
    normalizePrivacySettings_idem, normalizeNodePolicies_idem]

/-! ## Scopes -/

inductive StoragePolicyScope where
  | global
  | group
  | channel
  | chat
  deriving DecidableEq, Repr

def StoragePolicyScope.text : StoragePolicyScope → String
  | .global => "global"
  | .group => "group"
  | .channel => "channel"
  | .chat => "chat"

def scopeOfText (s : String) : Option StoragePolicyScope :=
  if s = "global" then some .global
  else if s = "group" then some .group
  else if s = "channel" then some .channel
  else if s = "chat" then some .chat
  else none

def normalizeScope (scopeRaw scopeIDRaw : String) :
    Except SettingsError (StoragePolicyScope × String) :=
  match scopeOfText (toLower (trimSpace scopeRaw)) with
  | none => .error .invalidStoragePolicyScope
  -- everything is one scope, whatever the id
  | some .global => .ok (.global, "")
  | some scope =>
    if trimSpace scopeIDRaw = "" then .error .invalidStoragePolicyScopeID
    else .ok (scope, trimSpace scopeIDRaw)

def keyOf (target : StoragePolicyScope × String) : String :=
  if target.1 = .global then target.1.text else target.1.text ++ ":" ++ target.2

def scopeOverrideKey (scopeRaw scopeIDRaw : String) : Except SettingsError String :=
  (normalizeScope scopeRaw scopeIDRaw).map keyOf

def StoragePolicyOverride.resolve (override : StoragePolicyOverride) (isPinned : Bool) :
    Except SettingsError StoragePolicy :=
  let normalized := normalizeStoragePolicyOverride override
  if normalized.infiniteTTL ∧ normalized.pinRequiredForInfinite ∧ ¬ isPinned then
    .error .infiniteTTLRequiresPinned
  else .ok (normalizeStoragePolicy normalized.policy)

def resolveStoragePolicyForScope (r : Ranging) (settings : ProfileSettings)
    (scopeRaw scopeIDRaw : String) (isPinned : Bool) : Except SettingsError StoragePolicy := do
  let settings := normalizeProfileSettings r settings
  let key ← scopeOverrideKey scopeRaw scopeIDRaw
  match settings.storageScopeOverrides[key]? with
  | some override => override.resolve isPinned
  | none =>
    let userDefault := storagePolicyFromSettings settings.storage
    if userDefault.storageProtection.valid ∧ userDefault.contentRetentionMode.valid then
      return userDefault
    return normalizeStoragePolicy defaultPrivacySettings

/-! ## The parts that updates change -/

namespace ProfileSettings

variable (settings : ProfileSettings)

def withMode (mode : MessagePrivacyMode) : ProfileSettings :=
  { settings with messagePrivacyMode := mode }

def withPolicy (policy : StoragePolicy) : ProfileSettings :=
  { settings with storage := policy }

def withOverride (key : String) (override : StoragePolicyOverride) : ProfileSettings :=
  { settings with storageScopeOverrides := settings.storageScopeOverrides.insert key override }

def withoutOverride (key : String) : ProfileSettings :=
  { settings with storageScopeOverrides := settings.storageScopeOverrides.erase key }

def withNodePolicies (policies : NodePolicies) : ProfileSettings :=
  { settings with nodePolicies := some policies }

end ProfileSettings

/-! ## The service -/

/-- How an update goes: the orders in which it ranges over the overrides when it reads, when it
normalises what it made and when it writes, and whether the file can be written. -/
structure UpdateCourse where
  reads : Ranging
  normalises : Ranging
  persists : Ranging
  written : Bool

structure Service where
  /-- The settings in memory. -/
  privacy : ProfileSettings
  /-- `privacy.enc` has a path and a secret. -/
  configured : Bool
  /-- What `privacy.enc` holds. -/
  file : ProfileSettings

namespace Service

variable (s : Service)

/-- `SetState`, of the settings. -/
def setState (r : Ranging) (settings : ProfileSettings) : Service :=
  { s with privacy := normalizeProfileSettings r settings }

def getPrivacySettings (r : Ranging) : ProfileSettings :=
  normalizeProfileSettings r s.privacy

variable (c : UpdateCourse)

/-- `SettingsStore.Persist`. -/
def persist (settings : ProfileSettings) : Except SettingsError Service :=
  if s.configured = false then .ok s
  else if c.written then .ok { s with file := normalizeProfileSettings c.persists settings }
  else .error .storage

/-- What the updates have in common: change what was read, normalise, write, publish. -/
def update (change : ProfileSettings → ProfileSettings) :
    Except SettingsError (ProfileSettings × Service) := do
  let current := s.getPrivacySettings c.reads
  let updated := normalizeProfileSettings c.normalises (change current)
  let s ← s.persist c updated
  return (updated, { s with privacy := updated })

def updatePrivacySettings (mode : String) :
    Except SettingsError (ProfileSettings × Service) := do
  let parsedMode ← parseMessagePrivacyMode mode
  s.update c fun current => current.withMode parsedMode

def updateStoragePolicy (args : PolicyArguments) :
    Except SettingsError (StoragePolicy × Service) := do
  let policy ← (parseStoragePolicy args).mapError .policy
  let (updated, s) ← s.update c fun current => current.withPolicy policy
  return (storagePolicyFromSettings updated.storage, s)

def setStorageScopeOverride (scope scopeID : String)
    (override : StoragePolicyOverride) :
    Except SettingsError (StoragePolicyOverride × Service) := do
  let key ← scopeOverrideKey scope scopeID
  let normalized := normalizeStoragePolicyOverride override
  let (_, s) ← s.update c fun current => current.withOverride key normalized
  return (normalized, s)

/-- `GetStorageScopeOverride`; `none` is that there is no override. -/
def getStorageScopeOverride (r : Ranging) (scope scopeID : String) :
    Except SettingsError (Option StoragePolicyOverride) := do
  let key ← scopeOverrideKey scope scopeID
  return (s.getPrivacySettings r).storageScopeOverrides[key]?

def removeStorageScopeOverride (scope scopeID : String) :
    Except SettingsError (Bool × Service) := do
  let key ← scopeOverrideKey scope scopeID
  if (s.getPrivacySettings c.reads).storageScopeOverrides.contains key then
    let (_, s) ← s.update c fun current => current.withoutOverride key
    return (true, s)
  else return (false, s)

def resolveStoragePolicy (r : Ranging) (scope scopeID : String) (isPinned : Bool) :
    Except SettingsError StoragePolicy :=
  resolveStoragePolicyForScope r (s.getPrivacySettings r) scope scopeID isPinned

def updateNodePolicies (policies : NodePolicies) :
    Except SettingsError (NodePolicies × Service) := do
  let (updated, s) ← s.update c fun current =>
    current.withNodePolicies (normalizeNodePolicies (some policies))
  return (updated.nodePolicies.getD defaultNodePolicies, s)

end Service

/-! ## Updates as one thing -/

inductive Update where
  | privacySettings (mode : String)
  | storagePolicy (args : PolicyArguments)
  | setOverride (scope scopeID : String) (override : StoragePolicyOverride)
  | removeOverride (scope scopeID : String)
  | nodePolicies (policies : NodePolicies)

variable (s : Service)

variable (c : UpdateCourse)

def Service.apply : Update → Except SettingsError Service
  | .privacySettings mode => (s.updatePrivacySettings c mode).map Prod.snd
  | .storagePolicy args => (s.updateStoragePolicy c args).map Prod.snd
  | .setOverride scope scopeID override =>
    (s.setStorageScopeOverride c scope scopeID override).map Prod.snd
  | .removeOverride scope scopeID => (s.removeStorageScopeOverride c scope scopeID).map Prod.snd
  | .nodePolicies policies => (s.updateNodePolicies c policies).map Prod.snd

/-- What an update makes of the settings it reads, before they are normalised; `none` is that there
is nothing to do. -/
def Update.change (u : Update) (current : ProfileSettings) :
    Except SettingsError (Option ProfileSettings) :=
  match u with
  | .privacySettings mode => do
    return some (current.withMode (← parseMessagePrivacyMode mode))
  | .storagePolicy args => do
    return some (current.withPolicy (← (parseStoragePolicy args).mapError .policy))
  | .setOverride scope scopeID override => do
    let key ← scopeOverrideKey scope scopeID
    return some (current.withOverride key (normalizeStoragePolicyOverride override))
  | .removeOverride scope scopeID => do
    let key ← scopeOverrideKey scope scopeID
    return if current.storageScopeOverrides.contains key then some (current.withoutOverride key)
      else none
  | .nodePolicies policies =>
    .ok (some (current.withNodePolicies (normalizeNodePolicies (some policies))))

def Service.commit (changed : ProfileSettings) : Except SettingsError Service :=
  let updated := normalizeProfileSettings c.normalises changed
  (s.persist c updated).map fun s => { s with privacy := updated }

theorem Service.update_eq (change : ProfileSettings → ProfileSettings) :
    (s.update c change).map Prod.snd = s.commit c (change (s.getPrivacySettings c.reads)) := by
  unfold Service.update Service.commit
  dsimp only
  cases s.persist c (normalizeProfileSettings c.normalises
    (change (s.getPrivacySettings c.reads))) with
  | error e => rfl
  | ok s' => rfl

theorem Service.update_returning {α : Type}
    (change : ProfileSettings → ProfileSettings) (result : ProfileSettings → α) :
    ((s.update c change).bind fun p => .ok (result p.1, p.2)).map Prod.snd =
      s.commit c (change (s.getPrivacySettings c.reads)) := by
  rw [← s.update_eq c change]
  cases s.update c change with
  | error e => rfl
  | ok p => rfl

/-- **Every update reads, changes and commits.** -/
theorem Service.apply_eq (u : Update) :
    s.apply c u = match u.change (s.getPrivacySettings c.reads) with
      | .error e => .error e
      | .ok none => .ok s
      | .ok (some changed) => s.commit c changed := by
  cases u with
  | privacySettings mode =>
    simp only [Service.apply, Service.updatePrivacySettings, Update.change]
    cases parseMessagePrivacyMode mode with
    | error e => rfl
    | ok parsedMode => exact s.update_eq c fun current => current.withMode parsedMode
  | storagePolicy args =>
    simp only [Service.apply, Service.updateStoragePolicy, Update.change]
    cases (parseStoragePolicy args).mapError SettingsError.policy with
    | error e => rfl
    | ok policy =>
      exact s.update_returning c (fun current => current.withPolicy policy)
        fun updated => storagePolicyFromSettings updated.storage
  | setOverride scope scopeID override =>
    simp only [Service.apply, Service.setStorageScopeOverride, Update.change]
    cases scopeOverrideKey scope scopeID with
    | error e => rfl
    | ok key =>
      exact s.update_returning c
        (fun current => current.withOverride key (normalizeStoragePolicyOverride override))
        fun _ => normalizeStoragePolicyOverride override
  | removeOverride scope scopeID =>
    simp only [Service.apply, Service.removeStorageScopeOverride, Update.change]
    cases scopeOverrideKey scope scopeID with
    | error e => rfl
    | ok key =>
      dsimp only [bind, Except.bind, pure, Except.pure]
      cases (s.getPrivacySettings c.reads).storageScopeOverrides.contains key with
      | false => rfl
      | true =>
        exact s.update_returning c (fun current => current.withoutOverride key) fun _ => true
  | nodePolicies policies =>
    simp only [Service.apply, Service.updateNodePolicies, Update.change]
    exact s.update_returning c
      (fun current => current.withNodePolicies (normalizeNodePolicies (some policies)))
      fun updated => updated.nodePolicies.getD defaultNodePolicies

def Service.step (op : Update × UpdateCourse) : Service :=
  ((s.apply op.2 op.1).toOption).getD s

end

def smooth (u : Update) : Update × UpdateCourse := (u, ⟨.sorted, .sorted, .sorted, true⟩)

theorem asciiLowerCase_idempotent : @LowerCase.Idempotent asciiLowerCase :=
  Char.toLower_toLower_eq_toLower

/-- **Normalising is a projection.** What has been normalised is left alone, whatever the order in
which Go ranges over the overrides; it makes the same policies as before, and they are normal. -/
theorem normalising_projects [LowerCase] {settings : ProfileSettings}
    (hascii : ∀ k ∈ settings.storageScopeOverrides, ∀ c ∈ k.toList, c.toNat < 128) (r r' : Ranging)
    (policy : StoragePolicy) (override : StoragePolicyOverride) (isPinned : Bool) :
    let normal := normalizeProfileSettings r settings
    let normalOverride := normalizeStoragePolicyOverride override
    normalizeStoragePolicy (normalizeStoragePolicy policy) = normalizeStoragePolicy policy ∧
      normalizeStoragePolicyOverride normalOverride = normalOverride ∧
      normalizeProfileSettings r' normal = normal ∧
      storagePolicyFromSettings normal.storage = storagePolicyFromSettings settings.storage ∧
      normalOverride.resolve isPinned = override.resolve isPinned ∧
      normalizeStoragePolicy (storagePolicyFromSettings settings.storage) =
        storagePolicyFromSettings settings.storage ∧
      normalizeStoragePolicy normalOverride.policy = normalOverride.policy ∧
      ∀ resolved, override.resolve isPinned = .ok resolved →
        normalizeStoragePolicy resolved = resolved := by
  intro normal normalOverride
  have hlower : ∀ k ∈ settings.storageScopeOverrides, ∀ c ∈ k.toList,
      LowerCase.toLower (LowerCase.toLower c) = LowerCase.toLower c := by
    intro k hk c hc
    have hc' := hascii k hk c hc
    have hlow : ∀ n < 128, (Char.ofNat n).toLower.toNat < 128 := by decide
    rw [LowerCase.ascii c hc', LowerCase.ascii _ (by simpa using hlow c.toNat hc'),
      Char.toLower_toLower_eq_toLower]
  refine ⟨normalizeStoragePolicy_idem policy, normalizeStoragePolicyOverride_idem override,
    normal_normalize r settings hlower r', normalizePrivacySettings_idem _, ?_,
    normalizePrivacySettings_idem _, ?_, ?_⟩
  · simp only [StoragePolicyOverride.resolve, normalOverride, normalizeStoragePolicyOverride_idem]
  · simp only [normalOverride, normalizeStoragePolicyOverride]
    split
    · exact normalizeStoragePolicy_infinite _
    · exact normalizeStoragePolicy_idem _
  · intro resolved hresolved
    unfold StoragePolicyOverride.resolve at hresolved
    dsimp only at hresolved
    split at hresolved
    · cases hresolved
    · rw [← Except.ok.inj hresolved, normalizeStoragePolicy_idem]

theorem padded_key_projects :
    letI := asciiLowerCase
    let override : StoragePolicyOverride := ⟨defaultPrivacySettings, true, false⟩
    let normal := normalizeProfileSettings .sorted { defaultProfileSettings with
      storageScopeOverrides := (∅ : GoMap String _).insert " Global" override }
    normalizeProfileSettings .sorted normal = normal := by
  let _ := asciiLowerCase
  intro override normal
  refine (normalising_projects (fun k hk => ?_) .sorted .sorted defaultPrivacySettings override
    true).2.2.1
  obtain rfl : " Global" = k := by simpa using hk
  simp

end Ardents.Privacy
