import Ardents.Go.Machine
import Ardents.Go.Run
import Ardents.Bootstrap.NetworkManifest

/-!
# Loading and applying bootstrap sets

`bootstrapmanager`: the set of nodes to connect to comes from a signed manifest, from a cache of
the last one applied, or from what was built in. A manifest set that is applied is saved to the
cache, whose version is the floor for the next manifest.
-/

namespace Ardents.Bootstrap

open Go
open Crypto (Time)

/-! ## Sets -/

inductive BootstrapSource where
  | manifest
  | cache
  | baked
  | other (raw : String)
  deriving DecidableEq, Repr

structure ManifestMeta where
  version : Int
  generatedAt : Time
  expiresAt : Time
  keyID : String
  fetchedAt : Time
  deriving DecidableEq

structure BootstrapSet where
  source : BootstrapSource
  bootstrapNodes : List String
  minPeers : Int
  reconnectPolicy : ReconnectPolicy
  manifestMeta : Option ManifestMeta
  deriving DecidableEq

structure CachePayload where
  cachedAt : Time
  sourceOrigin : BootstrapSource
  set : BootstrapSet
  deriving DecidableEq

def validateSet (set : BootstrapSet) : Except String Unit := do
  require (1 ≤ set.bootstrapNodes.length) "bootstrap_nodes must contain at least one node"
  require (1 ≤ set.minPeers) "min_peers must be >= 1"
  require (500 ≤ set.reconnectPolicy.baseIntervalMS) "base_interval_ms must be >= 500"
  require (set.reconnectPolicy.baseIntervalMS ≤ set.reconnectPolicy.maxIntervalMS)
    "max_interval_ms must be >= base_interval_ms"
  require (0 ≤ set.reconnectPolicy.jitterRatio ∧ set.reconnectPolicy.jitterRatio ≤ 1)
    "jitter_ratio must be in [0..1]"

/-- The fields of `waku.Config` a set is written to. -/
structure Config where
  bootstrapNodes : List String
  minPeers : Int
  reconnectInterval : Int
  reconnectBackoffMax : Int
  bootstrapSource : BootstrapSource
  bootstrapManifestVersion : Int
  bootstrapManifestKeyID : String

/-! ## The manager -/

structure Settings where
  manifestPath : String
  trustBundlePath : String
  cachePath : String
  baked : BootstrapSet

structure Manager where
  activeSource : BootstrapSource
  manifestMeta : Option ManifestMeta
  lastReason : String
  lastRejectCode : String

/-- `New`. -/
def newManager : Manager := ⟨.baked, none, "", ""⟩

/-- The manager, the configuration it writes to, and the cache file; `none` where there is none. -/
structure Client where
  settings : Settings
  manager : Manager
  cfg : Config
  cache : Option CachePayload

inductive SaveOutcome where
  | written
  | failed (text : String) (replaced : Bool)

/-- What a refresh finds: the two files, the clock at each of its readings, and how the write of the
cache ends. -/
structure RefreshInputs where
  manifestFile : Except String Bytes
  trustFile : Except String Bytes
  now : Time
  wall : Time
  cachedAt : Time
  /-- What reading the cache file reports where there is none. -/
  noCache : String
  save : SaveOutcome

def RefreshInputs.at' (inp : RefreshInputs) : Time := effectiveNow inp.now inp.wall

inductive ManifestLoadError where
  | notConfigured
  | manifestFile (text : String)
  | trustFile (text : String)
  | trustDecode (text : String)
  | trust (e : TrustError)
  | verify (e : VerifyError)
  | set (text : String)

variable (L : Libraries)

def ManifestLoadError.text : ManifestLoadError → String
  | .notConfigured => "manifest or trust bundle path is not configured"
  | .manifestFile text => "manifest load failed: " ++ text
  | .trustFile text => "trust bundle load failed: " ++ text
  | .trustDecode text => "trust bundle invalid: " ++ text
  | .trust e => e.text L.quote L.encoding
  | .verify e => e.text
  | .set text => text

/-- `strings.Contains`. -/
def containsText (text part : String) : Bool := part.toList <:+: text.toList

def mapManifestRejectCode [LowerCase] (e : ManifestLoadError) : String :=
  match e with
  | .verify e => e.code.text
  | .trustDecode _ => "TRUST_BUNDLE_INVALID"
  | .trust (.trustBundleInvalid _) => "TRUST_BUNDLE_INVALID"
  | .trust .trustUpdateChainInvalid => "TRUST_BUNDLE_INVALID"
  | e => if containsText (toLower (e.text L)) "trust bundle" then "TRUST_BUNDLE_INVALID" else ""

def parseBundle (raw : Bytes) : Except ManifestLoadError Bundle :=
  match L.decodeBundle raw with
  | .error text => .error (.trustDecode text)
  | .ok b =>
    match b.validate with
    | .error e => .error (.trust e)
    | .ok () => .ok b

namespace Client

variable (c : Client)

def readCachedManifestVersion : Int :=
  if c.settings.cachePath = "" then 0
  else
    match c.cache with
    | none => 0
    | some cached =>
      match cached.set.manifestMeta with
      | none => 0
      | some data => data.version

def manifestSet (m : Manifest) (now : Time) : BootstrapSet where
  source := .manifest
  bootstrapNodes := m.bootstrapNodes
  minPeers := m.minPeers
  reconnectPolicy := m.reconnectPolicy
  manifestMeta := some { version := m.version, generatedAt := m.generatedAt
                         expiresAt := m.expiresAt, keyID := m.keyID, fetchedAt := now }

def loadManifest (inp : RefreshInputs) : Except ManifestLoadError BootstrapSet := do
  require (¬ (c.settings.manifestPath = "" ∨ c.settings.trustBundlePath = "")) .notConfigured
  match inp.manifestFile with
  | .error text => .error (.manifestFile text)
  | .ok manifestRaw =>
    match inp.trustFile with
    | .error text => .error (.trustFile text)
    | .ok trustRaw =>
      match parseBundle L trustRaw with
      | .error e => .error e
      | .ok trustBundle =>
        let request : VerifyRequest :=
          { raw := manifestRaw, trustBundle := trustBundle, now := inp.now
            lastAppliedVersion := c.readCachedManifestVersion }
        match verify L request inp.wall with
        | .error e => .error (.verify e)
        | .ok verified =>
          match validateSet (manifestSet verified inp.now) with
          | .error text => .error (.set text)
          | .ok () => .ok (manifestSet verified inp.now)

def loadCache (inp : RefreshInputs) : Except String BootstrapSet :=
  if c.settings.cachePath = "" then .error "cache path is not configured"
  else
    match c.cache with
    | none => .error inp.noCache
    | some cached =>
      match validateSet cached.set with
      | .error text => .error text
      | .ok () => .ok { cached.set with source := .cache }

/-- What `saveCache` leaves in the file, and its error. -/
def saveCache (inp : RefreshInputs) (set : BootstrapSet) : Option CachePayload × Option String :=
  let payload : CachePayload :=
    { cachedAt := inp.cachedAt, sourceOrigin := .manifest, set := { set with source := .manifest } }
  if c.settings.cachePath = "" then (c.cache, none)
  else
    match inp.save with
    | .written => (some payload, none)
    | .failed text replaced => (if replaced then some payload else c.cache, some text)

structure LoadResult where
  ok : Bool
  set : Option BootstrapSet
  errorCode : String
  reason : String

def loadBootstrapSet [LowerCase] (inp : RefreshInputs) : Manager × LoadResult :=
  match c.loadManifest L inp with
  | .ok set => ({ c.manager with lastRejectCode := "" }, ⟨true, some set, "", ""⟩)
  | .error e =>
    let reason := "manifest rejected: " ++ e.text L
    let code := mapManifestRejectCode L e
    match c.loadCache inp with
    | .ok set =>
      ({ c.manager with lastReason := reason, lastRejectCode := code },
        ⟨true, some set, "", ""⟩)
    | .error text =>
      let both := reason ++ "; cache invalid: " ++ text
      let manager := { c.manager with lastReason := both, lastRejectCode := code }
      match validateSet c.settings.baked with
      | .ok () => (manager, ⟨true, some { c.settings.baked with source := .baked }, "", ""⟩)
      | .error _ => (manager, ⟨false, none, "BOOTSTRAP_SET_UNAVAILABLE", both⟩)

structure ApplyResult where
  applied : Bool
  errorCode : String
  reason : String

/-- The configuration once the set is written to it; intervals are nanoseconds in 64 bits. -/
def configOf (set : BootstrapSet) : Config where
  bootstrapNodes := set.bootstrapNodes
  minPeers := set.minPeers
  reconnectInterval := int64 (set.reconnectPolicy.baseIntervalMS * 1000000)
  reconnectBackoffMax := int64 (set.reconnectPolicy.maxIntervalMS * 1000000)
  bootstrapSource := set.source
  bootstrapManifestVersion := (set.manifestMeta.map (·.version)).getD 0
  bootstrapManifestKeyID := (set.manifestMeta.map (·.keyID)).getD ""

def configured (set : BootstrapSet) : Client :=
  { c with
    manager := { c.manager with activeSource := set.source, manifestMeta := set.manifestMeta }
    cfg := configOf set }

/-- `ApplyBootstrapSet`, for a configuration that is there. -/
def applyBootstrapSet (inp : RefreshInputs) (set : BootstrapSet) : Client × ApplyResult :=
  match validateSet set with
  | .error text => (c, ⟨false, "BOOTSTRAP_SET_INVALID", text⟩)
  | .ok () =>
    if set.source = .manifest then
      match c.saveCache inp set with
      | (cache, some text) =>
        ({ c.configured set with cache := cache }, ⟨false, "BOOTSTRAP_APPLY_FAILED", text⟩)
      | (cache, none) => ({ c.configured set with cache := cache }, ⟨true, "", ""⟩)
    else (c.configured set, ⟨true, "", ""⟩)

end Client

/-! ## The refresher -/

/-- What one step of the refresher does: the client after it, and the set it applied, if it did. -/
def refresh [LowerCase] (c : Client) (inp : RefreshInputs) : Client × Option BootstrapSet :=
  let load := c.loadBootstrapSet L inp
  let c := { c with manager := load.1 }
  match load.2.ok, load.2.set with
  | true, some set =>
    let apply := c.applyBootstrapSet inp set
    (apply.1, if apply.2.applied then some set else none)
  | _, _ => (c, none)

inductive RefreshEvent where
  | step (inp : RefreshInputs)
  /-- The process starts again: a new manager, with whatever configuration it is given. -/
  | restart (cfg : Config)

namespace RefreshEvent

variable [LowerCase]

def apply (c : Client) : RefreshEvent → Client
  | .step inp => (refresh L c inp).1
  | .restart cfg => { c with manager := newManager, cfg := cfg }

/-- The manifest set for which the event has `ApplyBootstrapSet` return `Applied`. -/
def applies (c : Client) : RefreshEvent → List (RefreshInputs × BootstrapSet)
  | .step inp =>
    match (refresh L c inp).2 with
    | none => []
    | some set => if set.source = .manifest then [(inp, set)] else []
  | .restart _ => []

end RefreshEvent

/-- The manifest sets a run applies, one after the other, with what each step found. -/
def appliedManifests [LowerCase] (c : Client) :
    List RefreshEvent → List (RefreshInputs × BootstrapSet)
  | [] => []
  | e :: es => e.applies L c ++ appliedManifests (e.apply L c) es

def BootstrapSet.version (set : BootstrapSet) : Int := (set.manifestMeta.map (·.version)).getD 0

/-- The set came out of a manifest found in that step, not expired, and signed by a key that was
active in the bundle found in that step. -/
def Vouched (inp : RefreshInputs) (set : BootstrapSet) : Prop :=
  ∃ manifestRaw trustRaw manifest trustBundle, inp.manifestFile = .ok manifestRaw ∧
    inp.trustFile = .ok trustRaw ∧ parseStrict L manifestRaw = .ok manifest ∧
    parseBundle L trustRaw = .ok trustBundle ∧ set = Client.manifestSet manifest inp.now ∧
    inp.at' < manifest.expiresAt ∧ SignedBy L trustBundle manifest inp.at'

/-! ## One step -/

open Client

section

variable {L} [LowerCase] {c : Client} {inp : RefreshInputs} {set : BootstrapSet}

omit [LowerCase] in
theorem loadManifest_ok (hE : L.E.Sound) (h : c.loadManifest L inp = .ok set) :
    Vouched L inp set ∧ c.readCachedManifestVersion ≤ set.version ∧ set.source = .manifest := by
  obtain ⟨⟨⟩, -, h⟩ := bind_ok.mp h
  split at h
  · exact nomatch h
  rename_i manifestRaw hmanifest
  split at h
  · exact nomatch h
  rename_i trustRaw htrust
  split at h
  · exact nomatch h
  rename_i trustBundle hbundle
  dsimp only at h
  split at h
  · exact nomatch h
  rename_i verified hverified
  split at h
  · exact nomatch h
  obtain rfl := Except.ok.inj h
  obtain ⟨hparse, hfresh, hversion, hsigned⟩ := verify_ok hE hverified
  exact ⟨⟨manifestRaw, trustRaw, verified, trustBundle, hmanifest, htrust, hparse, hbundle, rfl,
    hfresh, hsigned⟩, hversion, rfl⟩

omit [LowerCase] in
theorem saveCache_cases (c : Client) (inp : RefreshInputs) (set : BootstrapSet)
    (hpath : c.settings.cachePath ≠ "") :
    (c.saveCache inp set).1 = c.cache ∧ (c.saveCache inp set).2 ≠ none ∨
      ∃ payload, (c.saveCache inp set).1 = some payload ∧
        payload.set.manifestMeta = set.manifestMeta := by
  grind [saveCache]

omit [LowerCase] in
theorem readCached_of_cache {payload : CachePayload} (hpath : c.settings.cachePath ≠ "")
    (hcache : c.cache = some payload) (hdata : payload.set.manifestMeta = set.manifestMeta) :
    c.readCachedManifestVersion = set.version := by
  grind [readCachedManifestVersion, BootstrapSet.version]

/-- What applying a set does to the cache: nothing, and then no manifest set was applied, or it has
the version of a manifest set. -/
def KeepsFloor (c : Client) (set : BootstrapSet) (c' : Client) (applied : Bool) : Prop :=
  c'.settings = c.settings ∧
    ((c'.cache = c.cache ∧ (set.source = .manifest → applied = false)) ∨
      (set.source = .manifest ∧ c'.readCachedManifestVersion = set.version))

omit [LowerCase] in
theorem applyBootstrapSet_floor (c : Client) (inp : RefreshInputs) (set : BootstrapSet)
    (hpath : c.settings.cachePath ≠ "") :
    KeepsFloor c set (c.applyBootstrapSet inp set).1 (c.applyBootstrapSet inp set).2.applied := by
  unfold applyBootstrapSet
  split
  · exact ⟨rfl, Or.inl ⟨rfl, fun _ => rfl⟩⟩
  split
  · rename_i hsource
    split
    · rename_i cache text hsave
      refine ⟨rfl, ?_⟩
      rcases saveCache_cases c inp set hpath with ⟨hkept, -⟩ | ⟨payload, hnew, hdata⟩
      · simp_all
      · rw [hsave] at hnew
        have hpath' : { c.configured set with cache := cache }.settings.cachePath ≠ "" := hpath
        exact Or.inr ⟨hsource, readCached_of_cache hpath' hnew hdata⟩
    · rename_i cache hsave
      refine ⟨rfl, ?_⟩
      rcases saveCache_cases c inp set hpath with ⟨-, hfailed⟩ | ⟨payload, hnew, hdata⟩
      · simp_all
      · rw [hsave] at hnew
        have hpath' : { c.configured set with cache := cache }.settings.cachePath ≠ "" := hpath
        exact Or.inr ⟨hsource, readCached_of_cache hpath' hnew hdata⟩
  · rename_i hsource
    exact ⟨rfl, Or.inl ⟨rfl, fun h => absurd h hsource⟩⟩

theorem loadBootstrapSet_manifest (hE : L.E.Sound)
    (hset : (c.loadBootstrapSet L inp).2.set = some set) (hsource : set.source = .manifest) :
    Vouched L inp set ∧ c.readCachedManifestVersion ≤ set.version := by
  unfold loadBootstrapSet at hset
  split at hset
  · rename_i loaded hload
    obtain rfl := Option.some.inj hset
    obtain ⟨hvouched, hfloor, -⟩ := loadManifest_ok hE hload
    exact ⟨hvouched, hfloor⟩
  · split at hset
    · -- from the cache
      grind [loadCache]
    · grind

/-- What one event does: the floor does not sink, and what is applied lies between the two. -/
structure Climbs (L : Libraries) (c c' : Client)
    (applied : List (RefreshInputs × BootstrapSet)) : Prop where
  settings : c'.settings = c.settings
  floor : c.readCachedManifestVersion ≤ c'.readCachedManifestVersion
  above : ∀ p ∈ applied, c.readCachedManifestVersion ≤ p.2.version
  below : ∀ p ∈ applied, p.2.version ≤ c'.readCachedManifestVersion
  single : applied.length ≤ 1
  vouched : ∀ p ∈ applied, Vouched L p.1 p.2

omit [LowerCase] in
theorem climbs_nothing {c' : Client} (hsettings : c'.settings = c.settings)
    (hcache : c'.cache = c.cache) : Climbs L c c' [] := by
  have hsame : c'.readCachedManifestVersion = c.readCachedManifestVersion := by
    unfold readCachedManifestVersion
    rw [hsettings, hcache]
  exact ⟨hsettings, le_of_eq hsame.symm, fun _ hp => absurd hp List.not_mem_nil,
    fun _ hp => absurd hp List.not_mem_nil, Nat.zero_le _, fun _ hp => absurd hp List.not_mem_nil⟩

theorem climbs_refresh (hE : L.E.Sound) (hpath : c.settings.cachePath ≠ "") :
    Climbs L c (RefreshEvent.apply L c (.step inp)) (RefreshEvent.applies L c (.step inp)) := by
  unfold RefreshEvent.apply RefreshEvent.applies refresh
  dsimp only
  generalize hload : c.loadBootstrapSet L inp = load
  split
  · rename_i set hok hset
    -- the memory of the manager does not matter to the floor
    have hfloor := applyBootstrapSet_floor { c with manager := load.1 } inp set hpath
    generalize ({ c with manager := load.1 } : Client).applyBootstrapSet inp set = result
      at hfloor ⊢
    obtain ⟨hsettings, ⟨hcache, hnot⟩ | ⟨hsource, hversion⟩⟩ := hfloor
    · grind [climbs_nothing]
    · obtain ⟨hvouched, habove⟩ :=
        loadBootstrapSet_manifest hE ((congrArg (·.2.set) hload).trans hset) hsource
      refine ⟨hsettings, le_of_le_of_eq habove hversion.symm, ?_, ?_, ?_, ?_⟩
      all_goals cases result.2.applied
      all_goals simp only [Bool.false_eq_true, if_false, if_true, if_pos hsource]
      · exact fun _ hp => absurd hp List.not_mem_nil
      · simp_all
      · exact fun _ hp => absurd hp List.not_mem_nil
      · simp_all
      · exact Nat.zero_le _
      · exact le_refl _
      · exact fun _ hp => absurd hp List.not_mem_nil
      · simp_all
  · exact climbs_nothing rfl rfl

theorem climbs_event (hE : L.E.Sound) (hpath : c.settings.cachePath ≠ "") (e : RefreshEvent) :
    Climbs L c (e.apply L c) (e.applies L c) := by
  cases e with
  | step inp => exact climbs_refresh hE hpath
  | restart cfg => exact climbs_nothing rfl rfl

/-! ## Runs -/

omit [LowerCase] in
theorem pairwise_of_length_le_one {α : Type} {R : α → α → Prop} {l : List α} (h : l.length ≤ 1) :
    l.Pairwise R := by
  rcases l with - | ⟨a, - | ⟨b, l⟩⟩
  · exact List.Pairwise.nil
  · exact List.pairwise_singleton R a
  · simp at h

theorem appliedManifests_climb (hE : L.E.Sound) (hpath : c.settings.cachePath ≠ "")
    (events : List RefreshEvent) :
    (∀ p ∈ appliedManifests L c events, c.readCachedManifestVersion ≤ p.2.version) ∧
      (appliedManifests L c events).Pairwise (fun p q => p.2.version ≤ q.2.version) ∧
      ∀ p ∈ appliedManifests L c events, Vouched L p.1 p.2 := by
  induction events generalizing c with
  | nil => exact ⟨fun _ hp => absurd hp List.not_mem_nil, List.Pairwise.nil,
      fun _ hp => absurd hp List.not_mem_nil⟩
  | cons e es ih =>
    have hstep := climbs_event hE hpath e
    obtain ⟨habove, hsorted, hvouched⟩ :=
      ih (c := e.apply L c) (by rw [hstep.settings]; exact hpath)
    refine ⟨?_, ?_, ?_⟩
    · intro p hp
      rcases List.mem_append.mp hp with hp | hp
      · exact hstep.above p hp
      · exact le_trans hstep.floor (habove p hp)
    · refine List.pairwise_append.mpr ⟨?_, hsorted, ?_⟩
      · exact pairwise_of_length_le_one hstep.single
      · intro p hp q hq
        exact le_trans (hstep.below p hp) (habove q hq)
    · intro p hp
      rcases List.mem_append.mp hp with hp | hp
      · exact hstep.vouched p hp
      · exact hvouched p hp

end

def newClient (settings : Settings) (cfg : Config) : Client := ⟨settings, newManager, cfg, none⟩

/-- In every run the versions of the manifest sets applied never go down, and each set was signed by
a key active at that step in the bundle found there, and had not expired. -/
theorem manifests_never_roll_back [LowerCase] (L : Libraries) (hE : L.E.Sound)
    (settings : Settings) (hpath : settings.cachePath ≠ "") (cfg : Config)
    (events : List RefreshEvent) : (appliedManifests L (newClient settings cfg) events).Pairwise
        (fun p q => p.2.version ≤ q.2.version) ∧
      ∀ p ∈ appliedManifests L (newClient settings cfg) events, Vouched L p.1 p.2 :=
  (appliedManifests_climb hE hpath events).2

/-! ## Three manifests -/

/-- A text of all the fields that are signed, one a line. -/
def manifestText (c : CanonicalFields) : Bytes :=
  bytesOf (String.intercalate "\n" ([toString c.version, toString c.generatedAt,
    toString c.expiresAt, toString c.minPeers, toString c.reconnectPolicy.baseIntervalMS,
    toString c.reconnectPolicy.maxIntervalMS, toString c.reconnectPolicy.jitterRatio.num,
    toString c.reconnectPolicy.jitterRatio.den, c.keyID] ++
    c.bootstrapNodes))

/-- A manifest of the given version, not signed yet. -/
def unsignedManifest (version : Int) : Manifest where
  version := version
  generatedAt := 1
  expiresAt := 50
  bootstrapNodes := ["node-1"]
  minPeers := 1
  reconnectPolicy := ⟨500, 1000, 0⟩
  keyID := "manifest"
  signature := ""

/-- The same, signed by the zero key. -/
def manifestOf (version : Int) : Manifest :=
  let m := unsignedManifest version
  { m with signature := base64Text (List.replicate 32 0 ++ manifestText
      ⟨m.version, m.generatedAt, m.expiresAt, m.bootstrapNodes, m.minPeers, m.reconnectPolicy,
        m.keyID⟩) }

/-- Libraries for which a file is one byte, the version of a manifest or of a bundle. -/
def byteLibraries : Libraries where
  E := openSignatures
  quote := id
  encoding := ""
  decodeManifest raw := .ok (manifestOf (raw.headD 0).toNat, .eof)
  decodeBundle raw := .ok (bundleWith (raw.headD 0).toNat "tb-1" [("manifest", zeroKey)])
  marshal c := .ok (manifestText c)

def sampleSettings : Settings where
  manifestPath := "manifest.json"
  trustBundlePath := "trust.json"
  cachePath := "cache.json"
  baked := { source := .baked, bootstrapNodes := ["node-0"], minPeers := 1
             reconnectPolicy := ⟨500, 1000, 0⟩, manifestMeta := none }

def sampleConfig : Config := Client.configOf sampleSettings.baked

def findsVersion (version : UInt8) (save : SaveOutcome) : RefreshEvent :=
  .step { manifestFile := .ok [version], trustFile := .ok [1], now := 10, wall := 10
          cachedAt := 10, noCache := "no such file", save := save }

/-- Version 2 is applied. The client starts again and finds version 1, which is refused, then
version 3, which cannot be saved, and then version 3 again. -/
def versionsRun : List RefreshEvent :=
  [findsVersion 2 .written, .restart sampleConfig, findsVersion 1 .written,
    findsVersion 3 (.failed "disk full" false), findsVersion 3 .written]

theorem versionsRun_never_rolls_back :
    letI := asciiLowerCase
    (appliedManifests byteLibraries (newClient sampleSettings sampleConfig) versionsRun).map
        (·.2.version) = [2, 3] ∧
      (appliedManifests byteLibraries (newClient sampleSettings sampleConfig) versionsRun).Pairwise
        (fun p q => p.2.version ≤ q.2.version) := by
  let _ := asciiLowerCase
  refine ⟨by decide +kernel, ?_⟩
  exact (manifests_never_roll_back byteLibraries openSignatures_sound sampleSettings (by decide)
    sampleConfig versionsRun).1

end Ardents.Bootstrap
