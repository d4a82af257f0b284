import Ardents.Privacy.Service

/-!
# Overrides behave like a map

The scope `global` is a single one, whatever id comes with it. Every update ends with normalising,
which puts the keys in lower case, while the calls look for the key as it is written, so an id
with a capital letter is set and not found.
-/

namespace Ardents.Privacy

open Go

section

variable [LowerCase]

/-! ## Keys -/

theorem scopeText_lower (scope : StoragePolicyScope) : toLower scope.text = scope.text := by
  refine toLower_eq_self ?_
  cases scope <;> simp [StoragePolicyScope.text, Char.isUpper]

theorem toLower_append (s t : String) : toLower (s ++ t) = toLower s ++ toLower t := by
  simp [toLower]

omit [LowerCase] in
theorem trimSpace_append {s t : String} {c : Char} {rest : List Char} (hs : s.toList = c :: rest)
    (hc : isSpace c = false) (ht : trimSpace t = t) (hne : t ≠ "") :
    trimSpace (s ++ t) = s ++ t := by
  have hlist : t.toList ≠ [] := by
    simp_all
  -- the last character of a trimmed text is no blank
  have hlast : ¬ isSpace (t.toList.getLast hlist) = true := by
    have htrim : (t.toList.dropWhile isSpace).rdropWhile isSpace = t.toList := by
      have h := congrArg String.toList ht
      unfold trimSpace trimBoth at h
      rwa [String.toList_ofList] at h
    have hdrop : t.toList.dropWhile isSpace = t.toList := by
      refine (List.dropWhile_suffix _).eq_of_length_le ?_
      have hle := (List.rdropWhile_prefix isSpace (t.toList.dropWhile isSpace)).length_le
      rwa [htrim] at hle
    simp_all
  have happend : (s ++ t).toList = c :: (rest ++ t.toList) := by
    rw [String.toList_append, hs, List.cons_append]
  unfold trimSpace trimBoth
  have hfront : (s ++ t).toList.dropWhile isSpace = (s ++ t).toList := by
    rw [happend]
    simp [hc]
  have hback : (s ++ t).toList.rdropWhile isSpace = (s ++ t).toList := by
    simp_all
  rw [hfront, hback, String.ofList_toList]

theorem normalizeScope_ok {scope scopeID : String} {target : StoragePolicyScope × String}
    (h : normalizeScope scope scopeID = .ok target) : target = (.global, "") ∨
      target.1 ≠ .global ∧ trimSpace target.2 = target.2 ∧ target.2 ≠ "" := by
  unfold normalizeScope at h
  grind [trimSpace_idem]

theorem keyOf_normal {scope scopeID : String} {target : StoragePolicyScope × String}
    (h : normalizeScope scope scopeID = .ok target) (hlower : toLower target.2 = target.2) :
    trimSpace (toLower (keyOf target)) = keyOf target ∧ keyOf target ≠ "" := by
  rcases normalizeScope_ok h with rfl | ⟨hscope, htrim, hne⟩
  · have hglobal : keyOf (.global, "") = StoragePolicyScope.global.text := rfl
    rw [hglobal, scopeText_lower]
    exact ⟨by decide, by decide⟩
  · have hkey : keyOf target = target.1.text ++ ":" ++ target.2 := if_neg hscope
    have hcolon : toLower ":" = ":" := toLower_eq_self (by simp [Char.isUpper])
    have hfixed : toLower (keyOf target) = keyOf target := by
      rw [hkey, toLower_append, toLower_append, scopeText_lower, hcolon, hlower]
    have hfirst : ∃ c rest, (target.1.text ++ ":").toList = c :: rest ∧ isSpace c = false := by
      cases target.1 <;> exact ⟨_, _, rfl, by decide⟩
    obtain ⟨c, rest, hlist, hspace⟩ := hfirst
    rw [hfixed, hkey]
    refine ⟨trimSpace_append hlist hspace htrim hne, ?_⟩
    simp

theorem keyOf_inj {scope scopeID scope' scopeID' : String}
    {target target' : StoragePolicyScope × String} (h : normalizeScope scope scopeID = .ok target)
    (h' : normalizeScope scope' scopeID' = .ok target') (hkey : keyOf target = keyOf target') :
    target = target' := by
  obtain ⟨sc, id⟩ := target
  obtain ⟨sc', id'⟩ := target'
  have hlist := congrArg String.toList hkey
  -- the texts of two scopes differ before the first of them ends in a colon
  rcases normalizeScope_ok h with hglobal | ⟨hscope, _, _⟩
  · rcases normalizeScope_ok h' with hglobal' | ⟨hscope', _, _⟩
    · rw [hglobal, hglobal']
    · obtain ⟨rfl, rfl⟩ := Prod.mk.inj hglobal
      cases sc' <;> simp [keyOf, StoragePolicyScope.text] at hlist hscope'
  · rcases normalizeScope_ok h' with hglobal' | ⟨hscope', _, _⟩
    · obtain ⟨rfl, rfl⟩ := Prod.mk.inj hglobal'
      cases sc <;> simp [keyOf, StoragePolicyScope.text] at hlist hscope
    · cases sc <;> cases sc' <;>
        simp [keyOf, StoragePolicyScope.text, String.toList_inj] at hlist hscope hscope' ⊢
      all_goals exact hlist

/-! ## One update -/

def Update.target : Update → Option (StoragePolicyScope × String)
  | .setOverride scope scopeID _ => (normalizeScope scope scopeID).toOption
  | .removeOverride scope scopeID => (normalizeScope scope scopeID).toOption
  | _ => none

def Update.NoCapitals : Update → Prop
  | .setOverride scope scopeID _ =>
    ∀ target, normalizeScope scope scopeID = .ok target → toLower target.2 = target.2
  | _ => True

def Update.effect (u : Update) (m : GoMap String StoragePolicyOverride) :
    GoMap String StoragePolicyOverride :=
  match u with
  | .setOverride scope scopeID override =>
    match normalizeScope scope scopeID with
    | .ok target => m.insert (keyOf target) (normalizeStoragePolicyOverride override)
    | .error _ => m
  | .removeOverride scope scopeID =>
    match normalizeScope scope scopeID with
    | .ok target => m.erase (keyOf target)
    | .error _ => m
  | _ => m

theorem effect_normal {u : Update} {m : GoMap String StoragePolicyOverride}
    (hm : NormalOverrides m) (hu : u.NoCapitals) : NormalOverrides (u.effect m) := by
  cases u with
  | privacySettings | storagePolicy | nodePolicies => exact hm
  | setOverride scope scopeID override =>
    simp only [Update.effect]
    split
    · rename_i target htarget
      obtain ⟨hkey, hne⟩ := keyOf_normal htarget (hu target htarget)
      exact hm.insert hkey hne override
    · exact hm
  | removeOverride scope scopeID =>
    simp only [Update.effect]
    split
    · exact hm.erase _
    · exact hm

omit [LowerCase] in
theorem erase_eq_self {m : GoMap String StoragePolicyOverride} {k : String}
    (h : m.contains k = false) : m.erase k = m := by
  grind

theorem change_overrides (u : Update) (current : ProfileSettings) :
    (match u.change current with
      | .ok (some changed) => changed.storageScopeOverrides
      | _ => current.storageScopeOverrides) = u.effect current.storageScopeOverrides := by
  cases u with
  | privacySettings mode =>
    simp only [Update.change, Update.effect]
    cases parseMessagePrivacyMode mode with
    | error | ok => rfl
  | storagePolicy args =>
    simp only [Update.change, Update.effect]
    cases (parseStoragePolicy args).mapError SettingsError.policy with
    | error | ok => rfl
  | nodePolicies policies => rfl
  | setOverride scope scopeID override =>
    simp only [Update.change, Update.effect, scopeOverrideKey]
    cases normalizeScope scope scopeID with
    | error | ok => rfl
  | removeOverride scope scopeID =>
    simp only [Update.change, Update.effect, scopeOverrideKey]
    cases normalizeScope scope scopeID with
    | error e => rfl
    | ok target =>
      dsimp only [bind, Except.bind, pure, Except.pure, Except.map]
      cases hcontains : current.storageScopeOverrides.contains (keyOf target) with
      | false => exact (erase_eq_self hcontains).symm
      | true => rfl

/-- **One update does to the overrides what it is to do.** -/
theorem step_overrides {s : Service} (hs : NormalOverrides s.privacy.storageScopeOverrides)
    {op : Update × UpdateCourse} (hwritten : op.2.written = true) (hu : op.1.NoCapitals) :
    (s.step op).privacy.storageScopeOverrides = op.1.effect s.privacy.storageScopeOverrides := by
  have hread : (s.getPrivacySettings op.2.reads).storageScopeOverrides =
      s.privacy.storageScopeOverrides := hs.normalize_eq op.2.reads
  have hchange := change_overrides op.1 (s.getPrivacySettings op.2.reads)
  have happly := s.apply_eq op.2 op.1
  rw [hread] at hchange
  unfold Service.step
  cases hresult : op.1.change (s.getPrivacySettings op.2.reads) with
  | error e =>
    rw [hresult] at hchange happly
    rw [happly]
    exact hchange
  | ok result =>
    rw [hresult] at hchange happly
    cases result with
    | none =>
      rw [happly]
      exact hchange
    | some changed =>
      dsimp only at hchange
      -- what is published is normalised, which such a map does not notice
      have hnormal : NormalOverrides changed.storageScopeOverrides := by
        grind [effect_normal]
      have hpublished : (normalizeProfileSettings op.2.normalises changed).storageScopeOverrides
          = op.1.effect s.privacy.storageScopeOverrides := by
        rw [normalizeProfileSettings_overrides op.2.normalises hnormal, hchange]
      rw [happly]
      unfold Service.commit Service.persist
      cases s.configured with
      | false => exact hpublished
      | true =>
        simp only [hwritten, if_true]
        exact hpublished

/-! ## Runs of updates -/

/-- What an update leaves for a scope, where `found` is what was there. -/
def Update.leaves (u : Update) (target : StoragePolicyScope × String)
    (found : Option StoragePolicyOverride) : Option StoragePolicyOverride :=
  if u.target = some target then
    match u with
    | .setOverride _ _ override => some (normalizeStoragePolicyOverride override)
    | _ => none
  else found

/-- What updates leave for a scope: the value set last, unless it was removed since. -/
def recorded (target : StoragePolicyScope × String) (us : List Update)
    (found : Option StoragePolicyOverride) : Option StoragePolicyOverride :=
  us.foldl (fun found u => u.leaves target found) found

variable {target : StoragePolicyScope × String}

theorem Update.leaves_of_ne {u : Update}
    (h : u.target ≠ some target) (found : Option StoragePolicyOverride) :
    u.leaves target found = found := if_neg h

theorem Update.leaves_at {u : Update} {scope scopeID scope' scopeID' : String}
    {target' : StoragePolicyScope × String} (h : normalizeScope scope scopeID = .ok target)
    (h' : normalizeScope scope' scopeID' = .ok target') (htarget : u.target = some target')
    {left found : Option StoragePolicyOverride} (hleft : u.leaves target' found = left) :
    (if keyOf target' = keyOf target then left else found) = u.leaves target found := by
  grind [keyOf_inj, Update.leaves_of_ne]

theorem effect_get {scope scopeID : String}
    (h : normalizeScope scope scopeID = .ok target) (u : Update)
    (m : GoMap String StoragePolicyOverride) :
    (u.effect m)[keyOf target]? = u.leaves target m[keyOf target]? := by
  cases u with
  | privacySettings | storagePolicy | nodePolicies =>
    exact (Update.leaves_of_ne (by simp [Update.target]) _).symm
  | setOverride scope' scopeID' override =>
    cases hscope : normalizeScope scope' scopeID' with
    | error e =>
      have heffect : (Update.setOverride scope' scopeID' override).effect m = m := by
        simp only [Update.effect, hscope]
      have htarget : (Update.setOverride scope' scopeID' override).target ≠ some target := by
        simp [Update.target, hscope, Except.toOption]
      rw [heffect, Update.leaves_of_ne htarget]
    | ok target' =>
      have heffect : (Update.setOverride scope' scopeID' override).effect m =
          m.insert (keyOf target') (normalizeStoragePolicyOverride override) := by
        simp only [Update.effect, hscope]
      have htarget : (Update.setOverride scope' scopeID' override).target = some target' := by
        simp only [Update.target, hscope, Except.toOption]
      rw [heffect, get_insert]
      exact Update.leaves_at h hscope htarget (if_pos htarget)
  | removeOverride scope' scopeID' =>
    cases hscope : normalizeScope scope' scopeID' with
    | error e =>
      have heffect : (Update.removeOverride scope' scopeID').effect m = m := by
        simp only [Update.effect, hscope]
      have htarget : (Update.removeOverride scope' scopeID').target ≠ some target := by
        simp [Update.target, hscope, Except.toOption]
      rw [heffect, Update.leaves_of_ne htarget]
    | ok target' =>
      have heffect : (Update.removeOverride scope' scopeID').effect m =
          m.erase (keyOf target') := by
        simp only [Update.effect, hscope]
      have htarget : (Update.removeOverride scope' scopeID').target = some target' := by
        simp only [Update.target, hscope, Except.toOption]
      rw [heffect, get_erase]
      exact Update.leaves_at h hscope htarget (if_pos htarget)

/-- **Every run leaves for a scope what its updates for this scope say.** -/
theorem run_overrides {ops : List (Update × UpdateCourse)}
    (hwritten : ∀ op ∈ ops, op.2.written = true) (hops : ∀ op ∈ ops, op.1.NoCapitals)
    {scope scopeID : String}
    (h : normalizeScope scope scopeID = .ok target) {s : Service}
    (hs : NormalOverrides s.privacy.storageScopeOverrides) :
    NormalOverrides (run Service.step s ops).privacy.storageScopeOverrides ∧
      (run Service.step s ops).privacy.storageScopeOverrides[keyOf target]? =
        recorded target (ops.map Prod.fst) s.privacy.storageScopeOverrides[keyOf target]? := by
  induction ops generalizing s with
  | nil => exact ⟨hs, rfl⟩
  | cons op rest ih =>
    have hstep := step_overrides hs (hwritten op List.mem_cons_self) (hops op List.mem_cons_self)
    have hnext : NormalOverrides (s.step op).privacy.storageScopeOverrides := by
      grind [effect_normal]
    obtain ⟨hnormal, hget⟩ := ih (fun op' hop => hwritten op' (List.mem_cons_of_mem _ hop))
      (fun op' hop => hops op' (List.mem_cons_of_mem _ hop)) hnext
    refine ⟨hnormal, ?_⟩
    rw [run_cons, hget, hstep, effect_get h]
    rfl

theorem getStorageScopeOverride_eq {s : Service}
    (hs : NormalOverrides s.privacy.storageScopeOverrides) (r : Ranging) {scope scopeID : String}
    (h : normalizeScope scope scopeID = .ok target) :
    s.getStorageScopeOverride r scope scopeID =
      .ok s.privacy.storageScopeOverrides[keyOf target]? := by
  unfold Service.getStorageScopeOverride scopeOverrideKey Service.getPrivacySettings
  rw [h, normalizeProfileSettings_overrides r hs]
  rfl

omit [LowerCase] in
theorem storagePolicyFromSettings_valid (settings : PrivacySettings) :
    (storagePolicyFromSettings settings).storageProtection.valid = true ∧
      (storagePolicyFromSettings settings).contentRetentionMode.valid = true := by
  refine ⟨?_, retentionOf_valid settings⟩
  unfold storagePolicyFromSettings normalizePrivacySettings
  dsimp only
  split
  · assumption
  · rfl

theorem resolveStoragePolicy_eq {s : Service}
    (hs : NormalOverrides s.privacy.storageScopeOverrides) (r : Ranging) (isPinned : Bool)
    {scope scopeID : String}
    (h : normalizeScope scope scopeID = .ok target) :
    s.resolveStoragePolicy r scope scopeID isPinned =
      match s.privacy.storageScopeOverrides[keyOf target]? with
      | some override => override.resolve isPinned
      | none => .ok (storagePolicyFromSettings s.privacy.storage) := by
  unfold Service.resolveStoragePolicy resolveStoragePolicyForScope scopeOverrideKey
    Service.getPrivacySettings
  have hread := normalizeProfileSettings_overrides r hs
  have hagain : (normalizeProfileSettings r (normalizeProfileSettings r s.privacy)
      ).storageScopeOverrides = s.privacy.storageScopeOverrides := by
    rw [normalizeProfileSettings_overrides r (by rw [hread]; exact hs), hread]
  have hstorage : storagePolicyFromSettings (normalizeProfileSettings r
      (normalizeProfileSettings r s.privacy)).storage =
      storagePolicyFromSettings s.privacy.storage := by
    simp [storagePolicyFromSettings, normalizeProfileSettings, normalizePrivacySettings_idem]
  rw [h]
  dsimp only [Except.map, bind, Except.bind]
  rw [hagain, hstorage]
  cases s.privacy.storageScopeOverrides[keyOf target]? with
  | some override => rfl
  | none => simp [storagePolicyFromSettings_valid, pure, Except.pure]

/-- **Overrides behave like a map**, where no id has capital letters and `global` is one scope: from
settings as they are loaded, after any updates, what is found for a scope is what was set last for
it and not removed since; the policy of a scope is made of exactly that; and a further update
for another scope, or of something else, leaves it. -/
theorem overrides_are_a_map (hlower : LowerCase.Idempotent) (s₀ : Service) (r₀ : Ranging)
    (settings : ProfileSettings) (ops : List (Update × UpdateCourse))
    (hwritten : ∀ op ∈ ops, op.2.written = true) (hops : ∀ op ∈ ops, op.1.NoCapitals)
    (scope scopeID : String) (target : StoragePolicyScope × String)
    (h : normalizeScope scope scopeID = .ok target) (found : Option StoragePolicyOverride)
    (hfound : (s₀.setState r₀ settings).getStorageScopeOverride r₀ scope scopeID = .ok found) :
    let s := run Service.step (s₀.setState r₀ settings) ops
    let value := recorded target (ops.map Prod.fst) found
    (∀ r, s.getStorageScopeOverride r scope scopeID = .ok value) ∧
      (∀ r isPinned, s.resolveStoragePolicy r scope scopeID isPinned =
        match value with
        | some override => override.resolve isPinned
        | none => .ok (storagePolicyFromSettings s.privacy.storage)) ∧
      ∀ op : Update × UpdateCourse, op.2.written = true → op.1.NoCapitals →
        op.1.target ≠ some target →
        ∀ r, (s.step op).getStorageScopeOverride r scope scopeID = .ok value := by
  have hstart : NormalOverrides (s₀.setState r₀ settings).privacy.storageScopeOverrides :=
    normalOverrides_normalize (fun _ _ c _ => hlower c) r₀
  have hinitial := getStorageScopeOverride_eq hstart r₀ h
  rw [hfound] at hinitial
  obtain ⟨hnormal, hget⟩ := run_overrides hwritten hops h hstart
  rw [← Except.ok.inj hinitial] at hget
  intro s value
  refine ⟨fun r => ?_, fun r isPinned => ?_, ?_⟩
  · rw [getStorageScopeOverride_eq hnormal r h, hget]
  · rw [resolveStoragePolicy_eq hnormal r isPinned h, hget]
  · intro op hop hcapitals hother r
    have hstep := step_overrides hnormal hop hcapitals
    have hnext : NormalOverrides (s.step op).privacy.storageScopeOverrides := by
      rw [hstep]
      exact effect_normal hnormal hcapitals
    rw [getStorageScopeOverride_eq hnext r h, hstep, effect_get h, hget,
      Update.leaves_of_ne hother]

end

/-! ## A new service -/

/-- `NewService`, with a file for the settings. -/
def newService : Service := ⟨defaultProfileSettings, true, defaultProfileSettings⟩

def imagesFor (seconds : Int) : StoragePolicyOverride where
  policy :=
    { defaultPrivacySettings with contentRetentionMode := .ephemeral, imageTTLSeconds := seconds }
  infiniteTTL := false
  pinRequiredForInfinite := false

theorem noCapitals_g1 (scope scopeID : String) (override : StoragePolicyOverride)
    (hid : trimSpace scopeID = "g1") :
    letI := asciiLowerCase
    (Update.setOverride scope scopeID override).NoCapitals := by
  let _ := asciiLowerCase
  intro target htarget
  unfold normalizeScope at htarget
  rw [hid] at htarget
  split at htarget
  · cases htarget
  · obtain rfl := Except.ok.inj htarget
    rfl
  · rw [if_neg (by decide)] at htarget
    obtain rfl := Except.ok.inj htarget
    exact toLower_eq_self (by simp [Char.isUpper])

/-- The override of a group is found after it was set for its id with blanks around it, after
changes of other settings and after an override of a chat with the same id. -/
theorem group_override_found :
    letI := asciiLowerCase
    (run Service.step (newService.setState .sorted defaultProfileSettings)
        [smooth (.setOverride "group" "g1" (imagesFor 60)),
          smooth (.setOverride " Group" " g1 " (imagesFor 120)),
          smooth (.privacySettings "requests"),
          smooth (.setOverride "chat" "g1" (imagesFor 5)),
          smooth (.removeOverride "chat" "g1")]).getStorageScopeOverride .sorted "group" "g1" =
      .ok (some (normalizeStoragePolicyOverride (imagesFor 120))) := by
  let _ := asciiLowerCase
  have h := (overrides_are_a_map asciiLowerCase_idempotent newService .sorted
    defaultProfileSettings
    [smooth (.setOverride "group" "g1" (imagesFor 60)),
      smooth (.setOverride " Group" " g1 " (imagesFor 120)),
      smooth (.privacySettings "requests"),
      smooth (.setOverride "chat" "g1" (imagesFor 5)),
      smooth (.removeOverride "chat" "g1")]
    (by simp [smooth])
    (by
      intro op hop
      rcases List.mem_cons.mp hop with rfl | hop
      · exact noCapitals_g1 _ _ _ (by decide)
      rcases List.mem_cons.mp hop with rfl | hop
      · exact noCapitals_g1 _ _ _ (by decide)
      rcases List.mem_cons.mp hop with rfl | hop
      · trivial
      rcases List.mem_cons.mp hop with rfl | hop
      · exact noCapitals_g1 _ _ _ (by decide)
      rcases List.mem_cons.mp hop with rfl | hop
      · trivial
      · cases hop)
    "group" "g1" (.group, "g1") (by decide) none (by decide)).1 .sorted
  exact h

/-- An id with a capital letter is set and not found; and what is set for `global` with one id is
found with every other, the value set last. -/
theorem capitals_not_found :
    letI := asciiLowerCase
    (run Service.step newService [smooth (.setOverride "group" "GroupA" (imagesFor 60))]
        ).getStorageScopeOverride .sorted "group" "GroupA" = .ok none ∧
      (run Service.step newService
        [smooth (.setOverride "global" "a" (imagesFor 60)),
          smooth (.setOverride "global" "b" (imagesFor 120))]
        ).getStorageScopeOverride .sorted "global" "a" =
          .ok (some (normalizeStoragePolicyOverride (imagesFor 120))) := by
  decide

end Ardents.Privacy
