import Ardents.Daemon.StateFiles

/-!
# A file that could not be loaded

After a failed `Bootstrap` the store holds nothing, or the defaults, and its path is set; so the
first change that gets as far as saving replaces the file by what that one change makes of
nothing.
-/

namespace Ardents.Daemon

open Go
open Groups (GroupEvent GroupError GroupState OperationInputs GroupOperation)
open Messaging (Message normalizeIdentityID)
open Privacy (ProfileSettings StoragePolicy Update defaultProfileSettings
  normalizeProfileSettings normalOverrides_empty parseStoragePolicy retentionOf)

open Groups

/-! ## Calls that meet no groups -/

section

variable {s : Groups.Stores}

theorem acts_of_no_groups {groupID actorID : String} {state : GroupState}
    {actor : GroupMember} (h : s.states = ∅) :
    ¬Acts s.states groupID actorID state actor := by
  intro hacts
  grind [cases Acts]

theorem execute_of_refused {α : Type} {plan : Except GroupError (Plan α)}
    (h : ∀ p, plan ≠ .ok p) (persist : Option GroupError) :
    (Groups.execute s persist plan).forget.notified = [] ∧
      (Groups.execute s persist plan).forget.stores = s := by
  cases plan with
  | error e => exact ⟨rfl, rfl⟩
  | ok p => exact absurd rfl (h p)

theorem perform_of_no_groups (h : s.states = ∅) (inp : OperationInputs)
    (persist : Option GroupError) (op : GroupOperation) :
    (Groups.perform s inp persist op).notified = [] ∧
      (Groups.perform s inp persist op).stores = s := by
  cases op with
  | invite g a m =>
    refine execute_of_refused (fun p hp => ?_) persist
    obtain ⟨state, actor, hacts, -⟩ := planInvite_ok hp
    exact acts_of_no_groups h hacts
  | accept g a =>
    refine execute_of_refused (fun p hp => ?_) persist
    obtain ⟨state, actor, hacts, -⟩ := planAccept_ok hp
    exact acts_of_no_groups h hacts
  | decline g a =>
    refine execute_of_refused (fun p hp => ?_) persist
    obtain ⟨state, actor, hacts, -⟩ := planDecline_ok hp
    exact acts_of_no_groups h hacts
  | leave g a =>
    refine execute_of_refused (fun p hp => ?_) persist
    obtain ⟨state, actor, hacts, -⟩ := planLeave_ok hp
    exact acts_of_no_groups h hacts
  | remove g a m =>
    refine execute_of_refused (fun p hp => ?_) persist
    obtain ⟨state, actor, target, hacts, -⟩ := planRemove_ok hp
    exact acts_of_no_groups h hacts
  | changeRole g a m role =>
    refine execute_of_refused (fun p hp => ?_) persist
    obtain ⟨state, actor, hacts, -⟩ := planChangeRole_ok hp
    exact acts_of_no_groups h hacts
  | updateTitle g a title =>
    refine execute_of_refused (fun p hp => ?_) persist
    grind [planUpdateTitle_ok, planUpdateProfile_ok, acts_of_no_groups]
  | updateProfile g a title description avatar =>
    refine execute_of_refused (fun p hp => ?_) persist
    obtain ⟨state, actor, hacts, -⟩ := planUpdateProfile_ok hp
    exact acts_of_no_groups h hacts

theorem deleteGroup_of_no_groups (h : s.states = ∅) (groupID actorID : String)
    (inp : OperationInputs) (persist : Option GroupError) :
    (∀ b, (deleteGroup s groupID actorID inp persist).result ≠ .ok b) ∧
      (deleteGroup s groupID actorID inp persist).stores = s := by
  unfold deleteGroup
  dsimp only
  split
  · exact ⟨fun b hb => (nomatch hb), rfl⟩
  · rename_i g hchecked
    simp only [bind_ok] at hchecked
    obtain ⟨g', hg, a, ha, -, -, state, hload, -⟩ := hchecked
    obtain ⟨-, -, actor, hacts, -⟩ := acts_of_load hg ha hload
    exact absurd hacts (acts_of_no_groups h)

theorem createGroup_of_no_groups (h : s.states = ∅) (title identityID : String)
    (now : Crypto.Time) (groupIDs : List (Option String)) (eventID : Option String)
    (persist : Option GroupError) :
    (createGroup s title identityID now groupIDs eventID none).notified =
        (createGroup Groups.Stores.empty title identityID now groupIDs eventID
          none).notified ∧ ((persist ≠ none ∨
          (createGroup s title identityID now groupIDs eventID none).notified = []) →
        (createGroup s title identityID now groupIDs eventID persist).stores.states =
          ∅) := by
  unfold createGroup
  have hempty : (Groups.Stores.empty).states = s.states := h.symm
  rw [hempty]
  dsimp only
  split
  · exact ⟨rfl, fun _ => h⟩
  · grind

theorem applyEvents_of_no_groups (h : s.states = ∅) (state : GroupState)
    (persist : Option GroupError) (events : List GroupEvent) :
    (s.applyEventsWithRollback state persist events).result =
        (Groups.Stores.empty.applyEventsWithRollback state persist events).result ∧
      ((persist ≠ none ∨ ∀ next event applied,
          (s.applyEventsWithRollback state persist events).result
            ≠ .ok (next, event :: applied)) →
        (s.applyEventsWithRollback state persist events).stores.states = ∅) := by
  unfold Groups.Stores.applyEventsWithRollback
  split
  · exact ⟨rfl, fun _ => h⟩
  · dsimp only
    cases (applyAll state events).rejected with
    | some e =>
      refine ⟨rfl, fun _ => ?_⟩
      dsimp only
      split
      · exact h
      · -- there is no stored state that the early return could leave half written
        grind [Groups.Stores.leak]
    | none =>
      dsimp only
      split
      · exact ⟨rfl, fun _ => h⟩
      · rename_i hchanged
        cases persist with
        | none =>
          refine ⟨rfl, fun hunsaved => ?_⟩
          rcases hunsaved with hnone | hunsaved
          · exact absurd rfl hnone
          · obtain ⟨event, applied, heq⟩ := List.exists_cons_of_ne_nil hchanged
            exact absurd (by rw [heq]) (hunsaved _ event applied)
        | some e =>
          refine ⟨rfl, fun _ => ?_⟩
          have hnotMem : state.group.id ∉ s.states := by
            rw [h]
            simp
          have herase : s.states.erase state.group.id = ∅ := by
            simp_all
          exact (if_neg hnotMem).trans herase

theorem inbound_of_no_groups (h : s.states = ∅) (event : GroupEvent)
    (inp : InboundInputs) (persist : Option GroupError) :
    (handleInboundGroupEvent s event { inp with persist := none }).2 =
        (handleInboundGroupEvent Groups.Stores.empty event { inp with persist := none }).2 ∧
      ((persist ≠ none ∨ ∀ applied, (handleInboundGroupEvent s event
          { inp with persist := none }).2 ≠ .applied applied) →
        (handleInboundGroupEvent s event { inp with persist := persist }).1.states = ∅) := by
  have hempty : (Groups.Stores.empty).states = s.states := h.symm
  unfold handleInboundGroupEvent
  rw [hempty]
  split
  · exact ⟨rfl, fun _ => h⟩
  split
  · exact ⟨rfl, fun _ => h⟩
  cases inp.guardReplay with
  | some e => exact ⟨rfl, fun _ => h⟩
  | none =>
  cases inp.identityID with
  | none => exact ⟨rfl, fun _ => h⟩
  | some identityID =>
  dsimp only
  cases ensureInboundEventState s.states event identityID with
  | error e => exact ⟨rfl, fun _ => h⟩
  | ok state =>
  dsimp only
  cases authorizeInboundGroupEvent state event with
  | error e => exact ⟨rfl, fun _ => h⟩
  | ok u =>
  dsimp only
  obtain ⟨hsame, -⟩ := applyEvents_of_no_groups h state none [event]
  constructor
  · -- the verdict is read off the result
    grind
  · intro hunsaved
    obtain ⟨-, hstates⟩ := applyEvents_of_no_groups h state persist [event]
    have hcond : persist ≠ none ∨ ∀ next first rest,
        (s.applyEventsWithRollback state persist [event]).result ≠ .ok (next, first :: rest) := by
      rcases hunsaved with hpersist | hunsaved
      · exact .inl hpersist
      · grind
    grind

end

namespace GroupCall

def Founds (call : GroupCall) : Prop := call.saves Groups.Stores.empty ≠ none

theorem founds_of_saves {s stores : Groups.Stores} {call : GroupCall} (h : s.states = ∅)
    (hsaves : call.saves s = some stores) : call.Founds := by
  unfold Founds
  cases call with
  | operation inp op =>
    grind [saves, perform_of_no_groups]
  | create title identityID now groupIDs eventID =>
    grind [createGroup_of_no_groups, saves]
  | delete groupID actorID inp =>
    grind [deleteGroup_of_no_groups, saves]
  | inbound event inp =>
    grind [inbound_of_no_groups, saves]

theorem after_of_unsaved {s : Groups.Stores} {call : GroupCall} {persist : Option GroupError}
    (h : s.states = ∅) (hunsaved : persist ≠ none ∨ call.saves s = none) :
    (call.after s persist).states = ∅ := by
  cases call with
  | operation inp op =>
    rw [after, (perform_of_no_groups h inp persist op).2]
    exact h
  | create title identityID now groupIDs eventID =>
    refine (createGroup_of_no_groups h title identityID now groupIDs eventID persist).2 ?_
    grind [saves]
  | delete groupID actorID inp =>
    grind [after, deleteGroup_of_no_groups]
  | inbound event inp =>
    refine (inbound_of_no_groups h event inp persist).2 ?_
    grind [saves]

end GroupCall

/-! ## A store that holds nothing -/

variable {ι : Type}

namespace StateStores

def HoldsNothing (s : StateStores ι) : StateFile → Prop
  | .groups => s.groups.states = ∅
  | .requests => s.inbox = ∅
  | .settings => s.privacy = defaultProfileSettings
  | .blocklist => s.blocklist = ∅

structure Unloaded (found : Option ι) (f : StateFile) (s : StateStores ι) : Prop where
  configured : s.configured f = true
  file : s.file f = found
  held : s.HoldsNothing f

structure SameBut (g : StateFile) (s s' : StateStores ι) : Prop where
  configured : s'.configured = s.configured
  file : ∀ f, f ≠ g → s'.file f = s.file f
  held : ∀ f, f ≠ g → s.HoldsNothing f → s'.HoldsNothing f

variable {found : Option ι} {f g : StateFile} {s s' : StateStores ι} {w : WriteOutcome ι}

theorem SameBut.unloaded (h : SameBut g s s') (hf : f ≠ g) (hs : Unloaded found f s) :
    Unloaded found f s' where
  configured := by
    rw [h.configured]
    exact hs.configured
  file := (h.file f hf).trans hs.file
  held := h.held f hf hs.held

theorem SameBut.refl (g : StateFile) (s : StateStores ι) : SameBut g s s :=
  ⟨rfl, fun _ _ => rfl, fun _ _ h => h⟩

theorem SameBut.trans {s'' : StateStores ι} (h : SameBut g s s') (h' : SameBut g s' s'') :
    SameBut g s s'' where
  configured := h'.configured.trans h.configured
  file f hf := (h'.file f hf).trans (h.file f hf)
  held f hf hs := h'.held f hf (h.held f hf hs)

/-! What a store holds in memory is no other store's. -/

theorem sameBut_groups (s : StateStores ι) (stores : Groups.Stores) :
    SameBut .groups s { s with groups := stores } where
  configured := rfl
  file _ _ := rfl
  held f hf h := by
    cases f with
    | groups => exact absurd rfl hf
    | requests | settings | blocklist => exact h

theorem sameBut_requests (s : StateStores ι) (inbox : GoMap String (List Message)) :
    SameBut .requests s { s with inbox := inbox } where
  configured := rfl
  file _ _ := rfl
  held f hf h := by
    cases f with
    | groups | settings | blocklist => exact h
    | requests => exact absurd rfl hf

theorem sameBut_settings (s : StateStores ι) (settings : ProfileSettings) :
    SameBut .settings s { s with privacy := settings } where
  configured := rfl
  file _ _ := rfl
  held f hf h := by
    cases f with
    | groups | requests | blocklist => exact h
    | settings => exact absurd rfl hf

theorem sameBut_blocklist (s : StateStores ι) (entries : GoMap String Unit) :
    SameBut .blocklist s { s with blocklist := entries } where
  configured := rfl
  file _ _ := rfl
  held f hf h := by
    cases f with
    | groups | requests | settings => exact h
    | blocklist => exact absurd rfl hf

theorem persist_sameBut (s : StateStores ι) (g : StateFile) (image : ι) (w : WriteOutcome ι) :
    SameBut g s (s.persist g image w).2 := by
  unfold persist
  split
  · exact ⟨rfl, fun _ _ => rfl, fun _ _ h => h⟩
  · refine ⟨rfl, fun f hf => if_neg hf, fun f _ h => ?_⟩
    assumption

theorem persist_refused (h : s.configured f = true) (image : ι) :
    s.persist f image .refused = (false, s) := by
  have hfile : (fun g => if g = f then s.file f else s.file g) = s.file := by
    grind
  unfold persist
  rw [if_neg (by rw [h]; simp)]
  exact Prod.ext rfl (by simp only [WriteOutcome.leaves, hfile])

theorem wipe_unloaded {o : WipeOutcome} (hs : Unloaded found f s)
    (hkept : f = .groups ∨ f = .requests → o.removed f = false) :
    Unloaded found f (s.wipe o).2 where
  configured := hs.configured
  file := by
    have hnot : ¬((f = .groups ∨ f = .requests) ∧ s.configured f = true ∧ o.removed f = true) := by
      rintro ⟨hcontent, -, hremoved⟩
      rw [hkept hcontent] at hremoved
      exact nomatch hremoved
    exact (if_neg hnot).trans hs.file
  held := by
    cases f with
    | groups | requests => rfl
    | settings | blocklist => exact hs.held

theorem applyStoragePolicy_unloaded {o : WipeOutcome} {policy : StoragePolicy}
    (hs : Unloaded found f s)
    (hkept : retentionOf policy = .zeroRetention → f = .groups ∨ f = .requests →
      o.removed f = false) : Unloaded found f (s.applyStoragePolicy o policy).2 := by
  grind [applyStoragePolicy, wipe_unloaded]

theorem applyStoragePolicy_configured {o : WipeOutcome} {policy : StoragePolicy} :
    (s.applyStoragePolicy o policy).2.configured = s.configured := by
  unfold applyStoragePolicy
  split
  · rfl
  · rfl

section

variable {C : StateCodecs ι}

theorem persistGroups_sameBut (s : StateStores ι) (stores : Groups.Stores) (w : WriteOutcome ι) :
    SameBut .groups s (s.persistGroups C stores w).2 := by
  unfold persistGroups
  split
  · exact ⟨rfl, fun _ _ => rfl, fun _ _ h => h⟩
  · split
    · exact ⟨rfl, fun _ _ => rfl, fun _ _ h => h⟩
    · exact persist_sameBut s .groups _ w

theorem persistGroups_refused (h : s.configured .groups = true) (stores : Groups.Stores) :
    s.persistGroups C stores .refused = (false, s) := by
  unfold persistGroups
  rw [if_neg (by rw [h]; simp)]
  split
  · rfl
  · exact persist_refused h _

theorem groupCall_unloaded {call : GroupCall} (hs : Unloaded found f s)
    (hspared : f = .groups → call.Founds → w = .refused) :
    Unloaded found f (s.groupCall C call w) := by
  unfold groupCall
  cases hsaves : call.saves s.groups with
  | none =>
    by_cases hf : f = .groups
    · subst hf
      exact ⟨hs.configured, hs.file, GroupCall.after_of_unsaved hs.held (.inr hsaves)⟩
    · exact (sameBut_groups s _).unloaded hf hs
  | some stores =>
    dsimp only
    by_cases hf : f = .groups
    · subst hf
      obtain rfl := hspared rfl (GroupCall.founds_of_saves hs.held hsaves)
      rw [persistGroups_refused hs.configured]
      exact ⟨hs.configured, hs.file, GroupCall.after_of_unsaved hs.held (.inl (by simp))⟩
    · have hpersist := persistGroups_sameBut (C := C) s stores w
      generalize s.persistGroups C stores w = r at hpersist ⊢
      obtain ⟨ok, s'⟩ := r
      cases ok with
      | true | false => exact (hpersist.trans (sameBut_groups s' _)).unloaded hf hs

theorem requestCall_unloaded {call : RequestCall} (hs : Unloaded found f s)
    (hspared : f = .requests → call.saves ∅ ≠ none → w = .refused) :
    Unloaded found f (s.requestCall C call w) := by
  unfold requestCall
  cases hsaves : call.saves s.inbox with
  | none => exact hs
  | some inbox =>
    dsimp only
    by_cases hf : f = .requests
    · subst hf
      have hinbox : s.inbox = ∅ := hs.held
      rw [hinbox] at hsaves
      obtain rfl := hspared rfl (by rw [hsaves]; simp)
      rw [persist_refused hs.configured]
      exact hs
    · have hpersist := persist_sameBut s .requests (C.requests.encode ⟨1, inbox⟩) w
      grind [sameBut_requests, SameBut.unloaded]

theorem blocklistCall_unloaded {call : BlocklistCall} (hs : Unloaded found f s)
    (hspared : f = .blocklist → normalizeIdentityID call.identityID ≠ none → w = .refused) :
    Unloaded found f (s.blocklistCall C call w) := by
  unfold blocklistCall
  cases hsaves : call.saves s.blocklist with
  | none => exact hs
  | some list =>
    dsimp only
    by_cases hf : f = .blocklist
    · subst hf
      have hid : normalizeIdentityID call.identityID ≠ none := by
        intro hnone
        simp_all [BlocklistCall.saves]
      obtain rfl := hspared rfl hid
      rw [persist_refused hs.configured]
      exact hs
    · have hpersist := persist_sameBut s .blocklist (C.blocklist.encode ⟨1, list.keys⟩) w
      grind [sameBut_blocklist, SameBut.unloaded]

variable [LowerCase]

omit [LowerCase] in
theorem defaultProfileSettings_normal [LowerCase] : Privacy.Normal defaultProfileSettings := by
  intro r
  have hoverrides : Privacy.normalizeStorageScopeOverrides r
      defaultProfileSettings.storageScopeOverrides = ∅ := normalOverrides_empty.normalize_eq r
  unfold normalizeProfileSettings
  rw [hoverrides]
  rfl

theorem updateSettings_sameBut (s : StateStores ι) (u : Update) (orders : SettingsOrders)
    (w : WriteOutcome ι) : SameBut .settings s (s.updateSettings C u orders w).2 := by
  unfold updateSettings
  split
  · exact .refl _ s
  · exact .refl _ s
  · rename_i changed hchange
    have hpersist := persist_sameBut s .settings (C.settings.encode ⟨1, normalizeProfileSettings
      orders.persists (normalizeProfileSettings orders.normalises changed)⟩) w
    grind [SameBut.trans, sameBut_settings]

theorem updateSettings_refused {u : Update} {orders : SettingsOrders}
    (hs : Unloaded found .settings s)
    (hspared : (∃ changed, u.change defaultProfileSettings = .ok (some changed)) →
      w = .refused) : (s.updateSettings C u orders w).2 = s := by
  have hprivacy : normalizeProfileSettings orders.reads s.privacy = defaultProfileSettings := by
    have hheld : s.privacy = defaultProfileSettings := hs.held
    rw [hheld]
    exact defaultProfileSettings_normal orders.reads
  unfold updateSettings
  rw [hprivacy]
  cases hchange : u.change defaultProfileSettings with
  | error e => rfl
  | ok changed =>
    cases changed with
    | none => rfl
    | some changed =>
      obtain rfl := hspared ⟨changed, hchange⟩
      dsimp only
      rw [persist_refused hs.configured]

/-! ## A change of policy -/

/-- The change gets as far as the settings: it retains content, or what it wipes can be wiped. -/
def PolicyApplied (s : StateStores ι) (o : WipeOutcome) (policy : StoragePolicy) : Prop :=
  retentionOf policy = .zeroRetention → (s.wipe o).1 = true

/-- What a change of policy has to do with a file. Groups and requests stay if they are not
removed, by the change or by a rollback to zero retention. -/
def PolicySpares (s : StateStores ι) (f : StateFile) (args : Privacy.PolicyArguments)
    (o again : WipeOutcome) (w : WriteOutcome ι) : Prop :=
  ∀ policy, parseStoragePolicy args = .ok policy →
    match f with
    | .blocklist => True
    | .settings => s.PolicyApplied o policy → w = .refused
    | f => (retentionOf policy = .zeroRetention → o.removed f = false) ∧
        (s.PolicyApplied o policy → s.configured .settings = true → w.ok = false →
          retentionOf s.privacy.storage = .zeroRetention → again.removed f = false)

omit [LowerCase] in
theorem applyStoragePolicy_applied (s : StateStores ι) (o : WipeOutcome) (policy : StoragePolicy) :
    (s.applyStoragePolicy o policy).1 = true ↔ s.PolicyApplied o policy := by
  grind [applyStoragePolicy, PolicyApplied]

theorem updateSettings_policy_fails {args : Privacy.PolicyArguments} {policy : StoragePolicy}
    (h : parseStoragePolicy args = .ok policy) (s : StateStores ι) (orders : SettingsOrders)
    (w : WriteOutcome ι) : (s.updateSettings C (.storagePolicy args) orders w).1 = false ↔
      s.configured .settings = true ∧ w.ok = false := by
  have hchange : ∀ current : ProfileSettings, (Update.storagePolicy args).change current =
      .ok (some (current.withPolicy policy)) := by
    intro current
    simp only [Update.change, h]
    rfl
  grind [updateSettings, persist]

theorem updateStoragePolicy_unloaded {args : Privacy.PolicyArguments} {orders : SettingsOrders}
    {o again : WipeOutcome} (hs : Unloaded found f s) (hspared : s.PolicySpares f args o again w) :
    Unloaded found f (s.updateStoragePolicy C args orders o again w) := by
  unfold updateStoragePolicy
  cases hparse : parseStoragePolicy args with
  | error e => exact hs
  | ok policy =>
    have hpolicy := hspared policy hparse
    have hprevious : retentionOf (normalizeProfileSettings orders.reads s.privacy).storage =
        retentionOf s.privacy.storage := Privacy.retentionOf_normalize s.privacy.storage
    have happlied := applyStoragePolicy_applied s o policy
    have hconfigured : (s.applyStoragePolicy o policy).2.configured = s.configured :=
      applyStoragePolicy_configured
    -- the groups and the requests that a wipe meets are not removed
    have hfirst : Unloaded found f (s.applyStoragePolicy o policy).2 := by
      refine applyStoragePolicy_unloaded hs fun hzero hcontent => ?_
      rcases hcontent with rfl | rfl
      · exact hpolicy.1 hzero
      · exact hpolicy.1 hzero
    dsimp only
    generalize s.applyStoragePolicy o policy = r at happlied hconfigured hfirst ⊢
    obtain ⟨ok, s₁⟩ := r
    cases ok with
    | false => exact hfirst
    | true =>
      have hgets : s.PolicyApplied o policy := happlied.mp rfl
      have hsecond : Unloaded found f
          (s₁.updateSettings C (.storagePolicy args) orders w).2 := by
        by_cases hf : f = .settings
        · subst hf
          rw [updateSettings_refused hfirst fun _ => hpolicy hgets]
          exact hfirst
        · exact (updateSettings_sameBut s₁ _ orders w).unloaded hf hfirst
      have hwritten : (s₁.updateSettings C (.storagePolicy args) orders w).1 = false ↔
          s₁.configured .settings = true ∧ w.ok = false :=
        updateSettings_policy_fails hparse s₁ orders w
      grind [applyStoragePolicy_unloaded]

/-! ## Runs -/

def Spares (f : StateFile) (s : StateStores ι) : Change ι → Prop
  | .group call w => f = .groups → call.Founds → w = .refused
  | .request call w => f = .requests → call.saves ∅ ≠ none → w = .refused
  | .settings u _ w => f = .settings →
      (∃ changed, u.change defaultProfileSettings = .ok (some changed)) → w = .refused
  | .storagePolicy args _ o again w => s.PolicySpares f args o again w
  | .blocklist call w => f = .blocklist → normalizeIdentityID call.identityID ≠ none → w = .refused

theorem step_unloaded (s : StateStores ι) (change : Change ι) (hs : Unloaded found f s)
    (hspared : Spares f s change) : Unloaded found f (s.step C change) := by
  cases change with
  | group call w => exact groupCall_unloaded hs hspared
  | request call w => exact requestCall_unloaded hs hspared
  | settings u orders w =>
    by_cases hf : f = .settings
    · subst hf
      rw [step, updateSettings_refused hs (hspared rfl)]
      exact hs
    · exact (updateSettings_sameBut s u orders w).unloaded hf hs
  | storagePolicy args orders o again w => exact updateStoragePolicy_unloaded hs hspared
  | blocklist call w => exact blocklistCall_unloaded hs hspared

end

end StateStores

/-! ## From start-up on -/

section

variable [LowerCase]

def loads (C : StateCodecs ι) (orders : SettingsOrders) (f : StateFile) (image : ι) : Bool :=
  match f with
  | .groups => (loadGroups C image).isSome
  | .requests => (loadRequests C image).isSome
  | .settings => (loadSettings C orders image).isSome
  | .blocklist => (loadBlocklist C image).isSome

structure Unloadable (C : StateCodecs ι) (B : BootOutcomes ι) (configured : StateFile → Bool)
    (file : StateFile → Option ι) (f : StateFile) : Prop where
  configured : configured f = true
  found : ∃ image, file f = some image ∧
    (B.readable f = true → loads C B.orders f image = false)

omit [LowerCase] in
theorem bootstrapFile_failed {σ : Type} {readable : Bool} {image : ι} {w : WriteOutcome ι}
    {load : ι → Option (σ × Option ι)} {default : σ} {fresh : ι}
    (h : readable = true → (load image).isSome = false) :
    bootstrapFile true readable (some image) w load default fresh = (none, some image) := by
  unfold bootstrapFile
  rw [if_neg (by simp)]
  cases readable with
  | false => rfl
  | true =>
    have hload : load image = none := by
      cases hload : load image with
      | none => rfl
      | some loaded =>
        rw [hload] at h
        exact absurd (h rfl) (by simp)
    dsimp only
    rw [if_neg (by simp), hload]

theorem bootstrapState_unloaded {C : StateCodecs ι} {B : BootOutcomes ι}
    {configured : StateFile → Bool} {file : StateFile → Option ι} {f : StateFile}
    (h : Unloadable C B configured file f) :
    (bootstrapState C B configured file).Unloaded (file f) f := by
  obtain ⟨hconfigured, image, hfile, hload⟩ := h
  cases f with
  | groups | requests | blocklist =>
    unfold bootstrapState
    simp only [hconfigured, hfile]
    rw [bootstrapFile_failed hload]
    exact ⟨hconfigured, rfl, rfl⟩
  | settings =>
    unfold bootstrapState
    simp only [hconfigured, hfile]
    rw [bootstrapFile_failed hload]
    exact ⟨hconfigured, rfl, StateStores.defaultProfileSettings_normal B.orders.normalises⟩

/-- A file that could not be loaded keeps its bytes in every run of changes that spare it. -/
theorem unloaded_file_stays {C : StateCodecs ι} {B : BootOutcomes ι}
    {configured : StateFile → Bool} {file : StateFile → Option ι} {f : StateFile}
    (h : Unloadable C B configured file f) {changes : List (StateStores.Change ι)}
    (hspared : Along (StateStores.step C) (StateStores.Spares f)
      (bootstrapState C B configured file) changes) :
    (run (StateStores.step C) (bootstrapState C B configured file) changes).file f = file f :=
  (along_run (I := StateStores.Unloaded (file f) f) StateStores.step_unloaded
    (bootstrapState_unloaded h) hspared).file

end

/-! ## A blocklist that does not decrypt -/

inductive SampleImage where
  | garbage
  | groups (p : Groups.PersistedGroupState)
  | requests (v : Versioned (GoMap String (List Message)))
  | settings (v : Versioned ProfileSettings)
  | blocklist (v : Versioned (List String))

def sampleCodecs : StateCodecs SampleImage where
  groups :=
    { encode := .groups
      decode := fun
        | .groups p => some p
        | _ => none
      decode_encode := fun _ => rfl }
  requests :=
    { encode := .requests
      decode := fun
        | .requests v => some v
        | _ => none
      decode_encode := fun _ => rfl }
  settings :=
    { encode := .settings
      decode := fun
        | .settings v => some v
        | _ => none
      decode_encode := fun _ => rfl }
  blocklist :=
    { encode := .blocklist
      decode := fun
        | .blocklist v => some v
        | _ => none
      decode_encode := fun _ => rfl }

def smoothBoot : BootOutcomes SampleImage :=
  ⟨fun _ => true, fun _ => .written, ⟨.sorted, .sorted, .sorted⟩⟩

def garbledBlocklist : StateFile → Option SampleImage
  | .blocklist => some .garbage
  | _ => none

def blockedIn : Option SampleImage → Option (List String)
  | some (.blocklist v) => some v.content
  | _ => none

/-- What is not an identity is blocked and unblocked, and the disk refuses to block one that is. -/
def sparingCalls : List (StateStores.Change SampleImage) :=
  [.blocklist (.add "mallory") .written, .blocklist (.add "aim1stranger") .refused,
    .blocklist (.remove "mallory") .written]

/-- The file is left as it is. -/
theorem invalid_id_spares_blocklist :
    letI := asciiLowerCase
    Unloadable sampleCodecs smoothBoot (fun _ => true) garbledBlocklist .blocklist ∧
      (run (StateStores.step sampleCodecs)
        (bootstrapState sampleCodecs smoothBoot (fun _ => true) garbledBlocklist)
        sparingCalls).file .blocklist = some .garbage := by
  let _ := asciiLowerCase
  have hunloadable : Unloadable sampleCodecs smoothBoot (fun _ => true) garbledBlocklist
      .blocklist := ⟨rfl, .garbage, rfl, fun _ => rfl⟩
  have hinvalid : normalizeIdentityID "mallory" = none := by decide
  exact ⟨hunloadable, unloaded_file_stays hunloadable
    ⟨fun _ hvalid => absurd hinvalid hvalid, fun _ _ => rfl,
      fun _ hvalid => absurd hinvalid hvalid, trivial⟩⟩

/-- Blocking one identity replaces the file by a list of this identity alone. -/
theorem garbled_blocklist_overwritten :
    letI := asciiLowerCase
    Unloadable sampleCodecs smoothBoot (fun _ => true) garbledBlocklist .blocklist ∧
      blockedIn ((run (StateStores.step sampleCodecs)
        (bootstrapState sampleCodecs smoothBoot (fun _ => true) garbledBlocklist)
        [.blocklist (.add "aim1stranger") .written]).file .blocklist) =
          some ["aim1stranger"] := by
  let _ := asciiLowerCase
  exact ⟨⟨rfl, .garbage, rfl, fun _ => rfl⟩, by decide⟩

end Ardents.Daemon
