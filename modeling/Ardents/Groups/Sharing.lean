import Ardents.Go.Heap
import Ardents.Groups.StateMutation

/-!
# Group states that share their maps

A state taken from `states` is a copy of the struct with the same two maps, and `ApplyGroupEvent`
writes them in place. Here the maps live in a heap and states hold references, as in the source.
-/

namespace Ardents.Groups

open Go
open Heap

structure Maps where
  applied : Heap (GoMap String Unit)
  members : Heap Members

/-- A `GroupState` as Go has it; `none` is a nil map. -/
abbrev SharedState : Type := GroupRecord (Option Ref) (Option Ref)

namespace Maps

def appliedAt (h : Maps) (r : Option Ref) : GoMap String Unit := (r.bind h.applied.read).getD ∅

def membersAt (h : Maps) (r : Option Ref) : Members := (r.bind h.members.read).getD Members.empty

def view (h : Maps) (s : SharedState) : GroupState :=
  { group := s.group, version := s.version, appliedEventIDs := h.appliedAt s.appliedEventIDs
    members := h.membersAt s.members, lastKeyVersion := s.lastKeyVersion }

def writeApplied (h : Maps) (r : Option Ref) (ids : GoMap String Unit) : Maps :=
  match r with
  | none => h
  | some a => { h with applied := h.applied.write a ids }

def writeMembers (h : Maps) (r : Option Ref) (members : Members) : Maps :=
  match r with
  | none => h
  | some m => { h with members := h.members.write m members }

end Maps

/-! ## The source over references -/

/-- The two nil checks of `ApplyGroupEvent`. -/
def ensureMaps (h : Maps) (s : SharedState) : Maps × SharedState :=
  let p : Maps × SharedState := match s.appliedEventIDs with
    | some _ => (h, s)
    | none => ({ h with applied := (h.applied.alloc ∅).2 },
        { s with appliedEventIDs := some (h.applied.alloc ∅).1 })
  match s.members with
  | some _ => p
  | none => ({ p.1 with members := (h.members.alloc Members.empty).2 },
      { p.2 with members := some (h.members.alloc Members.empty).1 })

/-- `ApplyGroupEvent(&state, event)`; the state is changed through the pointer. -/
def applyShared (h : Maps) (s : SharedState) (event : GroupEvent) :
    (Maps × SharedState) × Except GroupError Bool :=
  match checkGroupEvent s.group.id event with
  | .error e => ((h, s), .error e)
  | .ok () =>
    let p := ensureMaps h s
    let h := p.1
    let s := p.2
    if event.id ∈ h.appliedAt s.appliedEventIDs then ((h, s), .ok false)
    else if event.version ≠ s.version + 1 then ((h, s), .error .outOfOrderGroupEvent)
    else
      let h := h.writeMembers s.members
        (changeMembers s.group.id (h.membersAt s.members) event)
      let h := h.writeApplied s.appliedEventIDs
        ((h.appliedAt s.appliedEventIDs).insert event.id ())
      ((h, { s with
          group := changeGroup s.group event
          version := event.version
          lastKeyVersion := changeKeyVersion s.lastKeyVersion event }), .ok true)

/-- The loop: the heap and the state, the events applied, and the error that ended it. -/
def applyAllShared (h : Maps) (s : SharedState) :
    List GroupEvent → (Maps × SharedState) × List GroupEvent × Option GroupError
  | [] => ((h, s), [], none)
  | event :: rest =>
    match applyShared h s event with
    | (p, .error e) => (p, [], some e)
    | (p, .ok applied) =>
      let r := applyAllShared p.1 p.2 rest
      if applied then (r.1, event :: r.2.1, r.2.2) else r

def cloneState (h : Maps) (s : SharedState) : Maps × SharedState :=
  let a := h.applied.alloc (h.appliedAt s.appliedEventIDs)
  let m := h.members.alloc (h.membersAt s.members)
  (⟨a.2, m.2⟩, { s with appliedEventIDs := some a.1, members := some m.1 })

structure SharedStores where
  maps : Maps
  states : GoMap String SharedState
  eventLog : GoMap String (List GroupEvent)

namespace SharedStores

def log (w : SharedStores) (groupID : String) : List GroupEvent :=
  (w.eventLog[groupID]?).getD []

def applyEventsWithRollback (w : SharedStores) (s : SharedState) (persist : Option GroupError)
    (events : List GroupEvent) : SharedStores × Except GroupError (SharedState × List GroupEvent) :=
  if events = [] then (w, .ok (s, []))
  else
    let previous := cloneState w.maps s
    let r := applyAllShared previous.1 s events
    let state := r.1.2
    let applied := r.2.1
    let w' : SharedStores := { w with maps := r.1.1 }
    match r.2.2 with
    | some e => (w', .error e)
    | none =>
      if applied = [] then (w', .ok (state, []))
      else
        let id := state.group.id
        let next : SharedStores := { w' with
          states := w.states.insert id state
          eventLog := w.eventLog.insert id (w.log id ++ applied) }
        match persist with
        | none => (next, .ok (state, applied))
        | some e =>
          ({ next with
              states := if s.group.id ∈ w.states then next.states.insert id previous.2
                else next.states.erase id
              eventLog := next.eventLog.insert id (w.log s.group.id) }, .error e)

def view (w : SharedStores) : Stores :=
  ⟨w.states.map fun _ s => w.maps.view s, w.eventLog⟩

end SharedStores

/-! ## Applying through references -/

/-- The state holds both maps, at the addresses `a` and `m`. -/
structure Holds (h : Maps) (s : SharedState) (a m : Ref) : Prop where
  applied : s.appliedEventIDs = some a
  members : s.members = some m
  applied_valid : h.applied.Valid a
  members_valid : h.members.Valid m

/-- The heap and the state, once the state has come to `S` through its references. -/
def put (h : Maps) (a m : Ref) (s : SharedState) (S : GroupState) : Maps × SharedState :=
  (⟨h.applied.write a S.appliedEventIDs, h.members.write m S.members⟩,
    { s with group := S.group, version := S.version, lastKeyVersion := S.lastKeyVersion })

open Maps

section

variable {h : Maps} {s s' : SharedState} {a m : Ref} {S T : GroupState}

theorem Holds.read_applied (ho : Holds h s a m) :
    h.applied.read a = some (h.view s).appliedEventIDs := by
  obtain ⟨v, hv⟩ := read_eq_some_of_valid ho.applied_valid
  simp [Maps.view, appliedAt, ho.applied, hv]

theorem Holds.read_members (ho : Holds h s a m) : h.members.read m = some (h.view s).members := by
  obtain ⟨v, hv⟩ := read_eq_some_of_valid ho.members_valid
  simp [Maps.view, membersAt, ho.members, hv]

theorem Holds.put (ho : Holds h s a m) : Holds (put h a m s S).1 (put h a m s S).2 a m :=
  ⟨ho.applied, ho.members, valid_write.mpr ho.applied_valid,
    valid_write.mpr ho.members_valid⟩

theorem Holds.put_self (ho : Holds h s a m) : Groups.put h a m s (h.view s) = (h, s) := by
  unfold Groups.put
  rw [write_read ho.read_applied, write_read ho.read_members]
  rfl

theorem put_put : put (put h a m s S).1 a m (put h a m s S).2 T = put h a m s T := by
  unfold put
  simp only [write_write]

theorem Holds.view_put (ho : Holds h s a m) :
    (Groups.put h a m s S).1.view (Groups.put h a m s S).2 = S := by
  have ha := read_write_self ho.applied_valid S.appliedEventIDs
  have hm := read_write_self ho.members_valid S.members
  simp [Maps.view, appliedAt, membersAt, Groups.put, ho.applied, ho.members, ha, hm]

theorem view_put_ne {a' m' : Ref} (ho : Holds h s' a' m') (ha : a ≠ a') (hm : m ≠ m') :
    (put h a m s S).1.view s' = h.view s' := by
  simp [Maps.view, appliedAt, membersAt, put, ho.applied, ho.members,
    read_write_ne _ ha, read_write_ne _ hm]

theorem Holds.ensureMaps (ho : Holds h s a m) : Groups.ensureMaps h s = (h, s) := by
  simp [Groups.ensureMaps, ho.applied, ho.members]

theorem Holds.applyShared (ho : Holds h s a m) (event : GroupEvent) : Groups.applyShared h s event =
      match applyGroupEvent (h.view s) event with
      | .error e => ((h, s), .error e)
      | .ok (applied, S) => (Groups.put h a m s S, .ok applied) := by
  unfold Groups.applyShared applyGroupEvent
  cases hcheck : checkGroupEvent s.group.id event with
  | error e =>
    have : checkGroupEvent (h.view s).group.id event = .error e := hcheck
    rw [this]
  | ok u =>
    have : checkGroupEvent (h.view s).group.id event = .ok () := hcheck
    grind [ensureMaps, put_self, Groups.put, GroupRecord.advance, Maps.writeMembers,
      Maps.writeApplied, cases Holds, Maps.view, Maps.appliedAt]

theorem Holds.applyAllShared (ho : Holds h s a m) (events : List GroupEvent) :
    Groups.applyAllShared h s events =
      let r := applyAll (h.view s) events
      (Groups.put h a m s r.state, r.events, r.rejected) := by
  induction events generalizing h s with
  | nil =>
    simp only [Groups.applyAllShared, applyAll]
    rw [ho.put_self]
  | cons event rest ih =>
    simp only [Groups.applyAllShared, applyAll]
    rw [ho.applyShared]
    cases happ : applyGroupEvent (h.view s) event with
    | error e =>
      rw [ho.put_self]
    | ok r =>
      obtain ⟨applied, S⟩ := r
      dsimp only
      rw [ih ho.put, ho.view_put]
      dsimp only
      rw [put_put]
      cases applied with
      | true => rfl
      | false => rfl

/-! ## Cloning -/

theorem Holds.clone (ho : Holds h s a m) : Holds (cloneState h s).1 s a m :=
  ⟨ho.applied, ho.members, valid_alloc ho.applied_valid _,
    valid_alloc ho.members_valid _⟩

theorem Holds.view_clone (ho : Holds h s' a m) (s : SharedState) :
    (cloneState h s).1.view s' = h.view s' := by
  grind [Maps.view, appliedAt, membersAt, cloneState, cases Holds,
    read_alloc_of_valid]

theorem holds_cloneState (h : Maps) (s : SharedState) :
    Holds (cloneState h s).1 (cloneState h s).2 (h.applied.alloc (h.appliedAt s.appliedEventIDs)).1
      (h.members.alloc (h.membersAt s.members)).1 :=
  ⟨rfl, rfl, valid_alloc_self _ _, valid_alloc_self _ _⟩

theorem view_cloneState (h : Maps) (s : SharedState) :
    (cloneState h s).1.view (cloneState h s).2 = h.view s := by
  simp [Maps.view, appliedAt, membersAt, cloneState, read_alloc_self]

end

/-! ## Whole stores -/

namespace SharedStores

/-- Every state is filed under its group's id and has two maps that no other state has. -/
structure WellFormed (w : SharedStores) : Prop where
  keyed : ∀ (g : String) (s : SharedState), w.states[g]? = some s → s.group.id = g
  holds : ∀ (g : String) (s : SharedState), w.states[g]? = some s → ∃ a m, Holds w.maps s a m
  apart : ∀ (g g' : String) (s s' : SharedState), w.states[g]? = some s →
    w.states[g']? = some s' → g ≠ g' →
    s.appliedEventIDs ≠ s'.appliedEventIDs ∧ s.members ≠ s'.members

variable {w : SharedStores}

theorem view_get (w : SharedStores) (g : String) :
    w.view.states[g]? = (w.states[g]?).map w.maps.view := by
  simp [view]

/-- `w'` is `w` with the state of group `g` replaced by one that keeps to itself. -/
structure Rewrites (w w' : SharedStores) (g : String) (s' : SharedState) : Prop where
  states : w'.states = w.states.insert g s'
  id : s'.group.id = g
  holds : ∃ a m, Holds w'.maps s' a m
  /-- Nothing another state refers to is touched, or shared by the new one. -/
  frame : ∀ (g₁ : String) (s₁ : SharedState), g₁ ≠ g → w.states[g₁]? = some s₁ →
    (∃ a m, Holds w'.maps s₁ a m) ∧ w'.maps.view s₁ = w.maps.view s₁ ∧
    s'.appliedEventIDs ≠ s₁.appliedEventIDs ∧ s'.members ≠ s₁.members

variable {w' : SharedStores} {g : String} {s' : SharedState}

theorem Rewrites.view_states (hr : Rewrites w w' g s') :
    w'.view.states = w.view.states.insert g (w'.maps.view s') := by
  refine map_ext fun g₁ => ?_
  rw [view_get, hr.states, get_insert, get_insert, view_get]
  by_cases hg : g = g₁
  · rw [if_pos hg, if_pos hg]
    rfl
  · rw [if_neg hg, if_neg hg]
    cases hs : w.states[g₁]? with
    | none => rfl
    | some s₁ => exact congrArg some (hr.frame g₁ s₁ (Ne.symm hg) hs).2.1

theorem Rewrites.view_eq (hr : Rewrites w w' g s') {S : Stores}
    (hstates : S.states = w.view.states.insert g (w'.maps.view s'))
    (hlog : S.eventLog = w'.eventLog) : w'.view = S := by
  obtain ⟨states, eventLog⟩ := S
  have hst : w'.view.states = states := hr.view_states.trans hstates.symm
  have hlg : w'.view.eventLog = eventLog := hlog.symm
  rw [← hst, ← hlg]

theorem Rewrites.wellFormed (hr : Rewrites w w' g s') (hw : w.WellFormed) : w'.WellFormed := by
  have hget : ∀ (g₁ : String) (s₁ : SharedState), w'.states[g₁]? = some s₁ →
      (g₁ = g ∧ s₁ = s') ∨ (g₁ ≠ g ∧ w.states[g₁]? = some s₁) := by
    intro g₁ s₁ hs
    rw [hr.states, get_insert] at hs
    split at hs
    · rename_i hg
      exact Or.inl ⟨hg.symm, (Option.some.inj hs).symm⟩
    · rename_i hg
      exact Or.inr ⟨Ne.symm hg, hs⟩
  refine ⟨?_, ?_, ?_⟩
  · intro g₁ s₁ hs
    rcases hget g₁ s₁ hs with ⟨rfl, rfl⟩ | ⟨-, hs⟩
    · exact hr.id
    · exact hw.keyed g₁ s₁ hs
  · intro g₁ s₁ hs
    rcases hget g₁ s₁ hs with ⟨rfl, rfl⟩ | ⟨hne, hs⟩
    · exact hr.holds
    · exact (hr.frame g₁ s₁ hne hs).1
  · intro g₁ g₂ s₁ s₂ hs₁ hs₂ hne
    rcases hget g₁ s₁ hs₁ with ⟨rfl, rfl⟩ | ⟨hne₁, hs₁⟩
    · rcases hget g₂ s₂ hs₂ with ⟨rfl, -⟩ | ⟨hne₂, hs₂⟩
      · exact absurd rfl hne
      · exact (hr.frame g₂ s₂ hne₂ hs₂).2.2
    · rcases hget g₂ s₂ hs₂ with ⟨rfl, rfl⟩ | ⟨-, hs₂⟩
      · obtain ⟨-, -, ha, hm⟩ := hr.frame g₁ s₁ hne₁ hs₁
        exact ⟨ha.symm, hm.symm⟩
      · exact hw.apart g₁ g₂ s₁ s₂ hs₁ hs₂ hne

section

variable {s : SharedState} {a m : Ref}

def mapsAfter (h : Maps) (s : SharedState) (a m : Ref) (S : GroupState) : Maps :=
  (put (cloneState h s).1 a m s S).1

theorem WellFormed.others (hw : w.WellFormed) (hs : w.states[g]? = some s)
    (ho : Holds w.maps s a m) (S : GroupState) {g₁ : String} {s₁ : SharedState} (hne : g₁ ≠ g)
    (hs₁ : w.states[g₁]? = some s₁) :
    ∃ a₁ m₁, Holds w.maps s₁ a₁ m₁ ∧ Holds (mapsAfter w.maps s a m S) s₁ a₁ m₁ ∧
      (mapsAfter w.maps s a m S).view s₁ = w.maps.view s₁ ∧ a ≠ a₁ ∧ m ≠ m₁ := by
  obtain ⟨a₁, m₁, ho₁⟩ := hw.holds g₁ s₁ hs₁
  obtain ⟨ha, hm⟩ := hw.apart g g₁ s s₁ hs hs₁ hne.symm
  rw [ho.applied, ho₁.applied] at ha
  rw [ho.members, ho₁.members] at hm
  have hne_a : a ≠ a₁ := fun he => ha (congrArg some he)
  have hne_m : m ≠ m₁ := fun he => hm (congrArg some he)
  have hclone : Holds (cloneState w.maps s).1 s₁ a₁ m₁ :=
    ⟨ho₁.applied, ho₁.members, valid_alloc ho₁.applied_valid _,
      valid_alloc ho₁.members_valid _⟩
  refine ⟨a₁, m₁, ho₁, ?_, ?_, hne_a, hne_m⟩
  · exact ⟨ho₁.applied, ho₁.members, valid_write.mpr hclone.applied_valid,
      valid_write.mpr hclone.members_valid⟩
  · exact (view_put_ne hclone hne_a hne_m).trans (ho₁.view_clone s)

theorem WellFormed.rewrites_same (hw : w.WellFormed) (hs : w.states[g]? = some s)
    (ho : Holds w.maps s a m) (S : GroupState) (w' : SharedStores) {s' : SharedState}
    (hmaps : w'.maps = mapsAfter w.maps s a m S) (hstates : w'.states = w.states.insert g s')
    (hid : s'.group.id = g) (happ : s'.appliedEventIDs = some a) (hmem : s'.members = some m) :
    Rewrites w w' g s' := by
  refine ⟨hstates, hid, ⟨a, m, happ, hmem, ?_, ?_⟩, ?_⟩
  · rw [hmaps]
    exact valid_write.mpr ho.clone.applied_valid
  · rw [hmaps]
    exact valid_write.mpr ho.clone.members_valid
  · intro g₁ s₁ hne hs₁
    obtain ⟨a₁, m₁, ho₁, hafter, hview, ha, hm⟩ := hw.others hs ho S hne hs₁
    grind [cases Holds]

theorem WellFormed.replaces_clone (hw : w.WellFormed) (hs : w.states[g]? = some s)
    (ho : Holds w.maps s a m) (S : GroupState) (w' : SharedStores)
    (hmaps : w'.maps = mapsAfter w.maps s a m S)
    (hstates : w'.states = w.states.insert g (cloneState w.maps s).2) :
    Rewrites w w' g (cloneState w.maps s).2 := by
  have hc := holds_cloneState w.maps s
  refine ⟨hstates, hw.keyed g s hs, ⟨_, _, hc.applied, hc.members, ?_, ?_⟩, ?_⟩
  · rw [hmaps]
    exact valid_write.mpr hc.applied_valid
  · rw [hmaps]
    exact valid_write.mpr hc.members_valid
  · intro g₁ s₁ hne hs₁
    obtain ⟨a₁, m₁, ho₁, hafter, hview, -, -⟩ := hw.others hs ho S hne hs₁
    rw [hmaps, hc.applied, hc.members, ho₁.applied, ho₁.members]
    -- fresh addresses are nobody's
    grind [ne_alloc, cases Holds]

theorem view_after (ho : Holds w.maps s a m) (S : GroupState) :
    (mapsAfter w.maps s a m S).view s = { w.maps.view s with
      appliedEventIDs := S.appliedEventIDs, members := S.members } := by
  have ha := read_write_self ho.clone.applied_valid S.appliedEventIDs
  have hm := read_write_self ho.clone.members_valid S.members
  simp [mapsAfter, Maps.view, appliedAt, membersAt, put, ho.applied, ho.members, ha, hm]

theorem view_after_clone (ho : Holds w.maps s a m) (S : GroupState) :
    (mapsAfter w.maps s a m S).view (cloneState w.maps s).2 = w.maps.view s := by
  unfold mapsAfter
  rw [view_put_ne (holds_cloneState w.maps s) (ne_alloc ho.applied_valid _)
    (ne_alloc ho.members_valid _), view_cloneState]

end

theorem WellFormed.applyEventsWithRollback (hw : w.WellFormed) {s : SharedState}
    (hs : w.states[g]? = some s) (persist : Option GroupError) (events : List GroupEvent) :
    let r := w.applyEventsWithRollback s persist events
    let v := w.view.applyEventsWithRollback (w.maps.view s) persist events
    r.1.WellFormed ∧ r.1.view = v.stores ∧
      r.2.map (fun p => (r.1.maps.view p.1, p.2)) = v.result := by
  intro r v
  by_cases hnil : events = []
  · have hr : r = (w, .ok (s, [])) := if_pos hnil
    have hv : v = ⟨w.view, [], .ok (w.maps.view s, [])⟩ := if_pos hnil
    rw [hr, hv]
    exact ⟨hw, rfl, rfl⟩
  obtain ⟨a, m, ho⟩ := hw.holds g s hs
  have hid : s.group.id = g := hw.keyed g s hs
  have hloop := ho.clone.applyAllShared events
  rw [ho.view_clone s] at hloop
  have hstored : w.view.states[(w.maps.view s).group.id]? = some (w.maps.view s) := by
    rw [view_get, show (w.maps.view s).group.id = g from hid, hs]
    rfl
  have hidR : (applyAll (w.maps.view s) events).state.group.id = g := applyAll_group_id.trans hid
  have hnothing := @applyAll_nothing (w.maps.view s) events
  simp only [r, v, SharedStores.applyEventsWithRollback, Stores.applyEventsWithRollback,
    if_neg hnil, hloop]
  generalize applyAll (w.maps.view s) events = R at hidR hnothing
  have hkept : Rewrites w { w with maps := mapsAfter w.maps s a m R.state } g s :=
    hw.rewrites_same hs ho R.state _ rfl (insert_eq_self hs).symm hid ho.applied ho.members
  -- where nothing was applied, nothing was written
  have hsame : R.events = [] →
      w.view.states = w.view.states.insert g ((mapsAfter w.maps s a m R.state).view s) := by
    intro hev
    rw [view_after ho, hnothing hev]
    rw [show (w.maps.view s).group.id = g from hid] at hstored
    exact (insert_eq_self hstored).symm
  cases hrej : R.rejected with
  | some e =>
    refine ⟨hkept.wellFormed hw, ?_, rfl⟩
    dsimp only
    by_cases hev : R.events = []
    · rw [if_pos hev]
      exact hkept.view_eq (hsame hev) rfl
    · -- early return: the stored struct keeps its fields and sees the written maps
      rw [if_neg hev]
      refine hkept.view_eq ?_ ?_
      · unfold Stores.leak
        rw [hstored]
        show w.view.states.insert _ _ =
          w.view.states.insert g ((mapsAfter w.maps s a m R.state).view s)
        rw [view_after ho, show (w.maps.view s).group.id = g from hid]
      · unfold Stores.leak
        rw [hstored]
        rfl
  | none =>
    dsimp only
    by_cases hev : R.events = []
    · rw [if_pos hev, if_pos hev]
      refine ⟨hkept.wellFormed hw, hkept.view_eq (hsame hev) rfl, ?_⟩
      exact congrArg (fun S => Except.ok (S, [])) ho.clone.view_put
    · rw [if_neg hev, if_neg hev]
      have hidP : (put (cloneState w.maps s).1 a m s R.state).2.group.id = g := hidR
      cases persist with
      | none =>
        have hrep := hw.rewrites_same hs ho R.state ⟨mapsAfter w.maps s a m R.state,
          w.states.insert g (put (cloneState w.maps s).1 a m s R.state).2,
          w.eventLog.insert g (w.log g ++ R.events)⟩ rfl rfl hidP ho.applied ho.members
        dsimp only
        rw [hidP]
        refine ⟨hrep.wellFormed hw, hrep.view_eq ?_ ?_, ?_⟩
        · unfold Stores.commit
          rw [hidR]
          exact congrArg (w.view.states.insert g) ho.clone.view_put.symm
        · unfold Stores.commit
          rw [hidR]
          rfl
        · exact congrArg (fun S => Except.ok (S, R.events)) ho.clone.view_put
      | some e =>
        have hmem : s.group.id ∈ w.states := mem_iff_get.mpr ⟨s, by rw [hid, hs]⟩
        have hrep := hw.replaces_clone hs ho R.state ⟨mapsAfter w.maps s a m R.state,
          w.states.insert g (cloneState w.maps s).2,
          w.eventLog.insert g (w.log g)⟩ rfl rfl
        dsimp only
        rw [if_pos hmem, hidP, insert_insert, insert_insert, hid]
        refine ⟨hrep.wellFormed hw, hrep.view_eq ?_ ?_, rfl⟩
        · have hmemV : (w.maps.view s).group.id ∈ w.view.states := mem_iff_get.mpr ⟨_, hstored⟩
          unfold Stores.rollback
          rw [if_pos hmemV, show (w.maps.view s).group.id = g from hid]
          exact congrArg (w.view.states.insert g) (view_after_clone ho R.state).symm
        · unfold Stores.rollback
          rw [show (w.maps.view s).group.id = g from hid]
          rfl

end SharedStores

end Ardents.Groups
