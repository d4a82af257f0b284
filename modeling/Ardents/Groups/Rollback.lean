import Ardents.Groups.Sharing

/-!
# What a failed call leaves behind

When persisting fails, `ApplyEventsWithRollback` puts back the clone and the old log. When an
event is rejected, it returns at once, and every event it had applied by then stays in the maps of
the stored state.
-/

namespace Ardents.Groups

open Go

def rejects : GroupState → List GroupEvent → Bool
  | _, [] => false
  | state, event :: rest =>
    match applyGroupEvent state event with
    | .error _ => true
    | .ok (_, state') => rejects state' rest

def rejectsMidway : GroupState → List GroupEvent → Bool
  | _, [] => false
  | state, event :: rest =>
    match applyGroupEvent state event with
    | .error _ => false
    | .ok (false, state') => rejectsMidway state' rest
    | .ok (true, state') => rejects state' rest

theorem rejects_iff {state : GroupState} {events : List GroupEvent} :
    rejects state events = true ↔ (applyAll state events).rejected ≠ none := by
  induction events generalizing state with
  | nil => simp [rejects, applyAll]
  | cons event rest ih =>
    grind [applyAll_cons, rejects]

theorem rejectsMidway_iff {state : GroupState} {events : List GroupEvent} :
    rejectsMidway state events = true ↔
      (applyAll state events).rejected ≠ none ∧ (applyAll state events).events ≠ [] := by
  induction events generalizing state with
  | nil => simp [rejectsMidway, applyAll]
  | cons event rest ih =>
    grind [applyAll_cons, rejectsMidway, rejects_iff]

namespace Stores

variable {s : Stores} {state : GroupState} {persist : Option GroupError}
  {events : List GroupEvent} {e : GroupError}

theorem leak_changed (hs : s.states[state.group.id]? = some state)
    (hne : (applyAll state events).events ≠ []) :
    (s.leak state (applyAll state events).state).states[state.group.id]?
      ≠ s.states[state.group.id]? := by
  grind [applyAll_something, leak_get]

theorem failed_unchanged_iff (hs : s.states[state.group.id]? = some state)
    (h : (s.applyEventsWithRollback state persist events).result = .error e) :
    (∀ g : String,
      (s.applyEventsWithRollback state persist events).stores.states[g]? = s.states[g]? ∧
        (s.applyEventsWithRollback state persist events).stores.log g = s.log g) ↔
      rejectsMidway state events = false := by
  rw [← Bool.not_eq_true, rejectsMidway_iff]
  rcases applyEventsWithRollback_error h with ⟨hrej, hleft⟩ | ⟨hrej, -, hback⟩
  · rw [hleft]
    grind [leak_changed]
  · rw [hback]
    exact ⟨fun _ hmid => hmid.1 hrej, fun _ => rollback_unchanged hs⟩

end Stores

namespace SharedStores

/--
**Rollback.** When `ApplyEventsWithRollback` fails on a state taken from well-formed
stores, every state and every log reads as before exactly when no event is rejected
after another was applied.
-/
theorem failed_call_unchanged_iff {w w' : SharedStores} (hw : w.WellFormed) {g₀ : String}
    {s : SharedState} (hs : w.states[g₀]? = some s) {persist : Option GroupError}
    {events : List GroupEvent} {e : GroupError}
    (h : w.applyEventsWithRollback s persist events = (w', .error e)) :
    (∀ g : String, w'.view.states[g]? = w.view.states[g]? ∧ w'.log g = w.log g) ↔
      rejectsMidway (w.maps.view s) events = false := by
  obtain ⟨-, hview, hres⟩ := hw.applyEventsWithRollback hs persist events
  rw [h] at hview hres
  have hstored : w.view.states[(w.maps.view s).group.id]? = some (w.maps.view s) := by
    rw [view_get, show (w.maps.view s).group.id = g₀ from hw.keyed g₀ s hs, hs]
    rfl
  have hiff := Stores.failed_unchanged_iff hstored hres.symm
  rw [← hview] at hiff
  exact hiff

/-! ## A rotation that is rejected

Key versions are 32 bits wide and an owner may announce any of them, so a group can
stand at the last one. The next is then 0, which no event may carry.
-/

def sampleGroup : Group :=
  { id := "team", title := "Team", description := "", avatar := "", createdBy := "alice"
    createdAt := 1, updatedAt := 1 }

def activeMember (memberID : String) (role : GroupMemberRole) : GroupMember :=
  { groupID := "team", memberID := memberID, role := role, status := .active, invitedAt := 1
    activatedAt := 1, updatedAt := 1 }

def sampleState : SharedState :=
  { group := sampleGroup, version := 2, appliedEventIDs := some 0, members := some 0
    lastKeyVersion := 4294967295 }

def sampleStores : SharedStores :=
  { maps :=
      { applied := ⟨[(∅ : GoMap String Unit).insert "e1" () |>.insert "e2" ()]⟩
        members := ⟨[Members.empty.put (activeMember "alice" .owner)
          |>.put (activeMember "bob" .user)]⟩ }
    states := (∅ : GoMap String SharedState).insert "team" sampleState
    eventLog := ∅ }

def removeBob : GroupEvent :=
  { id := "e3", groupID := "team", version := 3, type := .memberRemove, actorID := "alice"
    occurredAt := 2, memberID := "bob", role := .other "", title := "", description := ""
    avatar := "", keyVersion := 0 }

def rotateAfter : GroupEvent :=
  { removeBob with id := "e4", version := 4, type := .keyRotate, memberID := ""
                   keyVersion := sampleState.lastKeyVersion + 1 }

theorem sampleStores_wellFormed : sampleStores.WellFormed := by
  have hget : ∀ (g : String) (s : SharedState), sampleStores.states[g]? = some s →
      g = "team" ∧ s = sampleState := by
    simp [sampleStores, get_insert]
  refine ⟨?_, ?_, ?_⟩
  · intro g s hs
    obtain ⟨rfl, rfl⟩ := hget g s hs
    rfl
  · intro g s hs
    obtain ⟨rfl, rfl⟩ := hget g s hs
    exact ⟨0, 0, rfl, rfl, Nat.one_pos, Nat.one_pos⟩
  · grind

/-- The disk is full: the removal is undone. -/
theorem failed_persist_unchanged :
    let r := sampleStores.applyEventsWithRollback sampleState (some (.external "disk full"))
      [removeBob]
    ∀ g : String, r.1.view.states[g]? = sampleStores.view.states[g]? ∧
      r.1.log g = sampleStores.log g := by
  intro r
  have hr : r = (r.1, .error (.external "disk full")) :=
    Prod.ext rfl (by decide)
  have hs : sampleStores.states["team"]? = some sampleState := by decide
  exact (failed_call_unchanged_iff sampleStores_wellFormed hs hr).mpr (by decide)

/-- The call fails, the version and the log are as before, and Bob is gone. -/
theorem rejected_rotation_removes_member :
    let r := sampleStores.applyEventsWithRollback sampleState none [removeBob, rotateAfter]
    sampleStores.WellFormed ∧ sampleStores.states["team"]? = some sampleState ∧
      r.2 = .error .invalidGroupEventPayload ∧
      r.1.states["team"]? = some sampleState ∧ r.1.log "team" = sampleStores.log "team" ∧
      (sampleStores.view.states["team"]?).bind (memberStatus ·.members "bob") = some .active ∧
      (r.1.view.states["team"]?).bind (memberStatus ·.members "bob") = some .removed :=
  ⟨sampleStores_wellFormed, by decide, by decide, by decide,
    by decide, by decide, by decide⟩

end SharedStores

end Ardents.Groups
