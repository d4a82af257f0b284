import Ardents.Groups.Domain

/-!
# Changing stored groups

`state_mutation.go`, by value. `ApplyEventsWithRollback` works on a state whose maps it shares
with the stores. `CloneState` protects it from a failed persist; after an event rejected in the
middle of the loop the maps keep what the events before it wrote. That is `leak`; the module on
sharing proves that the code with its references does so.
-/

namespace Ardents.Groups

open Go

structure Stores where
  states : GoMap String GroupState
  eventLog : GoMap String (List GroupEvent)

namespace Stores

def empty : Stores := ⟨∅, ∅⟩

/-- `eventLog[groupID]`, empty where there is no entry. -/
def log (s : Stores) (groupID : String) : List GroupEvent := (s.eventLog[groupID]?).getD []

end Stores

def loadStateForActor (states : GoMap String GroupState) (groupID actorID : String)
    (requireActiveActor : Bool) : Except GroupError GroupState :=
  match states[groupID]? with
  | none => .error .groupNotFound
  | some state =>
    match normalizeGroupMemberID actorID with
    | .error e => .error e
    | .ok actorID =>
      match state.members.get actorID with
      | none => .error .groupMembershipNotFound
      | some actor =>
        if requireActiveActor ∧ actor.status ≠ .active then .error .groupPermissionDenied
        else .ok state

theorem loadStateForActor_ok {states : GoMap String GroupState} {groupID actorID : String}
    {requireActiveActor : Bool} {state : GroupState} (hactor : trimSpace actorID = actorID)
    (h : loadStateForActor states groupID actorID requireActiveActor = .ok state) :
    states[groupID]? = some state ∧ ∃ actor, state.members.get actorID = some actor ∧
      (requireActiveActor = true → actor.status = .active) := by
  unfold loadStateForActor at h
  split at h
  · exact absurd h (by simp)
  · rename_i found hfound
    split at h
    · exact absurd h (by simp)
    · rename_i id hid
      obtain ⟨rfl, -⟩ := normalizeNonEmpty_ok.mp hid
      rw [hactor] at h
      split at h
      · exact absurd h (by simp)
      · rename_i actor hget
        split at h
        · exact absurd h (by simp)
        · rename_i hact
          obtain rfl := Except.ok.inj h
          refine ⟨hfound, actor, hget, fun hreq => ?_⟩
          by_contra hne
          exact hact ⟨hreq, hne⟩

/-- What a call of `ApplyEventsWithRollback` did. -/
structure Mutation where
  stores : Stores
  /-- What `persist` was called with, call by call. -/
  persisted : List Stores
  result : Except GroupError (GroupState × List GroupEvent)

/-- What the loop of `ApplyEventsWithRollback` comes to. -/
structure Applied where
  state : GroupState
  events : List GroupEvent
  rejected : Option GroupError

def applyAll (state : GroupState) : List GroupEvent → Applied
  | [] => ⟨state, [], none⟩
  | event :: rest =>
    match applyGroupEvent state event with
    | .error e => ⟨state, [], some e⟩
    | .ok (applied, state') =>
      let r := applyAll state' rest
      if applied then { r with events := event :: r.events } else r

namespace Stores

/-- What an early return leaves in the stored state: its own fields, and the written maps. -/
def leak (s : Stores) (state reached : GroupState) : Stores :=
  let torn := { state with
    appliedEventIDs := reached.appliedEventIDs, members := reached.members }
  match s.states[state.group.id]? with
  | none => s
  | some _ => { s with states := s.states.insert state.group.id torn }

def commit (s : Stores) (next : GroupState) (applied : List GroupEvent) : Stores :=
  { states := s.states.insert next.group.id next
    eventLog := s.eventLog.insert next.group.id (s.log next.group.id ++ applied) }

def rollback (s : Stores) (state : GroupState) : Stores :=
  { states := if state.group.id ∈ s.states then s.states.insert state.group.id state
      else s.states.erase state.group.id
    eventLog := s.eventLog.insert state.group.id (s.log state.group.id) }

/-- `ApplyEventsWithRollback`; `persist` is what `persist` returns if it is called. -/
def applyEventsWithRollback (s : Stores) (state : GroupState) (persist : Option GroupError)
    (events : List GroupEvent) : Mutation :=
  if events = [] then ⟨s, [], .ok (state, [])⟩
  else
    let r := applyAll state events
    match r.rejected with
    | some e => ⟨if r.events = [] then s else s.leak state r.state, [], .error e⟩
    | none =>
      if r.events = [] then ⟨s, [], .ok (r.state, [])⟩
      else
        let next := s.commit r.state r.events
        match persist with
        | none => ⟨next, [next], .ok (r.state, r.events)⟩
        | some e => ⟨s.rollback state, [next], .error e⟩

end Stores

/-! ## What the loop did -/

variable {state : GroupState} {events : List GroupEvent}

theorem applyAll_cons (state : GroupState) (event : GroupEvent) (rest : List GroupEvent) :
    (∃ e, applyGroupEvent state event = .error e ∧
      applyAll state (event :: rest) = ⟨state, [], some e⟩) ∨
    (applyGroupEvent state event = .ok (false, state) ∧
      applyAll state (event :: rest) = applyAll state rest) ∨
    (applyGroupEvent state event = .ok (true, state.advance event) ∧
      applyAll state (event :: rest) = { applyAll (state.advance event) rest with
        events := event :: (applyAll (state.advance event) rest).events }) := by
  cases happ : applyGroupEvent state event with
  | error e =>
    refine Or.inl ⟨e, rfl, ?_⟩
    simp only [applyAll, happ]
  | ok p =>
    obtain ⟨applied, state'⟩ := p
    rcases (applyGroupEvent_ok happ).2 with ⟨-, rfl, rfl⟩ | ⟨-, -, rfl, rfl⟩
    · refine Or.inr (Or.inl ⟨rfl, ?_⟩)
      simp only [applyAll, happ, Bool.false_eq_true, if_false]
    · refine Or.inr (Or.inr ⟨rfl, ?_⟩)
      simp only [applyAll, happ, if_true]

theorem applyAll_append {rest : List GroupEvent} (h : (applyAll state events).rejected = none) :
    applyAll state (events ++ rest) = { applyAll (applyAll state events).state rest with
      events := (applyAll state events).events ++
        (applyAll (applyAll state events).state rest).events } := by
  induction events generalizing state with
  | nil => rfl
  | cons event events ih =>
    grind [applyAll]

theorem applyAll_inv {I : GroupState → Prop}
    (hadv : ∀ s, ∀ e ∈ events, I s → applyGroupEvent s e = .ok (true, s.advance e) →
      I (s.advance e)) (h : I state) : I (applyAll state events).state := by
  induction events generalizing state with
  | nil => exact h
  | cons event rest ih =>
    have hrest : ∀ s, ∀ e ∈ rest, I s → applyGroupEvent s e = .ok (true, s.advance e) →
        I (s.advance e) := fun s e he => hadv s e (List.mem_cons_of_mem _ he)
    rcases applyAll_cons state event rest with ⟨e, -, heq⟩ | ⟨-, heq⟩ | ⟨happ, heq⟩
    · rw [heq]
      exact h
    · rw [heq]
      exact ih hrest h
    · rw [heq]
      exact ih hrest (hadv state event List.mem_cons_self h happ)

theorem applyAll_group_id : (applyAll state events).state.group.id = state.group.id :=
  applyAll_inv (I := fun s => s.group.id = state.group.id)
    (fun s e _ hs _ => (changeGroup_id s.group e).trans hs) rfl

theorem applyAll_applied_mono {id : String} (h : id ∈ state.appliedEventIDs) :
    id ∈ (applyAll state events).state.appliedEventIDs :=
  applyAll_inv (I := fun s => id ∈ s.appliedEventIDs)
    (fun _ _ _ hs _ => Std.ExtTreeMap.mem_insert.mpr (Or.inr hs)) h

theorem applyAll_nothing (h : (applyAll state events).events = []) :
    (applyAll state events).state = state := by
  induction events generalizing state with
  | nil => rfl
  | cons event rest ih =>
    rcases applyAll_cons state event rest with ⟨e, -, heq⟩ | ⟨-, heq⟩ | ⟨-, heq⟩
    · rw [heq]
    · rw [heq] at h ⊢
      exact ih h
    · rw [heq] at h
      exact absurd h (by simp)

theorem applyAll_something (h : (applyAll state events).events ≠ []) :
    ∃ id, id ∉ state.appliedEventIDs ∧ id ∈ (applyAll state events).state.appliedEventIDs := by
  induction events generalizing state with
  | nil => exact absurd rfl h
  | cons event rest ih =>
    rcases applyAll_cons state event rest with ⟨e, -, heq⟩ | ⟨-, heq⟩ | ⟨happ, heq⟩
    · rw [heq] at h
      exact absurd rfl h
    · rw [heq] at h ⊢
      exact ih h
    · rw [heq]
      obtain ⟨-, -, hid, -⟩ := applyGroupEvent_true happ
      exact ⟨event.id, hid, applyAll_applied_mono (mem_advance.mpr (Or.inl rfl))⟩

theorem applyAll_head_groupID {event : GroupEvent}
    (h : (applyAll state (event :: events)).rejected = none) : event.groupID = state.group.id := by
  rcases applyAll_cons state event events with ⟨e, -, heq⟩ | ⟨happ, -⟩ | ⟨happ, -⟩
  · rw [heq] at h
    exact absurd h (by simp)
  · exact (checkGroupEvent_ok (applyGroupEvent_ok happ).1).2
  · exact (applyGroupEvent_true happ).2.1

theorem applyAll_one {event : GroupEvent} (hrej : (applyAll state [event]).rejected = none) :
    (event.id ∈ state.appliedEventIDs ∧ (applyAll state [event]).events = [] ∧
        (applyAll state [event]).state = state) ∨
      (event.id ∉ state.appliedEventIDs ∧ (applyAll state [event]).events = [event] ∧
        (applyAll state [event]).state = state.advance event ∧
        applyGroupEvent state event = .ok (true, state.advance event)) := by
  rcases applyAll_cons state event [] with ⟨e, -, heq⟩ | ⟨happ, heq⟩ | ⟨happ, heq⟩
  · simp_all
  · rcases (applyGroupEvent_ok happ).2 with ⟨hid, -, -⟩ | ⟨-, -, htrue, -⟩
    · rw [heq]
      exact Or.inl ⟨hid, rfl, rfl⟩
    · exact absurd htrue (by simp)
  · rw [heq]
    exact Or.inr ⟨(applyGroupEvent_true happ).2.2.1, rfl, rfl, happ⟩

theorem applyAll_one_rejected {event : GroupEvent} {e : GroupError}
    (hrej : (applyAll state [event]).rejected = some e) : (applyAll state [event]).events = [] := by
  grind [applyAll]

/-! ## How a call ended -/

namespace Stores

variable {s : Stores} {persist : Option GroupError} {e : GroupError}

theorem applyEventsWithRollback_error
    (h : (s.applyEventsWithRollback state persist events).result = .error e) :
    ((applyAll state events).rejected = some e ∧
        (s.applyEventsWithRollback state persist events).stores
          = if (applyAll state events).events = [] then s
            else s.leak state (applyAll state events).state) ∨
      ((applyAll state events).rejected = none ∧ persist = some e ∧
        (s.applyEventsWithRollback state persist events).stores = s.rollback state) := by
  unfold applyEventsWithRollback at h ⊢
  split at h
  · exact nomatch h
  · rename_i hne
    rw [if_neg hne]
    dsimp only at h ⊢
    split at h
    · rename_i e' hrej
      exact Or.inl ⟨hrej.trans (congrArg some (Except.error.inj h)), rfl⟩
    · rename_i hrej
      split at h
      · exact nomatch h
      · rename_i hsome
        rw [if_neg hsome]
        cases persist with
        | none => exact nomatch h
        | some e' => exact Or.inr ⟨hrej, congrArg some (Except.error.inj h), rfl⟩

theorem applyEventsWithRollback_ok {next : GroupState} {applied : List GroupEvent}
    (hne : events ≠ [])
    (h : (s.applyEventsWithRollback state persist events).result = .ok (next, applied)) :
    (applyAll state events).rejected = none ∧ next = (applyAll state events).state ∧
      applied = (applyAll state events).events ∧
      (((applyAll state events).events = [] ∧
          (s.applyEventsWithRollback state persist events).stores = s) ∨
        ((applyAll state events).events ≠ [] ∧ persist = none ∧
          (s.applyEventsWithRollback state persist events).stores
            = s.commit (applyAll state events).state (applyAll state events).events)) := by
  unfold applyEventsWithRollback at h ⊢
  rw [if_neg hne] at h ⊢
  dsimp only at h ⊢
  split at h
  · exact nomatch h
  · rename_i hrej
    split at h
    · rename_i hnone
      obtain ⟨rfl, rfl⟩ := Prod.mk.inj (Except.ok.inj h)
      exact ⟨hrej, rfl, hnone.symm, Or.inl ⟨hnone, by rw [if_pos hnone]⟩⟩
    · rename_i hsome
      rw [if_neg hsome]
      cases persist with
      | none =>
        obtain ⟨rfl, rfl⟩ := Prod.mk.inj (Except.ok.inj h)
        exact ⟨hrej, rfl, rfl, Or.inr ⟨hsome, rfl, rfl⟩⟩
      | some e => exact nomatch h

theorem leak_get (hs : s.states[state.group.id]? = some state) (reached : GroupState) (g : String) :
    (s.leak state reached).states[g]? = if state.group.id = g then some { state with
      appliedEventIDs := reached.appliedEventIDs, members := reached.members }
      else s.states[g]? := by
  unfold leak
  rw [hs]
  exact get_insert _ _ _ _

theorem rollback_unchanged (hs : s.states[state.group.id]? = some state) (g : String) :
    (s.rollback state).states[g]? = s.states[g]? ∧ (s.rollback state).log g = s.log g := by
  grind [rollback, log]

end Stores

end Ardents.Groups
