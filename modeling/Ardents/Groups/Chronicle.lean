import Ardents.Go.Run
import Ardents.Groups.Inbound
import Ardents.Groups.Handover

/-!
# The event log of a group

The stores keep two accounts of every group: its state, and the log of its events. The group
service is a state machine here, one `GroupCall` after the other with any outcome of persisting,
and the question is whether the log explains the state.
-/

namespace Ardents.Groups

open Go
open Crypto (Time)

/-! ## Calls -/

inductive GroupCall where
  | create (title identityID : String) (now : Time) (groupIDs : List (Option String))
      (eventID : Option String) (persist : Option GroupError)
  | operate (op : GroupOperation) (inp : OperationInputs) (persist : Option GroupError)
  | delete (groupID actorID : String) (inp : OperationInputs) (persist : Option GroupError)
  | inbound (event : GroupEvent) (inp : InboundInputs)

namespace GroupCall

def apply (s : Stores) : GroupCall → Stores
  | .create title identityID now groupIDs eventID persist =>
    (createGroup s title identityID now groupIDs eventID persist).stores
  | .operate op inp persist => (perform s inp persist op).stores
  | .delete groupID actorID inp persist => (deleteGroup s groupID actorID inp persist).stores
  | .inbound event inp => (handleInboundGroupEvent s event inp).1

def Names : GroupCall → String → Prop
  | .create _ _ _ groupIDs _ _, g => some g ∈ groupIDs
  | _, _ => False

end GroupCall

/-- A rotation that follows a change of `state` has an id, and neither number wraps to 0. -/
structure CanRotate (state : GroupState) (rotateID : String) : Prop where
  named : trimSpace rotateID ≠ ""
  version : state.version ≠ 18446744073709551614
  keyVersion : state.lastKeyVersion ≠ 4294967295

/-- Where the call rotates the key of a stored group, the rotation can be applied. -/
def GroupCall.Whole (s : Stores) : GroupCall → Prop
  | .operate op inp _ => op.rotates = true → ∀ state,
      s.states[trimSpace op.groupID]? = some state → CanRotate state inp.rotateID
  | _ => True

/-! ## A new group -/

def createdGroup (groupID title identityID : String) (now : Time) : Group :=
  { id := groupID, title := title, description := "", avatar := "", createdBy := identityID
    createdAt := now, updatedAt := now }

def creation (groupID identityID eventID : String) (now : Time) : GroupEvent :=
  { id := eventID, groupID := groupID, version := 1, type := .memberAdd, actorID := identityID
    occurredAt := now, memberID := identityID, role := .owner, title := "", description := ""
    avatar := "", keyVersion := 0 }

/-- What `CreateGroup` stores with that event. -/
def founded (groupID title identityID eventID : String) (now : Time) : GroupState :=
  foundGroup ((newGroupState (createdGroup groupID title identityID now)).advance
    (creation groupID identityID eventID now)) identityID now

section

variable {g title identityID eventID : String} {now : Time}

theorem creation_get (htrim : trimSpace identityID = identityID) (G : Group) (m : String) :
    ((newGroupState G).advance (creation g identityID eventID now)).members.get m
      = if identityID = m then some (newMember G.id identityID .owner .invited now now)
        else none := by
  grind [GroupRecord.advance, changeMembers_get, creation, memberAfter, newGroupState,
    Members.get, Members.empty]

theorem founded_get (htrim : trimSpace identityID = identityID) (m : String) :
    (founded g title identityID eventID now).members.get m
      = if identityID = m then some { newMember g identityID .owner .invited now now with
          status := .active, activatedAt := now, updatedAt := now } else none := by
  unfold founded foundGroup
  rw [Members.get_put, memberAt, creation_get htrim, if_pos rfl, creation_get htrim]
  by_cases hm : identityID = m
  · simp [newMember, createdGroup, hm]
  · simp [newMember, hm]

end

/-! ## What a call does to the stores -/

inductive Change (s : Stores) (call : GroupCall) : Stores → Prop
  | same : Change s call s
  | forgotten (g : String) : Change s call ⟨s.states.erase g, s.eventLog.erase g⟩
  | founded {g title identityID eventID : String} {now : Time} (hname : call.Names g)
      (htrim : trimSpace identityID = identityID)
      (hvalid : validateGroupEvent (creation g identityID eventID now) = .ok ()) :
      Change s call ⟨s.states.insert g (founded g title identityID eventID now),
        s.eventLog.insert g [creation g identityID eventID now]⟩
  | extended {state : GroupState} {events : List GroupEvent}
      (hs : s.states[state.group.id]? = some state)
      (hrej : (applyAll state events).rejected = none) :
      Change s call (s.commit (applyAll state events).state (applyAll state events).events)

/-- States are filed under their ids, every group has a log, and `P` holds of the two. -/
structure Kept (P : String → GroupState → List GroupEvent → Prop) (s : Stores) : Prop where
  filed : ∀ (g : String) (S : GroupState), s.states[g]? = some S → S.group.id = g
  logged : ∀ (g : String) (S : GroupState), s.states[g]? = some S →
    ∃ log, s.eventLog[g]? = some log ∧ P g S log
  stored : ∀ (g : String) (log : List GroupEvent), s.eventLog[g]? = some log →
    ∃ S, s.states[g]? = some S

section

variable {P : String → GroupState → List GroupEvent → Prop} {s s' : Stores} {call : GroupCall}
  {state : GroupState}

theorem kept_empty : Kept P Stores.empty := by
  refine ⟨?_, ?_, ?_⟩
  · simp [Stores.empty]
  · simp [Stores.empty]
  · simp [Stores.empty]

theorem Kept.log_eq (hk : Kept P s) {g : String} {S : GroupState} (hS : s.states[g]? = some S) :
    s.eventLog[g]? = some (s.log g) ∧ P g S (s.log g) := by
  obtain ⟨log, hlog, hP⟩ := hk.logged g S hS
  have heq : s.log g = log := by
    unfold Stores.log
    rw [hlog]
    rfl
  rw [heq]
  exact ⟨hlog, hP⟩

theorem Kept.rollback_eq (hk : Kept P s) (hs : s.states[state.group.id]? = some state) :
    s.rollback state = s := by
  unfold Stores.rollback
  rw [if_pos (mem_iff_get.mpr ⟨state, hs⟩), insert_eq_self hs, insert_eq_self (hk.log_eq hs).1]

theorem Kept.erase (hk : Kept P s) (g₀ : String) :
    Kept P ⟨s.states.erase g₀, s.eventLog.erase g₀⟩ := by
  refine ⟨?_, ?_, ?_⟩
  · intro g S hS
    simp only [get_erase] at hS
    split at hS
    · exact absurd hS (by simp)
    · exact hk.filed g S hS
  · intro g S hS
    simp only [get_erase] at hS ⊢
    split at hS
    · exact absurd hS (by simp)
    · rename_i hne
      rw [if_neg hne]
      exact hk.logged g S hS
  · intro g log hlog
    simp only [get_erase] at hlog ⊢
    split at hlog
    · exact absurd hlog (by simp)
    · rename_i hne
      rw [if_neg hne]
      exact hk.stored g log hlog

theorem Kept.insert (hk : Kept P s) {g₀ : String} {S₀ : GroupState} {log₀ : List GroupEvent}
    (hid : S₀.group.id = g₀) (hP : P g₀ S₀ log₀) :
    Kept P ⟨s.states.insert g₀ S₀, s.eventLog.insert g₀ log₀⟩ := by
  refine ⟨?_, ?_, ?_⟩
  · intro g S hS
    simp only [get_insert] at hS
    split at hS
    · rename_i hg
      rw [← Option.some.inj hS, hid]
      exact hg
    · exact hk.filed g S hS
  · intro g S hS
    simp only [get_insert] at hS ⊢
    split at hS
    · rename_i hg
      rw [if_pos hg, ← Option.some.inj hS, ← hg]
      exact ⟨_, rfl, hP⟩
    · rename_i hne
      rw [if_neg hne]
      exact hk.logged g S hS
  · intro g log hlog
    simp only [get_insert] at hlog ⊢
    split at hlog
    · rename_i hg
      rw [if_pos hg]
      exact ⟨_, rfl⟩
    · rename_i hne
      rw [if_neg hne]
      exact hk.stored g log hlog

theorem Kept.apply_change (hk : Kept P s) (hs : s.states[state.group.id]? = some state)
    (persist : Option GroupError) {events : List GroupEvent}
    (hwhole : (applyAll state events).events ≠ [] → (applyAll state events).rejected = none) :
    Change s call (s.applyEventsWithRollback state persist events).stores := by
  unfold Stores.applyEventsWithRollback
  split
  · exact Change.same
  dsimp only
  split
  · rename_i e hrej
    split
    · exact Change.same
    · simp_all
  · rename_i hrej
    split
    · exact Change.same
    · split
      · exact Change.extended hs hrej
      · rw [hk.rollback_eq hs]
        exact Change.same

end

/-! ## Operations -/

section

variable {α : Type} {s : Stores} {inp : OperationInputs} {persist : Option GroupError}
  {state : GroupState} {change : GroupEvent} {g : String}

theorem rotation_accepted {rotateID : String} (hcan : CanRotate state rotateID)
    (happ : applyGroupEvent state change = .ok (true, state.advance change)) :
    ∃ p, applyGroupEvent (state.advance change) (rotationFor state change rotateID) = .ok p := by
  obtain ⟨hvalid, hgroup, -, hversion⟩ := applyGroupEvent_true happ
  obtain ⟨-, hg, -, -, hactor, htime, -⟩ := validateGroupEvent_ok.mp hvalid
  have hkey : (rotationFor state change rotateID).keyVersion ≠ 0 := by
    grind [cases CanRotate, rotationFor]
  have hnext : change.version + 1 ≠ 0 := by
    grind [cases CanRotate]
  have hrotation : validateGroupEvent (rotationFor state change rotateID) = .ok () :=
    validateGroupEvent_ok.mpr ⟨hcan.named, hg, hnext, rfl, hactor, htime,
      decide_eq_false hkey⟩
  have hid : (rotationFor state change rotateID).groupID = (state.advance change).group.id :=
    hgroup.trans (changeGroup_id _ _).symm
  by_cases hused : (rotationFor state change rotateID).id ∈ (state.advance change).appliedEventIDs
  · refine ⟨(false, state.advance change), ?_⟩
    have hne : trimSpace (state.advance change).group.id ≠ "" := hid ▸ hg
    unfold applyGroupEvent checkGroupEvent
    rw [hrotation]
    dsimp only
    rw [if_neg hne, if_neg (not_not.mpr hid)]
    dsimp only
    rw [if_pos hused]
  · exact ⟨_, applyGroupEvent_applied hrotation hid hused rfl⟩

theorem whole_of_one {event : GroupEvent} (hsome : (applyAll state [event]).events ≠ []) :
    (applyAll state [event]).rejected = none := by
  grind [applyAll]

theorem whole_of_canRotate {rotateID : String} (hcan : CanRotate state rotateID)
    (hsome : (applyAll state [change, rotationFor state change rotateID]).events ≠ []) :
    (applyAll state [change, rotationFor state change rotateID]).rejected = none := by
  rcases applyAll_cons state change [rotationFor state change rotateID] with
    ⟨e, -, heq⟩ | ⟨-, heq⟩ | ⟨happ, heq⟩
  · rw [heq] at hsome
    exact absurd rfl hsome
  · -- the change is skipped, so the rotation stands alone
    rw [heq] at hsome ⊢
    exact whole_of_one hsome
  · obtain ⟨p, hp⟩ := rotation_accepted hcan happ
    rw [heq]
    simp only [applyAll, hp]
    split <;> rfl

end

/-! ## Creating and deleting -/

section

variable {s : Stores}

theorem allocateGroupID_ok {states : GoMap String GroupState} {groupIDs : List (Option String)}
    {g : String} (h : allocateGroupID states groupIDs = .ok g) :
    some g ∈ groupIDs ∧ g ∉ states := by
  induction groupIDs with
  | nil => exact absurd h (by simp [allocateGroupID])
  | cons candidate rest ih =>
    cases candidate with
    | none => exact absurd h (by simp [allocateGroupID])
    | some candidate =>
      grind [allocateGroupID]

theorem createGroup_cases (s : Stores) (title identityID : String) (now : Time)
    (groupIDs : List (Option String)) (eventID : Option String) (persist : Option GroupError) :
    ((createGroup s title identityID now groupIDs eventID persist).stores = s ∧
      ∃ e, (createGroup s title identityID now groupIDs eventID persist).result = .error e) ∨
    ∃ g, some g ∈ groupIDs ∧ g ∉ s.states ∧
      (((createGroup s title identityID now groupIDs eventID persist).stores
          = ⟨s.states.erase g, s.eventLog.erase g⟩ ∧
        ∃ e, (createGroup s title identityID now groupIDs eventID persist).result = .error e) ∨
      ∃ title' ev, validateGroupEvent (creation g (trimSpace identityID) ev now) = .ok () ∧
        (createGroup s title identityID now groupIDs eventID persist).stores
          = ⟨s.states.insert g (founded g title' (trimSpace identityID) ev now),
            s.eventLog.insert g [creation g (trimSpace identityID) ev now]⟩ ∧
        (createGroup s title identityID now groupIDs eventID persist).result
          = .ok ((founded g title' (trimSpace identityID) ev now).group,
              creation g (trimSpace identityID) ev now)) := by
  unfold createGroup
  dsimp only
  split
  · rename_i e _
    exact Or.inl ⟨rfl, e, rfl⟩
  · rename_i state event groupID hfounded
    obtain ⟨t, -, hfounded⟩ := bind_ok.mp hfounded
    obtain ⟨i, hi, hfounded⟩ := bind_ok.mp hfounded
    obtain ⟨g, hg, hfounded⟩ := bind_ok.mp hfounded
    cases eventID with
    | none => exact absurd hfounded (by simp [bind, Except.bind])
    | some ev =>
      obtain ⟨ev', hev, hfounded⟩ := bind_ok.mp hfounded
      obtain rfl := Except.ok.inj hev
      obtain ⟨⟨applied, next⟩, happ, hfounded⟩ := bind_ok.mp hfounded
      obtain ⟨rfl, rfl, rfl⟩ := by simpa [pure_ok] using hfounded
      obtain ⟨rfl, -⟩ := normalizeNonEmpty_ok.mp hi
      obtain ⟨hmem, hnew⟩ := allocateGroupID_ok hg
      obtain ⟨hcheck, ⟨hused, -, -⟩ | ⟨-, -, -, rfl⟩⟩ := applyGroupEvent_ok happ
      · exact absurd hused (by simp [newGroupState])
      · refine Or.inr ⟨g, List.mem_of_mem_take hmem, hnew, ?_⟩
        split
        · exact Or.inr ⟨t, ev, (checkGroupEvent_ok hcheck).1, rfl, rfl⟩
        · rename_i e
          exact Or.inl ⟨rfl, e, rfl⟩

theorem createGroup_change {title identityID : String} {now : Time}
    {groupIDs : List (Option String)} {eventID : Option String} {persist : Option GroupError} :
    Change s (.create title identityID now groupIDs eventID persist)
      (createGroup s title identityID now groupIDs eventID persist).stores := by
  rcases createGroup_cases s title identityID now groupIDs eventID persist with
    ⟨hsame, -⟩ | ⟨g, hname, -, ⟨hback, -⟩ | ⟨title', ev, hvalid, hnew, -⟩⟩
  · rw [hsame]
    exact Change.same
  · rw [hback]
    exact Change.forgotten g
  · rw [hnew]
    exact Change.founded hname (trimSpace_idem identityID) hvalid

theorem deleteGroup_change {call : GroupCall} {groupID actorID : String} {inp : OperationInputs}
    {persist : Option GroupError} :
    Change s call (deleteGroup s groupID actorID inp persist).stores := by
  unfold deleteGroup
  dsimp only
  split
  · exact Change.same
  · rename_i g hchecked
    split
    · exact Change.forgotten g
    · exact Change.same

theorem Kept.call_change {P : String → GroupState → List GroupEvent → Prop} (hk : Kept P s)
    {call : GroupCall} (hwhole : call.Whole s) : Change s call (call.apply s) := by
  cases call with
  | create title identityID now groupIDs eventID persist => exact createGroup_change
  | delete groupID actorID inp persist => exact deleteGroup_change
  | inbound event inp =>
    unfold GroupCall.apply
    dsimp only
    rcases handleInboundGroupEvent_stores s event inp with hsame | ⟨state, -, hs, -, hrun⟩
    · rw [hsame]
      exact Change.same
    · rw [hrun]
      have hid : state.group.id = event.groupID := hk.filed _ _ hs
      exact hk.apply_change (hid ▸ hs) inp.persist whole_of_one
  | operate op inp persist =>
    unfold GroupCall.apply
    dsimp only
    rcases perform_issues s inp persist op with
      ⟨hsame, -⟩ | ⟨state, events, hs, hissued, hrun, -⟩
    · rw [hsame]
      exact Change.same
    · rw [hrun]
      have hid : state.group.id = trimSpace op.groupID := hk.filed _ _ hs
      refine hk.apply_change (hid ▸ hs) persist fun hsome => ?_
      rcases hissued.shape with ⟨-, event, rfl, -⟩ | ⟨hr, change, rfl, -⟩
      · exact whole_of_one hsome
      · exact whole_of_canRotate (hwhole hr state hs) hsome

end

/-! ## Runs -/

/-- What a property of a state and its log must satisfy to hold of every group: it holds of a new
group, if its id is acceptable, and each applied event keeps it. -/
structure Closed (ok : String → Prop) (P : String → GroupState → List GroupEvent → Prop) :
    Prop where
  found : ∀ {g title identityID eventID : String} {now : Time}, ok g →
    trimSpace identityID = identityID →
    validateGroupEvent (creation g identityID eventID now) = .ok () →
    P g (founded g title identityID eventID now) [creation g identityID eventID now]
  extend : ∀ {S : GroupState} {log : List GroupEvent} {event : GroupEvent}, P S.group.id S log →
    applyGroupEvent S event = .ok (true, S.advance event) →
    P S.group.id (S.advance event) (log ++ [event])

section

variable {ok : String → Prop} {P : String → GroupState → List GroupEvent → Prop} {s s' : Stores}
  {call : GroupCall}

theorem Closed.applyAll (hP : Closed ok P) {S : GroupState} {log events : List GroupEvent}
    (h : P S.group.id S log) :
    P S.group.id (applyAll S events).state (log ++ (applyAll S events).events) := by
  induction events generalizing S log with
  | nil => simpa [Groups.applyAll] using h
  | cons event rest ih =>
    rcases applyAll_cons S event rest with ⟨e, -, heq⟩ | ⟨-, heq⟩ | ⟨happ, heq⟩
    · rw [heq]
      simpa using h
    · rw [heq]
      exact ih h
    · have hid : (S.advance event).group.id = S.group.id := changeGroup_id _ _
      grind [cases Closed]

theorem Kept.of_change (hP : Closed ok P) (hk : Kept P s) (hok : ∀ g, call.Names g → ok g)
    (h : Change s call s') : Kept P s' := by
  cases h with
  | same => exact hk
  | forgotten g => exact hk.erase g
  | founded hname htrim hvalid =>
    -- `createdGroup` carries the id under which the group is filed
    exact hk.insert rfl (hP.found (hok _ hname) htrim hvalid)
  | @extended state events hs hrej =>
    have hid : (applyAll state events).state.group.id = state.group.id := applyAll_group_id
    unfold Stores.commit
    rw [hid]
    exact hk.insert hid (hP.applyAll (hk.log_eq hs).2)

theorem kept_run (hP : Closed ok P) {calls : List GroupCall}
    (h : Along GroupCall.apply (fun s call => call.Whole s ∧ ∀ g, call.Names g → ok g)
      Stores.empty calls) : Kept P (run GroupCall.apply Stores.empty calls) :=
  along_run (I := Kept P) (fun _ _ hk hc => hk.of_change hP hc.2 (hk.call_change hc.1)) kept_empty h

end

end Ardents.Groups
