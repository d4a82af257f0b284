import Ardents.Groups.Membership

/-!
# What an operation hands over

An operation of the group service refuses, or hands the stores one event or a change with its key
rotation. `Issues` lists the events of each operation with what has been checked by then, and
`perform_issues` is that there is nothing else.
-/

namespace Ardents.Groups

open Go

/-! ## Events of the operations -/

/-- What the operations that rotate the key check before they look at the stores. -/
structure Checked (inp : OperationInputs) (groupID actorID : String) : Prop where
  group : trimSpace groupID ≠ ""
  actor : trimSpace actorID ≠ ""
  rate : inp.abuse.all (·.allowMembership) = true

section

variable {states : GoMap String GroupState} {inp : OperationInputs}
  {groupID actorID memberID : String}

theorem checked_of_normalize {g a : String} (hg : normalizeGroupID groupID = .ok g)
    (ha : normalizeGroupMemberID actorID = .ok a) (hrate : checkMembershipRate inp = .ok ()) :
    Checked inp groupID actorID := by
  obtain ⟨rfl, hg⟩ := normalizeNonEmpty_ok.mp hg
  obtain ⟨rfl, ha⟩ := normalizeNonEmpty_ok.mp ha
  exact ⟨hg, ha, require_ok.mp hrate⟩

theorem loadActorMembershipState_checked
    {loaded : String × String × GroupState × Option GroupMember}
    (h : loadActorMembershipState states inp groupID actorID = .ok loaded) :
    Checked inp groupID actorID := by
  grind [loadActorMembershipState, bind_ok, checked_of_normalize]

variable {p : Plan (Bool × Option GroupEvent)}

theorem planAccept_checked
    (h : planAccept states inp groupID actorID = .ok p) : Checked inp groupID actorID := by
  obtain ⟨loaded, hload, -⟩ := bind_ok.mp h
  exact loadActorMembershipState_checked hload

theorem planDecline_checked
    (h : planDecline states inp groupID actorID = .ok p) : Checked inp groupID actorID := by
  obtain ⟨loaded, hload, -⟩ := bind_ok.mp h
  exact loadActorMembershipState_checked hload

theorem planLeave_checked
    (h : planLeave states inp groupID actorID = .ok p) : Checked inp groupID actorID := by
  unfold planLeave at h
  simp only [bind_ok] at h
  obtain ⟨g, hg, a, ha, ⟨⟩, hrate, -⟩ := h
  exact checked_of_normalize hg ha hrate

theorem planRemove_checked (h : planRemove states inp groupID actorID memberID = .ok p) :
    Checked inp groupID actorID ∧ trimSpace memberID ≠ "" := by
  unfold planRemove at h
  simp only [bind_ok] at h
  obtain ⟨g, hg, a, ha, m, hm, ⟨⟩, hrate, -⟩ := h
  obtain ⟨rfl, hm⟩ := normalizeNonEmpty_ok.mp hm
  exact ⟨checked_of_normalize hg ha hrate, hm⟩

end

/-- The events an operation hands over for the state it loaded, and what it has checked. -/
inductive Issues (state : GroupState) (inp : OperationInputs) :
    GroupOperation → List GroupEvent → Prop
  | invite {g a m : String} (hother : trimSpace m ≠ trimSpace a)
      (habsent : ∀ target, state.members.get (trimSpace m) = some target →
        ¬ (target.status = .invited ∨ target.status = .active)) :
      Issues state inp (.invite g a m) [memberEvent state .memberAdd inp.eventID (trimSpace g)
        (trimSpace a) (trimSpace m) .user inp.now]
  | accept {g a : String} {actor : GroupMember} (hchecked : Checked inp g a)
      (hactor : state.members.get (trimSpace a) = some actor) (hinv : actor.status = .invited)
      {change : GroupEvent} (hchange : change = memberEvent state .memberAdd inp.eventID
        (trimSpace g) (trimSpace a) (trimSpace a) actor.role inp.now) :
      Issues state inp (.accept g a) [change, rotationFor state change inp.rotateID]
  | decline {g a : String} {actor : GroupMember} (hchecked : Checked inp g a)
      (hactor : state.members.get (trimSpace a) = some actor) (hinv : actor.status = .invited)
      {change : GroupEvent} (hchange : change = memberEvent state .memberRemove inp.eventID
        (trimSpace g) (trimSpace a) (trimSpace a) (.other "") inp.now) :
      Issues state inp (.decline g a) [change, rotationFor state change inp.rotateID]
  | leave {g a : String} {actor : GroupMember} (hchecked : Checked inp g a)
      (hactor : state.members.get (trimSpace a) = some actor)
      (hhere : ¬ (actor.status = .left ∨ actor.status = .removed))
      {change : GroupEvent} (hchange : change = memberEvent state .memberLeave inp.eventID
        (trimSpace g) (trimSpace a) (trimSpace a) (.other "") inp.now) :
      Issues state inp (.leave g a) [change, rotationFor state change inp.rotateID]
  | remove {g a m : String} {actor target : GroupMember} (hchecked : Checked inp g a)
      (hnamed : trimSpace m ≠ "") (hactor : state.members.get (trimSpace a) = some actor)
      (hactive : actor.status = .active) (hmanage : actor.canManageMembers = true)
      (htarget : state.members.get (trimSpace m) = some target) (hnot : target.role ≠ .owner)
      (hhere : target.status ≠ .removed)
      {change : GroupEvent} (hchange : change = memberEvent state .memberRemove inp.eventID
        (trimSpace g) (trimSpace a) (trimSpace m) (.other "") inp.now) :
      Issues state inp (.remove g a m) [change, rotationFor state change inp.rotateID]
  | changeRole {g a m : String} {role : GroupMemberRole} {actor target : GroupMember}
      (hactor : state.members.get (trimSpace a) = some actor) (howner : actor.role = .owner)
      (htarget : state.members.get (trimSpace m) = some target) (hnot : target.role ≠ .owner) :
      Issues state inp (.changeRole g a m role) [memberEvent state .memberAdd inp.eventID
        (trimSpace g) (trimSpace a) (trimSpace m) role inp.now]
  | updateTitle {g a title t d v : String} :
      Issues state inp (.updateTitle g a title)
        [profileEvent state inp.eventID (trimSpace g) (trimSpace a) t d v inp.now]
  | updateProfile {g a title description avatar t d v : String} :
      Issues state inp (.updateProfile g a title description avatar)
        [profileEvent state inp.eventID (trimSpace g) (trimSpace a) t d v inp.now]

def GroupOperation.rotates : GroupOperation → Bool
  | .accept _ _ => true
  | .decline _ _ => true
  | .leave _ _ => true
  | .remove _ _ _ => true
  | _ => false

theorem Issues.shape {S : GroupState} {inp : OperationInputs} {op : GroupOperation}
    {events : List GroupEvent} (h : Issues S inp op events) :
    (op.rotates = false ∧ ∃ event, events = [event] ∧ event.type ≠ .keyRotate) ∨
      (op.rotates = true ∧ ∃ change, events = [change, rotationFor S change inp.rotateID] ∧
        change.type ≠ .keyRotate) := by
  have hpair : ∀ {change : GroupEvent}, op.rotates = true → change.type ≠ .keyRotate →
      (op.rotates = false ∧ ∃ event, [change, rotationFor S change inp.rotateID] = [event] ∧
        event.type ≠ .keyRotate) ∨
      (op.rotates = true ∧ ∃ c, [change, rotationFor S change inp.rotateID]
        = [c, rotationFor S c inp.rotateID] ∧ c.type ≠ .keyRotate) :=
    fun hr htype => Or.inr ⟨hr, _, rfl, htype⟩
  cases h with
  | invite | changeRole | updateTitle | updateProfile => exact Or.inl ⟨rfl, _, rfl, nofun⟩
  | accept _ _ _ hchange | decline _ _ _ hchange | leave _ _ _ hchange
  | remove _ _ _ _ _ _ _ _ hchange => exact hpair rfl (hchange ▸ nofun)

/-! ## Carrying them out -/

section

variable {α : Type} {s : Stores} {inp : OperationInputs} {persist : Option GroupError}
  {op : GroupOperation} {state : GroupState}

theorem execute_change {events : List GroupEvent} {result : GroupState → Except GroupError α} :
    (execute s persist (.ok (.change state events result))).stores
        = (s.applyEventsWithRollback state persist events).stores ∧
      (execute s persist (.ok (.change state events result))).persisted
        = (s.applyEventsWithRollback state persist events).persisted := by
  unfold execute
  dsimp only
  split
  · rename_i s' persisted e heq
    rw [heq]
    exact ⟨rfl, rfl⟩
  · rename_i s' persisted next applied heq
    rw [heq]
    exact ⟨rfl, rfl⟩

/-- An operation leaves the stores alone, or hands over the events it issues. -/
def PerformsAs (s : Stores) (inp : OperationInputs) (persist : Option GroupError)
    (op : GroupOperation) (o : Outcome α) : Prop :=
  (o.stores = s ∧ o.persisted = []) ∨
    ∃ state events, s.states[trimSpace op.groupID]? = some state ∧ Issues state inp op events ∧
      o.stores = (s.applyEventsWithRollback state persist events).stores ∧
      o.persisted = (s.applyEventsWithRollback state persist events).persisted

theorem execute_performsAs {plan : Except GroupError (Plan α)}
    (h : ∀ p, plan = .ok p → (∃ r, p = .done r) ∨ ∃ state events result,
      s.states[trimSpace op.groupID]? = some state ∧ Issues state inp op events ∧
        p = .change state events result) :
    PerformsAs s inp persist op (execute s persist plan).forget := by
  cases plan with
  | error e => exact Or.inl ⟨rfl, rfl⟩
  | ok p =>
    rcases h p rfl with ⟨r, rfl⟩ | ⟨state, events, result, hs, hissued, rfl⟩
    · exact Or.inl ⟨rfl, rfl⟩
    · refine Or.inr ⟨state, events, hs, hissued, ?_⟩
      unfold Outcome.forget
      exact execute_change

theorem perform_issues (s : Stores) (inp : OperationInputs) (persist : Option GroupError)
    (op : GroupOperation) : PerformsAs s inp persist op (perform s inp persist op) := by
  cases op
  all_goals refine execute_performsAs fun p hp => ?_
  case invite g a m =>
    obtain ⟨state, actor, hacts, ⟨-, r, rfl⟩ | ⟨-, -, hother, habsent, result, rfl⟩⟩ :=
      planInvite_ok hp
    · exact Or.inl ⟨r, rfl⟩
    · exact Or.inr ⟨state, _, result, hacts.stored, .invite hother habsent, rfl⟩
  case accept g a =>
    have hchecked := planAccept_checked hp
    obtain ⟨state, actor, hacts, ⟨-, r, rfl⟩ | ⟨hinv, r, rfl⟩⟩ := planAccept_ok hp
    · exact Or.inl ⟨r, rfl⟩
    · exact Or.inr ⟨state, _, _, hacts.stored, .accept hchecked hacts.member hinv rfl, rfl⟩
  case decline g a =>
    have hchecked := planDecline_checked hp
    obtain ⟨state, actor, hacts, ⟨-, r, rfl⟩ | ⟨hinv, r, rfl⟩⟩ := planDecline_ok hp
    · exact Or.inl ⟨r, rfl⟩
    · exact Or.inr ⟨state, _, _, hacts.stored, .decline hchecked hacts.member hinv rfl, rfl⟩
  case leave g a =>
    have hchecked := planLeave_checked hp
    obtain ⟨state, actor, hacts, ⟨-, r, rfl⟩ | ⟨hhere, r, rfl⟩⟩ := planLeave_ok hp
    · exact Or.inl ⟨r, rfl⟩
    · exact Or.inr ⟨state, _, _, hacts.stored, .leave hchecked hacts.member hhere rfl, rfl⟩
  case remove g a m =>
    obtain ⟨hchecked, hnamed⟩ := planRemove_checked hp
    obtain ⟨state, actor, target, hacts, htarget,
      ⟨-, r, rfl⟩ | ⟨hactive, hmanage, hnot, hhere, r, rfl⟩⟩ := planRemove_ok hp
    · exact Or.inl ⟨r, rfl⟩
    · exact Or.inr ⟨state, _, _, hacts.stored, .remove hchecked hnamed hacts.member hactive hmanage
        htarget hnot hhere rfl, rfl⟩
  case changeRole g a m role =>
    obtain ⟨state, actor, hacts, ⟨r, rfl⟩ | ⟨-, howner, target, htarget, hnot, result, rfl⟩⟩ :=
      planChangeRole_ok hp
    · exact Or.inl ⟨r, rfl⟩
    · exact Or.inr ⟨state, _, result, hacts.stored,
        .changeRole hacts.member howner htarget hnot, rfl⟩
  case updateTitle g a title =>
    obtain ⟨description, avatar, hprofile⟩ := planUpdateTitle_ok hp
    obtain ⟨state, actor, hacts, ⟨r, rfl⟩ | ⟨-, -, result, rfl⟩⟩ := planUpdateProfile_ok hprofile
    · exact Or.inl ⟨r, rfl⟩
    · have hstored := hacts.stored
      rw [trimSpace_idem] at hstored
      refine Or.inr ⟨state, _, result, hstored, ?_, rfl⟩
      rw [trimSpace_idem, trimSpace_idem]
      exact .updateTitle
  case updateProfile g a title description avatar =>
    obtain ⟨state, actor, hacts, ⟨r, rfl⟩ | ⟨-, -, result, rfl⟩⟩ := planUpdateProfile_ok hp
    · exact Or.inl ⟨r, rfl⟩
    · exact Or.inr ⟨state, _, result, hacts.stored, .updateProfile, rfl⟩

end

end Ardents.Groups
