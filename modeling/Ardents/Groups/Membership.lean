import Ardents.Go.Checks
import Ardents.Groups.StateMutation

/-!
# The membership service

`membership_service.go`. An operation checks its arguments and the actor's rights, may find that
there is nothing to do, and otherwise hands events to `ApplyEventsWithRollback`. The first part
only reads the stores; it is a `Plan`. The second is the same for every operation, `execute`.
-/

namespace Ardents.Groups

open Go
open Crypto (Time)

structure AbuseProtection where
  allowInvite : Bool
  allowMembership : Bool
  maxMembers : Nat
  maxPendingInvites : Nat

structure OperationInputs where
  now : Time
  /-- `isBlockedSender` for the member at hand. -/
  blocked : Bool
  abuse : Option AbuseProtection
  eventID : String
  /-- The id generated for the rotation that follows. -/
  rotateID : String

/-- The active and invited members, and the invited ones, against their limits. -/
def enforceInviteQuotas (abuse : Option AbuseProtection) (state : GroupState) :
    Except GroupError Unit :=
  match abuse with
  | none => .ok ()
  | some p =>
    let members := state.members.map.toList.map Prod.snd
    let memberCount := members.countP fun m => m.status = .active ∨ m.status = .invited
    let pendingInvites := members.countP fun m => m.status = .invited
    if memberCount ≥ p.maxMembers then .error .groupMemberLimitExceeded
    else if pendingInvites ≥ p.maxPendingInvites then .error .groupPendingInvitesLimitExceeded
    else .ok ()

/-- `state.Members[memberID]`, the zero member where there is none. -/
def memberAt (state : GroupState) (memberID : String) : GroupMember :=
  (state.members.get memberID).getD (newMember "" "" (.other "") (.other "") zeroTime zeroTime)

/-! ## Events -/

/-- The next event of a group, about a member; the role is empty where the source sets none. -/
def memberEvent (state : GroupState) (type : GroupEventType) (id groupID actorID memberID : String)
    (role : GroupMemberRole) (now : Time) : GroupEvent :=
  { id := id, groupID := groupID, version := state.version + 1, type := type, actorID := actorID
    occurredAt := now, memberID := memberID, role := role, title := "", description := ""
    avatar := "", keyVersion := 0 }

def profileEvent (state : GroupState) (id groupID actorID title description avatar : String)
    (now : Time) : GroupEvent :=
  { id := id, groupID := groupID, version := state.version + 1, type := .profileChange
    actorID := actorID, occurredAt := now, memberID := "", role := .other "", title := title
    description := description, avatar := avatar, keyVersion := 0 }

/-- The rotation that `applyMembershipChangeWithKeyRotation` appends to a change. -/
def rotationFor (state : GroupState) (change : GroupEvent) (rotateID : String) : GroupEvent :=
  { id := rotateID, groupID := change.groupID, version := change.version + 1, type := .keyRotate
    actorID := change.actorID, occurredAt := change.occurredAt, memberID := ""
    role := .other "", title := "", description := "", avatar := ""
    keyVersion := if state.lastKeyVersion = 0 then 1 else state.lastKeyVersion + 1 }

/-! ## Plans -/

inductive Plan (α : Type) where
  | done (result : α)
  | change (state : GroupState) (events : List GroupEvent)
      (result : GroupState → Except GroupError α)

def changeWithKeyRotation {α : Type} (state : GroupState) (change : GroupEvent)
    (rotateID : String) (result : α) : Plan α :=
  .change state [change, rotationFor state change rotateID] fun _ => .ok result

/-- What the operations on another member return: the member as it is now, and the event. -/
def memberResult (memberID : String) (event : GroupEvent) (next : GroupState) :
    Except GroupError (GroupMember × Option GroupEvent) :=
  match next.members.get memberID with
  | none => .error .groupMembershipNotFound
  | some member => .ok (member, some event)

section

variable (states : GoMap String GroupState) (inp : OperationInputs)

def checkMembershipRate : Except GroupError Unit :=
  require (inp.abuse.all (·.allowMembership) = true) .groupRateLimitExceeded

def planInvite (groupID actorID memberID : String) :
    Except GroupError (Plan (GroupMember × Option GroupEvent)) := do
  let groupID ← normalizeGroupID groupID
  let actorID ← normalizeGroupMemberID actorID
  let memberID ← normalizeGroupMemberID memberID
  require (memberID ≠ actorID) .groupCannotInviteSelf
  require (inp.blocked = false) .groupMemberBlocked
  require (inp.abuse.all (·.allowInvite) = true) .groupRateLimitExceeded
  let state ← loadStateForActor states groupID actorID true
  require ((memberAt state actorID).canManageMembers = true) .groupPermissionDenied
  -- the zero member, where there is none, is neither
  let existing := memberAt state memberID
  if existing.status = .invited ∨ existing.status = .active then
    return .done (existing, none)
  else do
    enforceInviteQuotas inp.abuse state
    let event := memberEvent state .memberAdd inp.eventID groupID actorID memberID .user inp.now
    return .change state [event] (memberResult memberID event)

def planLeave (groupID actorID : String) : Except GroupError (Plan (Bool × Option GroupEvent)) := do
  let groupID ← normalizeGroupID groupID
  let actorID ← normalizeGroupMemberID actorID
  checkMembershipRate inp
  match states[groupID]? with
  | none => .error .groupNotFound
  | some state =>
    match state.members.get actorID with
    | none => .error .groupMembershipNotFound
    | some member =>
      if member.status = .left ∨ member.status = .removed then return .done (true, none)
      else
        let event := memberEvent state .memberLeave inp.eventID groupID actorID actorID
          (.other "") inp.now
        return changeWithKeyRotation state event inp.rotateID (true, some event)

def planUpdateProfile (groupID actorID title description avatar : String) :
    Except GroupError (Plan (Group × Option GroupEvent)) := do
  let groupID ← normalizeGroupID groupID
  let actorID ← normalizeGroupMemberID actorID
  let title ← normalizeGroupTitle title
  let description := trimSpace description
  let avatar := trimSpace avatar
  checkMembershipRate inp
  let state ← loadStateForActor states groupID actorID true
  require ((memberAt state actorID).canManageMembers = true) .groupPermissionDenied
  if state.group.title = title ∧ state.group.description = description
      ∧ state.group.avatar = avatar then
    return .done (state.group, none)
  else
    let event := profileEvent state inp.eventID groupID actorID title description avatar inp.now
    return .change state [event] fun next => .ok (next.group, some event)

/-- `UpdateGroupTitle`: a profile update that keeps the rest, rate limited once. -/
def planUpdateTitle (groupID actorID title : String) :
    Except GroupError (Plan (Group × Option GroupEvent)) := do
  let groupID ← normalizeGroupID groupID
  let actorID ← normalizeGroupMemberID actorID
  checkMembershipRate inp
  let state ← loadStateForActor states groupID actorID true
  planUpdateProfile states { inp with abuse := none } groupID actorID title
    state.group.description state.group.avatar

/-- `loadActorMembershipState`: the normalised ids, the state and the actor's membership. -/
def loadActorMembershipState (groupID actorID : String) :
    Except GroupError (String × String × GroupState × Option GroupMember) := do
  let groupID ← normalizeGroupID groupID
  let actorID ← normalizeGroupMemberID actorID
  checkMembershipRate inp
  let state ← loadStateForActor states groupID actorID false
  return (groupID, actorID, state, state.members.get actorID)

def planAccept (groupID actorID : String) :
    Except GroupError (Plan (Bool × Option GroupEvent)) := do
  let (groupID, actorID, state, member) ← loadActorMembershipState states inp groupID actorID
  match member with
  | none => .error .groupMembershipNotFound
  | some member =>
    if member.status = .active then return .done (true, none)
    else if member.status ≠ .invited then .error .invalidGroupMemberState
    else
      let event := memberEvent state .memberAdd inp.eventID groupID actorID actorID member.role
        inp.now
      return changeWithKeyRotation state event inp.rotateID (true, some event)

def planDecline (groupID actorID : String) :
    Except GroupError (Plan (Bool × Option GroupEvent)) := do
  let (groupID, actorID, state, member) ← loadActorMembershipState states inp groupID actorID
  match member with
  | none => return .done (true, none)
  | some member =>
    if member.status = .removed then return .done (true, none)
    else if member.status ≠ .invited then .error .invalidGroupMemberState
    else
      let event := memberEvent state .memberRemove inp.eventID groupID actorID actorID
        (.other "") inp.now
      return changeWithKeyRotation state event inp.rotateID (true, some event)

def planRemove (groupID actorID memberID : String) :
    Except GroupError (Plan (Bool × Option GroupEvent)) := do
  let groupID ← normalizeGroupID groupID
  let actorID ← normalizeGroupMemberID actorID
  let memberID ← normalizeGroupMemberID memberID
  checkMembershipRate inp
  let state ← loadStateForActor states groupID actorID true
  require ((memberAt state actorID).canManageMembers = true) .groupPermissionDenied
  match state.members.get memberID with
  | none => .error .groupMembershipNotFound
  | some target =>
    if target.isOwner then .error .groupPermissionDenied
    else if target.status = .removed then return .done (true, none)
    else
      let event := memberEvent state .memberRemove inp.eventID groupID actorID memberID
        (.other "") inp.now
      return changeWithKeyRotation state event inp.rotateID (true, some event)

def planChangeRole (groupID actorID memberID : String) (role : GroupMemberRole) :
    Except GroupError (Plan (GroupMember × Option GroupEvent)) := do
  let groupID ← normalizeGroupID groupID
  let actorID ← normalizeGroupMemberID actorID
  let memberID ← normalizeGroupMemberID memberID
  checkMembershipRate inp
  let state ← loadStateForActor states groupID actorID true
  require ((memberAt state actorID).isOwner = true) .groupPermissionDenied
  match state.members.get memberID with
  | none => .error .groupMembershipNotFound
  | some target =>
    if target.isOwner then .error .groupPermissionDenied
    else if target.canMutateRole = false then .error .invalidGroupMemberState
    else if target.role = role then return .done (target, none)
    else
      let event := memberEvent state .memberAdd inp.eventID groupID actorID memberID role inp.now
      return .change state [event] (memberResult memberID event)

end

/-! ## What a plan changes -/

section

variable {states : GoMap String GroupState} {inp : OperationInputs}
  {groupID actorID memberID : String}

variable {state : GroupState}

theorem memberAt_of_get {m : GroupMember}
    (h : state.members.get memberID = some m) : memberAt state memberID = m := by
  unfold memberAt
  rw [h]
  rfl

/-- An actor found by its normalised id, in the group with the normalised id. -/
structure Acts (states : GoMap String GroupState) (groupID actorID : String) (state : GroupState)
    (actor : GroupMember) : Prop where
  stored : states[trimSpace groupID]? = some state
  member : state.members.get (trimSpace actorID) = some actor

theorem Acts.memberAt {actor : GroupMember} (h : Acts states groupID actorID state actor) :
    Groups.memberAt state (trimSpace actorID) = actor :=
  memberAt_of_get h.member

theorem acts_of_load {g a : String} {req : Bool}
    (hg : normalizeGroupID groupID = .ok g) (ha : normalizeGroupMemberID actorID = .ok a)
    (h : loadStateForActor states g a req = .ok state) :
    g = trimSpace groupID ∧ a = trimSpace actorID ∧ ∃ actor,
      Acts states groupID actorID state actor ∧ (req = true → actor.status = .active) := by
  obtain ⟨rfl, -⟩ := normalizeNonEmpty_ok.mp hg
  obtain ⟨rfl, -⟩ := normalizeNonEmpty_ok.mp ha
  obtain ⟨hstored, actor, hget, hact⟩ := loadStateForActor_ok (trimSpace_idem actorID) h
  exact ⟨rfl, rfl, actor, ⟨hstored, hget⟩, hact⟩

theorem planInvite_ok {p : Plan (GroupMember × Option GroupEvent)}
    (h : planInvite states inp groupID actorID memberID = .ok p) :
    ∃ state actor, Acts states groupID actorID state actor ∧
      (((∃ target, state.members.get (trimSpace memberID) = some target ∧
          (target.status = .invited ∨ target.status = .active)) ∧ ∃ r, p = .done r) ∨
      (actor.status = .active ∧ actor.canManageMembers = true ∧
        trimSpace memberID ≠ trimSpace actorID ∧
        (∀ target, state.members.get (trimSpace memberID) = some target →
          ¬ (target.status = .invited ∨ target.status = .active)) ∧
        ∃ result, p = .change state [memberEvent state .memberAdd inp.eventID (trimSpace groupID)
          (trimSpace actorID) (trimSpace memberID) .user inp.now] result)) := by
  unfold planInvite at h
  simp only [bind_ok, require_ok] at h
  obtain ⟨g, hg, a, ha, m, hm, -, hne, -, -, -, -, state, hload, -, hmanage, h⟩ := h
  obtain ⟨rfl, -⟩ := normalizeNonEmpty_ok.mp hm
  obtain ⟨rfl, rfl, actor, hacts, hactive⟩ := acts_of_load hg ha hload
  rw [hacts.memberAt] at hmanage
  refine ⟨state, actor, hacts, ?_⟩
  split at h
  · rename_i hpresent
    cases htarget : state.members.get (trimSpace memberID) with
    | none =>
      -- the zero member has neither status
      grind [memberAt, newMember]
    | some target =>
      rw [memberAt_of_get htarget] at hpresent
      exact Or.inl ⟨⟨target, rfl, hpresent⟩, _, (pure_ok.mp h).symm⟩
  · rename_i habsent
    obtain ⟨-, -, h⟩ := bind_ok.mp h
    refine Or.inr ⟨hactive rfl, hmanage, hne, fun target htarget => ?_, _, (pure_ok.mp h).symm⟩
    rw [memberAt_of_get htarget] at habsent
    exact habsent

variable {p : Plan (Bool × Option GroupEvent)}

theorem planLeave_ok (h : planLeave states inp groupID actorID = .ok p) :
    ∃ state actor, Acts states groupID actorID state actor ∧
      (((actor.status = .left ∨ actor.status = .removed) ∧ ∃ r, p = .done r) ∨
      (¬ (actor.status = .left ∨ actor.status = .removed) ∧
        ∃ r, p = changeWithKeyRotation state (memberEvent state .memberLeave inp.eventID
          (trimSpace groupID) (trimSpace actorID) (trimSpace actorID) (.other "") inp.now)
          inp.rotateID r)) := by
  unfold planLeave at h
  simp only [bind_ok] at h
  obtain ⟨g, hg, a, ha, -, -, h⟩ := h
  obtain ⟨rfl, -⟩ := normalizeNonEmpty_ok.mp hg
  obtain ⟨rfl, -⟩ := normalizeNonEmpty_ok.mp ha
  split at h
  · exact absurd h (by simp)
  · rename_i state hstate
    split at h
    · exact absurd h (by simp)
    · rename_i member hmember
      refine ⟨state, member, ⟨hstate, hmember⟩, ?_⟩
      split at h
      · rename_i hgone
        exact Or.inl ⟨hgone, _, (pure_ok.mp h).symm⟩
      · rename_i hhere
        exact Or.inr ⟨hhere, _, (pure_ok.mp h).symm⟩

theorem planUpdateProfile_ok {title description avatar : String}
    {p : Plan (Group × Option GroupEvent)}
    (h : planUpdateProfile states inp groupID actorID title description avatar = .ok p) :
    ∃ state actor, Acts states groupID actorID state actor ∧ ((∃ r, p = .done r) ∨
      (actor.status = .active ∧ actor.canManageMembers = true ∧
        ∃ result, p = .change state [profileEvent state inp.eventID (trimSpace groupID)
          (trimSpace actorID) (trimSpace title) (trimSpace description) (trimSpace avatar)
          inp.now] result)) := by
  unfold planUpdateProfile at h
  simp only [bind_ok, require_ok] at h
  obtain ⟨g, hg, a, ha, t, ht, -, -, state, hload, -, hmanage, h⟩ := h
  obtain ⟨rfl, -⟩ := normalizeNonEmpty_ok.mp ht
  obtain ⟨rfl, rfl, actor, hacts, hactive⟩ := acts_of_load hg ha hload
  rw [hacts.memberAt] at hmanage
  refine ⟨state, actor, hacts, ?_⟩
  split at h
  · exact Or.inl ⟨_, (pure_ok.mp h).symm⟩
  · exact Or.inr ⟨hactive rfl, hmanage, _, (pure_ok.mp h).symm⟩

theorem loadActorMembershipState_ok {g a : String} {member : Option GroupMember}
    (h : loadActorMembershipState states inp groupID actorID = .ok (g, a, state, member)) :
    g = trimSpace groupID ∧ a = trimSpace actorID ∧ ∃ actor, member = some actor ∧
      Acts states groupID actorID state actor := by
  unfold loadActorMembershipState at h
  simp only [bind_ok, pure_ok, Prod.mk.injEq] at h
  obtain ⟨g', hg, a', ha, -, -, state', hload, rfl, rfl, rfl, rfl⟩ := h
  obtain ⟨rfl, rfl, actor, hacts, -⟩ := acts_of_load hg ha hload
  exact ⟨rfl, rfl, actor, hacts.member, hacts⟩

theorem planAccept_ok (h : planAccept states inp groupID actorID = .ok p) :
    ∃ state actor, Acts states groupID actorID state actor ∧
      ((actor.status = .active ∧ ∃ r, p = .done r) ∨
      (actor.status = .invited ∧ ∃ r, p = changeWithKeyRotation state
        (memberEvent state .memberAdd inp.eventID (trimSpace groupID) (trimSpace actorID)
          (trimSpace actorID) actor.role inp.now) inp.rotateID r)) := by
  unfold planAccept at h
  simp only [bind_ok] at h
  obtain ⟨⟨g, a, state, member⟩, hload, h⟩ := h
  obtain ⟨rfl, rfl, actor, rfl, hacts⟩ := loadActorMembershipState_ok hload
  refine ⟨state, actor, hacts, ?_⟩
  dsimp only at h
  split at h
  · rename_i hdone
    exact Or.inl ⟨hdone, _, (pure_ok.mp h).symm⟩
  · split at h
    · exact absurd h (by simp)
    · rename_i hinv
      exact Or.inr ⟨not_not.mp hinv, _, (pure_ok.mp h).symm⟩

theorem planDecline_ok (h : planDecline states inp groupID actorID = .ok p) :
    ∃ state actor, Acts states groupID actorID state actor ∧
      ((actor.status = .removed ∧ ∃ r, p = .done r) ∨
      (actor.status = .invited ∧ ∃ r, p = changeWithKeyRotation state
        (memberEvent state .memberRemove inp.eventID (trimSpace groupID) (trimSpace actorID)
          (trimSpace actorID) (.other "") inp.now) inp.rotateID r)) := by
  unfold planDecline at h
  simp only [bind_ok] at h
  obtain ⟨⟨g, a, state, member⟩, hload, h⟩ := h
  obtain ⟨rfl, rfl, actor, rfl, hacts⟩ := loadActorMembershipState_ok hload
  refine ⟨state, actor, hacts, ?_⟩
  dsimp only at h
  split at h
  · rename_i hdone
    exact Or.inl ⟨hdone, _, (pure_ok.mp h).symm⟩
  · split at h
    · exact absurd h (by simp)
    · rename_i hinv
      exact Or.inr ⟨not_not.mp hinv, _, (pure_ok.mp h).symm⟩

theorem planRemove_ok (h : planRemove states inp groupID actorID memberID = .ok p) :
    ∃ state actor target, Acts states groupID actorID state actor ∧
      state.members.get (trimSpace memberID) = some target ∧
      ((target.status = .removed ∧ ∃ r, p = .done r) ∨
      (actor.status = .active ∧ actor.canManageMembers = true ∧ target.role ≠ .owner ∧
        target.status ≠ .removed ∧
        ∃ r, p = changeWithKeyRotation state (memberEvent state .memberRemove inp.eventID
          (trimSpace groupID) (trimSpace actorID) (trimSpace memberID) (.other "") inp.now)
          inp.rotateID r)) := by
  unfold planRemove at h
  simp only [bind_ok, require_ok] at h
  obtain ⟨g, hg, a, ha, m, hm, -, -, state, hload, -, hmanage, h⟩ := h
  obtain ⟨rfl, -⟩ := normalizeNonEmpty_ok.mp hm
  obtain ⟨rfl, rfl, actor, hacts, hactive⟩ := acts_of_load hg ha hload
  rw [hacts.memberAt] at hmanage
  split at h
  · exact absurd h (by simp)
  · rename_i target htarget
    refine ⟨state, actor, target, hacts, htarget, ?_⟩
    split at h
    · exact absurd h (by simp)
    · rename_i howner
      split at h
      · rename_i hgone
        exact Or.inl ⟨hgone, _, (pure_ok.mp h).symm⟩
      · rename_i hhere
        exact Or.inr ⟨hactive rfl, hmanage, fun hr => howner (by simp [GroupMember.isOwner, hr]),
          hhere, _, (pure_ok.mp h).symm⟩

theorem planChangeRole_ok {role : GroupMemberRole} {p : Plan (GroupMember × Option GroupEvent)}
    (h : planChangeRole states inp groupID actorID memberID role = .ok p) :
    ∃ state actor, Acts states groupID actorID state actor ∧ ((∃ r, p = .done r) ∨
      (actor.status = .active ∧ actor.role = .owner ∧
        ∃ target, state.members.get (trimSpace memberID) = some target ∧ target.role ≠ .owner ∧
        ∃ result, p = .change state [memberEvent state .memberAdd inp.eventID (trimSpace groupID)
          (trimSpace actorID) (trimSpace memberID) role inp.now] result)) := by
  unfold planChangeRole at h
  simp only [bind_ok, require_ok] at h
  obtain ⟨g, hg, a, ha, m, hm, -, -, state, hload, -, howner, h⟩ := h
  obtain ⟨rfl, -⟩ := normalizeNonEmpty_ok.mp hm
  obtain ⟨rfl, rfl, actor, hacts, hactive⟩ := acts_of_load hg ha hload
  rw [hacts.memberAt] at howner
  refine ⟨state, actor, hacts, ?_⟩
  split at h
  · exact absurd h (by simp)
  · rename_i target htarget
    split at h
    · exact absurd h (by simp)
    · rename_i hnot
      split at h
      · exact absurd h (by simp)
      · split at h
        · exact Or.inl ⟨_, (pure_ok.mp h).symm⟩
        · exact Or.inr ⟨hactive rfl, of_decide_eq_true howner, target, htarget,
            fun hr => hnot (by simp [GroupMember.isOwner, hr]), _, (pure_ok.mp h).symm⟩

theorem planUpdateTitle_ok {title : String} {p : Plan (Group × Option GroupEvent)}
    (h : planUpdateTitle states inp groupID actorID title = .ok p) :
    ∃ description avatar, planUpdateProfile states { inp with abuse := none } (trimSpace groupID)
      (trimSpace actorID) title description avatar = .ok p := by
  unfold planUpdateTitle at h
  simp only [bind_ok] at h
  obtain ⟨g, hg, a, ha, -, -, state, -, h⟩ := h
  obtain ⟨rfl, -⟩ := normalizeNonEmpty_ok.mp hg
  obtain ⟨rfl, -⟩ := normalizeNonEmpty_ok.mp ha
  exact ⟨_, _, h⟩

end

/-! ## Carrying a plan out -/

structure Outcome (α : Type) where
  stores : Stores
  /-- What `persist` was called with, call by call. -/
  persisted : List Stores
  /-- The events applied, in the order they are notified. -/
  notified : List GroupEvent
  result : Except GroupError α

/-- `applyEvents` and what the operations return around it. -/
def execute {α : Type} (s : Stores) (persist : Option GroupError)
    (plan : Except GroupError (Plan α)) : Outcome α :=
  match plan with
  | .error e => ⟨s, [], [], .error e⟩
  | .ok (.done result) => ⟨s, [], [], .ok result⟩
  | .ok (.change state events result) =>
    match s.applyEventsWithRollback state persist events with
    | ⟨s', persisted, .error e⟩ => ⟨s', persisted, [], .error e⟩
    | ⟨s', persisted, .ok (next, applied)⟩ => ⟨s', persisted, applied, result next⟩

section

variable (s : Stores) (inp : OperationInputs) (persist : Option GroupError)

def inviteToGroup (groupID actorID memberID : String) : Outcome (GroupMember × Option GroupEvent) :=
  execute s persist (planInvite s.states inp groupID actorID memberID)

def leaveGroup (groupID actorID : String) : Outcome (Bool × Option GroupEvent) :=
  execute s persist (planLeave s.states inp groupID actorID)

def updateGroupTitle (groupID actorID title : String) : Outcome (Group × Option GroupEvent) :=
  execute s persist (planUpdateTitle s.states inp groupID actorID title)

def updateGroupProfile (groupID actorID title description avatar : String) :
    Outcome (Group × Option GroupEvent) :=
  execute s persist (planUpdateProfile s.states inp groupID actorID title description avatar)

def acceptGroupInvite (groupID actorID : String) : Outcome (Bool × Option GroupEvent) :=
  execute s persist (planAccept s.states inp groupID actorID)

def declineGroupInvite (groupID actorID : String) : Outcome (Bool × Option GroupEvent) :=
  execute s persist (planDecline s.states inp groupID actorID)

def removeGroupMember (groupID actorID memberID : String) : Outcome (Bool × Option GroupEvent) :=
  execute s persist (planRemove s.states inp groupID actorID memberID)

def changeGroupMemberRole (groupID actorID memberID : String) (role : GroupMemberRole) :
    Outcome (GroupMember × Option GroupEvent) :=
  execute s persist (planChangeRole s.states inp groupID actorID memberID role)

end

/-! ## The operations -/

inductive GroupOperation where
  | invite (groupID actorID memberID : String)
  | accept (groupID actorID : String)
  | decline (groupID actorID : String)
  | leave (groupID actorID : String)
  | remove (groupID actorID memberID : String)
  | changeRole (groupID actorID memberID : String) (role : GroupMemberRole)
  | updateTitle (groupID actorID title : String)
  | updateProfile (groupID actorID title description avatar : String)

def GroupOperation.groupID : GroupOperation → String
  | .invite g _ _ => g
  | .accept g _ => g
  | .decline g _ => g
  | .leave g _ => g
  | .remove g _ _ => g
  | .changeRole g _ _ _ => g
  | .updateTitle g _ _ => g
  | .updateProfile g _ _ _ _ => g

def Outcome.forget {α : Type} (o : Outcome α) : Outcome Unit :=
  { o with result := o.result.map fun _ => () }

def perform (s : Stores) (inp : OperationInputs) (persist : Option GroupError) :
    GroupOperation → Outcome Unit
  | .invite g a m => (inviteToGroup s inp persist g a m).forget
  | .accept g a => (acceptGroupInvite s inp persist g a).forget
  | .decline g a => (declineGroupInvite s inp persist g a).forget
  | .leave g a => (leaveGroup s inp persist g a).forget
  | .remove g a m => (removeGroupMember s inp persist g a m).forget
  | .changeRole g a m role => (changeGroupMemberRole s inp persist g a m role).forget
  | .updateTitle g a title => (updateGroupTitle s inp persist g a title).forget
  | .updateProfile g a title description avatar =>
    (updateGroupProfile s inp persist g a title description avatar).forget

/-! ## Creating and deleting groups -/

/-- The rounds of `CreateGroup`: the first generated id that names no group. -/
def allocateGroupID (states : GoMap String GroupState) :
    List (Option String) → Except GroupError String
  | [] => .error .noUniqueGroupID
  | none :: _ => .error (.external "random source unavailable")
  | some candidate :: rest =>
    if candidate ∈ states then allocateGroupID states rest
    else if candidate = "" then .error .noUniqueGroupID
    else .ok candidate

/-- The state of a group just created: its creator is an active owner, the key is at version 1. -/
def foundGroup (state : GroupState) (identityID : String) (now : Time) : GroupState :=
  { state with
    group := { state.group with updatedAt := now }
    members := state.members.put { memberAt state identityID with
      status := .active, activatedAt := now, updatedAt := now }
    lastKeyVersion := 1 }

/-- `CreateGroup`; `groupIDs` and `eventID` are what the generator returns. -/
def createGroup (s : Stores) (title identityID : String) (now : Time)
    (groupIDs : List (Option String)) (eventID : Option String) (persist : Option GroupError) :
    Outcome (Group × GroupEvent) :=
  let founded : Except GroupError (GroupState × GroupEvent × String) := do
    let title ← normalizeGroupTitle title
    let identityID ← normalizeGroupMemberID identityID
    let groupID ← allocateGroupID s.states (groupIDs.take 3)
    let eventID ← match eventID with
      | none => .error (.external "random source unavailable")
      | some eventID => .ok eventID
    let group : Group := { id := groupID, title := title, description := "", avatar := ""
                           createdBy := identityID, createdAt := now, updatedAt := now }
    let state := newGroupState group
    let event := memberEvent state .memberAdd eventID groupID identityID identityID .owner now
    let (_, state) ← applyGroupEvent state event
    return (foundGroup state identityID now, event, groupID)
  match founded with
  | .error e => ⟨s, [], [], .error e⟩
  | .ok (state, event, groupID) =>
    let next : Stores := ⟨s.states.insert groupID state, s.eventLog.insert groupID [event]⟩
    match persist with
    | none => ⟨next, [next], [event], .ok (state.group, event)⟩
    | some e => ⟨⟨s.states.erase groupID, s.eventLog.erase groupID⟩, [next], [], .error e⟩

def deleteGroup (s : Stores) (groupID actorID : String) (inp : OperationInputs)
    (persist : Option GroupError) : Outcome Bool :=
  let checked : Except GroupError String := do
    let groupID ← normalizeGroupID groupID
    let actorID ← normalizeGroupMemberID actorID
    checkMembershipRate inp
    let state ← loadStateForActor s.states groupID actorID true
    require ((memberAt state actorID).isOwner = true) .groupPermissionDenied
    return groupID
  match checked with
  | .error e => ⟨s, [], [], .error e⟩
  | .ok groupID =>
    let next : Stores := ⟨s.states.erase groupID, s.eventLog.erase groupID⟩
    match persist with
    | none => ⟨next, [next], [], .ok true⟩
    | some e => ⟨s, [next], [], .error e⟩

/-! ## A group of two -/

def inputsAt (now : Time) (eventID rotateID : String) : OperationInputs :=
  { now := now, blocked := false, abuse := none, eventID := eventID, rotateID := rotateID }

def aliceInvitedBob : Stores :=
  (inviteToGroup (createGroup Stores.empty "Friends" "alice" 1 [some "g1"] (some "e1") none).stores
    (inputsAt 2 "e2" "r2") none "g1" "alice" "bob").stores

end Ardents.Groups
