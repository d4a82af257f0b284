import Ardents.Crypto.Session

/-!
# Groups, members and events

The group domain model: `domain.go`, `event.go` and the errors of `types.go`.

Roles, statuses and event types are strings in the source, and a value decoded from
the wire or from disk can be any string. The ones the source names are constructors;
`other` is everything else, the empty string included.
-/

namespace Ardents.Groups

open Go
open Crypto (Time)

/-- The zero `time.Time`. -/
def zeroTime : Time := 0

inductive GroupMemberRole where
  | owner
  | admin
  | user
  | other (raw : String)
  deriving DecidableEq, Repr

inductive GroupMemberStatus where
  | invited
  | active
  | left
  | removed
  | other (raw : String)
  deriving DecidableEq, Repr

inductive GroupEventType where
  | memberAdd
  | memberRemove
  | memberLeave
  | titleChange
  | profileChange
  | keyRotate
  | other (raw : String)
  deriving DecidableEq, Repr

inductive GroupError where
  | invalidGroupID
  | invalidGroupMemberID
  | invalidGroupMemberRole
  | invalidGroupMemberStatus
  | invalidGroupEventID
  | invalidGroupEventType
  | invalidGroupEventVersion
  | invalidGroupEventActorID
  | invalidGroupEventPayload
  | outOfOrderGroupEvent
  | groupNotFound
  | invalidGroupTitle
  | groupMembershipNotFound
  | groupPermissionDenied
  | groupCannotInviteSelf
  | groupMemberBlocked
  | groupSenderBlocked
  | invalidGroupMemberState
  | groupRateLimitExceeded
  | groupMemberLimitExceeded
  | groupPendingInvitesLimitExceeded
  | noUniqueGroupID
  | invalidPersistencePayload
  /-- An error of a collaborator: the id generator, the replay guard, the disk. -/
  | external (text : String)
  deriving DecidableEq, Repr

structure Group where
  id : String
  title : String
  description : String
  avatar : String
  createdBy : String
  createdAt : Time
  updatedAt : Time
  deriving DecidableEq, Repr

structure GroupMember where
  groupID : String
  memberID : String
  role : GroupMemberRole
  status : GroupMemberStatus
  invitedAt : Time
  activatedAt : Time
  updatedAt : Time
  deriving DecidableEq, Repr

structure GroupEvent where
  id : String
  groupID : String
  version : UInt64
  type : GroupEventType
  actorID : String
  occurredAt : Time
  memberID : String
  role : GroupMemberRole
  title : String
  description : String
  avatar : String
  keyVersion : UInt32
  deriving DecidableEq, Repr

namespace GroupMember

def isOwner (m : GroupMember) : Bool := m.role = .owner

def canManageMembers (m : GroupMember) : Bool := m.role = .owner ∨ m.role = .admin

def canMutateRole (m : GroupMember) : Bool := m.status = .active ∨ m.status = .invited

end GroupMember

namespace GroupMemberRole

def valid : GroupMemberRole → Bool
  | .other _ => false
  | _ => true

def ofString : String → GroupMemberRole
  | "owner" => .owner
  | "admin" => .admin
  | "user" => .user
  | raw => .other raw

end GroupMemberRole

def GroupMemberStatus.valid : GroupMemberStatus → Bool
  | .other _ => false
  | _ => true

def parseGroupMemberRole (raw : String) : Except GroupError GroupMemberRole :=
  let role := GroupMemberRole.ofString (trimSpace raw)
  if role.valid then .ok role else .error .invalidGroupMemberRole

namespace GroupEventType

def valid : GroupEventType → Bool
  | .other _ => false
  | _ => true

def ofString : String → GroupEventType
  | "member_add" => .memberAdd
  | "member_remove" => .memberRemove
  | "member_leave" => .memberLeave
  | "title_change" => .titleChange
  | "profile_change" => .profileChange
  | "key_rotate" => .keyRotate
  | raw => .other raw

end GroupEventType

def parseGroupEventType (raw : String) : Except GroupError GroupEventType :=
  let type := GroupEventType.ofString (trimSpace raw)
  if type.valid then .ok type else .error .invalidGroupEventType

def normalizeNonEmpty (raw : String) (e : GroupError) : Except GroupError String :=
  if trimSpace raw = "" then .error e else .ok (trimSpace raw)

def normalizeGroupID (groupID : String) : Except GroupError String :=
  normalizeNonEmpty groupID .invalidGroupID

def normalizeGroupMemberID (memberID : String) : Except GroupError String :=
  normalizeNonEmpty memberID .invalidGroupMemberID

def normalizeGroupTitle (title : String) : Except GroupError String :=
  normalizeNonEmpty title .invalidGroupTitle

theorem normalizeNonEmpty_ok {raw text : String} {e : GroupError} :
    normalizeNonEmpty raw e = .ok text ↔ trimSpace raw = text ∧ text ≠ "" := by
  grind [normalizeNonEmpty]

def validateGroupMember (member : GroupMember) : Except GroupError Unit :=
  if trimSpace member.groupID = "" then .error .invalidGroupID
  else if trimSpace member.memberID = "" then .error .invalidGroupMemberID
  else if member.role.valid = false then .error .invalidGroupMemberRole
  else if member.status.valid = false then .error .invalidGroupMemberStatus
  else .ok ()

/-! ## Members -/

structure Members where
  map : GoMap String GroupMember
  keyed : ∀ (k : String) (m : GroupMember), map[k]? = some m → m.memberID = k

namespace Members

def empty : Members := ⟨∅, fun k m h => by simp at h⟩

def get (ms : Members) (k : String) : Option GroupMember := ms.map[k]?

/-- `Members[m.MemberID] = m`. -/
def put (ms : Members) (m : GroupMember) : Members where
  map := ms.map.insert m.memberID m
  keyed := by
    intro k n h
    rw [get_insert] at h
    split at h
    · rename_i hk
      rw [← Option.some.inj h]
      exact hk
    · exact ms.keyed k n h

theorem get_memberID {ms : Members} {k : String} {m : GroupMember} (h : ms.get k = some m) :
    m.memberID = k :=
  ms.keyed k m h

theorem get_put (ms : Members) (m : GroupMember) (k : String) :
    (ms.put m).get k = if m.memberID = k then some m else ms.get k :=
  get_insert ms.map m.memberID k m

theorem get_put_ne (ms : Members) {m : GroupMember} {k : String} (h : m.memberID ≠ k) :
    (ms.put m).get k = ms.get k := by
  rw [get_put, if_neg h]

end Members

/-! ## States -/

/-- The fields of `GroupState`, over what stands for its two maps. -/
structure GroupRecord (A M : Type) where
  group : Group
  version : UInt64
  appliedEventIDs : A
  members : M
  lastKeyVersion : UInt32
  deriving DecidableEq

abbrev GroupState : Type := GroupRecord (GoMap String Unit) Members

def newGroupState (group : Group) : GroupState :=
  { group := group, version := 0, appliedEventIDs := ∅, members := Members.empty
    lastKeyVersion := 0 }

/-! ## Applying an event -/

/-- The last switch of `ValidateGroupEvent`: something the event's type needs is missing. -/
def GroupEvent.lacksPayload (event : GroupEvent) : Bool :=
  match event.type with
  | .memberAdd => trimSpace event.memberID = "" ∨ event.role.valid = false
  | .memberRemove => trimSpace event.memberID = ""
  | .memberLeave => trimSpace event.memberID = ""
  | .titleChange => trimSpace event.title = ""
  | .profileChange => trimSpace event.title = ""
  | .keyRotate => event.keyVersion = 0
  | .other _ => false

def validateGroupEvent (event : GroupEvent) : Except GroupError Unit :=
  if trimSpace event.id = "" then .error .invalidGroupEventID
  else if trimSpace event.groupID = "" then .error .invalidGroupID
  else if event.version = 0 then .error .invalidGroupEventVersion
  else if event.type.valid = false then .error .invalidGroupEventType
  else if trimSpace event.actorID = "" then .error .invalidGroupEventActorID
  else if event.occurredAt = zeroTime then .error .invalidGroupEventPayload
  else if event.lacksPayload then .error .invalidGroupEventPayload
  else .ok ()

def newMember (groupID memberID : String) (role : GroupMemberRole) (status : GroupMemberStatus)
    (invitedAt updatedAt : Time) : GroupMember :=
  { groupID := groupID, memberID := memberID, role := role, status := status
    invitedAt := invitedAt, activatedAt := zeroTime, updatedAt := updatedAt }

/-- The `member_add` branch for a member that exists. -/
def readdMember (member : GroupMember) (memberID : String) (event : GroupEvent) : GroupMember :=
  let member := { member with role := event.role, updatedAt := event.occurredAt }
  match member.status with
  | .invited =>
    if trimSpace event.actorID = memberID then
      { member with status := .active, activatedAt := event.occurredAt }
    else member
  | .left => { member with status := .invited, invitedAt := event.occurredAt
                           activatedAt := zeroTime }
  | .removed => { member with status := .invited, invitedAt := event.occurredAt
                              activatedAt := zeroTime }
  | _ => member

def addMember (groupID : String) (members : Members) (event : GroupEvent) : Members :=
  let memberID := trimSpace event.memberID
  match members.get memberID with
  | none => members.put
      (newMember groupID memberID event.role .invited event.occurredAt event.occurredAt)
  | some member => members.put (readdMember member memberID event)

/-- The `member_remove` and `member_leave` branches. -/
def retireMember (status : GroupMemberStatus) (groupID : String) (members : Members)
    (event : GroupEvent) : Members :=
  let memberID := trimSpace event.memberID
  let member := (members.get memberID).getD
    (newMember groupID memberID .user (.other "") zeroTime zeroTime)
  members.put { member with status := status, updatedAt := event.occurredAt }

def changeMembers (groupID : String) (members : Members) (event : GroupEvent) : Members :=
  match event.type with
  | .memberAdd => addMember groupID members event
  | .memberRemove => retireMember .removed groupID members event
  | .memberLeave => retireMember .left groupID members event
  | _ => members

def changeGroup (group : Group) (event : GroupEvent) : Group :=
  match event.type with
  | .titleChange => { group with title := trimSpace event.title, updatedAt := event.occurredAt }
  | .profileChange => { group with
      title := trimSpace event.title, description := trimSpace event.description
      avatar := trimSpace event.avatar, updatedAt := event.occurredAt }
  | .keyRotate => { group with updatedAt := event.occurredAt }
  | _ => group

def changeKeyVersion (lastKeyVersion : UInt32) (event : GroupEvent) : UInt32 :=
  match event.type with
  | .keyRotate => event.keyVersion
  | _ => lastKeyVersion

/-- The checks `ApplyGroupEvent` makes before it looks at the maps. -/
def checkGroupEvent (groupID : String) (event : GroupEvent) : Except GroupError Unit :=
  match validateGroupEvent event with
  | .error e => .error e
  | .ok () =>
    if trimSpace groupID = "" then .error .invalidGroupID
    else if event.groupID ≠ groupID then .error .invalidGroupID
    else .ok ()

namespace GroupRecord

def advance (state : GroupState) (event : GroupEvent) : GroupState :=
  { group := changeGroup state.group event
    version := event.version
    appliedEventIDs := state.appliedEventIDs.insert event.id ()
    members := changeMembers state.group.id state.members event
    lastKeyVersion := changeKeyVersion state.lastKeyVersion event }

end GroupRecord

/-- `ApplyGroupEvent`; an event whose id was applied before changes nothing. -/
def applyGroupEvent (state : GroupState) (event : GroupEvent) :
    Except GroupError (Bool × GroupState) :=
  match checkGroupEvent state.group.id event with
  | .error e => .error e
  | .ok () =>
    if event.id ∈ state.appliedEventIDs then .ok (false, state)
    else if event.version ≠ state.version + 1 then .error .outOfOrderGroupEvent
    else .ok (true, state.advance event)

/-! ## What applying did -/

variable {state state' : GroupState} {event : GroupEvent}

@[simp] theorem changeGroup_id (group : Group) (event : GroupEvent) :
    (changeGroup group event).id = group.id := by
  unfold changeGroup
  split
  · rfl
  · rfl
  · rfl
  · rfl

@[simp] theorem readdMember_role (member : GroupMember) (memberID : String) (event : GroupEvent) :
    (readdMember member memberID event).role = event.role := by
  grind [readdMember]

@[simp] theorem readdMember_memberID (member : GroupMember) (memberID : String)
    (event : GroupEvent) : (readdMember member memberID event).memberID = member.memberID := by
  grind [readdMember]

open Members

section

variable {members : Members} {member : GroupMember} {groupID : String}

theorem addMember_get (h : members.get (trimSpace event.memberID) = some member) :
    (addMember groupID members event).get (trimSpace event.memberID)
      = some (readdMember member (trimSpace event.memberID) event) := by
  unfold addMember
  dsimp only
  rw [h]
  rw [get_put, if_pos]
  rw [readdMember_memberID]
  exact get_memberID h

theorem retireMember_get {status : GroupMemberStatus}
    (h : members.get (trimSpace event.memberID) = some member) :
    (retireMember status groupID members event).get (trimSpace event.memberID)
      = some { member with status := status, updatedAt := event.occurredAt } := by
  unfold retireMember
  dsimp only
  rw [h, get_put]
  exact if_pos (get_memberID h)

def memberAfter (groupID : String) (event : GroupEvent) (old : Option GroupMember) :
    Option GroupMember :=
  let memberID := trimSpace event.memberID
  let retired (status : GroupMemberStatus) : GroupMember :=
    { old.getD (newMember groupID memberID .user (.other "") zeroTime zeroTime) with
      status := status, updatedAt := event.occurredAt }
  match event.type with
  | .memberAdd =>
    match old with
    | none => some (newMember groupID memberID event.role .invited event.occurredAt
        event.occurredAt)
    | some member => some (readdMember member memberID event)
  | .memberRemove => some (retired .removed)
  | .memberLeave => some (retired .left)
  | _ => old

/-- The status of a member, if there is one with that id. -/
def memberStatus (members : Members) (k : String) : Option GroupMemberStatus :=
  (members.get k).map (·.status)

theorem changeMembers_get (groupID : String) (members : Members) (event : GroupEvent) (k : String) :
    (changeMembers groupID members event).get k = if trimSpace event.memberID = k then
      memberAfter groupID event (members.get k) else members.get k := by
  -- whether it was there or not, the member written has the id of the event
  have hadd : (addMember groupID members event).get k = if trimSpace event.memberID = k then
      some (match members.get k with
        | none => newMember groupID (trimSpace event.memberID) event.role .invited event.occurredAt
            event.occurredAt
        | some member => readdMember member (trimSpace event.memberID) event)
      else members.get k := by
    unfold addMember
    dsimp only
    by_cases hk : trimSpace event.memberID = k
    · rw [if_pos hk, hk]
      cases hold : members.get k with
      | none => exact (get_put _ _ _).trans (if_pos rfl)
      | some old =>
        refine (get_put _ _ _).trans (if_pos ?_)
        rw [readdMember_memberID, get_memberID hold]
    · rw [if_neg hk]
      cases hold : members.get (trimSpace event.memberID) with
      | none => exact get_put_ne _ hk
      | some old =>
        refine get_put_ne _ ?_
        rw [readdMember_memberID, get_memberID hold]
        exact hk
  have hretire : ∀ status : GroupMemberStatus, (retireMember status groupID members event).get k =
      if trimSpace event.memberID = k then
        some { (members.get k).getD (newMember groupID (trimSpace event.memberID) .user (.other "")
          zeroTime zeroTime) with status := status, updatedAt := event.occurredAt }
      else members.get k := by
    intro status
    have hid : ((members.get (trimSpace event.memberID)).getD (newMember groupID
        (trimSpace event.memberID) .user (.other "") zeroTime zeroTime)).memberID
          = trimSpace event.memberID := by
      cases hold : members.get (trimSpace event.memberID) with
      | none => rfl
      | some old => exact get_memberID hold
    refine (get_put _ _ _).trans ?_
    by_cases hk : trimSpace event.memberID = k
    · rw [if_pos hk, ← hk]
      exact if_pos hid
    · rw [if_neg hk]
      exact if_neg fun he => hk (hid.symm.trans he)
  unfold changeMembers memberAfter
  cases event.type with
  | memberAdd =>
    dsimp only
    rw [hadd]
    cases members.get k with
    | none => rfl
    | some member => rfl
  | memberRemove => exact hretire .removed
  | memberLeave => exact hretire .left
  | titleChange | profileChange | keyRotate | other => exact (ite_self _).symm

theorem changeMembers_get_ne {k : String} (hk : trimSpace event.memberID ≠ k) :
    (changeMembers groupID members event).get k = members.get k := by
  rw [changeMembers_get, if_neg hk]

end

theorem applyGroupEvent_ok {applied : Bool}
    (h : applyGroupEvent state event = .ok (applied, state')) :
    checkGroupEvent state.group.id event = .ok () ∧
      ((event.id ∈ state.appliedEventIDs ∧ applied = false ∧ state' = state) ∨
        (event.id ∉ state.appliedEventIDs ∧ event.version = state.version + 1 ∧
          applied = true ∧ state' = state.advance event)) := by
  unfold applyGroupEvent at h
  split at h
  · exact absurd h (by simp)
  · rename_i hcheck
    refine ⟨hcheck, ?_⟩
    split at h
    · rename_i hid
      obtain ⟨rfl, rfl⟩ := Prod.mk.inj (Except.ok.inj h)
      exact Or.inl ⟨hid, rfl, rfl⟩
    · rename_i hid
      split at h
      · exact absurd h (by simp)
      · rename_i hv
        obtain ⟨rfl, rfl⟩ := Prod.mk.inj (Except.ok.inj h)
        exact Or.inr ⟨hid, not_not.mp hv, rfl, rfl⟩

theorem validateGroupEvent_ok : validateGroupEvent event = .ok () ↔
    trimSpace event.id ≠ "" ∧ trimSpace event.groupID ≠ "" ∧ event.version ≠ 0 ∧
      event.type.valid = true ∧ trimSpace event.actorID ≠ "" ∧ event.occurredAt ≠ zeroTime ∧
      event.lacksPayload = false := by
  unfold validateGroupEvent
  split_ifs <;> simp_all

theorem applyGroupEvent_applied (hvalid : validateGroupEvent event = .ok ())
    (hgroup : event.groupID = state.group.id) (hid : event.id ∉ state.appliedEventIDs)
    (hv : event.version = state.version + 1) :
    applyGroupEvent state event = .ok (true, state.advance event) := by
  have hne : trimSpace state.group.id ≠ "" := hgroup ▸ (validateGroupEvent_ok.mp hvalid).2.1
  unfold applyGroupEvent checkGroupEvent
  rw [hvalid]
  rw [if_neg hne, if_neg (not_not.mpr hgroup)]
  rw [if_neg hid, if_neg (not_not.mpr hv)]

theorem checkGroupEvent_ok {groupID : String} (h : checkGroupEvent groupID event = .ok ()) :
    validateGroupEvent event = .ok () ∧ event.groupID = groupID := by
  grind [checkGroupEvent]

theorem applyGroupEvent_true (h : applyGroupEvent state event = .ok (true, state')) :
    validateGroupEvent event = .ok () ∧ event.groupID = state.group.id ∧
      event.id ∉ state.appliedEventIDs ∧ event.version = state.version + 1 := by
  obtain ⟨hcheck, ⟨-, hfalse, -⟩ | ⟨hid, hv, -, -⟩⟩ := applyGroupEvent_ok h
  · exact absurd hfalse (by simp)
  · obtain ⟨hvalid, hgroup⟩ := checkGroupEvent_ok hcheck
    exact ⟨hvalid, hgroup, hid, hv⟩

theorem applyGroupEvent_version (h : applyGroupEvent state event = .ok (true, state')) :
    event.version.toNat = state.version.toNat + 1 := by
  obtain ⟨hvalid, -, -, hv⟩ := applyGroupEvent_true h
  have hne := (validateGroupEvent_ok.mp hvalid).2.2.1
  have hlt := state.version.toNat_lt
  rw [hv, ne_eq, ← UInt64.toNat_inj] at hne
  rw [hv]
  simp only [UInt64.toNat_add, UInt64.toNat_one, UInt64.toNat_zero] at hne ⊢
  omega

theorem mem_advance {id : String} :
    id ∈ (state.advance event).appliedEventIDs ↔ id = event.id ∨ id ∈ state.appliedEventIDs := by
  grind [GroupRecord.advance]

end Ardents.Groups
