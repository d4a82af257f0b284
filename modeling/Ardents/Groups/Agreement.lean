import Ardents.Groups.Inbound
import Ardents.Groups.Membership

/-!
# Local and remote rules

The membership service checks an operation by one set of rules and peers check the events it
applies by another. For every operation that succeeds, when does a peer in the same state accept
its events one after the other?
-/

namespace Ardents.Groups

open Go
open Crypto (Time)

/-! ## A peer -/

def receive (state : GroupState) (event : GroupEvent) : Except GroupError GroupState :=
  match authorizeInboundGroupEvent state event with
  | .error e => .error e
  | .ok () =>
    match applyGroupEvent state event with
    | .error e => .error e
    | .ok (_, state') => .ok state'

def receiveAll (state : GroupState) : List GroupEvent → Except GroupError GroupState
  | [] => .ok state
  | event :: rest =>
    match receive state event with
    | .error e => .error e
    | .ok state' => receiveAll state' rest

/-! ## When the rules agree -/

def roleOf (state : GroupState) (memberID : String) : Option GroupMemberRole :=
  (state.members.get (trimSpace memberID)).map (·.role)

def statusOf (state : GroupState) (memberID : String) : Option GroupMemberStatus :=
  (state.members.get (trimSpace memberID)).map (·.status)

/-- The id generated for the rotation is new, so that the rotation is not skipped. -/
def RotationIsNew (state : GroupState) (inp : OperationInputs) : Prop :=
  inp.rotateID ≠ inp.eventID ∧ inp.rotateID ∉ state.appliedEventIDs

/-- When peers accept what an operation applies to `state`. -/
def RulesAgree (state : GroupState) (inp : OperationInputs) : GroupOperation → Prop
  | .invite _ actorID memberID =>
    inp.eventID ∈ state.appliedEventIDs ∨
      statusOf state memberID = some .invited ∨ statusOf state memberID = some .active ∨
      roleOf state memberID = none ∨ roleOf state memberID = some .user ∨
      (roleOf state actorID = some .owner ∧ roleOf state memberID ≠ some .owner)
  | .accept _ actorID =>
    inp.eventID ∈ state.appliedEventIDs ∨ statusOf state actorID ≠ some .invited ∨
      ¬ RotationIsNew state inp ∨ roleOf state actorID = some .owner
  | .decline _ actorID =>
    inp.eventID ∈ state.appliedEventIDs ∨ statusOf state actorID ≠ some .invited
  | .leave _ actorID =>
    inp.eventID ∈ state.appliedEventIDs ∨ statusOf state actorID = some .left ∨
      statusOf state actorID = some .removed ∨ ¬ RotationIsNew state inp
  | .remove _ actorID memberID =>
    inp.eventID ∈ state.appliedEventIDs ∨ statusOf state memberID = some .removed ∨
      roleOf state actorID = some .owner ∨
      (¬ RotationIsNew state inp ∧ roleOf state memberID ≠ some .admin)
  | .changeRole _ _ _ _ => True
  | .updateTitle _ _ _ => True
  | .updateProfile _ _ _ _ _ => True

/-! ## What was applied -/

section

variable {state : GroupState} {event change rotate : GroupEvent}

theorem applyAll_two (hc : change.version = state.version + 1)
    (hr : rotate.version = change.version + 1)
    (hrej : (applyAll state [change, rotate]).rejected = none) :
    let r := applyAll state [change, rotate]
    (change.id ∈ state.appliedEventIDs ∧ r.events = [] ∧ r.state = state) ∨
      (change.id ∉ state.appliedEventIDs ∧
        applyGroupEvent state change = .ok (true, state.advance change) ∧
        ((rotate.id ∈ (state.advance change).appliedEventIDs ∧ r.events = [change] ∧
            r.state = state.advance change) ∨
          (rotate.id ∉ (state.advance change).appliedEventIDs ∧ r.events = [change, rotate] ∧
            r.state = (state.advance change).advance rotate ∧
            applyGroupEvent (state.advance change) rotate
              = .ok (true, (state.advance change).advance rotate)))) := by
  rcases applyAll_cons state change [rotate] with ⟨e, -, heq⟩ | ⟨happ, heq⟩ | ⟨happ, heq⟩
  · simp_all
  · rcases (applyGroupEvent_ok happ).2 with ⟨hid, -, -⟩ | ⟨-, -, htrue, -⟩
    · rw [heq] at hrej ⊢
      rcases applyAll_one hrej with ⟨-, hnone⟩ | ⟨-, -, -, happ'⟩
      · exact Or.inl ⟨hid, hnone⟩
      · -- the change is a duplicate, so the rotation is two versions ahead
        obtain ⟨-, -, -, hv⟩ := applyGroupEvent_true happ'
        simp_all
    · exact absurd htrue (by simp)
  · simp_all [applyGroupEvent_true, applyAll_one]

theorem receiveAll_one (hrej : (applyAll state [event]).rejected = none) :
    receiveAll state (applyAll state [event]).events = .ok (applyAll state [event]).state ↔
      event.id ∈ state.appliedEventIDs ∨ authorizeInboundGroupEvent state event = .ok () := by
  grind [applyAll_one, receiveAll, receive]

theorem receiveAll_two (hc : change.version = state.version + 1)
    (hr : rotate.version = change.version + 1)
    (hrej : (applyAll state [change, rotate]).rejected = none) :
    let r := applyAll state [change, rotate]
    receiveAll state r.events = .ok r.state ↔ change.id ∈ state.appliedEventIDs ∨
      (authorizeInboundGroupEvent state change = .ok () ∧
        (rotate.id ∈ (state.advance change).appliedEventIDs ∨
          authorizeInboundGroupEvent (state.advance change) rotate = .ok ())) := by
  intro r
  rcases applyAll_two hc hr hrej with
    ⟨hid, hev, hst⟩ | ⟨hid, happ, ⟨hrid, hev, hst⟩ | ⟨hrid, hev, hst, happ'⟩⟩
  · grind [receiveAll]
  · rw [show r.events = [change] from hev, show r.state = _ from hst]
    cases hauth : authorizeInboundGroupEvent state change with
    | error e => simp [receiveAll, receive, hauth, hid]
    | ok u => simp [receiveAll, receive, hauth, happ, hrid]
  · rw [show r.events = [change, rotate] from hev, show r.state = _ from hst]
    cases hauth : authorizeInboundGroupEvent state change with
    | error e => simp [receiveAll, receive, hauth, hid]
    | ok u =>
      cases hauth' : authorizeInboundGroupEvent (state.advance change) rotate with
      | error e => simp [receiveAll, receive, hauth, happ, hauth', hid, hrid]
      | ok u' => simp [receiveAll, receive, hauth, happ, hauth', happ']

end

section

variable {α : Type} {s : Stores} {persist : Option GroupError} {state : GroupState}
  {events : List GroupEvent} {result : GroupState → Except GroupError α} {g : String}

theorem execute_change_ok {r : α} (hstored : s.states[g]? = some state)
    (hne : events ≠ []) (hg : ∀ e ∈ events, e.groupID = g)
    (hok : (execute s persist (.ok (.change state events result))).result = .ok r) :
    (applyAll state events).rejected = none ∧
      (execute s persist (.ok (.change state events result))).notified
        = (applyAll state events).events ∧
      (execute s persist (.ok (.change state events result))).stores.states[g]?
        = some (applyAll state events).state := by
  unfold execute at hok ⊢
  dsimp only at hok ⊢
  split at hok
  · exact absurd hok (by simp)
  · rename_i s' persisted next applied happ
    obtain ⟨hrej, -, rfl, hend⟩ := Stores.applyEventsWithRollback_ok hne (congrArg (·.result) happ)
    rw [happ] at hend
    refine ⟨hrej, rfl, ?_⟩
    rcases hend with ⟨hnone, rfl⟩ | ⟨-, -, rfl⟩
    · rw [applyAll_nothing hnone]
      exact hstored
    · obtain ⟨event, rest, rfl⟩ := List.exists_cons_of_ne_nil hne
      have hid : (applyAll state (event :: rest)).state.group.id = g :=
        applyAll_group_id.trans
          ((applyAll_head_groupID hrej).symm.trans (hg event List.mem_cons_self))
      unfold Stores.commit
      dsimp only
      rw [get_insert, if_pos hid]

end

/-! ## The actor after its own change -/

section

variable {state : GroupState} {actor : GroupMember} {id g a m : String}
  {role : GroupMemberRole} {now : Time}

theorem advance_accept (ha : trimSpace a = a) (hactor : state.members.get a = some actor)
    (hinv : actor.status = .invited) :
    ∃ after, (state.advance (memberEvent state .memberAdd id g a a role now)).members.get a
      = some after ∧ after.status = .active ∧ after.role = role := by
  have hget : (state.advance (memberEvent state .memberAdd id g a a role now)).members.get
      (trimSpace a) = some (readdMember actor (trimSpace a) _) :=
    addMember_get (show state.members.get (trimSpace a) = some actor by rw [ha, hactor])
  rw [ha] at hget
  refine ⟨_, hget, ?_, readdMember_role _ _ _⟩
  simp [readdMember, hinv, memberEvent, ha]

theorem advance_leave (ha : trimSpace a = a) (hactor : state.members.get a = some actor) :
    ∃ after, (state.advance (memberEvent state .memberLeave id g a a role now)).members.get a
      = some after ∧ after.status = .left := by
  have hget : (state.advance (memberEvent state .memberLeave id g a a role now)).members.get
      (trimSpace a) = some { actor with status := .left, updatedAt := now } :=
    retireMember_get (show state.members.get (trimSpace a) = some actor by rw [ha, hactor])
  rw [ha] at hget
  exact ⟨_, hget, rfl⟩

theorem advance_remove (hm : trimSpace m = m) (hne : a ≠ m) :
    (state.advance (memberEvent state .memberRemove id g a m role now)).members.get a
      = state.members.get a :=
  changeMembers_get_ne fun he => hne ((show trimSpace m = a from he).symm.trans hm)

end

/-! ## Operation by operation -/

/-- The group is there before and after, and a peer ends in the same state exactly under `C`. -/
def Follows {α : Type} (s : Stores) (o : Outcome α) (g : String) (C : GroupState → Prop) : Prop :=
  ∃ state state', s.states[g]? = some state ∧ o.stores.states[g]? = some state' ∧
    (receiveAll state o.notified = .ok state' ↔ C state)

section

variable {α : Type} {s : Stores} {persist : Option GroupError} {state : GroupState} {g : String}
  {C : GroupState → Prop} {A B : Prop} {r : α}

theorem follows_done (hstored : s.states[g]? = some state) (hC : C state) :
    Follows s (execute s persist (.ok (.done r))) g C :=
  ⟨state, state, hstored, hstored, fun _ => hC, fun _ => rfl⟩

theorem follows_one {event : GroupEvent} {result : GroupState → Except GroupError α}
    (hstored : s.states[g]? = some state) (hg : event.groupID = g)
    (hok : (execute s persist (.ok (.change state [event] result))).result = .ok r)
    (hA : authorizeInboundGroupEvent state event = .ok () ↔ A)
    (hC : C state ↔ event.id ∈ state.appliedEventIDs ∨ A) :
    Follows s (execute s persist (.ok (.change state [event] result))) g C := by
  obtain ⟨hrej, hnot, hst⟩ := execute_change_ok hstored (by simp) (by simpa using hg) hok
  refine ⟨state, _, hstored, hst, ?_⟩
  rw [hnot, receiveAll_one hrej, hA, hC]

theorem follows_two {change : GroupEvent} {inp : OperationInputs} {r' : α}
    (hstored : s.states[g]? = some state) (hg : change.groupID = g)
    (hv : change.version = state.version + 1) (hid : change.id = inp.eventID)
    (hok : (execute s persist (.ok (changeWithKeyRotation state change inp.rotateID r))).result
      = .ok r') (hA : authorizeInboundGroupEvent state change = .ok () ↔ A)
    (hB : authorizeInboundGroupEvent (state.advance change)
      (rotationFor state change inp.rotateID) = .ok () ↔ B)
    (hC : C state ↔ inp.eventID ∈ state.appliedEventIDs ∨ (A ∧ (¬ RotationIsNew state inp ∨ B))) :
    Follows s (execute s persist (.ok (changeWithKeyRotation state change inp.rotateID r))) g
      C := by
  unfold changeWithKeyRotation at hok ⊢
  obtain ⟨hrej, hnot, hst⟩ := execute_change_ok hstored (by simp)
    (by simpa [rotationFor] using hg) hok
  have hrecv := receiveAll_two hv rfl hrej
  -- once the change is applied, its own id is used too
  have hnew : (rotationFor state change inp.rotateID).id ∈ (state.advance change).appliedEventIDs ↔
      ¬ RotationIsNew state inp := by
    unfold RotationIsNew rotationFor
    rw [mem_advance, hid]
    simp only [not_and_or, not_not, ne_eq]
  rw [hA, hB, hnew, hid] at hrecv
  refine ⟨state, _, hstored, hst, ?_⟩
  rw [hnot, hC]
  exact hrecv

theorem execute_ok {plan : Except GroupError (Plan α)}
    (hok : (execute s persist plan).result = .ok r) : ∃ p, plan = .ok p := by
  cases plan with
  | error e => exact absurd hok (by simp [execute])
  | ok p => exact ⟨p, rfl⟩

theorem Outcome.forget_ok {o : Outcome α} (h : o.forget.result = .ok ()) :
    ∃ r, o.result = .ok r := by
  unfold Outcome.forget at h
  cases hr : o.result with
  | error e =>
    rw [hr] at h
    exact absurd h (by simp [Except.map])
  | ok r => exact ⟨r, rfl⟩

end

theorem Follows.forget {α : Type} {s : Stores} {o : Outcome α} {g : String}
    {C : GroupState → Prop} (h : Follows s o g C) : Follows s o.forget g C :=
  h

open Outcome

section

variable {s : Stores} {inp : OperationInputs} {persist : Option GroupError}
  {groupID actorID memberID : String}

theorem roleOf_actor {states : GoMap String GroupState} {state : GroupState} {actor : GroupMember}
    (h : Acts states groupID actorID state actor) : roleOf state actorID = some actor.role := by
  simp [roleOf, h.member]

theorem statusOf_actor {states : GoMap String GroupState} {state : GroupState}
    {actor : GroupMember} (h : Acts states groupID actorID state actor) :
    statusOf state actorID = some actor.status := by
  simp [statusOf, h.member]

theorem inviteToGroup_follows {r : GroupMember × Option GroupEvent}
    (hok : (inviteToGroup s inp persist groupID actorID memberID).result = .ok r) :
    Follows s (inviteToGroup s inp persist groupID actorID memberID) (trimSpace groupID)
      fun state => RulesAgree state inp (.invite groupID actorID memberID) := by
  unfold inviteToGroup at hok ⊢
  obtain ⟨p, hplan⟩ := execute_ok hok
  rw [hplan] at hok ⊢
  obtain ⟨state, actor, hacts, ⟨⟨target, htarget, hhere⟩, r, rfl⟩ |
    ⟨hactive, hmanage, hne, habsent, result, rfl⟩⟩ := planInvite_ok hplan
  · refine follows_done hacts.stored (Or.inr ?_)
    grind [statusOf]
  · refine follows_one hacts.stored rfl hok
      (authorize_add_iff rfl hacts.member hactive (Ne.symm hne)) (or_congr_right ?_)
    rw [roleOf_actor hacts]
    unfold roleOf statusOf memberEvent
    cases htarget : state.members.get (trimSpace memberID) with
    | none => simpa using of_decide_eq_true hmanage
    | some target =>
      simp_all

variable {r : Bool × Option GroupEvent}

theorem acceptGroupInvite_follows
    (hok : (acceptGroupInvite s inp persist groupID actorID).result = .ok r) :
    Follows s (acceptGroupInvite s inp persist groupID actorID) (trimSpace groupID)
      fun state => RulesAgree state inp (.accept groupID actorID) := by
  unfold acceptGroupInvite at hok ⊢
  obtain ⟨p, hplan⟩ := execute_ok hok
  rw [hplan] at hok ⊢
  obtain ⟨state, actor, hacts, ⟨hactive, r, rfl⟩ | ⟨hinv, r, rfl⟩⟩ := planAccept_ok hplan
  · refine follows_done hacts.stored (Or.inr (Or.inl ?_))
    rw [statusOf_actor hacts, hactive]
    simp
  · -- the invitee is active by the time it rotates the key, in the role it was invited in
    obtain ⟨after, hget, hactive, hrole⟩ := advance_accept (trimSpace_idem actorID) hacts.member
      hinv
    refine follows_two hacts.stored rfl rfl rfl hok
      (iff_true_intro (authorize_self_add rfl rfl hacts.member hinv))
      (authorize_rotate_iff rfl hget) ?_
    simp [RulesAgree, roleOf_actor hacts, statusOf_actor hacts, hinv, hactive, hrole]

theorem declineGroupInvite_follows
    (hok : (declineGroupInvite s inp persist groupID actorID).result = .ok r) :
    Follows s (declineGroupInvite s inp persist groupID actorID) (trimSpace groupID)
      fun state => RulesAgree state inp (.decline groupID actorID) := by
  unfold declineGroupInvite at hok ⊢
  obtain ⟨p, hplan⟩ := execute_ok hok
  rw [hplan] at hok ⊢
  obtain ⟨state, actor, hacts, ⟨hgone, r, rfl⟩ | ⟨hinv, r, rfl⟩⟩ := planDecline_ok hplan
  · refine follows_done hacts.stored (Or.inr ?_)
    rw [statusOf_actor hacts, hgone]
    simp
  · -- peers take a removal from active members only, and the actor is invited
    have hdenied : ¬ authorizeInboundGroupEvent state (memberEvent state .memberRemove inp.eventID
        (trimSpace groupID) (trimSpace actorID) (trimSpace actorID) (.other "") inp.now)
          = .ok () := by
      unfold authorizeInboundGroupEvent memberEvent
      simp [hacts.member, hinv]
    refine follows_two hacts.stored rfl rfl rfl hok (iff_false_intro hdenied) Iff.rfl ?_
    simp [RulesAgree, statusOf_actor hacts, hinv]

theorem leaveGroup_follows (hok : (leaveGroup s inp persist groupID actorID).result = .ok r) :
    Follows s (leaveGroup s inp persist groupID actorID) (trimSpace groupID)
      fun state => RulesAgree state inp (.leave groupID actorID) := by
  unfold leaveGroup at hok ⊢
  obtain ⟨p, hplan⟩ := execute_ok hok
  rw [hplan] at hok ⊢
  obtain ⟨state, actor, hacts, ⟨hgone, r, rfl⟩ | ⟨hhere, r, rfl⟩⟩ := planLeave_ok hplan
  · refine follows_done hacts.stored (Or.inr ?_)
    grind [statusOf_actor]
  · -- whoever has left may not rotate the key
    obtain ⟨after, hget, hleft⟩ := advance_leave (trimSpace_idem actorID) hacts.member
    refine follows_two hacts.stored rfl rfl rfl hok
      (iff_true_intro (authorize_leave rfl rfl hacts.member)) (authorize_rotate_iff rfl hget) ?_
    grind [RulesAgree, statusOf_actor]

theorem removeGroupMember_follows
    (hok : (removeGroupMember s inp persist groupID actorID memberID).result = .ok r) :
    Follows s (removeGroupMember s inp persist groupID actorID memberID) (trimSpace groupID)
      fun state => RulesAgree state inp (.remove groupID actorID memberID) := by
  unfold removeGroupMember at hok ⊢
  obtain ⟨p, hplan⟩ := execute_ok hok
  rw [hplan] at hok ⊢
  obtain ⟨state, actor, target, hacts, htarget, hcase⟩ := planRemove_ok hplan
  have hrole : roleOf state memberID = some target.role := by simp [roleOf, htarget]
  have hstatus : statusOf state memberID = some target.status := by simp [statusOf, htarget]
  rcases hcase with ⟨hgone, r, rfl⟩ | ⟨hactive, hmanage, hnot, hhere, r, rfl⟩
  · refine follows_done hacts.stored (Or.inr (Or.inl ?_))
    rw [hstatus, hgone]
  by_cases hself : trimSpace actorID = trimSpace memberID
  · -- an admin that removes itself is an admin that removes an admin
    have hsame : target = actor := by
      grind [cases Acts]
    have hadmin : target.role = .admin := by
      rw [hsame] at hnot ⊢
      exact (of_decide_eq_true hmanage).resolve_left hnot
    refine follows_two hacts.stored rfl rfl rfl hok
      (authorize_remove_iff rfl hacts.member htarget hmanage hnot) Iff.rfl ?_
    simp [RulesAgree, roleOf_actor hacts, hrole, hstatus, hhere, ← hsame, hadmin]
  · refine follows_two hacts.stored rfl rfl rfl hok
      (authorize_remove_iff rfl hacts.member htarget hmanage hnot)
      (authorize_rotate_iff rfl
        ((advance_remove (trimSpace_idem memberID) hself).trans hacts.member)) ?_
    grind [RulesAgree, roleOf_actor]

theorem changeGroupMemberRole_follows {role : GroupMemberRole} {r : GroupMember × Option GroupEvent}
    (hok : (changeGroupMemberRole s inp persist groupID actorID memberID role).result = .ok r) :
    Follows s (changeGroupMemberRole s inp persist groupID actorID memberID role)
      (trimSpace groupID)
      fun state => RulesAgree state inp (.changeRole groupID actorID memberID role) := by
  unfold changeGroupMemberRole at hok ⊢
  obtain ⟨p, hplan⟩ := execute_ok hok
  rw [hplan] at hok ⊢
  obtain ⟨state, actor, hacts, ⟨r, rfl⟩ | ⟨hactive, howner, target, htarget, hnot, result, rfl⟩⟩ :=
    planChangeRole_ok hplan
  · exact follows_done hacts.stored trivial
  · have hne : trimSpace actorID ≠ trimSpace memberID := by
      grind [cases Acts]
    refine follows_one hacts.stored rfl hok (authorize_add_iff rfl hacts.member hactive hne) ?_
    simp [RulesAgree, memberEvent, htarget, howner, hnot]

theorem profile_follows {plan : Except GroupError (Plan (Group × Option GroupEvent))}
    {title description avatar : String} {r : Group × Option GroupEvent}
    (hplan : planUpdateProfile s.states inp groupID actorID title description avatar = plan)
    (hok : (execute s persist plan).result = .ok r) :
    Follows s (execute s persist plan) (trimSpace groupID) fun _ => True := by
  obtain ⟨p, rfl⟩ := execute_ok hok
  obtain ⟨state, actor, hacts, ⟨r, rfl⟩ | ⟨hactive, hmanage, result, rfl⟩⟩ :=
    planUpdateProfile_ok hplan
  · exact follows_done hacts.stored trivial
  · exact follows_one hacts.stored rfl hok
      (iff_true_intro (authorize_profile rfl hacts.member hactive hmanage)) (by simp)

/-- For every operation that succeeds, a peer in the same state that receives the events one
after the other ends in the same state exactly when the two sets of rules agree on it. -/
theorem peers_agree_iff {op : GroupOperation} (hok : (perform s inp persist op).result = .ok ()) :
    ∃ state state', s.states[trimSpace op.groupID]? = some state ∧
      (perform s inp persist op).stores.states[trimSpace op.groupID]? = some state' ∧
      (receiveAll state (perform s inp persist op).notified = .ok state' ↔
        RulesAgree state inp op) := by
  suffices h : Follows s (perform s inp persist op) (trimSpace op.groupID)
      (fun state => RulesAgree state inp op) from h
  cases op with
  | invite g a m =>
    obtain ⟨r, hr⟩ := forget_ok hok
    exact (inviteToGroup_follows hr).forget
  | accept g a =>
    obtain ⟨r, hr⟩ := forget_ok hok
    exact (acceptGroupInvite_follows hr).forget
  | decline g a =>
    obtain ⟨r, hr⟩ := forget_ok hok
    exact (declineGroupInvite_follows hr).forget
  | leave g a =>
    obtain ⟨r, hr⟩ := forget_ok hok
    exact (leaveGroup_follows hr).forget
  | remove g a m =>
    obtain ⟨r, hr⟩ := forget_ok hok
    exact (removeGroupMember_follows hr).forget
  | changeRole g a m role =>
    obtain ⟨r, hr⟩ := forget_ok hok
    exact (changeGroupMemberRole_follows hr).forget
  | updateTitle g a title =>
    obtain ⟨r, hr⟩ := forget_ok hok
    obtain ⟨p, hplan⟩ := execute_ok hr
    obtain ⟨description, avatar, hprofile⟩ := planUpdateTitle_ok hplan
    have h := profile_follows (hprofile.trans hplan.symm) hr
    rw [trimSpace_idem] at h
    exact h.forget
  | updateProfile g a title description avatar =>
    obtain ⟨r, hr⟩ := forget_ok hok
    exact (profile_follows rfl hr).forget

end

/-! ## An owner that leaves, an owner that removes -/

/-- Alice leaves. A peer takes the leave and refuses the rotation that comes with it. -/
theorem owner_leave_refused :
    let o := perform aliceInvitedBob (inputsAt 3 "e3" "r3") none (.leave "g1" "alice")
    o.result = .ok () ∧ o.notified.map (·.type) = [.memberLeave, .keyRotate] ∧
      ∃ state, aliceInvitedBob.states["g1"]? = some state ∧
        receiveAll state o.notified = .error .groupPermissionDenied := by
  intro o
  have hverdict : (aliceInvitedBob.states["g1"]?).map
      (fun state => (receiveAll state o.notified).map fun _ => ())
        = some (.error .groupPermissionDenied) := by decide
  obtain ⟨state, hs, hrefused⟩ := Option.map_eq_some_iff.mp hverdict
  refine ⟨by decide, by decide, state, hs, ?_⟩
  cases hr : receiveAll state o.notified with
  | error e =>
    rw [hr] at hrefused
    exact congrArg Except.error (Except.error.inj hrefused)
  | ok state' =>
    rw [hr] at hrefused
    exact absurd hrefused (by simp [Except.map])

/-- Alice removes Bob, and peers follow. -/
theorem owner_removal_followed :
    let o := perform aliceInvitedBob (inputsAt 3 "e3" "r3") none (.remove "g1" "alice" "bob")
    o.notified.map (·.type) = [.memberRemove, .keyRotate] ∧
      ∃ state state', aliceInvitedBob.states[trimSpace "g1"]? = some state ∧
        o.stores.states[trimSpace "g1"]? = some state' ∧
        receiveAll state o.notified = .ok state' := by
  intro o
  obtain ⟨state, state', hs, hs', hiff⟩ := @peers_agree_iff aliceInvitedBob
    (inputsAt 3 "e3" "r3") none (.remove "g1" "alice" "bob") (by decide)
  have howner : (aliceInvitedBob.states[trimSpace "g1"]?).bind (roleOf · "alice")
      = some .owner := by decide
  rw [show aliceInvitedBob.states[trimSpace "g1"]? = some state from hs] at howner
  exact ⟨by decide, state, state', hs, hs', hiff.mpr (Or.inr (Or.inr (Or.inl howner)))⟩

end Ardents.Groups
