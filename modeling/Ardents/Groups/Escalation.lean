import Ardents.Go.Run
import Ardents.Groups.Inbound
import Ardents.Groups.Membership

/-!
# Who can raise a role

`AuthorizeInboundGroupEvent` lets only an active owner change the role of a member, with one way
around: a member that is still invited accepts for itself, whatever role its event carries, and
`ApplyGroupEvent` writes that role.
-/

namespace Ardents.Groups

open Go
open Crypto (Time)

/-- `user < admin < owner`; a role the source does not name is above and below none. -/
def GroupMemberRole.outranks : GroupMemberRole → GroupMemberRole → Bool
  | .admin, .user => true
  | .owner, .user => true
  | .owner, .admin => true
  | _, _ => false

theorem GroupMemberRole.ne_of_outranks {r r' : GroupMemberRole} (h : r'.outranks r = true) :
    r ≠ r' := by
  intro heq
  rw [heq] at h
  cases r' with
  | owner | admin | user => exact absurd h (by decide)
  | other raw => exact absurd h (by simp [outranks])

/-! ## Wires, one after the other -/

structure InboundWire where
  wire : InboundGroupEventWire
  now : Time
  inputs : InboundInputs

/-- `handleInboundGroupEvent` of the daemon: decode, then hand over. -/
def receiveWire (d : Decoders) (s : Stores) (x : InboundWire) : Stores :=
  match decodeInboundGroupEvent d x.wire x.now with
  | .error _ => s
  | .ok event => (handleInboundGroupEvent s event x.inputs).1

def Raises (d : Decoders) (s : Stores) (x : InboundWire) (groupID memberID : String) : Prop :=
  ∃ state state' before after, s.states[groupID]? = some state ∧
    (receiveWire d s x).states[groupID]? = some state' ∧
    state.members.get memberID = some before ∧ state'.members.get memberID = some after ∧
    after.role.outranks before.role = true

/-- The wire's event was issued by a member of the group that was an active owner. -/
def IssuedByOwner (d : Decoders) (s : Stores) (x : InboundWire) (groupID : String) : Prop :=
  ∃ event state actor, decodeInboundGroupEvent d x.wire x.now = .ok event ∧
    s.states[groupID]? = some state ∧ state.members.get event.actorID = some actor ∧
    actor.status = .active ∧ actor.role = .owner

def RaisedByOwners (d : Decoders) (s : Stores) (x : InboundWire) : Prop :=
  ∀ groupID memberID, Raises d s x groupID memberID → IssuedByOwner d s x groupID

/-- The wire fits the group, and adds a member that is there in a higher role than its own. -/
structure Promotes (d : Decoders) (s : Stores) (x : InboundWire) (event : GroupEvent)
    (state : GroupState) (member : GroupMember) : Prop where
  decoded : decodeInboundGroupEvent d x.wire x.now = .ok event
  admitted : x.inputs.Admits
  stored : s.states[event.groupID]? = some state
  named : event.groupID = state.group.id
  fresh : event.id ∉ state.appliedEventIDs
  next : event.version = state.version + 1
  add : event.type = .memberAdd
  found : state.members.get event.memberID = some member
  higher : event.role.outranks member.role = true

/-- The member accepts an invitation, in a higher role than it was invited in. -/
def SelfPromotes (d : Decoders) (s : Stores) (x : InboundWire) : Prop :=
  ∃ event state member, Promotes d s x event state member ∧ event.actorID = event.memberID ∧
    member.status = .invited

/-! ## What an event does to roles -/

section

variable {state : GroupState} {event : GroupEvent}

theorem advance_role {memberID : String} {before after : GroupMember}
    (hb : state.members.get memberID = some before)
    (ha : (state.advance event).members.get memberID = some after) :
    after.role = before.role ∨ (event.type = .memberAdd ∧ trimSpace event.memberID = memberID ∧
      after.role = event.role) := by
  by_cases hid : trimSpace event.memberID = memberID
  · subst hid
    have hkept : (state.advance event).members = state.members → after.role = before.role := by
      intro hsame
      rw [hsame, hb] at ha
      rw [Option.some.inj ha]
    unfold GroupRecord.advance at ha hkept
    unfold changeMembers at ha hkept
    cases ht : event.type with
    | memberAdd =>
      simp only [ht, addMember_get hb] at ha
      rw [← Option.some.inj ha]
      exact Or.inr ⟨rfl, rfl, readdMember_role _ _ _⟩
    | memberRemove | memberLeave =>
      simp only [ht, retireMember_get hb] at ha
      rw [← Option.some.inj ha]
      exact Or.inl rfl
    | titleChange | profileChange | keyRotate | other => exact Or.inl (hkept (by simp only [ht]))
  · rw [show (state.advance event).members.get memberID = state.members.get memberID from
      changeMembers_get_ne hid, hb] at ha
    exact Or.inl (congrArg GroupMember.role (Option.some.inj ha).symm)

theorem authorize_add_role {target : GroupMember} (ht : event.type = .memberAdd)
    (hauth : authorizeInboundGroupEvent state event = .ok ())
    (htarget : state.members.get event.memberID = some target) (hrole : target.role ≠ event.role) :
    (target.status = .invited ∧ event.actorID = event.memberID) ∨
      ∃ actor, state.members.get event.actorID = some actor ∧ actor.status = .active ∧
        actor.role = .owner := by
  obtain ⟨actor, hactor⟩ := authorize_member hauth
  by_cases hself : target.status = .invited ∧ event.actorID = event.memberID
  · exact Or.inl hself
  · refine Or.inr ⟨actor, hactor, ?_⟩
    unfold authorizeInboundGroupEvent at hauth
    simp only [ht, hactor, htarget, Option.any_some, decide_eq_true_eq] at hauth
    rw [if_neg hself] at hauth
    split at hauth
    · exact absurd hauth (by simp)
    · rename_i hactive
      split at hauth
      · exact absurd hauth (by simp)
      · rename_i howner
        exact ⟨not_not.mp hactive, not_not.mp howner⟩

end

/-! ## One wire -/

open GroupMemberRole

section

variable {d : Decoders} {s : Stores} {x : InboundWire}

theorem not_raises {groupID memberID : String}
    (h : (receiveWire d s x).states[groupID]? = s.states[groupID]?) :
    ¬ Raises d s x groupID memberID := by
  rintro ⟨state, state', before, after, hs, hs', hb, ha, hhigh⟩
  rw [h, hs] at hs'
  rw [← Option.some.inj hs', hb] at ha
  exact ne_of_outranks hhigh (congrArg GroupMember.role (Option.some.inj ha))

theorem receiveWire_ok {event : GroupEvent}
    (hdec : decodeInboundGroupEvent d x.wire x.now = .ok event) :
    receiveWire d s x = (handleInboundGroupEvent s event x.inputs).1 := by
  unfold receiveWire
  rw [hdec]

theorem receiveWire_applied {event : GroupEvent} {state : GroupState}
    (hdec : decodeInboundGroupEvent d x.wire x.now = .ok event) (hin : x.inputs.Admits)
    (hstored : s.states[event.groupID]? = some state)
    (hauth : authorizeInboundGroupEvent state event = .ok ())
    (happ : applyGroupEvent state event = .ok (true, state.advance event)) (g : String) :
    (receiveWire d s x).states[g]?
      = if event.groupID = g then some (state.advance event) else s.states[g]? := by
  have hid : (state.advance event).group.id = event.groupID := by
    rw [(applyGroupEvent_true happ).2.1]
    exact changeGroup_id state.group event
  rw [receiveWire_ok hdec, handleInboundGroupEvent_applied hin hstored hauth happ]
  unfold Stores.commit
  rw [get_insert, hid]

theorem promotes_of_raises {groupID memberID : String} (h : Raises d s x groupID memberID) :
    ∃ event state member, Promotes d s x event state member ∧
      authorizeInboundGroupEvent state event = .ok () ∧ event.groupID = groupID := by
  cases hdec : decodeInboundGroupEvent d x.wire x.now with
  | error e => exact absurd h (not_raises (by simp [receiveWire, hdec]))
  | ok event =>
    rcases handleInboundGroupEvent_cases s event x.inputs with
      ⟨state, hin, hstored, hauth, happ⟩ | hsame
    · have hget := receiveWire_applied hdec hin hstored hauth happ
      by_cases hg : event.groupID = groupID
      · subst hg
        obtain ⟨state₀, state', before, after, hs, hs', hb, ha, hhigh⟩ := h
        rw [hstored] at hs
        obtain rfl := Option.some.inj hs
        rw [hget, if_pos rfl] at hs'
        obtain rfl := Option.some.inj hs'
        rcases advance_role hb ha with hkept | ⟨hadd, hid, hrole⟩
        · exact absurd hkept.symm (ne_of_outranks hhigh)
        · obtain ⟨-, hnamed, hfresh, hnext⟩ := applyGroupEvent_true happ
          rw [(decodeInboundGroupEvent_ok hdec).2] at hid
          rw [hrole] at hhigh
          rw [← hid] at hb
          exact ⟨event, state, before, ⟨hdec, hin, hstored, hnamed, hfresh, hnext, hadd, hb,
            hhigh⟩, hauth, rfl⟩
      · exact absurd h (not_raises (by rw [hget, if_neg hg]))
    · exact absurd h (not_raises (by rw [receiveWire_ok hdec, hsame groupID]))

theorem Promotes.raises {event : GroupEvent} {state : GroupState} {member : GroupMember}
    (h : Promotes d s x event state member)
    (hauth : authorizeInboundGroupEvent state event = .ok ()) :
    Raises d s x event.groupID event.memberID := by
  obtain ⟨hvalid, htrim⟩ := decodeInboundGroupEvent_ok h.decoded
  have happ := applyGroupEvent_applied hvalid h.named h.fresh h.next
  have hafter : (state.advance event).members.get (trimSpace event.memberID)
      = some (readdMember member (trimSpace event.memberID) event) := by
    unfold GroupRecord.advance changeMembers
    rw [h.add]
    exact addMember_get (by rw [htrim, h.found])
  rw [htrim] at hafter
  refine ⟨state, state.advance event, member, _, h.stored, ?_, h.found, hafter, ?_⟩
  · rw [receiveWire_applied h.decoded h.admitted h.stored hauth happ, if_pos rfl]
  · rw [readdMember_role]
    exact h.higher

theorem raisedByOwners_iff : RaisedByOwners d s x ↔ ¬ SelfPromotes d s x := by
  constructor
  · rintro howners ⟨event, state, member, hp, hself, hinv⟩
    have hauth : authorizeInboundGroupEvent state event = .ok () :=
      authorize_self_add hp.add hself (by rw [hself, hp.found]) hinv
    obtain ⟨event', state', actor, hdec, hstored, hactor, hactive, -⟩ :=
      howners _ _ (hp.raises hauth)
    -- the sender is the invited member itself
    rw [hp.decoded] at hdec
    obtain rfl := Except.ok.inj hdec
    rw [hp.stored] at hstored
    obtain rfl := Option.some.inj hstored
    rw [hself, hp.found] at hactor
    rw [← Option.some.inj hactor, hinv] at hactive
    exact absurd hactive (by simp)
  · intro hno groupID memberID hraise
    obtain ⟨event, state, member, hp, hauth, rfl⟩ := promotes_of_raises hraise
    rcases authorize_add_role hp.add hauth hp.found
      (ne_of_outranks hp.higher) with ⟨hinv, hself⟩ | ⟨actor, hactor, hact, howner⟩
    · exact absurd ⟨event, state, member, hp, hself, hinv⟩ hno
    · exact ⟨event, state, actor, hp.decoded, hp.stored, hactor, hact, howner⟩

/--
**Escalation.** Over every sequence of wires, whatever role is raised is raised by an
active owner exactly when no invited member accepts in a higher role than its own.
-/
theorem roles_raised_by_owners_iff (d : Decoders) (s : Stores) (xs : List InboundWire) :
    Along (receiveWire d) (RaisedByOwners d) s xs ↔
      Along (receiveWire d) (fun s x => ¬ SelfPromotes d s x) s xs :=
  along_congr (fun _ _ => raisedByOwners_iff) s xs

end

/-! ## An invitee that makes itself the owner -/

/-- The JSON of an acceptance by Bob in the given role. -/
def roleJSON (role : String) : Bytes :=
  bytesOf ("\x7b\"member_id\":\"bob\",\"role\":\"" ++ role ++ "\"\x7d")

/-- Decoders that read these texts for the three roles, and nothing else. -/
def readsRoles : Decoders :=
  { unmarshal := fun payload =>
      match ["owner", "admin", "user"].find? (roleJSON · = payload) with
      | some role => .ok { emptyPayload with memberID := "bob", role := role }
      | none => .error (.external "invalid character")
    parseTime := fun _ => none }

def bobAccepts : InboundWire :=
  { wire := { eventID := "e3", conversationID := "g1", membershipVersion := 3
              eventType := "member_add", plain := roleJSON "owner", senderID := "bob"
              recipientID := "alice" }
    now := 3
    inputs := { senderDeviceID := "", hasDevice := false, deviceID := "", blocked := false
                guardReplay := none, identityID := some "alice", persist := none } }

def bobAcceptsAsOwner : GroupEvent :=
  { id := "e3", groupID := "g1", version := 3, type := .memberAdd, actorID := "bob"
    occurredAt := 3, memberID := "bob", role := .owner, title := "", description := ""
    avatar := "", keyVersion := 0 }

def bobInvited : GroupMember :=
  { groupID := "g1", memberID := "bob", role := .user, status := .invited, invitedAt := 2
    activatedAt := zeroTime, updatedAt := 2 }

/-- Bob, invited as a user, accepts as an owner; no owner had a hand in it. -/
theorem invitee_becomes_owner :
    (aliceInvitedBob.states["g1"]?).bind (·.members.get "bob") = some bobInvited ∧
      (((receiveWire readsRoles aliceInvitedBob bobAccepts).states["g1"]?).bind
        (·.members.get "bob")).map (fun bob => (bob.role, bob.status)) = some (.owner, .active) ∧
      ¬ Along (receiveWire readsRoles) (RaisedByOwners readsRoles) aliceInvitedBob
        [bobAccepts] := by
  have hbob : (aliceInvitedBob.states["g1"]?).bind (·.members.get "bob") = some bobInvited := by
    decide
  refine ⟨hbob, by decide, fun h => ?_⟩
  obtain ⟨state, hs, hget⟩ := Option.bind_eq_some_iff.mp hbob
  have hstate : (aliceInvitedBob.states["g1"]?).map
      (fun S => (S.group.id, S.version, decide ("e3" ∈ S.appliedEventIDs)))
        = some ("g1", 2, false) := by decide
  rw [hs] at hstate
  obtain ⟨hid, hv, hnew⟩ : state.group.id = "g1" ∧ state.version = 2 ∧
      decide ("e3" ∈ state.appliedEventIDs) = false := by simpa using hstate
  exact raisedByOwners_iff.mp h.1 ⟨bobAcceptsAsOwner, state, bobInvited,
    ⟨by decide, ⟨rfl, by simp [bobAccepts], rfl, by simp [bobAccepts], rfl⟩, hs, hid.symm,
      of_decide_eq_false hnew, by rw [hv]; decide, rfl, hget, rfl⟩, rfl, rfl⟩

end Ardents.Groups
