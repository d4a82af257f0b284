import Ardents.Groups.Inbound

/-!
# Invitations to groups that are not known yet

For the first event of a group that adds the local identity, `EnsureInboundEventState` makes a
state that the event is to be applied to. In between stands `AuthorizeInboundGroupEvent`, which
asks whether the actor is a member. A state just made has no members, so the answer is always no.
-/

namespace Ardents.Groups

open Go

/-- An event invites the local identity to a group that is not stored, and nothing stands in its
way: the replay guard lets it pass, and the disk takes what is written. -/
structure Invites (s : Stores) (event : GroupEvent) (inp : InboundInputs)
    (identityID : String) : Prop where
  add : event.type = .memberAdd
  first : event.version = 1
  named : event.memberID = trimSpace identityID
  unknown : s.states[event.groupID]? = none
  other : event.actorID ≠ trimSpace identityID
  identity : inp.identityID = some identityID
  admitted : inp.Admits

def TakesEffect (s : Stores) (groupID identityID : String) : Prop :=
  ∃ state member, s.states[groupID]? = some state ∧ state.version = 1 ∧
    state.members.get (trimSpace identityID) = some member ∧ member.status = .invited

variable {s : Stores} {event : GroupEvent} {inp : InboundInputs} {identityID : String}

theorem Invites.ensured (h : Invites s event inp identityID) :
    ∃ group, ensureInboundEventState s.states event identityID = .ok (newGroupState group) := by
  unfold ensureInboundEventState
  rw [h.unknown]
  have hfits : ¬ (event.type ≠ .memberAdd ∨ event.version ≠ 1 ∨
      event.memberID ≠ trimSpace identityID) := by
    rw [h.add, h.first, h.named]
    simp
  rw [if_neg hfits]
  exact ⟨_, rfl⟩

theorem authorize_newGroupState (h : event.type = .memberAdd) (group : Group) :
    authorizeInboundGroupEvent (newGroupState group) event = .error .groupPermissionDenied := by
  have hnone : (newGroupState group).members.get event.actorID = none := by
    simp [newGroupState, Members.get, Members.empty]
  unfold authorizeInboundGroupEvent
  rw [h]
  rw [hnone]

/-- Whatever event invites the local identity to an unknown group, it is refused, and the stores
stay as they are. -/
theorem invitation_refused (s : Stores) (event : GroupEvent) (inp : InboundInputs)
    (identityID : String) (h : Invites s event inp identityID) :
    handleInboundGroupEvent s event inp = (s, .unauthorized .groupPermissionDenied) ∧
      ¬ TakesEffect (handleInboundGroupEvent s event inp).1 event.groupID identityID := by
  obtain ⟨hblocked, hdevice, hguard, -, -⟩ := h.admitted
  obtain ⟨group, hensured⟩ := h.ensured
  have hsame : ¬ (inp.hasDevice = true ∧
      trimSpace inp.senderDeviceID ≠ trimSpace inp.deviceID) := fun hne => hne.2 (hdevice hne.1)
  have hrefused : handleInboundGroupEvent s event inp =
      (s, .unauthorized .groupPermissionDenied) := by
    unfold handleInboundGroupEvent
    rw [hblocked, if_neg (by simp), if_neg hsame, hguard, h.identity]
    dsimp only
    rw [hensured]
    dsimp only
    rw [authorize_newGroupState h.add]
  refine ⟨hrefused, ?_⟩
  rintro ⟨state, member, hstored, -⟩
  rw [hrefused, h.unknown] at hstored
  exact nomatch hstored

def aliceInvites : GroupEvent where
  id := "e1"
  groupID := "g1"
  version := 1
  type := .memberAdd
  actorID := "alice"
  occurredAt := 1
  memberID := "bob"
  role := .user
  title := ""
  description := ""
  avatar := ""
  keyVersion := 0

def bobListens : InboundInputs where
  senderDeviceID := "phone"
  hasDevice := true
  deviceID := "phone"
  blocked := false
  guardReplay := none
  identityID := some "bob"
  persist := none

theorem aliceInvites_refused :
    ¬ TakesEffect (handleInboundGroupEvent Stores.empty aliceInvites bobListens).1 "g1" "bob" :=
  (invitation_refused Stores.empty aliceInvites bobListens "bob"
    { add := rfl
      first := rfl
      named := by decide
      unknown := by simp [Stores.empty]
      other := by decide
      identity := rfl
      admitted := ⟨rfl, fun _ => rfl, rfl, by simp [bobListens], rfl⟩ }).2

/-- The state is made, and then nobody in it may invite. -/
theorem aliceInvites_unauthorized :
    (ensureInboundEventState Stores.empty.states aliceInvites "bob").isOk = true ∧
      (handleInboundGroupEvent Stores.empty aliceInvites bobListens).2 =
        .unauthorized .groupPermissionDenied ∧
      ((handleInboundGroupEvent Stores.empty aliceInvites bobListens).1.states["g1"]?).isNone =
        true := by
  refine ⟨by decide, by decide, by decide⟩

end Ardents.Groups
