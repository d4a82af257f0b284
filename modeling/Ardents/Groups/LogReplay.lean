import Ardents.Groups.Chronicle

/-!
# The log, replayed

`CreateGroup` makes the creator an active member and starts the key at version 1 with assignments
of its own, after the event is applied. Folding the whole log from nothing therefore leaves the
creator as it would any invited member and the key at version 0, until an event overwrites them.
-/

namespace Ardents.Groups

open Go
open Crypto (Time)

/-- Every event of the log is applied, one after the other, and leads to `final`. -/
def Replays (start : GroupState) (log : List GroupEvent) (final : GroupState) : Prop :=
  applyAll start log = ⟨final, log, none⟩

theorem Replays.snoc {start S : GroupState} {log : List GroupEvent} {event : GroupEvent}
    (h : Replays start log S) (happ : applyGroupEvent S event = .ok (true, S.advance event)) :
    Replays start (log ++ [event]) (S.advance event) := by
  grind [applyAll, Replays, applyAll_append]

theorem replays_one {start : GroupState} {event : GroupEvent}
    (happ : applyGroupEvent start event = .ok (true, start.advance event)) :
    Replays start [event] (start.advance event) := by
  unfold Replays
  simp [applyAll, happ]

/-! ## One event, on two states of a member -/

section

variable {groupID : String} {event : GroupEvent} {old old' : Option GroupMember}

theorem memberAfter_role (h : old.map (·.role) = old'.map (·.role)) :
    (memberAfter groupID event old).map (·.role) =
      (memberAfter groupID event old').map (·.role) := by
  have hretire : (old.getD (newMember groupID (trimSpace event.memberID) .user (.other "") zeroTime
      zeroTime)).role = (old'.getD (newMember groupID (trimSpace event.memberID) .user (.other "")
      zeroTime zeroTime)).role := by
    cases old <;> cases old' <;> simp_all
  unfold memberAfter
  cases event.type with
  | memberAdd => cases old <;> cases old' <;> simp_all
  | memberRemove | memberLeave => exact congrArg some hretire
  | titleChange | profileChange | keyRotate | other => exact h

theorem readdMember_status (m m' : GroupMember) (memberID : String) (h : m.status = m'.status) :
    (readdMember m memberID event).status = (readdMember m' memberID event).status := by
  unfold readdMember
  rw [h]
  cases m'.status with
  | invited => by_cases hself : trimSpace event.actorID = memberID <;> simp [hself]
  | active | left | removed | other => rfl

theorem memberAfter_status (h : old.map (·.status) = old'.map (·.status)) :
    (memberAfter groupID event old).map (·.status)
      = (memberAfter groupID event old').map (·.status) := by
  unfold memberAfter
  cases event.type with
  | memberAdd =>
    cases old with
    | none => cases old' <;> simp_all
    | some m =>
      cases old' with
      | none => simp_all
      | some m' => exact congrArg some (readdMember_status m m' _ (Option.some.inj h))
  | memberRemove => rfl
  | memberLeave => rfl
  | titleChange | profileChange | keyRotate | other => exact h

end

/-! ## From nothing -/

/-- The log folded from nothing, `F`, against the stored state `S`: they may differ in the
creator's standing, in the key version before the first rotation, and in the title if the fold
started from another one. -/
structure Shadows (creator : String) (sameTitle : Prop) (F S : GroupState) : Prop where
  id : F.group.id = S.group.id
  version : F.version = S.version
  applied : F.appliedEventIDs = S.appliedEventIDs
  keyVersion : F.lastKeyVersion = S.lastKeyVersion ∨ (F.lastKeyVersion = 0 ∧ S.lastKeyVersion = 1)
  title : sameTitle → F.group.title = S.group.title
  role : ∀ m : String, (F.members.get m).map (·.role) = (S.members.get m).map (·.role)
  status : ∀ m : String, m ≠ creator →
    (F.members.get m).map (·.status) = (S.members.get m).map (·.status)

section

variable {creator : String} {sameTitle : Prop} {F S : GroupState} {event : GroupEvent}

theorem Shadows.apply (h : Shadows creator sameTitle F S)
    (happ : applyGroupEvent S event = .ok (true, S.advance event)) :
    applyGroupEvent F event = .ok (true, F.advance event) := by
  obtain ⟨hvalid, hgroup, hid, hv⟩ := applyGroupEvent_true happ
  refine applyGroupEvent_applied hvalid (hgroup.trans h.id.symm) ?_ ?_
  · rw [h.applied]
    exact hid
  · rw [h.version]
    exact hv

theorem Shadows.advance (h : Shadows creator sameTitle F S) :
    Shadows creator sameTitle (F.advance event) (S.advance event) where
  id := (changeGroup_id _ _).trans (h.id.trans (changeGroup_id _ _).symm)
  version := rfl
  applied := congrArg (·.insert event.id ()) h.applied
  keyVersion := by
    unfold GroupRecord.advance changeKeyVersion
    cases event.type with
    | keyRotate => exact Or.inl rfl
    | memberAdd | memberRemove | memberLeave | titleChange | profileChange | other =>
      exact h.keyVersion
  title := by
    intro hsame
    unfold GroupRecord.advance changeGroup
    cases event.type with
    | titleChange => rfl
    | profileChange => rfl
    | keyRotate | memberAdd | memberRemove | memberLeave | other => exact h.title hsame
  role := by
    intro m
    unfold GroupRecord.advance
    dsimp only
    rw [changeMembers_get, changeMembers_get, h.id]
    by_cases hm : trimSpace event.memberID = m
    · rw [if_pos hm, if_pos hm]
      exact memberAfter_role (h.role m)
    · rw [if_neg hm, if_neg hm]
      exact h.role m
  status := by
    intro m hne
    unfold GroupRecord.advance
    dsimp only
    rw [changeMembers_get, changeMembers_get, h.id]
    by_cases hm : trimSpace event.memberID = m
    · rw [if_pos hm, if_pos hm]
      exact memberAfter_status (h.status m hne)
    · rw [if_neg hm, if_neg hm]
      exact h.status m hne

end

section

variable {g title identityID eventID : String} {now : Time}

theorem founded_shadowed (htrim : trimSpace identityID = identityID) {G : Group} (hG : G.id = g) :
    Shadows identityID (G.title = title)
      ((newGroupState G).advance (creation g identityID eventID now))
      (founded g title identityID eventID now) := by
  refine ⟨hG, rfl, rfl, Or.inr ⟨rfl, rfl⟩, fun h => h, ?_, ?_⟩
  · grind [creation_get, founded_get]
  · grind [creation_get, founded_get]

end

/-! ## Every run -/

def Explained (g : String) (S : GroupState) (log : List GroupEvent) : Prop :=
  ∃ title identityID eventID now rest, log = creation g identityID eventID now :: rest ∧
    Replays (founded g title identityID eventID now) rest S ∧
    ∀ G : Group, G.id = g → ∃ F, Replays (newGroupState G) log F ∧
      Shadows identityID (G.title = title) F S

theorem explained_closed : Closed (fun _ => True) Explained where
  found := by
    intro g title identityID eventID now _ htrim hvalid
    refine ⟨title, identityID, eventID, now, [], rfl, rfl, fun G hG => ?_⟩
    exact ⟨_, replays_one (applyGroupEvent_applied hvalid hG.symm (by simp [newGroupState]) rfl),
      founded_shadowed htrim hG⟩
  extend := by
    rintro S log event ⟨title, identityID, eventID, now, rest, rfl, hreplay, hfold⟩ happ
    refine ⟨title, identityID, eventID, now, rest ++ [event], rfl, hreplay.snoc happ, ?_⟩
    intro G hG
    obtain ⟨F, hF, hshadow⟩ := hfold G hG
    exact ⟨F.advance event, hF.snoc (hshadow.apply happ), hshadow.advance⟩

/-- **The log explains the state, from the state it began with.** After every run from empty stores
in which no operation is torn apart: the log of a stored group begins with its creation, the rest
leads from the state `CreateGroup` stored exactly to the stored state, and the whole log leads from
a new state to one that differs from it in the creator's standing and the key version at most. -/
theorem log_explains_state {calls : List GroupCall}
    (h : Along GroupCall.apply (fun s call => call.Whole s) Stores.empty calls) {g : String}
    {S : GroupState} (hS : (run GroupCall.apply Stores.empty calls).states[g]? = some S) :
    let log := (run GroupCall.apply Stores.empty calls).log g
    ∃ title identityID eventID now rest, log = creation g identityID eventID now :: rest ∧
      applyAll (founded g title identityID eventID now) rest = ⟨S, rest, none⟩ ∧
      ∀ G : Group, G.id = g → ∃ F, applyAll (newGroupState G) log = ⟨F, log, none⟩ ∧
        Shadows identityID (G.title = title) F S := by
  have hwhole : Along GroupCall.apply (fun s call => call.Whole s ∧ ∀ g, call.Names g → True)
      Stores.empty calls :=
    (along_congr (fun s call => ⟨fun hw => ⟨hw, fun _ _ => trivial⟩, And.left⟩) _ _).mp h
  exact ((kept_run explained_closed hwhole).log_eq hS).2

/-- Alice creates a group, invites Bob and removes Bob, which rotates the key. -/
def bobRemoved : List GroupCall :=
  [.create "Friends" "alice" 1 [some "g1"] (some "e1") none,
    .operate (.invite "g1" "alice" "bob") (inputsAt 2 "e2" "r2") none,
    .operate (.remove "g1" "alice" "bob") (inputsAt 3 "e3" "r3") none]

theorem bobRemoved_explained :
    ∃ S, (run GroupCall.apply Stores.empty bobRemoved).states["g1"]? = some S ∧ S.version = 4 ∧
      ∃ title identityID eventID now rest, rest.length = 3 ∧
        applyAll (founded "g1" title identityID eventID now) rest = ⟨S, rest, none⟩ := by
  have hversion : ((run GroupCall.apply Stores.empty bobRemoved).states["g1"]?).map (·.version)
      = some 4 := by decide
  obtain ⟨S, hS, hv⟩ := Option.map_eq_some_iff.mp hversion
  -- the two numbers a rotation could overflow, in the state it meets
  have hbefore : ((run GroupCall.apply Stores.empty
      (bobRemoved.take 2)).states[trimSpace "g1"]?).map
      (fun state => (state.version, state.lastKeyVersion)) = some (2, 1) := by decide
  have hwhole : Along GroupCall.apply (fun s call => call.Whole s) Stores.empty bobRemoved := by
    refine ⟨trivial, fun hr => absurd hr (by decide), fun _ state hstate => ?_, trivial⟩
    obtain ⟨hv, hkey⟩ := Prod.mk.inj (Option.some.inj
      ((congrArg (Option.map fun state => (state.version, state.lastKeyVersion)) hstate).symm.trans
        hbefore))
    exact ⟨by decide, by rw [hv]; decide, by rw [hkey]; decide⟩
  obtain ⟨title, identityID, eventID, now, rest, hlog, hrest, -⟩ := log_explains_state hwhole hS
  have hlength : ((run GroupCall.apply Stores.empty bobRemoved).log "g1").length = 4 := by
    decide
  rw [hlog] at hlength
  exact ⟨S, hS, hv, title, identityID, eventID, now, rest, Nat.succ.inj hlength, hrest⟩

/-- A group just created: its key is at version 1 and its owner active. From the log alone, whatever
the group's record said, the key is at version 0 and the owner is invited. -/
theorem creation_not_in_log :
    let s := run GroupCall.apply Stores.empty
      [.create "Friends" "alice" 1 [some "g1"] (some "e1") none]
    ∃ S, s.states["g1"]? = some S ∧ S.lastKeyVersion = 1 ∧
      (S.members.get "alice").map (·.status) = some .active ∧
      ∀ G : Group, G.id = "g1" →
        ∃ F, applyAll (newGroupState G) (s.log "g1") = ⟨F, s.log "g1", none⟩ ∧
          F.lastKeyVersion = 0 ∧ (F.members.get "alice").map (·.status) = some .invited := by
  intro s
  have hstate : (s.states["g1"]?).map (fun S => (S.lastKeyVersion,
      (S.members.get "alice").map (·.status))) = some (1, some .active) := by decide
  obtain ⟨S, hS, heq⟩ := Option.map_eq_some_iff.mp hstate
  obtain ⟨hkey, hstatus⟩ := Prod.mk.inj heq
  have hlog : s.log "g1" = [creation "g1" "alice" "e1" 1] := by decide
  refine ⟨S, hS, hkey, hstatus, fun G hG => ?_⟩
  rw [hlog]
  refine ⟨_, replays_one
    (applyGroupEvent_applied (by decide) hG.symm (by simp [newGroupState]) rfl), rfl, ?_⟩
  rw [creation_get (by decide)]
  rfl

end Ardents.Groups
