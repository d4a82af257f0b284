import Ardents.Groups.Issued

/-!
# Key epochs

A rotation gives the key of a group a version number. Where it follows a change made here, the
number is the one after the last, and the rotation is rejected when that wraps to 0. A rotation
from the wire carries a number of its own: it has to be from an active owner and not 0. Nothing
compares it with the last one.
-/

namespace Ardents.Groups

open Go

def rotations (log : List GroupEvent) : List UInt32 :=
  (log.filter fun event => event.type = .keyRotate).map (·.keyVersion)

def epochs (log : List GroupEvent) : List UInt32 := 1 :: rotations log

/-- The list goes strictly up, and ends in `last`. -/
structure Ascends (versions : List UInt32) (last : UInt32) : Prop where
  increasing : versions.Pairwise (· < ·)
  bounded : ∀ v ∈ versions, v ≤ last
  ends : versions.getLast? = some last

/-- Events are applied without a rotation and the key stays, or with one, to a higher version. -/
def KeyStep (S S' : GroupState) (new : List GroupEvent) : Prop :=
  (rotations new = [] ∧ S'.lastKeyVersion = S.lastKeyVersion) ∨
    (rotations new = [S'.lastKeyVersion] ∧ S.lastKeyVersion < S'.lastKeyVersion)

def KeysRise (s : Stores) (call : GroupCall) : Prop :=
  ∀ (g : String) (S S' : GroupState), s.states[g]? = some S →
    (call.apply s).states[g]? = some S' →
    ∃ new, (call.apply s).log g = s.log g ++ new ∧ KeyStep S S' new

def RotatesUp (s : Stores) : GroupCall → Prop
  | .inbound event _ => event.type = .keyRotate → ∀ S, s.states[event.groupID]? = some S →
      S.lastKeyVersion < event.keyVersion
  | _ => True

/-! ## Lists of versions -/

section

variable {versions : List UInt32} {last v : UInt32} {log new : List GroupEvent}
  {event : GroupEvent}

theorem Ascends.append (h : Ascends versions last) (hlt : last < v) :
    Ascends (versions ++ [v]) v := by
  refine ⟨?_, ?_, ?_⟩
  · grind [cases Ascends]
  · grind [cases Ascends]
  · exact List.getLast?_concat

theorem epochs_append : epochs (log ++ new) = epochs log ++ rotations new := by
  simp [epochs, rotations]

theorem rotations_cons_ne (h : event.type ≠ .keyRotate) :
    rotations (event :: log) = rotations log := by
  grind [rotations]

theorem rotations_singleton (h : event.type = .keyRotate) :
    rotations [event] = [event.keyVersion] := by
  simp [rotations, h]

theorem Ascends.step {S S' : GroupState} (h : Ascends (epochs log) S.lastKeyVersion)
    (hstep : KeyStep S S' new) : Ascends (epochs (log ++ new)) S'.lastKeyVersion := by
  rw [epochs_append]
  rcases hstep with ⟨hnone, hkept⟩ | ⟨hone, hlt⟩
  · simp_all
  · rw [hone]
    exact h.append hlt

end

/-! ## What is applied -/

section

variable {S T : GroupState} {event change : GroupEvent} {events : List GroupEvent}

theorem advance_keyVersion_ne (h : event.type ≠ .keyRotate) :
    (S.advance event).lastKeyVersion = S.lastKeyVersion := by
  simp [GroupRecord.advance, changeKeyVersion]

theorem keyStep_one (hrej : (applyAll S [event]).rejected = none)
    (hup : event.type = .keyRotate → event.keyVersion ≠ 0 → S.lastKeyVersion < event.keyVersion) :
    KeyStep S (applyAll S [event]).state (applyAll S [event]).events := by
  rcases applyAll_one hrej with ⟨-, hnone, hsame⟩ | ⟨-, hone, hnext, happ⟩
  · rw [hnone, hsame]
    exact Or.inl ⟨rfl, rfl⟩
  · rw [hone, hnext]
    by_cases htype : event.type = .keyRotate
    · have hlast : (S.advance event).lastKeyVersion = event.keyVersion := by
        unfold GroupRecord.advance changeKeyVersion
        rw [htype]
      have hvalid := (validateGroupEvent_ok.mp (applyGroupEvent_true happ).1).2.2.2.2.2.2
      unfold GroupEvent.lacksPayload at hvalid
      rw [htype] at hvalid
      refine Or.inr ⟨?_, ?_⟩
      · rw [hlast]
        exact rotations_singleton htype
      · simp_all
    · exact Or.inl ⟨rotations_cons_ne htype, advance_keyVersion_ne htype⟩

theorem rotationFor_higher {rotateID : String}
    (hne : (rotationFor S change rotateID).keyVersion ≠ 0) :
    S.lastKeyVersion < (rotationFor S change rotateID).keyVersion := by
  grind [rotationFor]

theorem keyStep_pair {rotateID : String} (htype : change.type ≠ .keyRotate)
    (hrej : (applyAll S [change, rotationFor S change rotateID]).rejected = none) :
    KeyStep S (applyAll S [change, rotationFor S change rotateID]).state
      (applyAll S [change, rotationFor S change rotateID]).events := by
  rcases applyAll_cons S change [rotationFor S change rotateID] with
    ⟨e, -, heq⟩ | ⟨-, heq⟩ | ⟨-, heq⟩
  · rw [heq] at hrej
    exact nomatch hrej
  · rw [heq] at hrej ⊢
    exact keyStep_one hrej fun _ hne => rotationFor_higher hne
  · rw [heq] at hrej ⊢
    -- the change leaves the key alone, so the rotation meets the version it was made for
    grind [advance_keyVersion_ne, keyStep_one, rotationFor_higher, KeyStep, rotations_cons_ne]

theorem Becomes.keyStep {S' : GroupState} {new : List GroupEvent}
    (h : Becomes S events S' new) (hwhole : (applyAll S events).rejected = none →
      KeyStep S (applyAll S events).state (applyAll S events).events) : KeyStep S S' new := by
  cases h with
  | same | torn => exact Or.inl ⟨rfl, rfl⟩
  | whole hrej => exact hwhole hrej

theorem Moves.keyStep {s : Stores} {call : GroupCall} {S' : GroupState} {new : List GroupEvent}
    (h : Moves S call S' new) (hS : s.states[S.group.id]? = some S) (hup : RotatesUp s call) :
    KeyStep S S' new := by
  rcases h with ⟨rfl, rfl⟩ | ⟨events, hbrings, hbecomes⟩
  · exact Or.inl ⟨rfl, rfl⟩
  · refine hbecomes.keyStep fun hrej => ?_
    cases hbrings with
    | operated hg hissued =>
      rcases hissued.shape with ⟨-, event, rfl, htype⟩ | ⟨-, change, rfl, htype⟩
      · exact keyStep_one hrej fun h => absurd h htype
      · exact keyStep_pair htype hrej
    | received hg hauth =>
      exact keyStep_one hrej fun htype _ => hup htype S (hg.symm ▸ hS)

end

/-! ## Runs -/

def EpochsAscend (s : Stores) : Prop :=
  ∀ (g : String) (S : GroupState), s.states[g]? = some S →
    Ascends (epochs (s.log g)) S.lastKeyVersion

section

variable {s : Stores} {call : GroupCall}

theorem keysRise_step (hfiled : Filed s) (hup : RotatesUp s call) : KeysRise s call := by
  intro g S S' hS hS'
  have hid : S.group.id = g := hfiled g S hS
  rcases apply_cases hfiled hS' with ⟨S₀, new, hS₀, hlog, hmoves⟩ | ⟨hnone, -⟩
  · grind [Moves.keyStep]
  · rw [hS] at hnone
    exact nomatch hnone

theorem epochsAscend_step (hfiled : Filed s) (h : EpochsAscend s) (hup : RotatesUp s call) :
    EpochsAscend (call.apply s) := by
  intro g S' hS'
  rcases apply_cases hfiled hS' with ⟨S, new, hS, hlog, hmoves⟩ |
    ⟨-, title, identityID, eventID, now, -, rfl, hlog⟩
  · have hid : S.group.id = g := hfiled g S hS
    rw [hlog]
    exact (h g S hS).step (hmoves.keyStep (hid.symm ▸ hS) hup)
  · -- a new group is at version 1, and its log holds no rotation
    rw [hlog]
    refine ⟨List.pairwise_singleton _ _, ?_, rfl⟩
    intro v hv
    rw [List.mem_singleton.mp hv]
    exact UInt32.le_refl 1

/-- Where the rotations from the wire go up, every rotation applied raises the version, and no
version of a group occurs twice. -/
theorem key_versions_go_up (calls : List GroupCall)
    (h : Along GroupCall.apply RotatesUp Stores.empty calls) :
    Along GroupCall.apply KeysRise Stores.empty calls ∧
      EpochsAscend (run GroupCall.apply Stores.empty calls) := by
  have hempty : EpochsAscend Stores.empty := by
    intro g S hS
    exact absurd hS (by simp [Stores.empty])
  refine ⟨?_, ?_⟩
  · exact along_of_inv (I := Filed) (fun _ call hI hC => ⟨filed_step hI call, keysRise_step hI hC⟩)
      filed_empty h
  · exact (along_run (I := fun s => Filed s ∧ EpochsAscend s)
      (fun _ call hI hC => ⟨filed_step hI.1 call, epochsAscend_step hI.1 hI.2 hC⟩)
      ⟨filed_empty, hempty⟩ h).2

end

/-! ## A rotation from the wire -/

/-- Alice creates a group, and Bob is invited and accepts: the key is at version 2. -/
def bobHasJoined : List GroupCall :=
  [.create "Friends" "alice" 1 [some "g1"] (some "e1") none,
    .operate (.invite "g1" "alice" "bob") (inputsAt 2 "e2" "r2") none,
    .operate (.accept "g1" "bob") (inputsAt 3 "e3" "r3") none]

def aliceRotates (keyVersion : UInt32) : GroupCall :=
  .inbound
    { id := "e5", groupID := "g1", version := 5, type := .keyRotate, actorID := "alice"
      occurredAt := 5, memberID := "", role := .other "", title := "", description := ""
      avatar := "", keyVersion := keyVersion }
    { senderDeviceID := "", hasDevice := false, deviceID := "", blocked := false
      guardReplay := none, identityID := some "bob", persist := none }

/-- Alice, on another device, takes the key from version 2 to version 3. -/
theorem third_epoch_ascends :
    epochs ((run GroupCall.apply Stores.empty (bobHasJoined ++ [aliceRotates 3])).log "g1")
      = [1, 2, 3] ∧
    EpochsAscend (run GroupCall.apply Stores.empty (bobHasJoined ++ [aliceRotates 3])) := by
  have hup : Along GroupCall.apply RotatesUp Stores.empty bobHasJoined :=
    ⟨trivial, trivial, trivial, trivial⟩
  have hrotates : RotatesUp (run GroupCall.apply Stores.empty bobHasJoined) (aliceRotates 3) := by
    intro _ S hS
    have hbefore : ((run GroupCall.apply Stores.empty bobHasJoined).states["g1"]?).map
        (·.lastKeyVersion) = some 2 := by decide
    obtain ⟨S', hS', hlast⟩ := Option.map_eq_some_iff.mp hbefore
    obtain rfl : S = S' := Option.some.inj (hS.symm.trans hS')
    rw [hlast]
    decide
  have halong : Along GroupCall.apply RotatesUp Stores.empty (bobHasJoined ++ [aliceRotates 3]) :=
    along_append.mpr ⟨hup, hrotates, trivial⟩
  exact ⟨by decide, (key_versions_go_up _ halong).2⟩

/-- A second epoch of version 1. -/
theorem rotation_repeats_version :
    epochs ((run GroupCall.apply Stores.empty (bobHasJoined ++ [aliceRotates 1])).log "g1")
      = [1, 2, 1] ∧
    ((run GroupCall.apply Stores.empty (bobHasJoined ++ [aliceRotates 1])).states["g1"]?).map
      (·.lastKeyVersion) = some 1 ∧
    ¬ Along GroupCall.apply KeysRise Stores.empty (bobHasJoined ++ [aliceRotates 1]) := by
  have hbefore : ((run GroupCall.apply Stores.empty bobHasJoined).states["g1"]?).map
      (·.lastKeyVersion) = some 2 := by decide
  have hafter : ((run GroupCall.apply Stores.empty (bobHasJoined ++ [aliceRotates 1])).states["g1"]?
      ).map (·.lastKeyVersion) = some 1 := by decide
  refine ⟨by decide, hafter, fun h => ?_⟩
  obtain ⟨-, hrise, -⟩ := along_append.mp h
  rw [run_append] at hafter
  obtain ⟨S, hS, hlast⟩ := Option.map_eq_some_iff.mp hbefore
  obtain ⟨S', hS', hlast'⟩ := Option.map_eq_some_iff.mp hafter
  obtain ⟨new, -, hstep⟩ := hrise "g1" S S' hS hS'
  simp_all [KeyStep]

end Ardents.Groups
