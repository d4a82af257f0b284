import Ardents.Groups.Issued
import Ardents.Groups.Snapshot

/-!
# Groups across a restart

Every run of the group service leaves stores that pass the checks of `NormalizeGroupSnapshot`
untouched, so what is persisted comes back.
-/

namespace Ardents.Groups

open Go
open Crypto (Time hexEncode)

/-! ## Generated ids -/

/-- `GeneratePrefixedID`, with the random bytes it reads. -/
def generatePrefixedID (pre : String) (buf : Bytes) : String := pre ++ "_" ++ hexEncode buf

/-- `mustGenerateEventID`; `stamp` is the time it falls back to where there are no random bytes. -/
def mustGenerateEventID (buf : Option Bytes) (stamp : String) : String :=
  match buf with
  | some buf => generatePrefixedID "gevt" buf
  | none => "gevt_fallback_" ++ stamp

theorem hexEncode_not_space (buf : Bytes) : ∀ c ∈ (hexEncode buf).toList, isSpace c = false := by
  have hdigit : ∀ n < 16, isSpace (Nat.digitChar n) = false := by decide
  intro c hc
  rw [hexEncode, String.toList_ofList, List.mem_flatMap] at hc
  obtain ⟨x, -, hx⟩ := hc
  have hlt := x.toNat_lt
  simp only [List.mem_cons, List.not_mem_nil, or_false] at hx
  rcases hx with rfl | rfl
  · exact hdigit _ (by omega)
  · exact hdigit _ (by omega)

theorem toList_generatePrefixedID (pre : String) (buf : Bytes) :
    (generatePrefixedID pre buf).toList = pre.toList ++ '_' :: (hexEncode buf).toList := by
  simp [generatePrefixedID]

theorem trimSpace_generatePrefixedID {pre : String}
    (hpre : (pre.toList.all fun c => !isSpace c) = true) (buf : Bytes) :
    trimSpace (generatePrefixedID pre buf) = generatePrefixedID pre buf := by
  refine trimSpace_eq_self fun c hc => ?_
  rw [toList_generatePrefixedID, List.mem_append, List.mem_cons] at hc
  rcases hc with hname | rfl | hhex
  · simpa using List.all_eq_true.mp hpre c hname
  · decide
  · exact hexEncode_not_space buf c hhex

theorem generatePrefixedID_group (buf : Bytes) :
    trimSpace (generatePrefixedID "group" buf) = generatePrefixedID "group" buf ∧
      generatePrefixedID "group" buf ≠ "" := by
  refine ⟨trimSpace_generatePrefixedID (by decide) buf, fun hempty => ?_⟩
  have hchars := toList_generatePrefixedID "group" buf
  simp_all

theorem mustGenerateEventID_named (buf : Option Bytes) (stamp : String) :
    trimSpace (mustGenerateEventID buf stamp) ≠ "" := by
  unfold mustGenerateEventID
  cases buf with
  | none =>
    refine trimSpace_ne_empty (c := 'g')
      (?_ : _ = 'g' :: ("evt_fallback_".toList ++ stamp.toList)) (by decide)
    rw [String.toList_append]
    rfl
  | some buf =>
    refine trimSpace_ne_empty (c := 'g')
      (?_ : _ = 'g' :: ("evt_".toList ++ (hexEncode buf).toList)) (by decide)
    simp [generatePrefixedID]

/-! ## Assumptions -/

structure FreshIDs (s : Stores) (op : GroupOperation) (inp : OperationInputs) : Prop where
  eventID : ∃ buf stamp, inp.eventID = mustGenerateEventID buf stamp
  rotateID : ∃ buf stamp, inp.rotateID = mustGenerateEventID buf stamp
  distinct : inp.eventID ≠ inp.rotateID
  unused : ∀ S, s.states[trimSpace op.groupID]? = some S →
    inp.eventID ∉ S.appliedEventIDs ∧ inp.rotateID ∉ S.appliedEventIDs

def Assumed (s : Stores) (call : GroupCall) : Prop :=
  (∀ (g : String) (S : GroupState), s.states[g]? = some S → S.lastKeyVersion.toNat < 2 ^ 32 - 1) ∧
  match call with
  | .create _ _ _ groupIDs _ _ =>
    ∀ g, some g ∈ groupIDs → ∃ buf, g = generatePrefixedID "group" buf
  | .operate op inp _ => FreshIDs s op inp
  | _ => True

theorem Recorded.numbered {g : String} {S : GroupState} {log : List GroupEvent}
    (h : Recorded g S log) : log.length = S.version.toNat := by
  rw [← List.length_map (f := (·.version.toNat)), h.versions, List.length_range']

theorem Kept.numbered {s : Stores} (hk : Kept Recorded s) : Numbered s :=
  fun _ _ hS => (hk.log_eq hS).2.numbered

theorem Assumed.whole {s : Stores} {call : GroupCall} (h : Assumed s call) (hk : Kept Recorded s)
    (hfit : LogsFit s) :
    call.Whole s ∧ ∀ g, call.Names g → trimSpace g = g ∧ g ≠ "" := by
  obtain ⟨hkey, hcall⟩ := h
  cases call with
  | create title identityID now groupIDs eventID persist =>
    refine ⟨trivial, fun g hg => ?_⟩
    obtain ⟨buf, rfl⟩ := hcall g hg
    exact generatePrefixedID_group buf
  | operate op inp persist =>
    refine ⟨fun _ S hS => ⟨?_, ?_, ?_⟩, fun g hg => absurd hg id⟩
    · obtain ⟨buf, stamp, hid⟩ := hcall.rotateID
      rw [hid]
      exact mustGenerateEventID_named buf stamp
    · exact hk.numbered.version_ne hfit hS
    · intro heq
      have hlt := hkey _ S hS
      rw [heq] at hlt
      exact absurd hlt (by decide)
  | delete | inbound => exact ⟨trivial, fun g hg => absurd hg id⟩

/-- **Logs number every event, and what is persisted comes back.** After every run from empty stores
in which generated ids are fresh, key versions do not run out and logs fit in slices: the log of a
stored group has the versions 1, 2, … up to that of the state, in order, and exactly the ids the
state has applied, each once; the checks of a snapshot return the stores unchanged; and a store that
persisted them bootstraps to them. -/
theorem snapshot_invariant {calls : List GroupCall}
    (h : Along GroupCall.apply (fun s call => Assumed s call ∧ LogsFit s) Stores.empty calls) :
    let s := run GroupCall.apply Stores.empty calls
    (∀ (g : String) (S : GroupState), s.states[g]? = some S →
      (s.log g).map (·.version.toNat) = List.range' 1 S.version.toNat ∧
      ((s.log g).map (·.id)).Nodup ∧
      ∀ id : String, id ∈ S.appliedEventIDs ↔ id ∈ (s.log g).map (·.id)) ∧
    normalizeGroupSnapshot s.snapshot = .ok s ∧
    ∀ (ι : Type) (codec : SnapshotCodec ι) (store store' : SnapshotStore ι)
      (written written' : Except (GroupError × Option ι) Unit), store.configured = true →
      store.persist codec s written = (store', .ok ()) →
      (store'.bootstrap codec written').2 = .ok s := by
  intro s
  have hkept : Kept Recorded s :=
    along_run (I := Kept Recorded) (fun t call hk hc => by
      obtain ⟨hwhole, hnames⟩ := hc.1.whole hk hc.2
      exact hk.of_change recorded_closed hnames (hk.call_change hwhole)) kept_empty h
  refine ⟨fun g S hS => ?_, hkept.normalizeGroupSnapshot, fun ι codec store store' written written'
    hconf hpersist => hkept.bootstrap_persist codec hconf hpersist⟩
  obtain ⟨-, hrec⟩ := hkept.log_eq hS
  exact ⟨hrec.versions, hrec.distinct, hrec.ids⟩

/-! ## A run within the assumptions -/

theorem forall_states {s : Stores} {p : GroupState → Bool}
    (h : (s.states.toList.all fun entry => p entry.2) = true) {g : String} {S : GroupState}
    (hS : s.states[g]? = some S) : p S = true :=
  List.all_eq_true.mp h (g, S) (Std.ExtTreeMap.mem_toList_iff_getElem?_eq_some.mpr hS)

def aGroupID : String := generatePrefixedID "group" (List.replicate 12 0)

def generatedAt (now : Time) (a b : UInt8) : OperationInputs :=
  inputsAt now (mustGenerateEventID (some (List.replicate 12 a)) "")
    (mustGenerateEventID (some (List.replicate 12 b)) "")

def createCall : GroupCall := .create "Friends" "alice" 1 [some aGroupID] (some "gevt_0") none

theorem fresh_create_assumed : Assumed Stores.empty createCall := by
  refine ⟨fun g S hS => absurd hS (by simp [Stores.empty]), fun g hg => ?_⟩
  exact ⟨List.replicate 12 0, Option.some.inj (List.mem_singleton.mp hg)⟩

def leaveCall : GroupCall := .operate (.leave aGroupID "alice") (generatedAt 2 1 2) none

/-- Alice creates a group and leaves it; the stores pass the checks. -/
theorem left_group_recovered :
    let s := run GroupCall.apply Stores.empty [createCall, leaveCall]
    s.log aGroupID ≠ [] ∧ normalizeGroupSnapshot s.snapshot = .ok s := by
  intro s
  have hassumed : Assumed (createCall.apply Stores.empty) leaveCall := by
    refine ⟨fun g S hS => ?_, ⟨some (List.replicate 12 1), "", rfl⟩,
      ⟨some (List.replicate 12 2), "", rfl⟩, by decide, fun S hS => ?_⟩
    · have hall := forall_states (p := fun S => decide (S.lastKeyVersion.toNat < 2 ^ 32 - 1))
        (by decide) hS
      exact of_decide_eq_true hall
    · have hall := forall_states (p := fun S => decide
        ((generatedAt 2 1 2).eventID ∉ S.appliedEventIDs ∧
          (generatedAt 2 1 2).rotateID ∉ S.appliedEventIDs)) (by decide) hS
      exact of_decide_eq_true hall
  have hrun : Along GroupCall.apply (fun s call => Assumed s call ∧ LogsFit s) Stores.empty
      [createCall, leaveCall] :=
    ⟨⟨fresh_create_assumed, logsFit_of_all (by decide)⟩,
      ⟨hassumed, logsFit_of_all (by decide)⟩, trivial⟩
  exact ⟨by decide, (snapshot_invariant hrun).2.1⟩

end Ardents.Groups
