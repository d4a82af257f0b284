import Ardents.Groups.Chronicle

/-!
# Group snapshots

`state_store.go`: how the stores are checked, written to disk and read back.
`normalizeGroupSnapshot` takes raw states, whose members may be filed under any key, and returns
`Stores`, whose members are filed under their own ids.
-/

namespace Ardents.Groups

open Go

abbrev RawGroupState : Type := GroupRecord (GoMap String Unit) (GoMap String GroupMember)

structure GroupSnapshot where
  states : GoMap String RawGroupState
  eventLog : GoMap String (List GroupEvent)

def GroupRecord.raw (state : GroupState) : RawGroupState :=
  { group := state.group, version := state.version, appliedEventIDs := state.appliedEventIDs
    members := state.members.map, lastKeyVersion := state.lastKeyVersion }

def Stores.snapshot (s : Stores) : GroupSnapshot :=
  { states := s.states.map fun _ state => state.raw, eventLog := s.eventLog }

/-! ## Checking -/

/-- The body of the loop over the members in `normalizeGroupState`. -/
def checkMember (groupID memberID : String) (member : GroupMember) : Except GroupError Unit := do
  require (trimSpace memberID ≠ "") .invalidGroupMemberID
  require (trimSpace member.memberID ≠ "" ∧ member.memberID = memberID) .invalidGroupMemberID
  require (member.groupID = groupID) .invalidGroupID
  validateGroupMember member

theorem checkMember_keyed {groupID memberID : String} {member : GroupMember}
    (h : checkMember groupID memberID member = .ok ()) : member.memberID = memberID := by
  grind [checkMember, bind_ok, require_ok]

theorem members_keyed {groupID : String} {members : GoMap String GroupMember}
    (h : members.toList.forM (fun p => checkMember groupID p.1 p.2) = .ok ()) (k : String)
    (m : GroupMember) (hm : members[k]? = some m) : m.memberID = k :=
  checkMember_keyed (forM_ok.mp h (k, m) (Std.ExtTreeMap.mem_toList_iff_getElem?_eq_some.mpr hm))

def normalizeGroupState (state : RawGroupState) : Except GroupError GroupState := do
  require (trimSpace state.group.id ≠ "") .invalidGroupID
  state.appliedEventIDs.keys.forM fun eventID =>
    require (trimSpace eventID ≠ "") .invalidGroupEventID
  match h : state.members.toList.forM fun p => checkMember state.group.id p.1 p.2 with
  | .error e => .error e
  | .ok () => .ok { group := state.group, version := state.version
                    appliedEventIDs := state.appliedEventIDs
                    members := ⟨state.members, members_keyed h⟩
                    lastKeyVersion := state.lastKeyVersion }

/-- The order `sort.Slice` is given. -/
def eventBefore (a b : GroupEvent) : Bool :=
  if a.version = b.version then a.occurredAt < b.occurredAt else a.version < b.version

def sortEvents (events : List GroupEvent) : List GroupEvent :=
  events.mergeSort fun a b => !eventBefore b a

/-- One round of the loop over the states. The state stays under the key it had. -/
def normalizeStateEntry (out : GoMap String GroupState) (entry : String × RawGroupState) :
    Except GroupError (GoMap String GroupState) := do
  let groupID := trimSpace entry.1
  require (groupID ≠ "") .invalidGroupID
  require (trimSpace entry.2.group.id ≠ "" ∧ entry.2.group.id = groupID) .invalidGroupID
  let state ← normalizeGroupState entry.2
  return (out.insert entry.1 state).insert groupID state

def normalizeLogEntry (out : GoMap String (List GroupEvent))
    (entry : String × List GroupEvent) : Except GroupError (GoMap String (List GroupEvent)) := do
  let groupID := trimSpace entry.1
  require (groupID ≠ "") .invalidGroupID
  entry.2.forM fun event => do
    validateGroupEvent event
    require (event.groupID = groupID) .invalidGroupID
  return (out.insert entry.1 (sortEvents entry.2)).insert groupID (sortEvents entry.2)

def normalizeGroupSnapshot (snapshot : GroupSnapshot) : Except GroupError Stores := do
  let states ← snapshot.states.toList.foldlM normalizeStateEntry ∅
  let eventLog ← snapshot.eventLog.toList.foldlM normalizeLogEntry ∅
  return ⟨states, eventLog⟩

/-! ## On disk -/

structure PersistedGroupState where
  version : Int
  snapshot : GroupSnapshot

/-- JSON and the encryption around it, with the secret. Writing may fail, and what was written is
read back. -/
structure SnapshotCodec (ι : Type) where
  encode : PersistedGroupState → Except GroupError ι
  decode : ι → Except GroupError PersistedGroupState
  decode_encode : ∀ p image, encode p = .ok image → decode image = .ok p

/-- `SnapshotStore`, with what its path holds. -/
structure SnapshotStore (ι : Type) where
  path : String
  secret : String
  file : Option ι

namespace SnapshotStore

variable {ι : Type} (codec : SnapshotCodec ι)

variable (store : SnapshotStore ι)

/-- `IsStorageConfigured`. -/
def configured : Bool :=
  trimSpace store.path ≠ "" ∧ trimSpace store.secret ≠ ""

/-- `Persist`. Where the write itself fails, `written` says with which error, and what is left of
the file. -/
def persist (s : Stores) (written : Except (GroupError × Option ι) Unit) :
    SnapshotStore ι × Except GroupError Unit :=
  if store.configured then
    match normalizeGroupSnapshot s.snapshot with
    | .error e => (store, .error e)
    | .ok normalized =>
      match codec.encode { version := 1, snapshot := normalized.snapshot } with
      | .error e => (store, .error e)
      | .ok image =>
        match written with
        | .error (e, left) => ({ store with file := left }, .error e)
        | .ok () => ({ store with file := some image }, .ok ())
  else (store, .ok ())

/-- `Bootstrap`; a file that does not exist is written first. -/
def bootstrap (written : Except (GroupError × Option ι) Unit) :
    SnapshotStore ι × Except GroupError Stores :=
  if store.configured then
    match store.file with
    | none =>
      match store.persist codec Stores.empty written with
      | (store', .error e) => (store', .error e)
      | (store', .ok ()) => (store', .ok Stores.empty)
    | some image =>
      match codec.decode image with
      | .error e => (store, .error e)
      | .ok persisted =>
        if persisted.version ≠ 1 then (store, .error .invalidPersistencePayload)
        else (store, normalizeGroupSnapshot persisted.snapshot)
  else (store, .ok Stores.empty)

end SnapshotStore

/-! ## What every group keeps -/

/-- A member fit to be stored in the group `g`. -/
structure FitMember (g : String) (m : GroupMember) : Prop where
  group : m.groupID = g
  role : m.role.valid = true
  status : m.status.valid = true

/-- A state and its log agree, and both would pass the checks of a snapshot. -/
structure Recorded (g : String) (S : GroupState) (log : List GroupEvent) : Prop where
  trimmed : trimSpace g = g
  named : g ≠ ""
  versions : log.map (·.version.toNat) = List.range' 1 S.version.toNat
  distinct : (log.map (·.id)).Nodup
  ids : ∀ id : String, id ∈ S.appliedEventIDs ↔ id ∈ log.map (·.id)
  events : ∀ e ∈ log, validateGroupEvent e = .ok () ∧ e.groupID = g
  members : ∀ (k : String) (m : GroupMember), S.members.get k = some m →
    trimSpace k ≠ "" ∧ FitMember g m

section

variable {g : String} {event : GroupEvent}

theorem readdMember_fit {m : GroupMember} {memberID : String} (h : FitMember g m)
    (hrole : event.role.valid = true) : FitMember g (readdMember m memberID event) := by
  refine ⟨?_, by rw [readdMember_role]; exact hrole, ?_⟩
  · grind [readdMember, cases FitMember]
  · unfold readdMember
    dsimp only
    split
    · split
      · rfl
      · exact h.status
    · rfl
    · rfl
    · exact h.status

theorem memberAfter_fit {old : Option GroupMember} {m : GroupMember}
    (h : memberAfter g event old = some m) (hvalid : validateGroupEvent event = .ok ())
    (hold : ∀ m, old = some m → trimSpace event.memberID ≠ "" ∧ FitMember g m) :
    trimSpace event.memberID ≠ "" ∧ FitMember g m := by
  obtain ⟨-, -, -, -, -, -, hpayload⟩ := validateGroupEvent_ok.mp hvalid
  have hretire : ∀ status : GroupMemberStatus, status.valid = true →
      FitMember g { old.getD (newMember g (trimSpace event.memberID) .user (.other "") zeroTime
        zeroTime) with status := status, updatedAt := event.occurredAt } := by
    intro status hstatus
    cases old with
    | none => exact ⟨rfl, rfl, hstatus⟩
    | some m => exact ⟨(hold m rfl).2.group, (hold m rfl).2.role, hstatus⟩
  unfold GroupEvent.lacksPayload at hpayload
  unfold memberAfter at h
  cases htype : event.type with
  | memberAdd =>
    simp only [htype, decide_eq_false_iff_not, not_or, Bool.not_eq_false] at hpayload h
    refine ⟨hpayload.1, ?_⟩
    cases old with
    | none =>
      rw [← Option.some.inj h]
      exact ⟨rfl, hpayload.2, rfl⟩
    | some old =>
      rw [← Option.some.inj h]
      exact readdMember_fit (hold old rfl).2 hpayload.2
  | memberRemove =>
    simp only [htype, decide_eq_false_iff_not] at hpayload h
    rw [← Option.some.inj h]
    exact ⟨hpayload, hretire .removed rfl⟩
  | memberLeave =>
    simp only [htype, decide_eq_false_iff_not] at hpayload h
    rw [← Option.some.inj h]
    exact ⟨hpayload, hretire .left rfl⟩
  | titleChange | profileChange | keyRotate | other =>
    simp only [htype] at h
    exact hold m h

theorem recorded_closed : Closed (fun g => trimSpace g = g ∧ g ≠ "") Recorded where
  found := by
    intro g title identityID eventID now hg htrim hvalid
    refine ⟨hg.1, hg.2, rfl, List.nodup_singleton _, ?_, ?_, ?_⟩
    · intro id
      show id ∈ (∅ : GoMap String Unit).insert eventID () ↔ id ∈ [eventID]
      rw [Std.ExtTreeMap.mem_insert, List.mem_singleton, compare_eq_iff_eq]
      simp [eq_comm]
    · intro e he
      rw [List.mem_singleton.mp he]
      exact ⟨hvalid, rfl⟩
    · intro k m hm
      rw [founded_get htrim] at hm
      split at hm
      · rename_i hk
        rw [← Option.some.inj hm, ← hk]
        exact ⟨(validateGroupEvent_ok.mp hvalid).2.2.2.2.1, rfl, rfl, rfl⟩
      · exact absurd hm (by simp)
  extend := by
    intro S log event h happ
    obtain ⟨hvalid, hgroup, hid, -⟩ := applyGroupEvent_true happ
    refine ⟨h.trimmed, h.named, ?_, ?_, ?_, ?_, ?_⟩
    · have hnext := applyGroupEvent_version happ
      show (log ++ [event]).map (·.version.toNat) = List.range' 1 event.version.toNat
      rw [List.map_append, h.versions, hnext, List.range'_1_concat, List.map_singleton, hnext,
        Nat.add_comm 1]
    · rw [List.map_append, List.nodup_append]
      refine ⟨h.distinct, List.nodup_singleton _, ?_⟩
      intro id hmem id' hmem' heq
      rw [List.map_singleton, List.mem_singleton] at hmem'
      exact hid ((h.ids _).mpr (hmem' ▸ heq ▸ hmem))
    · intro id
      rw [mem_advance, h.ids, List.map_append, List.mem_append, List.map_singleton,
        List.mem_singleton, or_comm]
    · intro e he
      rcases List.mem_append.mp he with hold | hnew
      · exact h.events e hold
      · rw [List.mem_singleton.mp hnew]
        exact ⟨hvalid, hgroup⟩
    · intro k m hm
      unfold GroupRecord.advance at hm
      dsimp only at hm
      rw [changeMembers_get] at hm
      split at hm
      · rename_i hk
        rw [← hk] at hm ⊢
        have hold := h.members (trimSpace event.memberID)
        rw [trimSpace_idem] at hold ⊢
        exact memberAfter_fit hm hvalid hold
      · exact h.members k m hm

end

/-! ## Such stores pass the checks -/

section

variable {g : String} {S : GroupState} {log : List GroupEvent} {s : Stores}

theorem Recorded.normalizeGroupState (h : Recorded g S log) (hid : S.group.id = g) :
    Groups.normalizeGroupState S.raw = .ok S := by
  have hname : trimSpace S.group.id ≠ "" := by
    rw [hid, h.trimmed]
    exact h.named
  have hids : S.appliedEventIDs.keys.forM (fun eventID =>
      require (trimSpace eventID ≠ "") GroupError.invalidGroupEventID) = .ok () := by
    refine forM_ok.mpr fun id hmem => require_ok.mpr ?_
    obtain ⟨e, he, rfl⟩ := List.mem_map.mp ((h.ids id).mp (Std.ExtTreeMap.mem_keys.mp hmem))
    exact (validateGroupEvent_ok.mp (h.events e he).1).1
  have hmembers : S.members.map.toList.forM (fun p => checkMember S.group.id p.1 p.2) = .ok () := by
    refine forM_ok.mpr fun p hp => ?_
    have hget : S.members.get p.1 = some p.2 := Std.ExtTreeMap.mem_toList_iff_getElem?_eq_some.mp hp
    obtain ⟨hk, hfit⟩ := h.members p.1 p.2 hget
    grind [Members.get_memberID, checkMember, bind_ok, require_ok, cases FitMember,
      validateGroupMember]
  unfold Groups.normalizeGroupState
  simp only [bind_ok]
  refine ⟨(), require_ok.mpr hname, (), hids, ?_⟩
  split
  · rename_i e he
    exact absurd (he.symm.trans hmembers) (by simp)
  · rfl

theorem Recorded.sortEvents (h : Recorded g S log) : Groups.sortEvents log = log := by
  refine List.mergeSort_of_pairwise ?_
  have hlt : (log.map (·.version.toNat)).Pairwise (· < ·) := by
    rw [h.versions]
    exact List.pairwise_lt_range'
  refine (List.pairwise_map.mp hlt).imp fun {a b} hab => ?_
  have hne : b.version ≠ a.version := fun heq => absurd (congrArg UInt64.toNat heq) (by omega)
  have hnot : ¬ b.version < a.version := by
    rw [UInt64.lt_iff_toNat_lt]
    omega
  simp [eventBefore, hne, hnot]

theorem Kept.normalizeGroupSnapshot (hk : Kept Recorded s) :
    Groups.normalizeGroupSnapshot s.snapshot = .ok s := by
  have hstates : s.snapshot.states.toList.foldlM normalizeStateEntry ∅ = .ok s.states := by
    refine foldlM_rebuild ?_ ?_
    · intro out g raw hraw
      rw [show s.snapshot.states = s.states.map fun _ state => state.raw from rfl,
        Std.ExtTreeMap.getElem?_map, Option.map_eq_some_iff] at hraw
      obtain ⟨S, hS, rfl⟩ := hraw
      obtain ⟨-, hrec⟩ := hk.log_eq hS
      have hid := hk.filed g S hS
      refine ⟨S, hS, ?_⟩
      have hname : trimSpace S.raw.group.id ≠ "" := by
        rw [show S.raw.group.id = g from hid, hrec.trimmed]
        exact hrec.named
      unfold normalizeStateEntry
      dsimp only
      rw [hrec.trimmed]
      simp only [bind_ok, require_ok, pure_ok]
      refine ⟨(), hrec.named, (), ⟨hname, hid⟩, S, hrec.normalizeGroupState hid, ?_⟩
      exact insert_insert _ _ _ _
    · intro g hg
      exact Std.ExtTreeMap.mem_map.mpr hg
  have hlogs : s.snapshot.eventLog.toList.foldlM normalizeLogEntry ∅ = .ok s.eventLog := by
    refine foldlM_rebuild ?_ fun _ hg => hg
    intro out g log hlog
    obtain ⟨S, hS⟩ := hk.stored g log hlog
    obtain ⟨log', hlog', hrec⟩ := hk.logged g S hS
    obtain rfl : log = log' := Option.some.inj (hlog.symm.trans hlog')
    refine ⟨log, hlog, ?_⟩
    unfold normalizeLogEntry
    dsimp only
    rw [hrec.trimmed, hrec.sortEvents]
    simp only [bind_ok, require_ok, pure_ok]
    refine ⟨(), hrec.named, (), forM_ok.mpr fun e he => ?_, insert_insert _ _ _ _⟩
    exact bind_ok.mpr ⟨(), (hrec.events e he).1, require_ok.mpr (hrec.events e he).2⟩
  unfold Groups.normalizeGroupSnapshot
  rw [hstates, hlogs]
  rfl

theorem Kept.bootstrap_persist (hk : Kept Recorded s) {ι : Type} (codec : SnapshotCodec ι)
    {store store' : SnapshotStore ι} {written written' : Except (GroupError × Option ι) Unit}
    (hconf : store.configured = true) (h : store.persist codec s written = (store', .ok ())) :
    (store'.bootstrap codec written').2 = .ok s := by
  unfold SnapshotStore.persist at h
  rw [if_pos hconf, hk.normalizeGroupSnapshot] at h
  dsimp only at h
  split at h
  · exact absurd (congrArg Prod.snd h) (by simp)
  · rename_i image himage
    split at h
    · exact absurd (congrArg Prod.snd h) (by simp)
    · obtain ⟨rfl, -⟩ := Prod.mk.inj h
      unfold SnapshotStore.bootstrap
      have hconf' : SnapshotStore.configured { store with file := some image } = true := hconf
      rw [if_pos hconf']
      dsimp only
      rw [codec.decode_encode _ _ himage]
      grind [normalizeGroupSnapshot]

end

end Ardents.Groups
