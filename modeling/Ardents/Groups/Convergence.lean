import Ardents.Groups.Inbound
import Ardents.Groups.Membership
import Ardents.Groups.ReplayGuard

/-!
# Reordered and repeated arrivals

The daemon receives group events in any order and more than once. An event applies when it is the
next of its group; one that is early is refused. It would be enough to send that again, were it
not for the replay guard: it is asked first, and for as long as it remembers the early event, the
event is refused as a replay.
-/

namespace Ardents.Groups

open Go
open Crypto (Time)

/-! ## The receiving daemon -/

/-- What the runtime keeps about groups: the stores, and what the replay guard has seen. -/
structure GroupRuntime where
  stores : Stores
  replaySeen : ReplaySeen

/-- One arrival of a group event, with all that handling it takes from outside. -/
structure Arrival where
  event : GroupEvent
  senderDeviceID : String
  hasDevice : Bool
  deviceID : String
  blocked : Bool
  identityID : Option String
  persist : Option GroupError
  now : Time

namespace Arrival

def replayCall (a : Arrival) : ReplayCall :=
  { kind := "event", groupID := a.event.groupID, senderDeviceID := a.senderDeviceID
    uniqueID := a.event.id, occurredAt := a.event.occurredAt, now := a.now }

def inputs (a : Arrival) (guardReplay : Option GroupError) : InboundInputs :=
  { senderDeviceID := a.senderDeviceID, hasDevice := a.hasDevice, deviceID := a.deviceID
    blocked := a.blocked, guardReplay := guardReplay, identityID := a.identityID
    persist := a.persist }

def reachesGuard (a : Arrival) : Bool :=
  !a.blocked && !(a.hasDevice && trimSpace a.senderDeviceID ≠ trimSpace a.deviceID)

/-- Nothing but the group's own rules and the guard's memory stands in the way. -/
structure Clear (a : Arrival) : Prop where
  blocked : a.blocked = false
  device : a.hasDevice = true → trimSpace a.senderDeviceID = trimSpace a.deviceID
  identity : a.identityID ≠ none
  persist : a.persist = none
  keyed : a.replayCall.key.isOk = true
  inTime : validateReplayOccurredAt a.event.occurredAt a.now = .ok ()

end Arrival

/-- `handleInboundGroupEvent` of the daemon, from the decoded event on. -/
def GroupRuntime.arrive (rt : GroupRuntime) (a : Arrival) : GroupRuntime :=
  if a.reachesGuard then
    let (seen, verdict) := guardInboundGroupReplay rt.replaySeen a.replayCall
    { stores := (handleInboundGroupEvent rt.stores a.event (a.inputs verdict)).1
      replaySeen := seen }
  else rt

/-- The guard remembers nothing that a call at `a.now` with the key of `a` would find. -/
def Forgotten (rt : GroupRuntime) (a : Arrival) : Prop :=
  ∀ key, a.replayCall.key = .ok key → remembered rt.replaySeen a.now key = none

theorem forgotten_iff {rt : GroupRuntime} {a : Arrival} (ha : a.Clear) :
    Forgotten rt a ↔ a.replayCall.Passes rt.replaySeen := by
  rw [passes_iff]
  constructor
  · intro h
    cases hkey : a.replayCall.key with
    | error e =>
      have hok := ha.keyed
      rw [hkey] at hok
      exact absurd hok (by simp [Except.isOk, Except.toBool])
    | ok key => exact ⟨key, rfl, ha.inTime, h key hkey⟩
  · rintro ⟨key, hkey, -, hnone⟩ key' hkey'
    rw [hkey] at hkey'
    rwa [← Except.ok.inj hkey']

/-! ## A sequence of events -/

/-- Each event is authorised and applies in the state the earlier ones led to. -/
def Sequel (S : GroupState) : List GroupEvent → Prop
  | [] => True
  | event :: rest => authorizeInboundGroupEvent S event = .ok () ∧
      applyGroupEvent S event = .ok (true, S.advance event) ∧ Sequel (S.advance event) rest

/-- The state after the first `k` events. -/
def after (S : GroupState) (events : List GroupEvent) (k : Nat) : GroupState :=
  (events.take k).foldl GroupRecord.advance S

section

variable {S : GroupState} {events : List GroupEvent} {k : Nat}

theorem after_length : after S events events.length = events.foldl GroupRecord.advance S := by
  unfold after
  rw [List.take_length]

theorem after_succ (hk : k < events.length) :
    after S events (k + 1) = (after S events k).advance (events.get ⟨k, hk⟩) := by
  unfold after
  rw [List.take_succ_eq_append_getElem hk, List.foldl_append]
  rfl

theorem after_id : (after S events k).group.id = S.group.id := by
  unfold after
  induction events.take k generalizing S with
  | nil => rfl
  | cons event rest ih => exact ih.trans (changeGroup_id _ _)

theorem Sequel.apply (h : Sequel S events) (hk : k < events.length) :
    authorizeInboundGroupEvent (after S events k) (events.get ⟨k, hk⟩) = .ok () ∧
      applyGroupEvent (after S events k) (events.get ⟨k, hk⟩)
        = .ok (true, (after S events k).advance (events.get ⟨k, hk⟩)) := by
  induction events generalizing S k with
  | nil => exact absurd hk (by simp)
  | cons event rest ih =>
    obtain ⟨hauth, happ, hrest⟩ := h
    cases k with
    | zero => exact ⟨hauth, happ⟩
    | succ k => exact ih hrest (Nat.lt_of_succ_lt_succ hk)

theorem Sequel.version (h : Sequel S events) (hk : k ≤ events.length) :
    (after S events k).version.toNat = S.version.toNat + k := by
  induction k with
  | zero => rfl
  | succ k ih =>
    rw [after_succ hk]
    show (events.get ⟨k, hk⟩).version.toNat = _
    rw [applyGroupEvent_version (h.apply hk).2, ih (Nat.le_of_lt hk), Nat.add_assoc]

theorem Sequel.after_inj (h : Sequel S events) {j : Nat} (hj : j ≤ events.length)
    (hk : k ≤ events.length) (heq : after S events j = after S events k) : j = k := by
  grind [version]

theorem Sequel.next (h : Sequel S events) {j : Nat} (hj : j ≤ events.length)
    (hk : k < events.length) (happ : applyGroupEvent (after S events j) (events.get ⟨k, hk⟩)
      = .ok (true, (after S events j).advance (events.get ⟨k, hk⟩))) : k = j := by
  -- the event's version is one more than that of both states, and versions tell states apart
  have hhere := applyGroupEvent_version happ
  have hthere := applyGroupEvent_version (h.apply hk).2
  rw [h.version hj] at hhere
  rw [h.version (Nat.le_of_lt hk)] at hthere
  omega

end

/-! ## One arrival -/

section

variable {S : GroupState} {events : List GroupEvent} {rt : GroupRuntime} {a : Arrival} {j : Nat}

/-- The group is where the first `j` events lead. -/
def Reached (S : GroupState) (events : List GroupEvent) (rt : GroupRuntime) (j : Nat) : Prop :=
  rt.stores.states[S.group.id]? = some (after S events j)

theorem arrive_stores : (rt.arrive a).stores = (handleInboundGroupEvent rt.stores a.event
    (a.inputs (guardInboundGroupReplay rt.replaySeen a.replayCall).2)).1 := by
  grind [GroupRuntime.arrive, handleInboundGroupEvent, Arrival.inputs, Arrival.reachesGuard]

theorem arrive_reached (hseq : Sequel S events) (hj : j ≤ events.length)
    (hreached : Reached S events rt j) (ha : a.Clear) (hmem : a.event ∈ events) :
    (∃ hlt : j < events.length, a.event = events.get ⟨j, hlt⟩ ∧ Forgotten rt a ∧
      Reached S events (rt.arrive a) (j + 1)) ∨
    ((∀ hlt : j < events.length, a.event = events.get ⟨j, hlt⟩ → ¬ Forgotten rt a) ∧
      Reached S events (rt.arrive a) j) := by
  obtain ⟨⟨k, hk⟩, hevent⟩ := List.get_of_mem hmem
  have hgroup : a.event.groupID = S.group.id := by
    rw [← hevent, (applyGroupEvent_true (hseq.apply hk).2).2.1]
    exact after_id
  have hstored : rt.stores.states[a.event.groupID]? = some (after S events j) := by
    rw [hgroup]
    exact hreached
  by_cases hnext : k = j ∧ Forgotten rt a
  · obtain ⟨rfl, hfree⟩ := hnext
    obtain ⟨hauth, happ⟩ := hseq.apply hk
    have hadmits : (a.inputs (guardInboundGroupReplay rt.replaySeen a.replayCall).2).Admits :=
      ⟨ha.blocked, ha.device, (forgotten_iff ha).mp hfree, ha.identity, ha.persist⟩
    refine Or.inl ⟨hk, hevent.symm, hfree, ?_⟩
    rw [hevent] at hauth happ
    unfold Reached
    rw [arrive_stores, handleInboundGroupEvent_applied hadmits hstored hauth happ, after_succ hk,
      hevent]
    have hid : ((after S events k).advance a.event).group.id = S.group.id :=
      (changeGroup_id _ _).trans after_id
    unfold Stores.commit
    dsimp only
    rw [hid, get_insert, if_pos rfl]
  · refine Or.inr ⟨fun hlt heq hfree => hnext ⟨?_, hfree⟩, ?_⟩
    · -- the same event cannot be two of the sequence
      have happ := (hseq.apply hlt).2
      rw [← heq, ← hevent] at happ
      exact hseq.next hj hk happ
    · unfold Reached
      rw [arrive_stores]
      rcases handleInboundGroupEvent_cases rt.stores a.event
        (a.inputs (guardInboundGroupReplay rt.replaySeen a.replayCall).2) with
        ⟨state, hadmits, hstate, -, happ⟩ | hsame
      · obtain rfl := Option.some.inj (hstate.symm.trans hstored)
        rw [← hevent] at happ
        exact absurd ⟨hseq.next hj hk happ, (forgotten_iff ha).mpr hadmits.2.2.1⟩ hnext
      · rw [hsame]
        exact hreached

end

/-! ## Every schedule -/

section

variable {S : GroupState} {events : List GroupEvent} {rt : GroupRuntime} {j m : Nat}
  {schedule : List Arrival}

theorem run_reached (hseq : Sequel S events)
    (hschedule : ∀ a ∈ schedule, a.Clear ∧ a.event ∈ events) (hj : j ≤ events.length)
    (hreached : Reached S events rt j) :
    ∃ m, j ≤ m ∧ m ≤ events.length ∧ Reached S events (run GroupRuntime.arrive rt schedule) m := by
  induction schedule generalizing rt j with
  | nil => exact ⟨j, le_rfl, hj, hreached⟩
  | cons a rest ih =>
    obtain ⟨ha, hmem⟩ := hschedule a List.mem_cons_self
    have hrest := fun b hb => hschedule b (List.mem_cons_of_mem a hb)
    rcases arrive_reached hseq hj hreached ha hmem with ⟨hlt, -, -, hnext⟩ | ⟨-, hsame⟩
    · obtain ⟨m, hle, hm, hend⟩ := ih hrest hlt hnext
      exact ⟨m, Nat.le_of_succ_le hle, hm, hend⟩
    · exact ih hrest hj hsame

theorem exists_arrival (hseq : Sequel S events)
    (hschedule : ∀ a ∈ schedule, a.Clear ∧ a.event ∈ events) (hj : j ≤ events.length)
    (hreached : Reached S events rt j) (hm : m ≤ events.length)
    (hend : Reached S events (run GroupRuntime.arrive rt schedule) m) {k : Nat} (hjk : j ≤ k)
    (hkm : k < m) (hk : k < events.length) :
    ∃ pre a post, schedule = pre ++ a :: post ∧ a.event = events.get ⟨k, hk⟩ ∧
      Reached S events (run GroupRuntime.arrive rt pre) k ∧
      Forgotten (run GroupRuntime.arrive rt pre) a := by
  induction schedule generalizing rt j with
  | nil =>
    have hsame := hseq.after_inj hj hm (Option.some.inj (hreached.symm.trans hend))
    omega
  | cons a rest ih =>
    obtain ⟨ha, hmem⟩ := hschedule a List.mem_cons_self
    have hrest := fun b hb => hschedule b (List.mem_cons_of_mem a hb)
    have hlater : ∀ j', j' ≤ events.length → Reached S events (rt.arrive a) j' → j' ≤ k →
        ∃ pre b post, a :: rest = pre ++ b :: post ∧ b.event = events.get ⟨k, hk⟩ ∧
          Reached S events (run GroupRuntime.arrive rt pre) k ∧
          Forgotten (run GroupRuntime.arrive rt pre) b := by
      intro j' hj' hreached' hle
      obtain ⟨pre, b, post, rfl, hevent, hat, hfree⟩ := ih hrest hj' hreached' hend hle
      exact ⟨a :: pre, b, post, rfl, hevent, hat, hfree⟩
    rcases arrive_reached hseq hj hreached ha hmem with ⟨hlt, hevent, hfree, hnext⟩ | ⟨-, hsame⟩
    · rcases Nat.lt_or_eq_of_le hjk with hlt' | rfl
      · exact hlater (j + 1) hlt hnext hlt'
      · exact ⟨[], a, rest, rfl, hevent, hreached, hfree⟩
    · exact hlater j hj hsame hjk

/-- **Convergence.** For events each authorised and applicable after the earlier ones, and every
schedule that brings only these, in time and with nothing else in their way, in any order and any
number of times: the receiver ends in the state after all of them exactly when each of them arrives
once in the state after the earlier ones while the replay guard remembers nothing under its key. -/
theorem converges_iff (hstored : rt.stores.states[S.group.id]? = some S)
    (hseq : Sequel S events) (hschedule : ∀ a ∈ schedule, a.Clear ∧ a.event ∈ events) :
    (run GroupRuntime.arrive rt schedule).stores.states[S.group.id]?
        = some (events.foldl GroupRecord.advance S) ↔
      ∀ (k : Nat) (hk : k < events.length), ∃ pre a post, schedule = pre ++ a :: post ∧
        a.event = events.get ⟨k, hk⟩ ∧ (run GroupRuntime.arrive rt pre).stores.states[S.group.id]?
          = some (after S events k) ∧ Forgotten (run GroupRuntime.arrive rt pre) a := by
  have hstart : Reached S events rt 0 := hstored
  rw [← after_length]
  constructor
  · intro hend k hk
    exact exists_arrival hseq hschedule (Nat.zero_le _) hstart le_rfl hend (Nat.zero_le k) hk hk
  · intro hall
    obtain ⟨m, -, hm, hend⟩ := run_reached hseq hschedule (Nat.zero_le _) hstart
    rcases Nat.lt_or_eq_of_le hm with hlt | rfl
    · -- the arrival of event `m` takes the group past the state it ends in
      obtain ⟨pre, a, post, rfl, hevent, hat, hfree⟩ := hall m hlt
      obtain ⟨ha, hmem⟩ := hschedule a (List.mem_append_right _ List.mem_cons_self)
      have hpost := fun b hb =>
        hschedule b (List.mem_append_right pre (List.mem_cons_of_mem a hb))
      rw [run_append, run_cons] at hend
      rcases arrive_reached hseq hm hat ha hmem with ⟨_, -, -, hnext⟩ | ⟨hnot, -⟩
      · obtain ⟨m', hle, hm', hend'⟩ := run_reached hseq hpost hlt hnext
        have hsame := hseq.after_inj hm hm' (Option.some.inj (hend.symm.trans hend'))
        omega
      · exact absurd hfree (hnot hlt hevent)
    · exact hend

end

/-! ## Two renamings -/

def aliceRuntime : GroupRuntime :=
  { stores := (createGroup Stores.empty "Friends" "alice" 1 [some "g1"] (some "e1") none).stores
    replaySeen := ∅ }

def newTitle (version : UInt64) (id title : String) : GroupEvent :=
  { id := id, groupID := "g1", version := version, type := .profileChange, actorID := "alice"
    occurredAt := 6000000000000, memberID := "", role := .other "", title := title
    description := "", avatar := "", keyVersion := 0 }

def arriving (event : GroupEvent) (minutes : Nat) : Arrival :=
  { event := event, senderDeviceID := "phone", hasDevice := false, deviceID := ""
    blocked := false, identityID := some "alice", persist := none
    now := minutes * 60000000000 }

theorem arriving_clear {event : GroupEvent} {minutes : Nat}
    (hkey : (arriving event minutes).replayCall.key.isOk = true)
    (htime : validateReplayOccurredAt event.occurredAt (minutes * 60000000000) = .ok ()) :
    (arriving event minutes).Clear :=
  ⟨rfl, fun h => absurd h (by simp [arriving]), by simp [arriving], rfl, hkey, htime⟩

theorem newTitles_sequel : ∃ S, aliceRuntime.stores.states["g1"]? = some S ∧ S.group.id = "g1" ∧
    Sequel S [newTitle 2 "e2" "Family", newTitle 3 "e3" "Work"] := by
  have hfacts : (aliceRuntime.stores.states["g1"]?).map (fun S =>
      (S.group.id, S.version, S.appliedEventIDs.keys)) = some ("g1", 1, ["e1"]) := by
    decide
  have howner : (aliceRuntime.stores.states["g1"]?).bind (fun S =>
      (S.members.get "alice").map fun m => (m.status, m.role)) = some (.active, .owner) := by
    decide
  obtain ⟨S, hS, heq⟩ := Option.map_eq_some_iff.mp hfacts
  simp only [Prod.mk.injEq] at heq
  obtain ⟨hid, hversion, hkeys⟩ := heq
  rw [hS, Option.bind_some, Option.map_eq_some_iff] at howner
  obtain ⟨alice, halice, hstanding⟩ := howner
  obtain ⟨hactive, hrole⟩ := Prod.mk.inj hstanding
  have happlied : ∀ id : String, id ∈ S.appliedEventIDs → id = "e1" := by
    intro id hmem
    rw [← Std.ExtTreeMap.mem_keys, hkeys] at hmem
    exact List.mem_singleton.mp hmem
  have hmanage : alice.canManageMembers = true := by simp [GroupMember.canManageMembers, hrole]
  refine ⟨S, hS, hid, authorize_profile rfl halice hactive hmanage,
    applyGroupEvent_applied (by decide) hid.symm (fun h => absurd (happlied _ h) (by decide)) ?_,
    authorize_profile rfl halice hactive hmanage,
    applyGroupEvent_applied (by decide) hid.symm (fun h => ?_) rfl, trivial⟩
  · rw [hversion]
    rfl
  · rcases mem_advance.mp h with heq | hold
    · exact absurd heq (by decide)
    · exact absurd (happlied _ hold) (by decide)

/-- The second renaming arrives early from the phone, then the first, twice, and then the second
from the laptop, of which the replay guard knows nothing. -/
def renamedTwice : List Arrival :=
  [arriving (newTitle 3 "e3" "Work") 100, arriving (newTitle 2 "e2" "Family") 101,
    arriving (newTitle 2 "e2" "Family") 102,
    { arriving (newTitle 3 "e3" "Work") 103 with senderDeviceID := "laptop" }]

theorem renamedTwice_clear : ∀ a ∈ renamedTwice,
    a.Clear ∧ a.event ∈ [newTitle 2 "e2" "Family", newTitle 3 "e3" "Work"] := by
  intro a ha
  simp only [renamedTwice, List.mem_cons, List.not_mem_nil, or_false] at ha
  rcases ha with rfl | rfl | rfl | rfl
  · exact ⟨arriving_clear (by decide +kernel) (by decide), by simp [arriving]⟩
  · exact ⟨arriving_clear (by decide +kernel) (by decide), by simp [arriving]⟩
  · exact ⟨arriving_clear (by decide +kernel) (by decide), by simp [arriving]⟩
  · exact ⟨⟨rfl, fun h => absurd h (by simp [arriving]), by simp [arriving], rfl,
      by decide +kernel, by decide⟩, by simp [arriving]⟩

/-- Both renamings take effect. -/
theorem renamed_twice_converges :
    ∃ S : GroupState, aliceRuntime.stores.states[S.group.id]? = some S ∧
      (run GroupRuntime.arrive aliceRuntime renamedTwice).stores.states[S.group.id]?
        = some ((S.advance (newTitle 2 "e2" "Family")).advance (newTitle 3 "e3" "Work")) := by
  obtain ⟨S, hS, hid, hseq⟩ := newTitles_sequel
  rw [← hid] at hS
  have hclear := renamedTwice_clear
  -- the early arrival changes nothing, the first renaming is applied, and its second arrival is not
  have hearly : Reached S [newTitle 2 "e2" "Family", newTitle 3 "e3" "Work"]
      (run GroupRuntime.arrive aliceRuntime (renamedTwice.take 1)) 0 := by
    obtain ⟨hone, hmem⟩ := hclear _ (List.mem_of_getElem? (i := 0) rfl)
    rcases arrive_reached hseq (Nat.zero_le 2) hS hone hmem with ⟨_, heq, -⟩ | ⟨-, hsame⟩
    · have hsame : newTitle 3 "e3" "Work" = newTitle 2 "e2" "Family" := heq
      exact absurd hsame (by decide)
    · exact hsame
  have hfirst : Reached S [newTitle 2 "e2" "Family", newTitle 3 "e3" "Work"]
      (run GroupRuntime.arrive aliceRuntime (renamedTwice.take 2)) 1 := by
    obtain ⟨hone, hmem⟩ := hclear _ (List.mem_of_getElem? (i := 1) rfl)
    rcases arrive_reached hseq (Nat.zero_le 2) hearly hone hmem with ⟨-, -, -, hnext⟩ | ⟨hseen, -⟩
    · exact hnext
    · exact absurd ((forgotten_iff hone).mpr (by decide +kernel)) (hseen Nat.two_pos rfl)
  have hagain : Reached S [newTitle 2 "e2" "Family", newTitle 3 "e3" "Work"]
      (run GroupRuntime.arrive aliceRuntime (renamedTwice.take 3)) 1 := by
    obtain ⟨hone, hmem⟩ := hclear _ (List.mem_of_getElem? (i := 2) rfl)
    rcases arrive_reached hseq (by decide) hfirst hone hmem with ⟨_, heq, -⟩ | ⟨-, hsame⟩
    · have hsame : newTitle 2 "e2" "Family" = newTitle 3 "e3" "Work" := heq
      exact absurd hsame (by decide)
    · exact hsame
  refine ⟨S, hS, (converges_iff hS hseq hclear).mpr fun k hk => ?_⟩
  have hlast : k = 0 ∨ k = 1 := by
    rw [List.length_cons, List.length_singleton] at hk
    omega
  rcases hlast with rfl | rfl
  · exact ⟨renamedTwice.take 1, _, renamedTwice.drop 2, rfl, rfl, hearly,
      (forgotten_iff (hclear _ (List.mem_of_getElem? (i := 1) rfl)).1).mpr (by decide +kernel)⟩
  · exact ⟨renamedTwice.take 3, _, [], rfl, rfl, hagain,
      (forgotten_iff (hclear _ (List.mem_of_getElem? (i := 3) rfl)).1).mpr (by decide +kernel)⟩

/-- The second renaming arrives early, then the first, then the second again: every arrival is in
time, and at the last one the first is applied. The second is never applied. -/
theorem early_event_lost :
    let first := newTitle 2 "e2" "Family"
    let second := newTitle 3 "e3" "Work"
    let schedule := [arriving second 100, arriving first 101, arriving second 102]
    let before := run GroupRuntime.arrive aliceRuntime [arriving second 100, arriving first 101]
    let final := run GroupRuntime.arrive aliceRuntime schedule
    (∃ S, aliceRuntime.stores.states["g1"]? = some S ∧ Sequel S [first, second] ∧
      (after S [first, second] 2).version = 3) ∧
    (∀ a ∈ schedule, a.Clear ∧ a.event ∈ [first, second]) ∧
    (before.stores.states["g1"]?).map (fun S => (S.version, decide ("e2" ∈ S.appliedEventIDs)))
      = some (2, true) ∧
    (final.stores.states["g1"]?).map (fun S => (S.version, decide ("e3" ∈ S.appliedEventIDs)))
      = some (2, false) := by
  intro first second schedule before final
  obtain ⟨S, hS, -, hseq⟩ := newTitles_sequel
  refine ⟨⟨S, hS, hseq, rfl⟩, ?_, by decide +kernel, by decide +kernel⟩
  intro a ha
  simp only [schedule, List.mem_cons, List.not_mem_nil, or_false] at ha
  rcases ha with rfl | rfl | rfl
  · exact ⟨arriving_clear (by decide +kernel) (by decide), by simp [arriving]⟩
  · exact ⟨arriving_clear (by decide +kernel) (by decide), by simp [arriving]⟩
  · exact ⟨arriving_clear (by decide +kernel) (by decide), by simp [arriving]⟩

end Ardents.Groups
