import Ardents.Groups.Chronicle

/-!
# What a call brings to a group

Who stays owner, how key versions move and when the key is rotated are questions of one shape:
they follow one group through every run, torn operations included, and need to know which events a
call can have handed over for it.
-/

namespace Ardents.Groups

open Go

/-! ## What becomes of the state -/

/-- What a state can become when events are handed over, and what its log gains. -/
inductive Becomes (state : GroupState) (events : List GroupEvent) :
    GroupState → List GroupEvent → Prop
  | same : Becomes state events state []
  | torn {e : GroupError} (hrej : (applyAll state events).rejected = some e) :
      Becomes state events { state with
        appliedEventIDs := (applyAll state events).state.appliedEventIDs
        members := (applyAll state events).state.members } []
  | whole (hrej : (applyAll state events).rejected = none) :
      Becomes state events (applyAll state events).state (applyAll state events).events

/-- One group has a new state and more in its log, and everything else is as before. -/
structure Replaces (s : Stores) (g : String) (state' : GroupState) (new : List GroupEvent)
    (s' : Stores) : Prop where
  states : ∀ k : String, s'.states[k]? = if g = k then some state' else s.states[k]?
  log : ∀ k : String, s'.log k = if g = k then s.log k ++ new else s.log k

section

variable {s : Stores} {state state' : GroupState} {events new : List GroupEvent}

theorem Replaces.refl (hs : s.states[state.group.id]? = some state) :
    Replaces s state.group.id state [] s := by
  refine ⟨fun k => ?_, fun k => ?_⟩
  · grind
  · rw [List.append_nil, ite_self]

theorem commit_replaces {next : GroupState} {new : List GroupEvent}
    (hid : next.group.id = state.group.id) :
    Replaces s state.group.id next new (s.commit next new) := by
  refine ⟨fun k => ?_, fun k => ?_⟩
  · unfold Stores.commit
    rw [hid]
    exact get_insert _ _ _ _
  · unfold Stores.commit Stores.log
    rw [hid, get_insert]
    by_cases hk : state.group.id = k
    · rw [if_pos hk, if_pos hk, hk]
      rfl
    · rw [if_neg hk, if_neg hk]

theorem applyEventsWithRollback_becomes (hs : s.states[state.group.id]? = some state)
    (persist : Option GroupError) (events : List GroupEvent) :
    ∃ state' new, Becomes state events state' new ∧
      Replaces s state.group.id state' new
        (s.applyEventsWithRollback state persist events).stores := by
  have hstay : ∃ state' new, Becomes state events state' new ∧
      Replaces s state.group.id state' new s := ⟨state, [], .same, .refl hs⟩
  unfold Stores.applyEventsWithRollback
  split
  · exact hstay
  dsimp only
  split
  · rename_i e hrej
    split
    · exact hstay
    · refine ⟨_, [], .torn hrej, ⟨Stores.leak_get hs _, fun k => ?_⟩⟩
      rw [List.append_nil, ite_self]
      unfold Stores.leak Stores.log
      rw [hs]
  · rename_i hrej
    split
    · exact hstay
    · split
      · -- committed under the id of the state, which no event changes
        exact ⟨_, _, .whole hrej, commit_replaces applyAll_group_id⟩
      · refine ⟨state, [], .same, ⟨fun k => ?_, fun k => ?_⟩⟩
        · rw [(Stores.rollback_unchanged hs k).1]
          exact (Replaces.refl hs).states k
        · rw [(Stores.rollback_unchanged hs k).2]
          exact (Replaces.refl hs).log k

theorem Becomes.group_id (h : Becomes state events state' new) :
    state'.group.id = state.group.id := by
  cases h with
  | same => rfl
  | torn hrej => rfl
  | whole hrej => exact applyAll_group_id

theorem Becomes.members_inv {I : Members → Prop} (h : Becomes state events state' new)
    (hadv : ∀ S : GroupState, ∀ e ∈ events, I S.members → I (S.advance e).members)
    (hI : I state.members) : I state'.members := by
  have hreached : I (applyAll state events).state.members :=
    applyAll_inv (I := fun S => I S.members) (fun S e he hS _ => hadv S e he hS) hI
  cases h with
  | same => exact hI
  | torn | whole => exact hreached

theorem applyAll_version (state : GroupState) (events : List GroupEvent) :
    (applyAll state events).state.version.toNat
      = state.version.toNat + (applyAll state events).events.length := by
  induction events generalizing state with
  | nil => rfl
  | cons event rest ih =>
    rcases applyAll_cons state event rest with ⟨e, -, heq⟩ | ⟨-, heq⟩ | ⟨happ, heq⟩
    · rw [heq]
      rfl
    · rw [heq]
      exact ih state
    · have hnext : (state.advance event).version.toNat = state.version.toNat + 1 :=
        applyGroupEvent_version happ
      rw [heq, ih, hnext, List.length_cons]
      omega

theorem Becomes.version (h : Becomes state events state' new) :
    state'.version.toNat = state.version.toNat + new.length := by
  cases h with
  | same => rfl
  | torn hrej => rfl
  | whole hrej => exact applyAll_version state events

end

/-! ## What becomes of a group -/

def Filed (s : Stores) : Prop :=
  ∀ (g : String) (S : GroupState), s.states[g]? = some S → S.group.id = g

/-- The events a call can hand over for a group in the state `S`. -/
inductive Brings (S : GroupState) : GroupCall → List GroupEvent → Prop
  | operated {op : GroupOperation} {inp : OperationInputs} {persist : Option GroupError}
      {events : List GroupEvent} (hg : trimSpace op.groupID = S.group.id)
      (hissued : Issues S inp op events) : Brings S (.operate op inp persist) events
  | received {event : GroupEvent} {inp : InboundInputs} (hg : event.groupID = S.group.id)
      (hauth : authorizeInboundGroupEvent S event = .ok ()) : Brings S (.inbound event inp) [event]

/-- What a call can make of a group in the state `S`, as long as it is stored. -/
def Moves (S : GroupState) (call : GroupCall) (S' : GroupState) (new : List GroupEvent) : Prop :=
  (S' = S ∧ new = []) ∨ ∃ events, Brings S call events ∧ Becomes S events S' new

section

variable {s : Stores} {call : GroupCall} {S S' : GroupState} {g : String}

theorem Moves.group_id {new : List GroupEvent} (h : Moves S call S' new) :
    S'.group.id = S.group.id := by
  rcases h with ⟨rfl, -⟩ | ⟨events, -, hbecomes⟩
  · rfl
  · exact hbecomes.group_id

def Outlasts (s : Stores) (call : GroupCall) (g : String) (S : GroupState) (s' : Stores) : Prop :=
  s'.states[g]? = none ∨ ∃ S' new, s'.states[g]? = some S' ∧ s'.log g = s.log g ++ new ∧
    Moves S call S' new

theorem outlasts_same {s' : Stores} (hS : s.states[g]? = some S)
    (hstates : s'.states[g]? = s.states[g]?) (hlog : s'.log g = s.log g) : Outlasts s call g S s' :=
  Or.inr ⟨S, [], hstates.trans hS, by rw [hlog, List.append_nil], Or.inl ⟨rfl, rfl⟩⟩

theorem outlasts_erase (hS : s.states[g]? = some S) (k : String) :
    Outlasts s call g S ⟨s.states.erase k, s.eventLog.erase k⟩ := by
  by_cases hk : k = g
  · refine Or.inl ?_
    dsimp only
    rw [get_erase, if_pos hk]
  · refine outlasts_same hS ?_ ?_
    · rw [get_erase, if_neg hk]
    · unfold Stores.log
      rw [get_erase, if_neg hk]

theorem outlasts_replaces {state : GroupState} {events : List GroupEvent}
    (hS : s.states[g]? = some S) (hs : s.states[state.group.id]? = some state)
    (hbrings : Brings state call events) (persist : Option GroupError) :
    Outlasts s call g S (s.applyEventsWithRollback state persist events).stores := by
  obtain ⟨state', new, hbecomes, hrep⟩ :=
    applyEventsWithRollback_becomes hs persist events
  by_cases hg : state.group.id = g
  · rw [hg, hS] at hs
    obtain rfl := Option.some.inj hs
    refine Or.inr ⟨state', new, ?_, ?_, Or.inr ⟨events, hbrings, hbecomes⟩⟩
    · rw [hrep.states, if_pos hg]
    · rw [hrep.log, if_pos hg]
  · refine outlasts_same hS ?_ ?_
    · rw [hrep.states, if_neg hg]
    · rw [hrep.log, if_neg hg]

theorem apply_get (hfiled : Filed s) (hS : s.states[g]? = some S) (call : GroupCall) :
    Outlasts s call g S (call.apply s) := by
  cases call with
  | create title identityID now groupIDs eventID persist =>
    unfold GroupCall.apply
    dsimp only
    rcases createGroup_cases s title identityID now groupIDs eventID persist with
      ⟨hsame, -⟩ | ⟨k, -, hnew, ⟨hback, -⟩ | ⟨title', ev, -, hmade, -⟩⟩
    · rw [hsame]
      exact outlasts_same hS rfl rfl
    · rw [hback]
      exact outlasts_erase hS k
    · have hne : k ≠ g := by
        grind
      rw [hmade]
      refine outlasts_same hS ?_ ?_
      · dsimp only
        rw [get_insert, if_neg hne]
      · unfold Stores.log
        dsimp only
        rw [get_insert, if_neg hne]
  | delete groupID actorID inp persist =>
    unfold GroupCall.apply deleteGroup
    dsimp only
    split
    · exact outlasts_same hS rfl rfl
    · split
      · exact outlasts_erase hS _
      · exact outlasts_same hS rfl rfl
  | operate op inp persist =>
    unfold GroupCall.apply
    dsimp only
    rcases perform_issues s inp persist op with
      ⟨hsame, -⟩ | ⟨state, events, hs, hissued, hrun, -⟩
    · rw [hsame]
      exact outlasts_same hS rfl rfl
    · have hid := hfiled _ _ hs
      rw [hrun]
      exact outlasts_replaces hS (hid ▸ hs) (.operated hid.symm hissued) persist
  | inbound event inp =>
    unfold GroupCall.apply
    dsimp only
    rcases handleInboundGroupEvent_stores s event inp with hsame | ⟨state, -, hs, hauth, hrun⟩
    · rw [hsame]
      exact outlasts_same hS rfl rfl
    · have hid := hfiled _ _ hs
      rw [hrun]
      exact outlasts_replaces hS (hid ▸ hs) (.received hid.symm hauth) inp.persist

theorem apply_new (hfiled : Filed s) (hnone : s.states[g]? = none)
    (hS' : (call.apply s).states[g]? = some S') :
    ∃ title identityID eventID now, trimSpace identityID = identityID ∧
      S' = founded g title identityID eventID now ∧
      (call.apply s).log g = [creation g identityID eventID now] := by
  have hkept : ∀ {state : GroupState} {events : List GroupEvent} {persist : Option GroupError},
      s.states[state.group.id]? = some state →
      (s.applyEventsWithRollback state persist events).stores.states[g]? = none := by
    intro state events persist hs
    obtain ⟨state', new, -, hrep⟩ := applyEventsWithRollback_becomes hs persist events
    grind [cases Replaces]
  cases call with
  | create title identityID now groupIDs eventID persist =>
    unfold GroupCall.apply at hS' ⊢
    dsimp only at hS' ⊢
    rcases createGroup_cases s title identityID now groupIDs eventID persist with
      ⟨hsame, -⟩ | ⟨k, -, -, ⟨hback, -⟩ | ⟨title', ev, -, hmade, -⟩⟩
    · rw [hsame, hnone] at hS'
      exact nomatch hS'
    · rw [hback] at hS'
      dsimp only at hS'
      rw [get_erase, hnone, ite_self] at hS'
      exact nomatch hS'
    · rw [hmade] at hS' ⊢
      grind [trimSpace_idem, Stores.log]
  | delete groupID actorID inp persist =>
    exfalso
    unfold GroupCall.apply deleteGroup at hS'
    dsimp only at hS'
    split at hS'
    · rw [hnone] at hS'
      exact nomatch hS'
    · grind
  | operate op inp persist =>
    exfalso
    unfold GroupCall.apply at hS'
    dsimp only at hS'
    rcases perform_issues s inp persist op with
      ⟨hsame, -⟩ | ⟨state, events, hs, -, hrun, -⟩
    · rw [hsame, hnone] at hS'
      exact nomatch hS'
    · rw [hrun, hkept ((hfiled _ _ hs).symm ▸ hs)] at hS'
      exact nomatch hS'
  | inbound event inp =>
    exfalso
    unfold GroupCall.apply at hS'
    dsimp only at hS'
    rcases handleInboundGroupEvent_stores s event inp with hsame | ⟨state, -, hs, -, hrun⟩
    · rw [hsame, hnone] at hS'
      exact nomatch hS'
    · rw [hrun, hkept ((hfiled _ _ hs).symm ▸ hs)] at hS'
      exact nomatch hS'

theorem apply_cases (hfiled : Filed s) (hS' : (call.apply s).states[g]? = some S') :
    (∃ S new, s.states[g]? = some S ∧ (call.apply s).log g = s.log g ++ new ∧ Moves S call S' new) ∨
    (s.states[g]? = none ∧ ∃ title identityID eventID now, trimSpace identityID = identityID ∧
      S' = founded g title identityID eventID now ∧
      (call.apply s).log g = [creation g identityID eventID now]) := by
  cases hS : s.states[g]? with
  | none => exact Or.inr ⟨rfl, apply_new hfiled hS hS'⟩
  | some S =>
    rcases apply_get hfiled hS call with hgone | ⟨S₁, new, hS₁, hlog, hmoves⟩
    · rw [hgone] at hS'
      exact nomatch hS'
    · rw [hS₁] at hS'
      obtain rfl := Option.some.inj hS'
      exact Or.inl ⟨S, new, rfl, hlog, hmoves⟩

theorem filed_step (hfiled : Filed s) (call : GroupCall) : Filed (call.apply s) := by
  intro g S' hS'
  rcases apply_cases hfiled hS' with ⟨S, new, hS, -, hmoves⟩ | ⟨-, _, _, _, _, -, rfl, -⟩
  · rw [hmoves.group_id]
    exact hfiled g S hS
  · rfl

theorem filed_empty : Filed Stores.empty := by
  intro g S hS
  exact absurd hS (by simp [Stores.empty])

theorem filed_run (calls : List GroupCall) : Filed (run GroupCall.apply Stores.empty calls) :=
  run_inv (I := Filed) (fun _ call h => filed_step h call) filed_empty calls

end

/-! ## As many events as versions -/

/-- Every log fits in a Go slice, whose length is an `int`. -/
def LogsFit (s : Stores) : Prop := ∀ g : String, (s.log g).length < 2 ^ 63

/-- Every stored group has logged as many events as its version counts. -/
def Numbered (s : Stores) : Prop :=
  ∀ (g : String) (S : GroupState), s.states[g]? = some S → (s.log g).length = S.version.toNat

section

variable {s : Stores}

theorem Numbered.version_ne (h : Numbered s) (hfit : LogsFit s) {g : String} {S : GroupState}
    (hS : s.states[g]? = some S) : S.version ≠ 18446744073709551614 := by
  intro heq
  have hlt := hfit g
  rw [h g S hS, heq] at hlt
  exact absurd hlt (by decide)

/-- The bound on the logs, checked entry by entry. -/
theorem logsFit_of_all
    (h : (s.eventLog.toList.all fun entry => decide (entry.2.length < 2 ^ 63)) = true) :
    LogsFit s := by
  intro g
  unfold Stores.log
  cases hlog : s.eventLog[g]? with
  | none => exact Nat.two_pow_pos 63
  | some log =>
    have hmem := Std.ExtTreeMap.mem_toList_iff_getElem?_eq_some.mpr hlog
    exact of_decide_eq_true (List.all_eq_true.mp h _ hmem)

end

end Ardents.Groups
