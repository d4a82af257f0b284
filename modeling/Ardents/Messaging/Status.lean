import Ardents.Messaging.FileStore

/-!
# How the status of a message moves

`mergeMessageStatus` takes an update only if it does not lower the rank of a status, in whatever
order updates arrive; `failed` has the rank of `pending` and a guard of its own.
-/

namespace Ardents.Messaging

open Go

/-! ## Up, and never down -/

theorem statusOrder_le_merge (current candidate : MessageStatus) :
    statusOrder current ≤ statusOrder (mergeMessageStatus current candidate) := by
  unfold mergeMessageStatus
  split
  · split
    · rename_i hunsent
      rcases hunsent with rfl | rfl
      · exact Nat.zero_le _
      · exact le_refl _
    · exact le_refl _
  · split
    · assumption
    · exact le_refl _

structure Advances (m m' : Message) : Prop where
  rank : statusOrder m.status ≤ statusOrder m'.status
  id : m'.id = m.id
  contactID : m'.contactID = m.contactID
  conversationID : m'.conversationID = m.conversationID
  conversationType : m'.conversationType = m.conversationType
  direction : m'.direction = m.direction

theorem Advances.refl (m : Message) : Advances m m := ⟨le_refl _, rfl, rfl, rfl, rfl, rfl⟩

theorem Advances.trans {a b c : Message} (hab : Advances a b) (hbc : Advances b c) : Advances a c :=
  ⟨hab.rank.trans hbc.rank, hbc.id.trans hab.id, hbc.contactID.trans hab.contactID,
    hbc.conversationID.trans hab.conversationID,
    hbc.conversationType.trans hab.conversationType, hbc.direction.trans hab.direction⟩

theorem Fate.advances {id : String} {m m' : Message} (h : Fate id (some m) (some m')) :
    Advances m m' := by
  cases h with
  | kept => exact .refl m
  | status _ status => exact ⟨statusOrder_le_merge m.status status, rfl, rfl, rfl, rfl, rfl⟩
  | content _ content contentType now => exact ⟨le_refl _, rfl, rfl, rfl, rfl, rfl⟩

namespace FileMessageStore

variable {ι : Type} {codec : SnapshotCodec ι}

def Stays (codec : SnapshotCodec ι) (id : String) (s : FileMessageStore ι) (r : Request) : Prop :=
  (s.step codec r).memory.messages[id]? ≠ none

theorem advances_run {s : FileMessageStore ι} {id : String} {m m' : Message}
    (hm : s.memory.messages[id]? = some m) (requests : List Request)
    (hstays : Along (step codec) (Stays codec id) s requests)
    (hm' : (run (step codec) s requests).memory.messages[id]? = some m') : Advances m m' := by
  have hrun : ∃ m', (run (step codec) s requests).memory.messages[id]? = some m' ∧
      Advances m m' := by
    refine along_run (I := fun s => ∃ m', s.memory.messages[id]? = some m' ∧ Advances m m')
      (fun s r hs hr => ?_) ⟨m, hm, .refl m⟩ hstays
    obtain ⟨m₁, hm₁, hadvances⟩ := hs
    obtain ⟨m₂, hm₂⟩ := Option.ne_none_iff_exists'.mp hr
    have hfate := s.step_fate codec r id
    rw [hm₁, hm₂] at hfate
    exact ⟨m₂, hm₂, hadvances.trans hfate.advances⟩
  simp_all

end FileMessageStore

/-! ## In any order -/

def outcomes : List MessageStatus := [.sent, .delivered, .read, .failed]

theorem merge_right_comm (current : MessageStatus) : ∀ x ∈ outcomes, ∀ y ∈ outcomes,
    mergeMessageStatus (mergeMessageStatus current x) y =
      mergeMessageStatus (mergeMessageStatus current y) x := by
  cases current with
  | other raw =>
    -- a status that is not known gives way to every outcome but a failure
    by_cases hraw : raw = ""
    · subst hraw
      decide
    · intro x hx y hy
      fin_cases hx <;> fin_cases hy <;> simp [mergeMessageStatus, statusOrder, hraw]
  | pending | sent | delivered | read | failed => decide

namespace FileMessageStore

variable {ι : Type} {codec : SnapshotCodec ι}

def statusUpdate (id : String) (update : MessageStatus × Bool) : Request :=
  .call (.updateMessageStatus id update.1) update.2

def taken (s : FileMessageStore ι) (updates : List (MessageStatus × Bool)) : List MessageStatus :=
  (updates.filter fun update => update.2 || !s.Writes).map Prod.fst

theorem step_statusUpdate {s : FileMessageStore ι} {id : String} {m : Message}
    (hm : s.memory.messages[id]? = some m) (update : MessageStatus × Bool) :
    (s.step codec (statusUpdate id update)).memory.messages[id]? = some
        (if update.2 || !s.Writes then
          { m with status := mergeMessageStatus m.status update.1 } else m) ∧
      decide (s.step codec (statusUpdate id update)).Writes = decide s.Writes := by
  obtain ⟨hpath, hpersist⟩ := s.call_config codec (.updateMessageStatus id update.1) update.2
  refine ⟨?_, ?_⟩
  · show (s.call codec (.updateMessageStatus id update.1) update.2).2.memory.messages[id]? = _
    rw [(s.call_eq codec _ _).2]
    show (recorded s.memory (s.memory.updateMessageStatus id update.1 _)).messages[id]? = _
    rw [(s.memory.recorded_updateMessageStatus id update.1 _).2 id, hm]
    grind
  · have hwrites : (s.call codec (.updateMessageStatus id update.1) update.2).2.Writes ↔
        s.Writes := by
      unfold Writes
      rw [hpath, hpersist]
    exact decide_eq_decide.mpr hwrites

theorem run_statusUpdates {s : FileMessageStore ι} {id : String} {m : Message}
    (hm : s.memory.messages[id]? = some m) (updates : List (MessageStatus × Bool)) :
    (run (step codec) s (updates.map (statusUpdate id))).memory.messages[id]? =
      some { m with status := (s.taken updates).foldl mergeMessageStatus m.status } := by
  induction updates generalizing s m with
  | nil => exact hm
  | cons update updates ih =>
    obtain ⟨hstep, hwrites⟩ : _ ∧ decide (s.step codec (statusUpdate id update)).Writes = _ :=
      step_statusUpdate hm update
    have htaken : (s.step codec (statusUpdate id update)).taken updates = s.taken updates := by
      simp only [taken, hwrites]
    rw [List.map_cons, run_cons, ih hstep, htaken]
    cases htake : update.2 || !s.Writes with
    | true => simp [taken, htake]
    | false => simp [taken, htake]

/-- **Statuses rise, and outcomes commute.** Whatever a store is asked to do, as long as a message
stays stored the rank of its status does not go down, and its id, contact, conversation and
direction stay. And a pending message that meets the outcomes of sending it comes to the same status
in every order. -/
theorem status_monotone_confluent (codec : SnapshotCodec ι) (s : FileMessageStore ι) (id : String)
    (m : Message) (hm : s.memory.messages[id]? = some m) :
    (∀ (requests : List Request) (m' : Message), Along (step codec) (Stays codec id) s requests →
        (run (step codec) s requests).memory.messages[id]? = some m' → Advances m m') ∧
      (m.status = .pending → ∀ updates updates' : List (MessageStatus × Bool),
        (∀ update ∈ updates, update.1 ∈ outcomes) → updates.Perm updates' →
        (run (step codec) s (updates.map (statusUpdate id))).memory.messages[id]?.map (·.status) =
          (run (step codec) s (updates'.map (statusUpdate id))).memory.messages[id]?.map
            (·.status)) := by
  refine ⟨fun requests m' => advances_run hm requests, ?_⟩
  intro _ updates updates' houtcomes hperm
  rw [run_statusUpdates hm, run_statusUpdates hm]
  have htaken : (s.taken updates).Perm (s.taken updates') := (hperm.filter _).map _
  have hmem : ∀ x ∈ s.taken updates, x ∈ outcomes := by
    intro x hx
    obtain ⟨update, hupdate, rfl⟩ := List.mem_map.mp hx
    exact houtcomes update (List.mem_filter.mp hupdate).1
  have hfold := htaken.foldl_eq' (f := mergeMessageStatus)
    (fun x hx y hy current => merge_right_comm current x (hmem x hx) y (hmem y hy)) m.status
  simp [hfold]

/-- The note is queued; a failure, a receipt and the result of publishing it arrive. -/
theorem note_status : ∃ s, openStore plainSnapshots "messages.json" (some oldFile) true = .ok s ∧
      ∃ m, s.memory.messages["m"]? = some m ∧ m.status = .pending ∧
        (∀ m', (run (step plainSnapshots) s
            [.call (.updateMessageContent "m" [33] .text 7) true]).memory.messages["m"]? = some m' →
          Advances m m') ∧ (run (step plainSnapshots) s
            ([(.failed, true), (.delivered, true), (.sent, true)].map
              (statusUpdate "m"))).memory.messages["m"]?.map (·.status) =
          (run (step plainSnapshots) s ([(.delivered, true), (.sent, true), (.failed, true)].map
              (statusUpdate "m"))).memory.messages["m"]?.map (·.status) := by
  obtain ⟨s, hopen⟩ : ∃ s, openStore plainSnapshots "messages.json" (some oldFile) true = .ok s :=
    ⟨_, rfl⟩
  obtain ⟨m, hm, hpending⟩ : ∃ m, s.memory.messages["m"]? = some m ∧ m.status = .pending := by
    obtain rfl := Except.ok.inj (hopen.symm.trans rfl)
    exact ⟨normalizeMessageConversation note, by decide, by decide⟩
  obtain ⟨hadvances, hconfluent⟩ := status_monotone_confluent plainSnapshots s "m" m hm
  refine ⟨s, hopen, m, hm, hpending, fun m' => hadvances _ m' ?_, hconfluent hpending _ _ ?_ ?_⟩
  · refine ⟨?_, trivial⟩
    obtain rfl := Except.ok.inj (hopen.symm.trans rfl)
    unfold Stays
    decide
  · decide
  · decide

end FileMessageStore

end Ardents.Messaging
