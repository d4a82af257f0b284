import Ardents.Privacy.Service

/-!
# Updates at the same time

An update of the privacy settings holds the lock while it reads them and again while it publishes
them. Between the two it writes the file. Other updates may come in between: one that has read
before another publishes takes back what that one changed.
-/

namespace Ardents.Privacy

open Go

section

variable [LowerCase]

/-! ## Steps of several updates -/

inductive Phase where
  | waiting
  /-- It has read the settings and made new ones. -/
  | updating (updated : ProfileSettings)
  /-- It has written them. -/
  | persisted (updated : ProfileSettings)
  | finished
  deriving DecidableEq

/-- The settings in memory, the settings on disk and how far each update has come. -/
structure Concurrent where
  memory : ProfileSettings
  file : ProfileSettings
  phase : Nat → Phase

namespace Concurrent

def setPhase (s : Concurrent) (i : Nat) (p : Phase) : Concurrent :=
  { s with phase := fun j => if j = i then p else s.phase j }

/-- The next step of update `i`: read, write or publish. -/
def step (ops : Nat → Update × UpdateCourse) (s : Concurrent) (i : Nat) : Concurrent :=
  match s.phase i with
  | .waiting =>
    match (ops i).1.change (normalizeProfileSettings (ops i).2.reads s.memory) with
    | .ok (some changed) =>
      s.setPhase i (.updating (normalizeProfileSettings (ops i).2.normalises changed))
    -- the arguments are refused, or there is nothing to remove
    | _ => s.setPhase i .finished
  | .updating updated =>
    { s with file := normalizeProfileSettings (ops i).2.persists updated }.setPhase i
      (.persisted updated)
  | .persisted updated => { s with memory := updated }.setPhase i .finished
  | .finished => s

def start (settings : ProfileSettings) : Concurrent := ⟨settings, settings, fun _ => .waiting⟩

end Concurrent

def Phase.UnderWay : Phase → Prop
  | .updating _ => True
  | .persisted _ => True
  | _ => False

instance : (p : Phase) → Decidable p.UnderWay
  | .waiting => isFalse id
  | .updating _ => isTrue trivial
  | .persisted _ => isTrue trivial
  | .finished => isFalse id

def settled (settings : ProfileSettings) : Service := ⟨settings, true, settings⟩

/-- Memory and file agree, and hold what the finished updates give one after the other, in some
order. -/
def Serialised (ops : Nat → Update × UpdateCourse) (settings : ProfileSettings)
    (s : Concurrent) : Prop :=
  s.memory = s.file ∧ ∃ order : List Nat, order.Nodup ∧ (∀ i, i ∈ order ↔ s.phase i = .finished) ∧
    run Service.step (settled settings) (order.map ops) = settled s.memory

def BeginsAlone (ops : Nat → Update × UpdateCourse) (s : Concurrent) (i : Nat) : Prop :=
  s.phase i = .waiting →
    (∃ changed, (ops i).1.change (normalizeProfileSettings (ops i).2.reads s.memory) =
      .ok (some changed)) →
    ∀ j, ¬ (s.phase j).UnderWay

/-! ## One update at a time -/

/-- Update `i` is under way and no other: it has read what is in memory now, and has written what it
made of it or not. -/
structure Only (ops : Nat → Update × UpdateCourse) (s : Concurrent) (i : Nat)
    (changed : ProfileSettings) : Prop where
  others : ∀ j, j ≠ i → ¬ (s.phase j).UnderWay
  change : (ops i).1.change (normalizeProfileSettings (ops i).2.reads s.memory) =
    .ok (some changed)
  phase : (s.phase i = .updating (normalizeProfileSettings (ops i).2.normalises changed) ∧
      s.file = s.memory) ∨
    (s.phase i = .persisted (normalizeProfileSettings (ops i).2.normalises changed) ∧
      s.file = normalizeProfileSettings (ops i).2.normalises changed)

inductive AtMostOne (ops : Nat → Update × UpdateCourse) (s : Concurrent) : Prop where
  | none (hnone : ∀ j, ¬ (s.phase j).UnderWay) (hfile : s.file = s.memory)
  | one (i : Nat) (changed : ProfileSettings) (honly : Only ops s i changed)

/-- The updates that are finished, in the order in which they finished, give what is in memory. -/
structure InOrder (ops : Nat → Update × UpdateCourse) (settings : ProfileSettings)
    (s : Concurrent) (order : List Nat) : Prop where
  nodup : order.Nodup
  finished : ∀ i, i ∈ order ↔ s.phase i = .finished
  result : run Service.step (settled settings) (order.map ops) = settled s.memory
  normal : Normal s.memory
  underWay : AtMostOne ops s

variable {ops : Nat → Update × UpdateCourse} {settings : ProfileSettings} {s : Concurrent}
  {order : List Nat} {i : Nat}

theorem step_of_refused {c : UpdateCourse} {u : Update} {m : ProfileSettings}
    (h : ∀ changed, u.change (normalizeProfileSettings c.reads m) ≠ .ok (some changed)) :
    (settled m).step (u, c) = settled m := by
  unfold Service.step
  rw [Service.apply_eq]
  have hread : (settled m).getPrivacySettings c.reads = normalizeProfileSettings c.reads m := rfl
  rw [hread]
  cases hchange : u.change (normalizeProfileSettings c.reads m) with
  | error e => rfl
  | ok result =>
    cases result with
    | none => rfl
    | some changed => exact absurd hchange (h changed)

theorem step_of_change (hlower : LowerCase.Idempotent) {c : UpdateCourse} {u : Update}
    {m changed : ProfileSettings} (hwritten : c.written = true)
    (h : u.change (normalizeProfileSettings c.reads m) = .ok (some changed)) :
    (settled m).step (u, c) = settled (normalizeProfileSettings c.normalises changed) := by
  unfold Service.step
  rw [Service.apply_eq]
  have hread : (settled m).getPrivacySettings c.reads = normalizeProfileSettings c.reads m := rfl
  have hagain := normal_normalize c.normalises changed (fun _ _ c _ => hlower c) c.persists
  rw [hread, h]
  simp [Service.commit, Service.persist, settled, hwritten, hagain, Except.map, Except.toOption]

theorem Only.underWay {changed : ProfileSettings} (h : Only ops s i changed) :
    (s.phase i).UnderWay := by
  rcases h.phase with ⟨hi, _⟩ | ⟨hi, _⟩
  · rw [hi]
    trivial
  · rw [hi]
    trivial

theorem AtMostOne.only (h : AtMostOne ops s) (hi : (s.phase i).UnderWay) :
    ∃ changed, Only ops s i changed := by
  cases h with
  | none hnone _ => exact absurd hi (hnone i)
  | one k changed honly =>
    grind [cases Only]

theorem InOrder.append (h : InOrder ops settings s order) (hi : s.phase i ≠ .finished)
    {t : Concurrent} (ht : ∀ j, t.phase j = if j = i then .finished else s.phase j)
    (hresult : (settled s.memory).step (ops i) = settled t.memory) (hnormal : Normal t.memory)
    (hunderWay : AtMostOne ops t) : InOrder ops settings t (order ++ [i]) where
  nodup := by
    have hnew : i ∉ order := fun hmem => hi ((h.finished i).mp hmem)
    rw [List.nodup_append]
    refine ⟨h.nodup, List.nodup_singleton i, ?_⟩
    intro a ha b hb heq
    rw [List.mem_singleton.mp hb] at heq
    exact hnew (heq ▸ ha)
  finished j := by
    rw [List.mem_append, List.mem_singleton, h.finished j, ht j]
    by_cases hj : j = i
    · simp [hj]
    · simp [hj]
  result := by
    rw [List.map_append, run_append, h.result]
    exact hresult
  normal := hnormal
  underWay := hunderWay

theorem InOrder.same (h : InOrder ops settings s order) (hi : s.phase i ≠ .finished)
    {t : Concurrent} {p : Phase} (hp : p ≠ .finished)
    (ht : ∀ j, t.phase j = if j = i then p else s.phase j) (hmemory : t.memory = s.memory)
    (hunderWay : AtMostOne ops t) : InOrder ops settings t order where
  nodup := h.nodup
  finished j := by
    rw [h.finished j, ht j]
    by_cases hj : j = i
    · rw [if_pos hj, hj]
      exact iff_of_false hi hp
    · rw [if_neg hj]
  result := hmemory ▸ h.result
  normal := hmemory ▸ h.normal
  underWay := hunderWay

theorem InOrder.begin (h : InOrder ops settings s order) (hphase : s.phase i = .waiting)
    (hnone : ∀ j, ¬ (s.phase j).UnderWay) {changed : ProfileSettings}
    (hchange : (ops i).1.change (normalizeProfileSettings (ops i).2.reads s.memory) =
      .ok (some changed)) :
    InOrder ops settings
      (s.setPhase i (.updating (normalizeProfileSettings (ops i).2.normalises changed))) order := by
  have hfile : s.file = s.memory := by
    cases h.underWay with
    | none _ hfile => exact hfile
    | one k _ honly => exact absurd honly.underWay (hnone k)
  refine h.same (by rw [hphase]; simp) (by simp) (fun _ => rfl) rfl (.one i changed ?_)
  refine ⟨fun j hj => ?_, hchange, .inl ⟨if_pos rfl, hfile⟩⟩
  grind [Concurrent.setPhase]

theorem InOrder.refused (h : InOrder ops settings s order) (hphase : s.phase i = .waiting)
    (hrefused : ∀ changed, (ops i).1.change (normalizeProfileSettings (ops i).2.reads s.memory) ≠
      .ok (some changed)) :
    InOrder ops settings (s.setPhase i .finished) (order ++ [i]) := by
  refine h.append (by rw [hphase]; simp) (fun _ => rfl) (step_of_refused hrefused) h.normal ?_
  have hsame : ∀ j, (s.phase j).UnderWay → (s.setPhase i .finished).phase j = s.phase j := by
    intro j hj
    have hji : j ≠ i := by
      intro heq
      rw [heq, hphase] at hj
      exact hj
    exact if_neg hji
  have hfewer : ∀ j, ((s.setPhase i .finished).phase j).UnderWay → (s.phase j).UnderWay := by
    intro j hj
    dsimp only [Concurrent.setPhase] at hj
    split at hj
    · exact absurd hj id
    · exact hj
  cases h.underWay with
  | none hnone hfile => exact .none (fun j hj => hnone j (hfewer j hj)) hfile
  | one k changed honly =>
    refine .one k changed ⟨fun j hj hunder => honly.others j hj (hfewer j hunder),
      honly.change, ?_⟩
    rw [hsame k honly.underWay]
    exact honly.phase

theorem InOrder.persist (hlower : LowerCase.Idempotent) (h : InOrder ops settings s order)
    {updated : ProfileSettings} (hphase : s.phase i = .updating updated) :
    InOrder ops settings
      ({ s with file := normalizeProfileSettings (ops i).2.persists updated }.setPhase i
        (.persisted updated)) order := by
  obtain ⟨changed, honly⟩ := h.underWay.only (i := i) (by rw [hphase]; trivial)
  rcases honly.phase with ⟨hi, _⟩ | ⟨hi, _⟩
  · rw [hphase] at hi
    obtain rfl := Phase.updating.inj hi
    have hagain := normal_normalize (ops i).2.normalises changed (fun _ _ c _ => hlower c)
      (ops i).2.persists
    refine h.same (by rw [hphase]; simp) (by simp) (fun _ => rfl) rfl (.one i changed ?_)
    refine ⟨fun j hj => ?_, honly.change, .inr ⟨if_pos rfl, hagain⟩⟩
    grind [Concurrent.setPhase, cases Only]
  · rw [hphase] at hi
    cases hi

theorem InOrder.publish (hlower : LowerCase.Idempotent) (hwritten : (ops i).2.written = true)
    (h : InOrder ops settings s order) {updated : ProfileSettings}
    (hphase : s.phase i = .persisted updated) :
    InOrder ops settings ({ s with memory := updated }.setPhase i .finished) (order ++ [i]) := by
  obtain ⟨changed, honly⟩ := h.underWay.only (i := i) (by rw [hphase]; trivial)
  rcases honly.phase with ⟨hi, _⟩ | ⟨hi, hfile⟩
  · rw [hphase] at hi
    cases hi
  · rw [hphase] at hi
    obtain rfl := Phase.persisted.inj hi
    refine h.append (by rw [hphase]; simp) (fun _ => rfl)
      (step_of_change hlower hwritten honly.change)
      (normal_normalize (ops i).2.normalises changed fun _ _ c _ => hlower c)
      (.none (fun j => ?_) hfile)
    dsimp only [Concurrent.setPhase]
    by_cases hj : j = i
    · rw [if_pos hj]
      exact id
    · rw [if_neg hj]
      exact honly.others j hj

/-- **One step keeps the order**, or adds the update that it finishes. -/
theorem step_inOrder (hlower : LowerCase.Idempotent) (hwritten : ∀ i, (ops i).2.written = true)
    (h : InOrder ops settings s order) (hi : BeginsAlone ops s i) :
    ∃ order', InOrder ops settings (s.step ops i) order' := by
  unfold Concurrent.step
  cases hphase : s.phase i with
  | finished => exact ⟨order, h⟩
  | updating updated => exact ⟨order, h.persist hlower hphase⟩
  | persisted updated => exact ⟨order ++ [i], h.publish hlower (hwritten i) hphase⟩
  | waiting =>
    dsimp only
    split
    · rename_i changed hchange
      exact ⟨order, h.begin hphase (hi hphase ⟨changed, hchange⟩) hchange⟩
    · rename_i hrefused
      exact ⟨order ++ [i], h.refused hphase hrefused⟩

/-- **Updates that begin alone are serialised**: however their steps are interleaved, once none of
them is under way memory and file hold what some order of them gives. -/
theorem concurrent_serialised (hlower : LowerCase.Idempotent) (ops : Nat → Update × UpdateCourse)
    (hwritten : ∀ i, (ops i).2.written = true) (settings : ProfileSettings)
    (hnormal : Normal settings) (schedule : List Nat)
    (halone : Along (Concurrent.step ops) (BeginsAlone ops) (.start settings) schedule)
    (hend : ∀ i, ¬ ((run (Concurrent.step ops) (.start settings) schedule).phase i).UnderWay) :
    Serialised ops settings (run (Concurrent.step ops) (.start settings) schedule) := by
  have hstart : ∃ order, InOrder ops settings (.start settings) order := by
    refine ⟨[], List.nodup_nil, fun i => ?_, rfl, hnormal, .none (fun i => id) rfl⟩
    simp [Concurrent.start]
  have hrun := along_run (I := fun s => ∃ order, InOrder ops settings s order)
    (fun s i ⟨order, h⟩ hi => step_inOrder hlower hwritten h hi) hstart halone
  obtain ⟨order, h⟩ := hrun
  refine ⟨?_, order, h.nodup, h.finished, h.result⟩
  cases h.underWay with
  | none _ hfile => exact hfile.symm
  | one i _ honly => exact absurd honly.underWay (hend i)

end

/-! ## Two updates -/

def modeAndOverride (i : Nat) : Update × UpdateCourse :=
  if i = 0 then smooth (.privacySettings "requests")
  else smooth (.setOverride "group" "g1" ⟨defaultPrivacySettings, true, true⟩)

/-- A mode, a mode that does not exist, and an override. -/
def modeNonsenseOverride (i : Nat) : Update × UpdateCourse :=
  if i = 0 then smooth (.privacySettings "requests")
  else if i = 1 then smooth (.privacySettings "nonsense")
  else smooth (.setOverride "group" "g1" ⟨defaultPrivacySettings, true, true⟩)

/-- The second update is refused while the first is under way, and the third follows the first. -/
theorem refused_meanwhile_serialised :
    letI := asciiLowerCase
    Serialised modeNonsenseOverride defaultProfileSettings
      (run (Concurrent.step modeNonsenseOverride) (.start defaultProfileSettings)
        [0, 1, 0, 0, 2, 2, 2]) := by
  let _ := asciiLowerCase
  refine concurrent_serialised asciiLowerCase_idempotent modeNonsenseOverride (fun i => ?_)
    defaultProfileSettings (fun r => ?_) [0, 1, 0, 0, 2, 2, 2] ?_ fun i => ?_
  · unfold modeNonsenseOverride
    split
    · rfl
    · split
      · rfl
      · rfl
  · have hoverrides := normalOverrides_empty.normalize_eq r
    simp only [normalizeProfileSettings, defaultProfileSettings] at hoverrides ⊢
    rw [hoverrides]
    rfl
  · refine ⟨fun _ _ j => id, fun _ hchange => ?_, fun hwaiting => ?_, fun hwaiting => ?_,
      fun _ _ j => ?_, fun hwaiting => ?_, fun hwaiting => ?_, trivial⟩
    · obtain ⟨changed, hchange⟩ := hchange
      exact absurd hchange (by simp [modeNonsenseOverride, smooth, Update.change, bind, Except.bind,
        parseMessagePrivacyMode, (by decide : trimSpace "nonsense" = "nonsense")])
    · exact absurd hwaiting (by decide)
    · exact absurd hwaiting (by decide)
    · -- the first two are finished by now, and no other has begun
      rcases j with _ | _ | n
      · decide
      · decide
      · exact id
    · exact absurd hwaiting (by decide)
    · exact absurd hwaiting (by decide)
  · rcases i with _ | _ | _ | n
    · decide
    · decide
    · decide
    · exact id

/-- Two updates that read before either publishes: the mode that the first one set is lost, and no
order of the two gives that. And where they publish in the other order than they wrote, memory
and file differ. -/
theorem lost_update :
    letI := asciiLowerCase
    let s := run (Concurrent.step modeAndOverride) (.start defaultProfileSettings)
      [0, 1, 0, 0, 1, 1]
    let t := run (Concurrent.step modeAndOverride) (.start defaultProfileSettings)
      [0, 1, 0, 1, 1, 0]
    (s.phase 0 = .finished ∧ s.phase 1 = .finished ∧
      s.memory ≠ (run Service.step (settled defaultProfileSettings)
        ([0, 1].map modeAndOverride)).privacy ∧
      s.memory ≠ (run Service.step (settled defaultProfileSettings)
        ([1, 0].map modeAndOverride)).privacy) ∧
    t.phase 0 = .finished ∧ t.phase 1 = .finished ∧ t.memory ≠ t.file := by
  decide

end Ardents.Privacy
