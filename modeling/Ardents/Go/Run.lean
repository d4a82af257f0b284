import Mathlib

/-!
# Runs of a state machine

A component is a step function on an explicit state, and a run is a fold. What a run may
assume about its inputs depends on the state each input meets, so that assumption is a
predicate threaded along the run.
-/

namespace Ardents.Go

variable {σ α : Type}

def run (step : σ → α → σ) (s : σ) (as : List α) : σ := as.foldl step s

@[simp] theorem run_nil (step : σ → α → σ) (s : σ) : run step s [] = s := rfl

@[simp] theorem run_cons (step : σ → α → σ) (s : σ) (a : α) (as : List α) :
    run step s (a :: as) = run step (step s a) as := rfl

theorem run_append (step : σ → α → σ) (s : σ) (as bs : List α) :
    run step s (as ++ bs) = run step (run step s as) bs := List.foldl_append

/-- Each input meets `C` in the state it is applied to. -/
def Along (step : σ → α → σ) (C : σ → α → Prop) : σ → List α → Prop
  | _, [] => True
  | s, a :: as => C s a ∧ Along step C (step s a) as

instance decidableAlong (step : σ → α → σ) (C : σ → α → Prop) [∀ s a, Decidable (C s a)] :
    ∀ (s : σ) (as : List α), Decidable (Along step C s as)
  | _, [] => isTrue trivial
  | s, a :: as =>
    have := decidableAlong step C (step s a) as
    inferInstanceAs (Decidable (C s a ∧ Along step C (step s a) as))

variable {step : σ → α → σ} {C : σ → α → Prop} {as : List α}

theorem along_append {s : σ} {bs : List α} :
    Along step C s (as ++ bs) ↔ Along step C s as ∧ Along step C (run step s as) bs := by
  induction as generalizing s with
  | nil => simp [Along]
  | cons a as ih => simp only [List.cons_append, Along, ih, run_cons, and_assoc]

theorem along_of_forall (h : ∀ s, ∀ a ∈ as, C s a) (s : σ) : Along step C s as := by
  induction as generalizing s with
  | nil => trivial
  | cons a as ih =>
    exact ⟨h s a List.mem_cons_self, ih (fun t b hb => h t b (List.mem_cons_of_mem _ hb)) _⟩

theorem Along.and {D : σ → α → Prop} {s : σ} (hC : Along step C s as) (hD : Along step D s as) :
    Along step (fun s a => C s a ∧ D s a) s as := by
  induction as generalizing s with
  | nil => trivial
  | cons a as ih => exact ⟨⟨hC.1, hD.1⟩, ih hC.2 hD.2⟩

theorem along_congr {D : σ → α → Prop} (h : ∀ s a, C s a ↔ D s a) (s : σ)
    (as : List α) : Along step C s as ↔ Along step D s as := by
  induction as generalizing s with
  | nil => exact Iff.rfl
  | cons a as ih => exact and_congr (h s a) (ih (step s a))

theorem exists_first_of_not_along {s : σ}
    (h : ¬ Along step C s as) : ∃ pre a post, as = pre ++ a :: post ∧ Along step C s pre ∧
      ¬ C (run step s pre) a := by
  induction as generalizing s with
  | nil => exact absurd trivial h
  | cons a as ih =>
    by_cases ha : C s a
    · obtain ⟨pre, b, post, rfl, hpre, hb⟩ := ih fun hc => h ⟨ha, hc⟩
      exact ⟨a :: pre, b, post, rfl, ⟨ha, hpre⟩, hb⟩
    · exact ⟨[], a, as, rfl, trivial, ha⟩

theorem along_run {I : σ → Prop} (hstep : ∀ s a, I s → C s a → I (step s a)) {s : σ}
    (hs : I s) (h : Along step C s as) : I (run step s as) := by
  induction as generalizing s with
  | nil => exact hs
  | cons a as ih => exact ih (hstep s a hs h.1) h.2

theorem along_of_inv {D : σ → α → Prop} {I : σ → Prop}
    (hstep : ∀ s a, I s → C s a → I (step s a) ∧ D s a) {s : σ}
    (hs : I s) (h : Along step C s as) : Along step D s as := by
  induction as generalizing s with
  | nil => trivial
  | cons a as ih => exact ⟨(hstep s a hs h.1).2, ih (hstep s a hs h.1).1 h.2⟩

/-- The rule for an invariant that also looks at the inputs so far. -/
theorem run_history {I : List α → σ → Prop} {s : σ} (hs : I [] s)
    (hstep : ∀ before t a, I before t → I (before ++ [a]) (step t a)) (as : List α) :
    I as (run step s as) := by
  induction as using List.reverseRecOn with
  | nil => exact hs
  | append_singleton before a ih =>
    rw [run_append]
    exact hstep before _ a ih

theorem run_inv {I : σ → Prop} (hstep : ∀ s a, I s → I (step s a))
    {s : σ} (hs : I s) (as : List α) : I (run step s as) :=
  along_run (C := fun _ _ => True) (fun t a ht _ => hstep t a ht) hs
    (along_of_forall (fun _ _ _ => trivial) s)

end Ardents.Go
