import Mathlib

/-!
# Checks that return early

Go functions check their arguments one by one and return the first error. In `Except`
that is a chain of binds; these facts take such a chain apart.
-/

namespace Ardents.Go

variable {ε α β : Type}

/-- `if !p { return e }`. -/
def require (p : Prop) [Decidable p] (e : ε) : Except ε Unit := if p then .ok () else .error e

theorem require_ok {p : Prop} [Decidable p] {e : ε} {u : Unit} : require p e = .ok u ↔ p := by
  simp [require]

theorem bind_ok {x : Except ε α} {f : α → Except ε β} {b : β} :
    (x >>= f) = .ok b ↔ ∃ a, x = .ok a ∧ f a = .ok b := by
  cases x with
  | error e => simp [bind, Except.bind]
  | ok a => simp [bind, Except.bind]

theorem pure_ok {a b : α} : (pure a : Except ε α) = .ok b ↔ a = b := by
  simp [pure, Except.pure]

theorem toOption_eq_some {x : Except ε α} {a : α} : x.toOption = some a ↔ x = .ok a := by
  cases x with
  | error e => simp [Except.toOption]
  | ok b => simp [Except.toOption]

theorem forM_ok {f : α → Except ε Unit} {l : List α} :
    l.forM f = .ok () ↔ ∀ a ∈ l, f a = .ok () := by
  induction l with
  | nil => simp [List.forM, pure, Except.pure]
  | cons a l ih =>
    have hcons : (a :: l).forM f = f a >>= fun _ => l.forM f := rfl
    grind [bind_ok]

theorem foldlM_ok {σ : Type} {f : σ → α → Except ε σ} {I : σ → Prop} {c : α → Prop}
    {g : σ → α → σ} (hstep : ∀ s a s', I s → (f s a = .ok s' ↔ c a ∧ s' = g s a))
    (hkeep : ∀ s a, I s → c a → I (g s a)) {l : List α} {s s' : σ} (hs : I s) :
    l.foldlM f s = .ok s' ↔ (∀ a ∈ l, c a) ∧ s' = l.foldl g s := by
  induction l generalizing s with
  | nil => simp [List.foldlM_nil, pure, Except.pure, eq_comm]
  | cons a l ih =>
    rw [List.foldlM_cons, bind_ok, List.forall_mem_cons, List.foldl_cons]
    constructor
    · rintro ⟨t, ha, hl⟩
      obtain ⟨hc, rfl⟩ := (hstep s a t hs).mp ha
      obtain ⟨hall, rfl⟩ := (ih (hkeep s a hs hc)).mp hl
      exact ⟨⟨hc, hall⟩, rfl⟩
    · rintro ⟨⟨hc, hall⟩, rfl⟩
      exact ⟨g s a, (hstep s a _ hs).mpr ⟨hc, rfl⟩, (ih (hkeep s a hs hc)).mpr ⟨hall, rfl⟩⟩

end Ardents.Go
