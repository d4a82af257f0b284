import Mathlib

/-!
# Procedures that stop half way

A Go function that changes several things one after the other and returns the first error leaves
behind what it had changed by then. `Procedure` is such a function on an explicit state.
-/

namespace Ardents.Go

/-- A procedure on the state `σ`, with errors `ε`. -/
abbrev Procedure (σ ε α : Type) : Type := ExceptT ε (StateM σ) α

namespace Procedure

variable {σ ε α β : Type}

def exec (p : Procedure σ ε α) (s : σ) : Except ε α × σ := p s

def attempt (f : σ → Except ε σ) : Procedure σ ε Unit := fun s =>
  match f s with
  | .error e => (.error e, s)
  | .ok s' => (.ok (), s')

def change (f : σ → σ) (worked : Bool) (e : ε) : Procedure σ ε Unit := fun s =>
  (if worked then .ok () else .error e, f s)

/-! ## Where a procedure ends -/

theorem exec_bind (p : Procedure σ ε α) (f : α → Procedure σ ε β) (s : σ) : exec (p >>= f) s =
      match exec p s with
      | (.ok a, s') => exec (f a) s'
      | (.error e, s') => (.error e, s') := by
  show (ExceptT.bindCont f (p s).1 (p s).2) = _
  unfold exec
  rcases hp : p s with ⟨r, s'⟩
  cases r with
  | error e => rfl
  | ok a => rfl

variable {p : Procedure σ ε α} {f : α → Procedure σ ε β}

theorem bind_ok {s s'' : σ} {b : β} : exec (p >>= f) s = (.ok b, s'') ↔
      ∃ a s', exec p s = (.ok a, s') ∧ exec (f a) s' = (.ok b, s'') := by
  grind [exec_bind]

theorem attempt_ok {f : σ → Except ε σ} {s s' : σ} {u : Unit} :
    exec (attempt f) s = (.ok u, s') ↔ f s = .ok s' := by
  grind [exec, attempt]

theorem change_ok {f : σ → σ} {worked : Bool} {e : ε} {s s' : σ} {u : Unit} :
    exec (change f worked e) s = (.ok u, s') ↔ worked = true ∧ f s = s' := by
  simp [exec, change]

theorem forM_attempt_ok {f : α → σ → Except ε σ} {l : List α} {s s' : σ} {u : PUnit} :
    exec (l.forM fun a => attempt (f a)) s = (.ok u, s') ↔
      l.foldlM (fun s a => f a s) s = .ok s' := by
  induction l generalizing s with
  | nil => simp [List.forM, pure, Except.pure, exec, ExceptT.pure, ExceptT.mk, StateT.pure]
  | cons a l ih =>
    have hcons : (a :: l).forM (fun a => attempt (f a)) =
        (attempt (f a) >>= fun _ => l.forM fun a => attempt (f a) : Procedure σ ε PUnit) := rfl
    rw [hcons, bind_ok, List.foldlM_cons]
    constructor
    · rintro ⟨u, t, ha, hl⟩
      rw [attempt_ok.mp ha]
      exact ih.mp hl
    · intro h
      cases hf : f a s with
      | error e =>
        rw [hf] at h
        exact absurd h (by simp [bind, Except.bind])
      | ok t =>
        rw [hf] at h
        exact ⟨(), t, attempt_ok.mpr hf, ih.mpr h⟩

/-! ## What a procedure leaves behind -/

/-- Wherever the procedure stops, `Q` still holds. -/
def Keeps (Q : σ → Prop) (p : Procedure σ ε α) : Prop := ∀ s, Q s → Q (exec p s).2

variable {Q : σ → Prop}

theorem keeps_pure (a : α) : Keeps Q (pure a : Procedure σ ε α) := fun _ h => h

theorem exec_bind_snd {s : σ}
    (hp : Q (exec p s).2) (hf : ∀ a, Keeps Q (f a)) : Q (exec (p >>= f) s).2 := by
  rw [exec_bind]
  split
  · rename_i a s' hexec
    rw [hexec] at hp
    exact hf a s' hp
  · simp_all

theorem keeps_bind (hp : Keeps Q p) (hf : ∀ a, Keeps Q (f a)) : Keeps Q (p >>= f) :=
  fun s hs => exec_bind_snd (hp s hs) hf

theorem keeps_attempt {f : σ → Except ε σ} (h : ∀ s s', Q s → f s = .ok s' → Q s') :
    Keeps Q (attempt f) := by
  intro s hs
  grind [exec, attempt]

theorem keeps_change {f : σ → σ} {worked : Bool} {e : ε} (h : ∀ s, Q s → Q (f s)) :
    Keeps Q (change f worked e) := h

/-- Wherever the procedure stops, `Q` holds, whatever held before. -/
def Establishes (Q : σ → Prop) (p : Procedure σ ε α) : Prop := ∀ s, Q (exec p s).2

theorem establishes_change {f : σ → σ} {worked : Bool} {e : ε} (h : ∀ s, Q (f s)) :
    Establishes Q (change f worked e) := h

theorem establishes_bind (hp : Establishes Q p)
    (hf : ∀ a, Keeps Q (f a)) : Establishes Q (p >>= f) :=
  fun s => exec_bind_snd (hp s) hf

theorem keeps_forM {f : α → Procedure σ ε PUnit} {l : List α} (h : ∀ a ∈ l, Keeps Q (f a)) :
    Keeps Q (l.forM f) := by
  induction l with
  | nil => exact keeps_pure _
  | cons a l ih =>
    simp_all [keeps_bind]

end Procedure

end Ardents.Go
