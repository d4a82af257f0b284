import Mathlib

/-!
# Programs that call their dependencies

A Go service keeps its dependencies in a struct of functions. What one of its methods does is a
tree: call a dependency, and go on as the answer says. Nothing is assumed about the answers.
-/

namespace Ardents.Go

/-- A program over operations `Op`, the answers to `op` being of type `Ans op`. -/
inductive Calls (Op : Type) (Ans : Op → Type) (α : Type) : Type where
  | done (a : α) : Calls Op Ans α
  | call (op : Op) (next : Ans op → Calls Op Ans α) : Calls Op Ans α

abbrev Called (Op : Type) (Ans : Op → Type) : Type := (op : Op) × Ans op

namespace Calls

variable {Op : Type} {Ans : Op → Type} {α β σ : Type}

def bind : Calls Op Ans α → (α → Calls Op Ans β) → Calls Op Ans β
  | done a, f => f a
  | call op next, f => call op fun ans => (next ans).bind f

instance : Monad (Calls Op Ans) where
  pure := done
  bind := bind

def perform (op : Op) : Calls Op Ans (Ans op) := call op done

/-! ## What a program calls -/

/-- `l` is what a run has called so far. -/
def Trace : Calls Op Ans α → List (Called Op Ans) → Prop
  | done _, l => l = []
  | call op next, l => l = [] ∨ ∃ ans l', l = ⟨op, ans⟩ :: l' ∧ Trace (next ans) l'

/-- A run that called `l` has ended with `a`. -/
def Ends : Calls Op Ans α → List (Called Op Ans) → α → Prop
  | done b, l, a => l = [] ∧ b = a
  | call op next, l, a => ∃ ans l', l = ⟨op, ans⟩ :: l' ∧ Ends (next ans) l' a

theorem trace_nil (p : Calls Op Ans α) : Trace p [] := by
  cases p with
  | done a => rfl
  | call op next => exact .inl rfl

variable {l : List (Called Op Ans)}

@[simp] theorem ends_pure {a b : α} : Ends (pure b : Calls Op Ans α) l a ↔ l = [] ∧ b = a := Iff.rfl

theorem trace_perform_bind {op : Op} {f : Ans op → Calls Op Ans β} :
    Trace (perform op >>= f) l ↔ l = [] ∨ ∃ ans l', l = ⟨op, ans⟩ :: l' ∧ Trace (f ans) l' :=
  Iff.rfl

theorem ends_perform_bind {op : Op} {f : Ans op → Calls Op Ans β}
    {b : β} : Ends (perform op >>= f) l b ↔ ∃ ans l', l = ⟨op, ans⟩ :: l' ∧ Ends (f ans) l' b :=
  Iff.rfl

variable {p : Calls Op Ans α}

theorem trace_bind {f : α → Calls Op Ans β} : Trace (p >>= f) l ↔
      Trace p l ∨ ∃ l₁ a l₂, l = l₁ ++ l₂ ∧ Ends p l₁ a ∧ Trace (f a) l₂ := by
  induction p generalizing l with
  | done a =>
    constructor
    · intro h
      exact .inr ⟨[], a, l, rfl, ⟨rfl, rfl⟩, h⟩
    · rintro (rfl | ⟨l₁, b, l₂, rfl, ⟨rfl, rfl⟩, h⟩)
      · exact trace_nil (f a)
      · exact h
  | call op next ih =>
    constructor
    · rintro (rfl | ⟨ans, l', rfl, h⟩)
      · exact .inl (.inl rfl)
      · rcases (ih ans).mp h with hp | ⟨l₁, a, l₂, rfl, hend, hf⟩
        · exact .inl (.inr ⟨ans, l', rfl, hp⟩)
        · exact .inr ⟨⟨op, ans⟩ :: l₁, a, l₂, rfl, ⟨ans, l₁, rfl, hend⟩, hf⟩
    · rintro ((rfl | ⟨ans, l', rfl, h⟩) | ⟨_, a, l₂, rfl, ⟨ans, l₁, rfl, hend⟩, hf⟩)
      · exact .inl rfl
      · exact .inr ⟨ans, l', rfl, (ih ans).mpr (.inl h)⟩
      · exact .inr ⟨ans, l₁ ++ l₂, rfl, (ih ans).mpr (.inr ⟨l₁, a, l₂, rfl, hend, hf⟩)⟩

theorem ends_bind {f : α → Calls Op Ans β}
    {b : β} : Ends (p >>= f) l b ↔ ∃ l₁ a l₂, l = l₁ ++ l₂ ∧ Ends p l₁ a ∧ Ends (f a) l₂ b := by
  induction p generalizing l with
  | done a =>
    constructor
    · intro h
      exact ⟨[], a, l, rfl, ⟨rfl, rfl⟩, h⟩
    · rintro ⟨l₁, c, l₂, rfl, ⟨rfl, rfl⟩, h⟩
      exact h
  | call op next ih =>
    constructor
    · rintro ⟨ans, l', rfl, h⟩
      obtain ⟨l₁, a, l₂, rfl, hend, hf⟩ := (ih ans).mp h
      exact ⟨⟨op, ans⟩ :: l₁, a, l₂, rfl, ⟨ans, l₁, rfl, hend⟩, hf⟩
    · rintro ⟨_, a, l₂, rfl, ⟨ans, l₁, rfl, hend⟩, hf⟩
      exact ⟨ans, l₁ ++ l₂, rfl, (ih ans).mpr ⟨l₁, a, l₂, rfl, hend, hf⟩⟩

theorem Trace.left {l₁ l₂ : List (Called Op Ans)} (h : Trace p (l₁ ++ l₂)) : Trace p l₁ := by
  induction p generalizing l₁ with
  | done a => exact (List.append_eq_nil_iff.mp h).1
  | call op next ih =>
    cases l₁ with
    | nil => exact .inl rfl
    | cons c l₁ =>
      rcases h with h | ⟨ans, l', hl, h⟩
      · exact absurd h (by simp)
      · obtain ⟨rfl, rfl⟩ := List.cons.inj hl
        exact .inr ⟨ans, l₁, rfl, ih ans h⟩

def transcript (answer : (op : Op) → Ans op) : Calls Op Ans α → List (Called Op Ans)
  | done _ => []
  | call op next => ⟨op, answer op⟩ :: transcript answer (next (answer op))

theorem trace_transcript (answer : (op : Op) → Ans op) (p : Calls Op Ans α) :
    Trace p (transcript answer p) := by
  induction p with
  | done a => rfl
  | call op next ih => exact .inr ⟨answer op, _, rfl, ih (answer op)⟩

/-- Every operation the program can call satisfies `S`. -/
def Only (S : Op → Prop) : Calls Op Ans α → Prop
  | done _ => True
  | call op next => S op ∧ ∀ ans, Only S (next ans)

@[simp] theorem only_perform {S : Op → Prop} {op : Op} :
    Only S (perform op : Calls Op Ans (Ans op)) ↔ S op :=
  and_iff_left fun _ => trivial

theorem only_of_forall {S : Op → Prop} (h : ∀ op, S op) (p : Calls Op Ans α) : Only S p := by
  induction p with
  | done a => exact trivial
  | call op next ih => exact ⟨h op, ih⟩

theorem Only.bind {S : Op → Prop} {f : α → Calls Op Ans β} (hp : Only S p)
    (hf : ∀ a, Only S (f a)) : Only S (p >>= f) := by
  induction p with
  | done a => exact hf a
  | call op next ih => exact ⟨hp.1, fun ans => ih ans (hp.2 ans)⟩

theorem Only.mono {S T : Op → Prop} (h : ∀ op, S op → T op) (hp : Only S p) : Only T p := by
  induction p with
  | done a => exact trivial
  | call op next ih => exact ⟨h op hp.1, fun ans => ih ans (hp.2 ans)⟩

theorem Only.trace {S : Op → Prop} (hp : Only S p) (h : Trace p l) : ∀ c ∈ l, S c.1 := by
  induction p generalizing l with
  | done a =>
    obtain rfl : l = [] := h
    exact fun c hc => absurd hc (by simp)
  | call op next ih =>
    rcases h with rfl | ⟨ans, l', rfl, h⟩
    · exact fun c hc => absurd hc (by simp)
    · intro c hc
      rcases List.mem_cons.mp hc with rfl | hc
      · exact hp.1
      · exact ih ans (hp.2 ans) h c hc

theorem Ends.trace {a : α} (h : Ends p l a) : Trace p l := by
  induction p generalizing l with
  | done b => exact h.1
  | call op next ih =>
    obtain ⟨ans, l', rfl, h⟩ := h
    exact .inr ⟨ans, l', rfl, ih ans h⟩

/-! ## Running a program on a state -/

/-- Run a program whose dependencies are functions on a state; `none` is a panic. -/
def exec (answer : (op : Op) → σ → Option (Ans op) × σ) : Calls Op Ans α → σ → Option α × σ
  | done a, s => (some a, s)
  | call op next, s =>
    match answer op s with
    | (none, s') => (none, s')
    | (some ans, s') => exec answer (next ans) s'

section

variable {answer : (op : Op) → σ → Option (Ans op) × σ} {s s' : σ}

theorem exec_call {op : Op} {next : Ans op → Calls Op Ans α} {ans : Ans op}
    (h : answer op s = (some ans, s')) :
    exec answer (call op next) s = exec answer (next ans) s' := by
  simp only [exec, h]

theorem exec_perform {op : Op} {ans : Ans op} (h : answer op s = (some ans, s')) :
    exec answer (perform op) s = (some ans, s') := exec_call h

theorem exec_bind {p : Calls Op Ans α} {f : α → Calls Op Ans β} {a : α}
    (h : exec answer p s = (some a, s')) : exec answer (p >>= f) s = exec answer (f a) s' := by
  induction p generalizing s with
  | done b =>
    obtain ⟨hb, rfl⟩ := Prod.mk.inj h
    obtain rfl := Option.some.inj hb
    rfl
  | call op next ih =>
    unfold exec at h
    split at h
    · exact absurd h (by simp)
    · rename_i ans s₁ hans
      exact (exec_call hans).trans (ih ans h)

theorem exec_keeps {S : Op → Prop} {Q : σ → Prop}
    (hstep : ∀ op, S op → ∀ s, Q s → Q (answer op s).2) {p : Calls Op Ans α} (hp : Only S p)
    (hs : Q s) : Q (exec answer p s).2 := by
  induction p generalizing s with
  | done a => exact hs
  | call op next ih =>
    have hnext := hstep op hp.1 s hs
    unfold exec
    split
    · rename_i s₁ hans
      rwa [hans] at hnext
    · rename_i ans s₁ hans
      rw [hans] at hnext
      exact ih ans (hp.2 ans) hnext

end

end Calls

end Ardents.Go
