import Ardents.Go.Run
import Ardents.Identity.Keys

/-!
# Guessing the password

`Export` and `ChangePassword` take three steps. Under the lock they look whether attempts are
locked and read the envelope; without the lock they decrypt it; under the lock again they count a
failure, which locks attempts for a while, or take the count back.
-/

namespace Ardents.Identity

open Go
open Crypto (Time)

/-! ## The steps -/

inductive PasswordCall where
  | exportSeed (seedPassword : String)
  | changePassword (oldSeedPassword newSeedPassword : String)

namespace PasswordCall

def Given : PasswordCall → Prop
  | .exportSeed seedPassword => trimSpace seedPassword ≠ ""
  | .changePassword oldSeedPassword newSeedPassword =>
    trimSpace oldSeedPassword ≠ "" ∧ trimSpace newSeedPassword ≠ ""

instance (call : PasswordCall) : Decidable call.Given :=
  match call with
  | .exportSeed _ => inferInstanceAs (Decidable (_ ≠ _))
  | .changePassword _ _ => inferInstanceAs (Decidable (_ ∧ _))

/-- The password that `DecryptSeed` is given. -/
def guess : PasswordCall → String
  | .exportSeed seedPassword => seedPassword
  | .changePassword oldSeedPassword _ => trimSpace oldSeedPassword

end PasswordCall

inductive Stage (ε : Type) where
  /-- Attempts were not locked; so many failures had been reported. -/
  | checked (call : PasswordCall) (env : ε) (failures : Nat)
  /-- It has decrypted, or failed to, and is about to report it. -/
  | attempted (call : PasswordCall) (plaintext : Option Bytes)

structure Guessing (ε : Type) where
  seeds : SeedManager ε
  clock : Time
  callers : GoMap Nat (Stage ε)
  /-- How many failures have been reported. -/
  failures : Nat
  /-- The ends of the locks that failures have set since the last success was reported. -/
  locks : List Time
  /-- The times of the wrong guesses since then. -/
  wrong : List Time

inductive GuessAction where
  | check (caller : Nat) (call : PasswordCall)
  | decrypt (caller : Nat)
  /-- The update; `rand` is for the envelope of a new password. -/
  | update (caller : Nat) (rand : Bytes)

structure GuessStep where
  elapsed : Nat
  action : GuessAction

namespace Guessing

variable {ε : Type} (C : SeedCrypto ε) (s : Guessing ε)

def start (envelope : Option ε) (clock : Time) : Guessing ε :=
  ⟨{ envelope := envelope, failedAttempts := 0, lockedUntil := none }, clock, ∅, 0, [], []⟩

def advance (elapsed : Nat) : Guessing ε := { s with clock := s.clock + (elapsed : Int) }

def stageOf (caller : Nat) : Option (Stage ε) := s.callers[caller]?

def enter (caller : Nat) (stage : Stage ε) : Guessing ε :=
  { s with callers := s.callers.insert caller stage }

def leave (caller : Nat) : Guessing ε := { s with callers := s.callers.erase caller }

def check (caller : Nat) (call : PasswordCall) : Guessing ε :=
  if (s.stageOf caller).isSome ∨ ¬ call.Given ∨ s.seeds.ensureUnlocked s.clock = false then s
  else
    match s.seeds.envelope with
    | none => s
    | some env => s.enter caller (.checked call env s.failures)

/-- `DecryptSeed`, outside the lock. -/
def decrypt (caller : Nat) (call : PasswordCall) (env : ε) : Guessing ε :=
  { s.enter caller (.attempted call (C.decryptSeed env call.guess)) with
    wrong := if (C.decryptSeed env call.guess).isNone then s.wrong ++ [s.clock] else s.wrong }

def fail (caller : Nat) : Guessing ε :=
  { s.leave caller with
    seeds := s.seeds.onFailedPasswordAttempt s.clock
    failures := s.failures + 1
    locks := s.locks ++ [s.clock + failedAttemptBackoff (s.seeds.failedAttempts + 1)] }

def succeed (caller : Nat) (envelope : Option ε) : Guessing ε :=
  { s.leave caller with
    seeds := { s.seeds with envelope := envelope }.resetPasswordAttemptState
    locks := []
    wrong := [] }

def update (caller : Nat) (rand : Bytes) (call : PasswordCall) (plaintext : Option Bytes) :
    Guessing ε :=
  match call, plaintext with
  | _, none => s.fail caller
  | .exportSeed _, some _ => s.succeed caller s.seeds.envelope
  | .changePassword _ newSeedPassword, some mnemonic =>
    match C.encryptSeed rand mnemonic (trimSpace newSeedPassword) with
    | none => s.leave caller
    | some env => s.succeed caller (some env)

def act : GuessAction → Guessing ε
  | .check caller call => s.check caller call
  | .decrypt caller =>
    match s.stageOf caller with
    | some (.checked call env _) => s.decrypt C caller call env
    | _ => s
  | .update caller rand =>
    match s.stageOf caller with
    | some (.attempted call plaintext) => s.update C caller rand call plaintext
    | _ => s

def step (a : GuessStep) : Guessing ε := (s.advance a.elapsed).act C a.action

/-- A call that no other call comes between. -/
def alone (caller : Nat) (call : PasswordCall) (rand : Bytes) : Guessing ε :=
  ((s.check caller call).act C (.decrypt caller)).act C (.update caller rand)

/-! ## What the locks promise -/

/-- When a caller decrypts, nobody else is about to report, and no failure has been reported since
the caller looked whether attempts are locked. -/
def Serial (s : Guessing ε) (a : GuessStep) : Prop :=
  match a.action with
  | .decrypt caller => ∀ call env failures,
      s.stageOf caller = some (.checked call env failures) → failures = s.failures ∧
        ∀ other call plaintext, s.stageOf other ≠ some (.attempted call plaintext)
  | _ => True

def Waits (s : Guessing ε) (a : GuessStep) : Prop :=
  match a.action with
  | .decrypt caller => ∀ call env failures,
      s.stageOf caller = some (.checked call env failures) →
        ∀ lock ∈ s.locks, lock ≤ s.clock + (a.elapsed : Int)
  | _ => True

/-- The back-offs of the first `k` failures together. -/
def totalBackoff : Nat → Time
  | 0 => 0
  | k + 1 => totalBackoff k + failedAttemptBackoff (k + 1)

/-- From the first guess to the last one, the back-offs of all but the last one have passed. -/
def Spaced (guesses : List Time) : Prop :=
  ∀ first last, guesses.head? = some first → guesses.getLast? = some last →
    first + totalBackoff (guesses.length - 1) ≤ last

/-- The locks are waited for, and the wrong guesses after the step are spaced. -/
def BacksOff (s : Guessing ε) (a : GuessStep) : Prop := s.Waits a ∧ Spaced (s.step C a).wrong

theorem failedAttemptBackoff_mono (n : Nat) :
    failedAttemptBackoff n ≤ failedAttemptBackoff (n + 1) := by
  unfold failedAttemptBackoff
  rw [if_neg (Nat.succ_ne_zero n)]
  split
  · positivity
  · gcongr
    · norm_num
    · omega

/-! ## Runs that are serial -/

def FailureDue (s : Guessing ε) : Prop :=
  ∃ caller call, s.stageOf caller = some (.attempted call none)

/-- What a serial run keeps. The wrong guesses are those counted, and the one that is about to be;
the lock in force lasts at least as long as the back-offs so far, from the first wrong guess on. -/
structure Paced (s : Guessing ε) : Prop where
  /-- The lock in force is the last one to end. -/
  locked : ∀ lock ∈ s.locks, ∃ t, s.seeds.lockedUntil = some t ∧ lock ≤ t
  lock_le : ∀ t, s.seeds.lockedUntil = some t →
    t ≤ s.clock + failedAttemptBackoff s.seeds.failedAttempts
  /-- A caller may pass unless a failure has been reported since it looked. -/
  unlocked : ∀ caller call env, s.stageOf caller = some (.checked call env s.failures) →
    s.seeds.ensureUnlocked s.clock = true
  seen : ∀ caller call env failures,
    s.stageOf caller = some (.checked call env failures) → failures ≤ s.failures
  /-- One caller at most is about to report. -/
  single : ∀ caller other call call' plaintext plaintext',
    s.stageOf caller = some (.attempted call plaintext) →
    s.stageOf other = some (.attempted call' plaintext') → caller = other
  due : s.FailureDue → s.wrong.length = s.seeds.failedAttempts + 1
  counted : ¬ s.FailureDue → s.wrong.length = s.seeds.failedAttempts
  spaced : Spaced s.wrong
  past : ∀ last, s.wrong.getLast? = some last → last ≤ s.clock
  lasts : ∀ first, s.wrong.head? = some first → 0 < s.seeds.failedAttempts →
    ∃ t, s.seeds.lockedUntil = some t ∧ first + totalBackoff s.seeds.failedAttempts ≤ t

variable {C} {s}

theorem paced_start (envelope : Option ε) (clock : Time) : Paced (start envelope clock) where
  locked _ hlock := absurd hlock List.not_mem_nil
  lock_le _ ht := nomatch ht
  unlocked _ _ _ hget := nomatch hget
  seen _ _ _ _ hget := nomatch hget
  single _ _ _ _ _ _ hget := nomatch hget
  due := by
    rintro ⟨caller, call, hget⟩
    cases hget
  counted _ := rfl
  spaced _ _ hfirst := nomatch hfirst
  past _ hlast := nomatch hlast
  lasts _ hfirst := nomatch hfirst

theorem ensureUnlocked_mono {m : SeedManager ε} {t t' : Time} (h : m.ensureUnlocked t = true)
    (ht : t ≤ t') : m.ensureUnlocked t' = true := by
  grind [SeedManager.ensureUnlocked]

theorem Paced.advance (h : Paced s) (elapsed : Nat) : Paced (s.advance elapsed) := by
  have hlater : s.clock ≤ s.clock + (elapsed : Int) := Int.le_add_of_nonneg_right (by simp)
  exact
    { h with
      lock_le := fun t ht => le_trans (h.lock_le t ht) (Int.add_le_add_right hlater _)
      unlocked := fun caller call env hget =>
        ensureUnlocked_mono (h.unlocked caller call env hget) hlater
      past := fun last hlast => le_trans (h.past last hlast) hlater }

theorem stageOf_enter (caller x : Nat) (stage : Stage ε) :
    (s.enter caller stage).stageOf x = if caller = x then some stage else s.stageOf x :=
  get_insert s.callers caller x stage

theorem stageOf_leave (caller x : Nat) :
    (s.leave caller).stageOf x = if caller = x then none else s.stageOf x :=
  get_erase s.callers caller x

theorem attempted_of_leave {caller x : Nat} {call : PasswordCall} {plaintext : Option Bytes}
    (h : (s.leave caller).stageOf x = some (.attempted call plaintext)) :
    caller ≠ x ∧ s.stageOf x = some (.attempted call plaintext) := by
  grind [stageOf_leave]

theorem checked_of_leave {caller x : Nat} {call : PasswordCall} {env : ε} {failures : Nat}
    (h : (s.leave caller).stageOf x = some (.checked call env failures)) :
    s.stageOf x = some (.checked call env failures) := by
  grind [stageOf_leave]

/-- A caller that was refused has nothing to decrypt and nothing to report. -/
theorem act_of_stageOf_none {caller : Nat} (h : s.stageOf caller = none) (rand : Bytes) :
    (s.act C (.decrypt caller)).act C (.update caller rand) = s := by
  have hdecrypt : s.act C (.decrypt caller) = s := by simp only [act, h]
  rw [hdecrypt]
  simp only [act, h]

/-- The steps of a call that is let in, one after the other. -/
theorem act_of_enter (caller : Nat) (call : PasswordCall) (env : ε) (failures : Nat)
    (rand : Bytes) :
    ((s.enter caller (.checked call env failures)).act C (.decrypt caller)).act C
        (.update caller rand) =
      ((s.enter caller (.checked call env failures)).decrypt C caller call env).update C caller rand
        call (C.decryptSeed env call.guess) := by
  have hchecked : (s.enter caller (.checked call env failures)).stageOf caller =
      some (.checked call env failures) := by
    rw [stageOf_enter, if_pos rfl]
  have hdecrypt : (s.enter caller (.checked call env failures)).act C (.decrypt caller) =
      (s.enter caller (.checked call env failures)).decrypt C caller call env := by
    simp only [act, hchecked]
  have hattempted :
      ((s.enter caller (.checked call env failures)).decrypt C caller call env).stageOf caller =
        some (.attempted call (C.decryptSeed env call.guess)) := by
    have hget := stageOf_enter (s := s.enter caller (.checked call env failures)) caller caller
      (.attempted call (C.decryptSeed env call.guess))
    rw [if_pos rfl] at hget
    exact hget
  rw [hdecrypt]
  simp only [act, hattempted]

/-- A call of `Export` that runs alone. -/
theorem alone_exportSeed {caller : Nat} (h : s.stageOf caller = none) (seedPassword : String)
    (rand : Bytes) : (s.alone C caller (.exportSeed seedPassword) rand).seeds =
      (s.seeds.exportSeed C seedPassword s.clock).2 := by
  unfold alone Guessing.check SeedManager.exportSeed
  by_cases hgiven : trimSpace seedPassword = ""
  · rw [if_pos (.inr (.inl (not_not.mpr hgiven))), act_of_stageOf_none h, if_pos hgiven]
  · by_cases hlocked : s.seeds.ensureUnlocked s.clock = false
    · rw [if_pos (.inr (.inr hlocked)), act_of_stageOf_none h, if_neg hgiven, if_pos hlocked]
    · rw [if_neg (by simp [h, PasswordCall.Given, hgiven, hlocked]), if_neg hgiven,
        if_neg hlocked]
      cases henv : s.seeds.envelope with
      | none => exact congrArg Guessing.seeds (act_of_stageOf_none h rand)
      | some env =>
        simp only [act_of_enter, PasswordCall.guess]
        cases C.decryptSeed env seedPassword with
        | none => rfl
        | some mnemonic =>
          have hseeds : ∀ e, (if C.isMnemonicValid (trimSpaceBytes mnemonic) = true then
              ((Except.ok (trimSpaceBytes mnemonic) : Except SeedError Bytes),
                s.seeds.resetPasswordAttemptState)
            else (.error e, s.seeds.resetPasswordAttemptState)).2 =
              s.seeds.resetPasswordAttemptState := by
            intro e
            split <;> rfl
          exact (hseeds _).symm

/-- A call of `ChangePassword` that runs alone. -/
theorem alone_changePassword {caller : Nat} (h : s.stageOf caller = none)
    (oldSeedPassword newSeedPassword : String) (rand : Bytes) :
    (s.alone C caller (.changePassword oldSeedPassword newSeedPassword) rand).seeds =
      (s.seeds.changePassword C oldSeedPassword newSeedPassword rand s.clock).2 := by
  unfold alone Guessing.check SeedManager.changePassword
  dsimp only
  by_cases hgiven : trimSpace oldSeedPassword = "" ∨ trimSpace newSeedPassword = ""
  · rw [if_pos (.inr (.inl (by simpa [PasswordCall.Given, or_iff_not_imp_left] using hgiven))),
      act_of_stageOf_none h, if_pos hgiven]
  · by_cases hlocked : s.seeds.ensureUnlocked s.clock = false
    · rw [if_pos (.inr (.inr hlocked)), act_of_stageOf_none h, if_neg hgiven, if_pos hlocked]
    · rw [if_neg hgiven, if_neg hlocked, if_neg (by
        rw [not_or] at hgiven
        simp [h, PasswordCall.Given, hgiven.1, hgiven.2, hlocked])]
      cases henv : s.seeds.envelope with
      | none => exact congrArg Guessing.seeds (act_of_stageOf_none h rand)
      | some env =>
        simp only [act_of_enter, PasswordCall.guess]
        cases C.decryptSeed env (trimSpace oldSeedPassword) with
        | none => rfl
        | some mnemonic =>
          simp only [Guessing.update]
          cases C.encryptSeed rand mnemonic (trimSpace newSeedPassword) with
          | none => rfl
          | some env' => rfl

theorem check_cases (s : Guessing ε) (caller : Nat) (call : PasswordCall) :
    s.check caller call = s ∨ ∃ env, s.stageOf caller = none ∧
      s.seeds.ensureUnlocked s.clock = true ∧
      s.check caller call = s.enter caller (.checked call env s.failures) := by
  unfold check
  split
  · exact .inl rfl
  · rename_i hpass
    rw [not_or, not_or, Option.not_isSome_iff_eq_none, Bool.not_eq_false] at hpass
    grind

theorem Paced.check (h : Paced s) (caller : Nat) (call : PasswordCall) :
    Paced (s.check caller call) := by
  rcases s.check_cases caller call with heq | ⟨env, hnone, hunlocked, heq⟩
  · rw [heq]
    exact h
  rw [heq]
  -- nobody comes to be about to report
  have hattempted : ∀ x call' plaintext,
      (s.enter caller (.checked call env s.failures)).stageOf x =
        some (.attempted call' plaintext) ↔ s.stageOf x = some (.attempted call' plaintext) := by
    grind [stageOf_enter]
  have hdue : (s.enter caller (.checked call env s.failures)).FailureDue ↔ s.FailureDue :=
    exists_congr fun x => exists_congr fun call' => hattempted x call' none
  refine
    { locked := h.locked, lock_le := h.lock_le, unlocked := fun _ _ _ _ => hunlocked
      seen := ?_, single := ?_, due := fun hd => h.due (hdue.mp hd)
      counted := fun hd => h.counted fun hd' => hd (hdue.mpr hd')
      spaced := h.spaced, past := h.past, lasts := h.lasts }
  · intro x call' env' failures hget
    rw [stageOf_enter] at hget
    split at hget
    · cases hget
      exact le_rfl
    · exact h.seen x call' env' failures hget
  · intro x y call' call'' plaintext plaintext' hx hy
    exact h.single x y call' call'' plaintext plaintext' ((hattempted x _ _).mp hx)
      ((hattempted y _ _).mp hy)

theorem Paced.spaced_append (h : Paced s) (hdue : ¬ s.FailureDue)
    (hunlocked : s.seeds.ensureUnlocked s.clock = true) : Spaced (s.wrong ++ [s.clock]) := by
  intro first last hfirst hlast
  rw [List.getLast?_concat, Option.some.injEq] at hlast
  rw [List.length_append, List.length_singleton, Nat.add_sub_cancel, ← hlast]
  cases hwrong : s.wrong with
  | nil =>
    rw [hwrong] at hfirst
    cases hfirst
    exact le_of_eq (Int.add_zero _)
  | cons w rest =>
    have hcounted := h.counted hdue
    have hpos : 0 < s.seeds.failedAttempts := by
      rw [← hcounted, hwrong]
      exact Nat.succ_pos _
    have hhead : s.wrong.head? = some first := by
      rw [hwrong] at hfirst ⊢
      exact hfirst
    obtain ⟨t, ht, hle⟩ := h.lasts first hhead hpos
    have hover : t ≤ s.clock := by
      unfold SeedManager.ensureUnlocked at hunlocked
      rw [ht] at hunlocked
      exact of_decide_eq_true hunlocked
    rw [← hwrong, hcounted]
    exact le_trans hle hover

theorem Paced.decrypt (h : Paced s) {caller : Nat} {call : PasswordCall} {env : ε}
    (hget : s.stageOf caller = some (.checked call env s.failures))
    (halone : ∀ other call plaintext, s.stageOf other ≠ some (.attempted call plaintext)) :
    Paced (s.decrypt C caller call env) := by
  have hunlocked := h.unlocked caller call env hget
  have hquiet : ¬ s.FailureDue := by
    rintro ⟨other, call', hother⟩
    exact halone other call' none hother
  have hstage : ∀ x, (s.decrypt C caller call env).stageOf x =
      if caller = x then some (.attempted call (C.decryptSeed env call.guess)) else s.stageOf x :=
    fun x => stageOf_enter caller x _
  -- the caller is the only one about to report
  have honly : ∀ x call' plaintext,
      (s.decrypt C caller call env).stageOf x = some (.attempted call' plaintext) →
        caller = x ∧ plaintext = C.decryptSeed env call.guess := by
    grind
  have hchecked : ∀ x call' env' failures,
      (s.decrypt C caller call env).stageOf x = some (.checked call' env' failures) →
        s.stageOf x = some (.checked call' env' failures) := by
    grind
  have hseen : ∀ x call' env' failures, (s.decrypt C caller call env).stageOf x =
      some (.checked call' env' failures) → failures ≤ s.failures :=
    fun x call' env' failures hx => h.seen x call' env' failures (hchecked x call' env' failures hx)
  have hsingle : ∀ x y call' call'' plaintext plaintext',
      (s.decrypt C caller call env).stageOf x = some (.attempted call' plaintext) →
      (s.decrypt C caller call env).stageOf y = some (.attempted call'' plaintext') → x = y :=
    fun x y call' call'' plaintext plaintext' hx hy =>
      (honly x call' plaintext hx).1.symm.trans (honly y call'' plaintext' hy).1
  cases hplain : C.decryptSeed env call.guess with
  | none =>
    have hwrong : (s.decrypt C caller call env).wrong = s.wrong ++ [s.clock] := by
      simp [Guessing.decrypt, hplain]
    have hdue : (s.decrypt C caller call env).FailureDue :=
      ⟨caller, call, by rw [hstage, if_pos rfl, hplain]⟩
    refine
      { locked := h.locked, lock_le := h.lock_le, unlocked := fun _ _ _ _ => hunlocked
        seen := hseen, single := hsingle, due := ?_, counted := fun hno => absurd hdue hno
        spaced := ?_, past := ?_, lasts := ?_ }
    · intro _
      rw [hwrong, List.length_append, h.counted hquiet]
      rfl
    · rw [hwrong]
      exact h.spaced_append hquiet hunlocked
    · rw [hwrong]
      intro last hlast
      rw [List.getLast?_concat, Option.some.injEq] at hlast
      exact le_of_eq hlast.symm
    · rw [hwrong]
      intro first hfirst hpos
      -- a failure was counted, so this is not the first wrong guess
      have hne : s.wrong ≠ [] := by
        have hcounted := h.counted hquiet
        have hpos' : 0 < s.seeds.failedAttempts := hpos
        grind
      rw [List.head?_append_of_ne_nil _ hne] at hfirst
      exact h.lasts first hfirst hpos
  | some plaintext =>
    have hwrong : (s.decrypt C caller call env).wrong = s.wrong := by
      simp [Guessing.decrypt, hplain]
    have hdue : ¬ (s.decrypt C caller call env).FailureDue := by
      rintro ⟨x, call', hx⟩
      grind
    refine
      { locked := h.locked, lock_le := h.lock_le, unlocked := fun _ _ _ _ => hunlocked
        seen := hseen, single := hsingle, due := fun hd => absurd hd hdue, counted := fun _ => ?_
        spaced := ?_, past := ?_, lasts := ?_ }
    · rw [hwrong]
      exact h.counted hquiet
    · rw [hwrong]
      exact h.spaced
    · rw [hwrong]
      exact h.past
    · rw [hwrong]
      exact h.lasts

section Update

variable {caller : Nat} {call : PasswordCall}

theorem Paced.leave_quiet (h : Paced s) {plaintext : Option Bytes}
    (hget : s.stageOf caller = some (.attempted call plaintext)) (x : Nat) (call' : PasswordCall)
    (plaintext' : Option Bytes) :
    (s.leave caller).stageOf x ≠ some (.attempted call' plaintext') := by
  intro hx
  obtain ⟨hne, hx⟩ := attempted_of_leave hx
  exact hne (h.single caller x call call' plaintext plaintext' hget hx)

theorem Paced.fail (h : Paced s) (hget : s.stageOf caller = some (.attempted call none)) :
    Paced (s.fail caller) := by
  have hquiet := h.leave_quiet hget
  have hcount : s.wrong.length = s.seeds.failedAttempts + 1 := h.due ⟨caller, call, hget⟩
  have hmono := failedAttemptBackoff_mono s.seeds.failedAttempts
  refine
    { locked := ?_, lock_le := ?_, unlocked := ?_, seen := ?_, single := ?_, due := ?_
      counted := fun _ => hcount, spaced := h.spaced, past := h.past, lasts := ?_ }
  · intro lock hlock
    refine ⟨_, rfl, ?_⟩
    rcases List.mem_append.mp hlock with hlock | hlock
    · obtain ⟨t, ht, hle⟩ := h.locked lock hlock
      have hlimit := h.lock_le t ht
      calc lock ≤ t := hle
        _ ≤ s.clock + failedAttemptBackoff s.seeds.failedAttempts := hlimit
        _ ≤ s.clock + failedAttemptBackoff (s.seeds.failedAttempts + 1) :=
          Int.add_le_add_left hmono _
    · exact le_of_eq (List.mem_singleton.mp hlock)
  · intro t ht
    cases ht
    exact le_rfl
  · intro x call' env hx
    -- a caller that looked after this failure would be one from the future
    have hseen := h.seen x call' env _ (checked_of_leave hx)
    exact absurd hseen (Nat.not_succ_le_self _)
  · intro x call' env failures hx
    exact Nat.le_succ_of_le (h.seen x call' env failures (checked_of_leave hx))
  · intro x y call' call'' plaintext plaintext' hx
    exact absurd hx (hquiet x call' plaintext)
  · rintro ⟨x, call', hx⟩
    exact absurd hx (hquiet x call' none)
  · intro first hfirst _
    refine ⟨_, rfl, ?_⟩
    have hwrong : s.wrong.head? = some first := hfirst
    obtain ⟨last, hlast⟩ : ∃ last, s.wrong.getLast? = some last := by
      grind
    have hspaced := h.spaced first last hwrong hlast
    have hpast := h.past last hlast
    rw [hcount, Nat.add_sub_cancel] at hspaced
    calc first + totalBackoff (s.seeds.failedAttempts + 1)
        = first + totalBackoff s.seeds.failedAttempts +
            failedAttemptBackoff (s.seeds.failedAttempts + 1) := (Int.add_assoc _ _ _).symm
      _ ≤ s.clock + failedAttemptBackoff (s.seeds.failedAttempts + 1) :=
          Int.add_le_add_right (le_trans hspaced hpast) _

theorem Paced.succeed (h : Paced s) {mnemonic : Bytes}
    (hget : s.stageOf caller = some (.attempted call (some mnemonic))) (envelope : Option ε) :
    Paced (s.succeed caller envelope) := by
  have hquiet := h.leave_quiet hget
  exact
    { locked := fun lock hlock => absurd hlock List.not_mem_nil
      lock_le := fun t ht => nomatch ht
      unlocked := fun _ _ _ _ => rfl
      seen := fun x call' env failures hx => h.seen x call' env failures (checked_of_leave hx)
      single := fun x _ call' _ plaintext _ hx => absurd hx (hquiet x call' plaintext)
      due := fun hdue => by
        obtain ⟨x, call', hx⟩ := hdue
        exact absurd hx (hquiet x call' none)
      counted := fun _ => rfl
      spaced := fun _ _ hfirst => nomatch hfirst
      past := fun _ hlast => nomatch hlast
      lasts := fun _ hfirst => nomatch hfirst }

theorem Paced.leave (h : Paced s) {mnemonic : Bytes}
    (hget : s.stageOf caller = some (.attempted call (some mnemonic))) :
    Paced (s.leave caller) := by
  have hquiet := h.leave_quiet hget
  have hdue : ¬ s.FailureDue := by
    rintro ⟨x, call', hx⟩
    have hsame := h.single caller x call call' _ _ hget hx
    rw [hsame, hx] at hget
    cases hget
  exact
    { locked := h.locked, lock_le := h.lock_le
      unlocked := fun x call' env hx => h.unlocked x call' env (checked_of_leave hx)
      seen := fun x call' env failures hx => h.seen x call' env failures (checked_of_leave hx)
      single := fun x _ call' _ plaintext _ hx => absurd hx (hquiet x call' plaintext)
      due := fun hdue => by
        obtain ⟨x, call', hx⟩ := hdue
        exact absurd hx (hquiet x call' none)
      counted := fun _ => h.counted hdue
      spaced := h.spaced, past := h.past, lasts := h.lasts }

theorem Paced.update (h : Paced s) {plaintext : Option Bytes}
    (hget : s.stageOf caller = some (.attempted call plaintext)) (rand : Bytes) :
    Paced (s.update C caller rand call plaintext) := by
  cases plaintext with
  | none =>
    cases call with
    | exportSeed | changePassword => exact h.fail hget
  | some mnemonic =>
    cases call with
    | exportSeed seedPassword => exact h.succeed hget _
    | changePassword oldSeedPassword newSeedPassword =>
      grind [Guessing.update, leave, succeed]

end Update

theorem Paced.step (h : Paced s) {a : GuessStep} (hserial : s.Serial a) :
    Paced (s.step C a) ∧ s.BacksOff C a := by
  have hlater := h.advance a.elapsed
  have hpaced : Paced (s.step C a) := by
    obtain ⟨elapsed, action⟩ := a
    cases action with
    | check caller call => exact hlater.check caller call
    | decrypt caller =>
      simp only [Guessing.step, act]
      split
      · rename_i call env failures hget
        obtain ⟨hsame, halone⟩ := hserial call env failures hget
        rw [hsame] at hget
        exact hlater.decrypt hget halone
      · exact hlater
    | update caller rand =>
      grind [Guessing.step, act, update]
  refine ⟨hpaced, ?_, hpaced.spaced⟩
  obtain ⟨elapsed, action⟩ := a
  cases action with
  | check | update => trivial
  | decrypt caller =>
    intro call env failures hget lock hlock
    obtain ⟨hsame, -⟩ := hserial call env failures hget
    rw [hsame] at hget
    have hunlocked := hlater.unlocked caller call env hget
    obtain ⟨t, ht, hle⟩ := h.locked lock hlock
    have hseeds : (s.advance elapsed).seeds.lockedUntil = some t := ht
    unfold SeedManager.ensureUnlocked at hunlocked
    rw [hseeds] at hunlocked
    exact le_trans hle (of_decide_eq_true hunlocked)

end Guessing

/-- In every run in which callers decrypt one at a time, and none with a check that a failure has
overtaken, no caller decrypts before the locks are over, and wrong guesses are as far apart as the
back-offs say. -/
theorem guesses_back_off {ε : Type} (C : SeedCrypto ε) (envelope : Option ε) (clock : Time)
    (steps : List GuessStep)
    (hserial : Along (Guessing.step C) Guessing.Serial (Guessing.start envelope clock) steps) :
    Along (Guessing.step C) (Guessing.BacksOff C) (Guessing.start envelope clock) steps :=
  along_of_inv (I := Guessing.Paced) (fun _ _ hs ha => hs.step ha)
    (Guessing.paced_start envelope clock) hserial

/-- A seed encrypted under the password `secret`. -/
def sealedSeed : Guessing Bytes := Guessing.start (some (bytesOf "secret")) 0

/-- Two callers look before either has guessed. The first one fails, and the second one decrypts
although attempts are locked. -/
def sideBySide : List GuessStep :=
  [⟨0, .check 1 (.exportSeed "wrong")⟩, ⟨0, .check 2 (.exportSeed "worse")⟩, ⟨0, .decrypt 1⟩,
    ⟨0, .update 1 []⟩, ⟨0, .decrypt 2⟩]

theorem guess_while_locked :
    ¬ Along (Guessing.step sampleSeedCrypto) (Guessing.BacksOff sampleSeedCrypto) sealedSeed
      sideBySide := by
  rintro ⟨-, -, -, -, ⟨hwaits, -⟩, -⟩
  have hover := hwaits (.exportSeed "worse") (bytesOf "secret") 0 rfl 1000000000
    List.mem_cons_self
  exact absurd hover (by decide)

def oneByOne : List GuessStep :=
  [⟨0, .check 1 (.exportSeed "wrong")⟩, ⟨0, .decrypt 1⟩, ⟨0, .update 1 []⟩,
    ⟨1000000000, .check 2 (.exportSeed "worse")⟩, ⟨0, .decrypt 2⟩]

theorem not_attempted_of_only {ε : Type} {s : Guessing ε} {caller : Nat} {call : PasswordCall}
    {env : ε} {failures : Nat} (h : s.callers.toList = [(caller, .checked call env failures)])
    (other : Nat) (call' : PasswordCall) (plaintext : Option Bytes) :
    s.stageOf other ≠ some (.attempted call' plaintext) := by
  intro hother
  have hmem := (lists_toList s.callers other _).mpr hother
  simp_all

theorem oneByOne_backs_off :
    Along (Guessing.step sampleSeedCrypto) Guessing.Serial sealedSeed oneByOne ∧
      Along (Guessing.step sampleSeedCrypto) (Guessing.BacksOff sampleSeedCrypto) sealedSeed
        oneByOne := by
  have hserial : Along (Guessing.step sampleSeedCrypto) Guessing.Serial sealedSeed oneByOne := by
    refine ⟨trivial, ?_, trivial, trivial, ?_, trivial⟩
    · intro call env failures hget
      cases hget
      exact ⟨rfl, not_attempted_of_only rfl⟩
    · intro call env failures hget
      cases hget
      exact ⟨rfl, not_attempted_of_only rfl⟩
  exact ⟨hserial, guesses_back_off sampleSeedCrypto (some (bytesOf "secret")) 0 oneByOne hserial⟩

end Ardents.Identity
