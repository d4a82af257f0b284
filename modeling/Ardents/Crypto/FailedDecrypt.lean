import Ardents.Crypto.Process

/-!
# A failed `Decrypt`

`Decrypt` derives keys into the session's map before it has authenticated anything. Over a
persisting store the map is its own copy, and a failed call leaves no trace unless the write
itself fails. Over a store in memory the map is the stored one.
-/

namespace Ardents.Crypto

open Go

section

variable {ι : Type} {P : Primitives} {codec : SessionCodec ι} {w : Process ι} {io : StoreIO ι}
  {c : String} {env : MessageEnvelope} {now : Time}

variable (P codec) in
/--
What it takes for a failed call to leave no trace. Over a store in memory: no key
on the way to the envelope's index may be missing. Over a file: if the envelope opens
and the write fails, the path must still hold the same sessions.
-/
def Process.Undisturbed (w : Process ι) (c : String) (env : MessageEnvelope) (io : StoreIO ι) :
    Prop :=
  validateEnvelope env = .ok () → ∀ st, w.view codec c = .ok (some st) →
    if w.store.persisting then
      ∀ left, io.getReads = true → io.saveReads = true → io.failedWrite = some left →
        Opens P st env → ∀ c', (w.withFile left).view codec c' = w.view codec c'
    else ¬ DerivesKeys P st env

theorem deref_of_read {h : Heap SkippedKeys} {st : StoredSession} {r : Ref} {keys : SkippedKeys}
    (hr : st.skippedKeys = some r) (hk : h.read r = some keys) : deref h st = st.withKeys keys := by
  grind [deref]

theorem Process.Sound.view_update (h : w.Sound) (hp : w.store.persisting = false)
    {st : StoredSession} {r : Ref} {keys : SkippedKeys} (hm : w.store.memory[c]? = some st)
    (hr : st.skippedKeys = some r) (hk : w.heap.read r = some keys) {st' : StoredSession}
    (hr' : st'.skippedKeys = some r) (keys' : SkippedKeys) (c' : String) :
    (Process.mk (w.heap.write r keys') (w.store.setMemory (w.store.memory.insert c st'))).view
        codec c' =
      if c = c' then .ok (some (st'.withKeys keys')) else w.view codec c' := by
  have hp' : (w.store.setMemory (w.store.memory.insert c st')).persisting = false := by
    simp_all
  rw [Process.view_aliasing (w := ⟨w.heap.write r keys',
      w.store.setMemory (w.store.memory.insert c st')⟩) hp', Process.view_aliasing hp,
    ProvidedStore.memory_setMemory, get_insert]
  by_cases hc : c = c'
  · rw [if_pos hc, if_pos hc]
    exact congrArg (fun x => Except.ok (some x))
      (deref_of_read hr' (Heap.read_write_self (Heap.valid_of_read hk) keys'))
  · rw [if_neg hc, if_neg hc]
    cases hm' : w.store.memory[c']? with
    | none => rfl
    | some st₁ =>
      obtain ⟨q, qkeys, hq, hqk, -⟩ := h.owned c' st₁ hm'
      have hne : r ≠ q := by
        rintro rfl
        exact hc (h.apart c c' st st₁ hm hm' (hr.trans hq.symm))
      simp_all [deref_of_read, Heap.read_write_ne]

theorem Process.Sound.view_write (h : w.Sound) (hp : w.store.persisting = false)
    {st : StoredSession} {r : Ref} {keys : SkippedKeys} (hm : w.store.memory[c]? = some st)
    (hr : st.skippedKeys = some r) (hk : w.heap.read r = some keys) (keys' : SkippedKeys)
    (c' : String) : (Process.mk (w.heap.write r keys') w.store).view codec c' =
      if c = c' then .ok (some (st.withKeys keys')) else w.view codec c' := by
  rw [← h.view_update hp hm hr hk hr keys' c', insert_eq_self hm, ProvidedStore.setMemory_memory]

theorem SessionRecord.withKeys_inj {K L : Type} {st : SessionRecord K} {a b : L}
    (h : st.withKeys a = st.withKeys b) : a = b :=
  congrArg SessionRecord.skippedKeys h

theorem Process.Sound.failed_aliasing (h : w.Sound) (hp : w.store.persisting = false)
    (hv : validateEnvelope env = .ok ()) {w' : Process ι} {e : SessionError}
    (hfail : w.decrypt P codec c env now io = (w', .error e)) :
    (∀ c', w'.view codec c' = w.view codec c') ↔
      ∀ st, w.view codec c = .ok (some st) → ¬ DerivesKeys P st env := by
  cases hm : w.store.memory[c]? with
  | none =>
    simp only [Process.decrypt, hv, Process.get_aliasing hp, hm] at hfail
    obtain ⟨rfl, -⟩ := Prod.mk.inj hfail
    refine iff_of_true (fun _ => rfl) fun st hst => ?_
    rw [Process.view_aliasing hp, hm] at hst
    exact absurd hst (by simp)
  | some st =>
    obtain ⟨r, keys, hr, hk, hb⟩ := h.owned c st hm
    rw [Process.decrypt_aliasing hp hv hm hr hk] at hfail
    have hview : w.view codec c = .ok (some (st.withKeys keys)) := by
      rw [Process.view_aliasing hp, hm, Option.map_some, deref_of_read hr hk]
    cases hbody : (decryptState P (st.withKeys keys) env now).2 with
    | ok res =>
      simp_all
    | error e' =>
      rw [hbody] at hfail
      obtain ⟨rfl, -⟩ := Prod.mk.inj hfail
      rw [hview]
      simp only [Except.ok.injEq, Option.some.injEq, forall_eq']
      rw [← (decryptState_error hb hbody).2]
      simp only [h.view_write hp hm hr hk]
      constructor
      · intro hall
        have hc := hall c
        rw [if_pos rfl, hview] at hc
        exact SessionRecord.withKeys_inj (Option.some.inj (Except.ok.inj hc))
      · intro hkeys c'
        split
        · rename_i hc
          rw [hkeys, ← hc, hview]
          rfl
        · rfl

theorem Process.failed_persisting {heap : Heap SkippedKeys} {s : FileSessionStore (Option Ref) ι}
    (hp : s.persist = true) (hv : validateEnvelope env = .ok ()) {w' : Process ι} {e : SessionError}
    (hfail : (Process.mk heap (.file s)).decrypt P codec c env now io = (w', .error e)) :
    (∀ c', w'.view codec c' = (Process.mk heap (.file s)).view codec c') ↔
      ∀ st, (Process.mk heap (.file s)).view codec c = .ok (some st) →
        ∀ left, io.getReads = true → io.saveReads = true → io.failedWrite = some left →
          Opens P st env → ∀ c', (Process.mk heap (.file { s with file := left })).view codec c'
            = (Process.mk heap (.file s)).view codec c' := by
  rw [Process.decrypt_persisting hp hv] at hfail
  simp only [Process.view_persisting hp]
  split at hfail
  · grind [Process.view_persisting]
  split at hfail
  · rename_i e' hload
    obtain ⟨rfl, -⟩ := Prod.mk.inj hfail
    refine iff_of_true (fun c' => Process.view_persisting hp c') fun st hst => ?_
    rw [hload] at hst
    exact absurd hst (by simp [Except.map])
  rename_i all hload
  split at hfail
  · rename_i hnone
    obtain ⟨rfl, -⟩ := Prod.mk.inj hfail
    refine iff_of_true (fun c' => Process.view_persisting hp c') fun st hst => ?_
    rw [hload] at hst
    exact absurd hst (by simp [Except.map, hnone])
  rename_i st₀ hsome
  -- the session `Get` would return is the one the body worked on
  have hview : ∀ st, ((s.loadAll codec).map fun all => all[c]?) = .ok (some st) → st = st₀ := by
    intro st hst
    rw [hload] at hst
    exact Option.some.inj ((Except.ok.inj hst).symm.trans hsome)
  split at hfail
  · rename_i e' hbody
    obtain ⟨rfl, -⟩ := Prod.mk.inj hfail
    refine iff_of_true (fun c' => Process.view_persisting hp c') ?_
    intro st hst left _ _ _ hopens
    rw [hview st hst] at hopens
    obtain ⟨r, hr⟩ : ∃ r, (decryptState P st₀ env now).2 = .ok r :=
      decryptState_opens_iff.mpr hopens
    rw [hbody] at hr
    exact absurd hr (by simp)
  rename_i st' plaintext hbody
  split at hfail
  · rename_i hreads
    obtain ⟨rfl, -⟩ := Prod.mk.inj hfail
    refine iff_of_true (fun c' => Process.view_persisting hp c') ?_
    intro st _ left _ hs
    exact absurd hs (by rw [hreads]; simp)
  rename_i hsave
  split at hfail
  · rename_i left hleft
    obtain ⟨rfl, -⟩ := Prod.mk.inj hfail
    have hp' : ({ s with file := left } : FileSessionStore (Option Ref) ι).persist = true := hp
    constructor
    · intro hall st _ left' _ _ hleft' _ c'
      obtain rfl := Option.some.inj (hleft.symm.trans hleft')
      rw [← hall c', Process.view_persisting hp', Process.view_persisting hp']
    · intro hall c'
      have hst₀ : ((s.loadAll codec).map fun all => all[c]?) = .ok (some st₀) := by
        rw [hload]
        exact congrArg Except.ok hsome
      rw [← hall st₀ hst₀ left (by simpa using ‹¬ io.getReads = false›) (by simpa using hsave)
        hleft (decryptState_opens_iff.mp ⟨_, hbody⟩) c', Process.view_persisting hp',
        Process.view_persisting hp']
  · exact absurd (congrArg Prod.snd hfail) (by simp)

/--
**A failed `Decrypt` changes what `Get` returns exactly when it got as far as
deriving keys over a store in memory, or lost the file to a failed write.**
-/
theorem Process.failed_decrypt_iff {start : Process ι} (hstart : start.Started)
    {ops : List (ManagerCall ι)} (hrun : run (Process.call P codec) start ops = w)
    {w' : Process ι} {e : SessionError} (hfail : w.decrypt P codec c env now io = (w', .error e)) :
    (∀ c', w'.view codec c' = w.view codec c') ↔ w.Undisturbed P codec c env io := by
  have h : w.Sound := hrun ▸ hstart.sound_run ops
  unfold Process.Undisturbed
  cases hv : validateEnvelope env with
  | error e' =>
    grind [Process.decrypt]
  | ok u =>
    cases hp : w.store.persisting with
    | false =>
      simp only [Bool.false_eq_true, if_false, forall_const]
      exact h.failed_aliasing hp hv hfail
    | true =>
      simp only [if_true, forall_const]
      obtain ⟨heap, store⟩ := w
      cases store with
      | inMemory sessions => exact absurd hp (by simp [ProvidedStore.persisting])
      | file s => exact Process.failed_persisting hp hv hfail

end

def calmIO {ι : Type} : StoreIO ι := { getReads := true, saveReads := true, failedWrite := none }

def forgedEnvelope : MessageEnvelope := { firstEnvelope "alice" "bob" [] with chainIndex := 3 }

/-- Bob refuses the forged envelope and has three more keys on file than before. -/
theorem Process.forged_envelope_leaves_keys :
    let w := run (Process.call transparent plainCodec) ⟨Heap.empty, .inMemory ∅⟩
      [.initSession "bob" "alice" sampleKey 0 calmIO]
    let r := w.decrypt transparent plainCodec "alice" forgedEnvelope 0 calmIO
    r.2.toOption = none ∧ r.1.view plainCodec "alice" ≠ w.view plainCodec "alice" := by
  intro w r
  refine ⟨by decide +kernel, fun h => ?_⟩
  have hsize := congrArg (fun v => v.toOption.map (Option.map (·.skippedKeys.size))) h
  exact absurd hsize (by decide +kernel)

/-- The same envelope with its own index and another body: refused, and nothing to show for it. -/
theorem Process.forged_next_leaves_nothing :
    let w := run (Process.call transparent plainCodec) ⟨Heap.empty, .inMemory ∅⟩
      [.initSession "bob" "alice" sampleKey 0 calmIO]
    let forged := { firstEnvelope "alice" "bob" [] with ciphertext := [1] }
    let r := w.decrypt transparent plainCodec "alice" forged 0 calmIO
    r.2.toOption = none ∧ ∀ c', r.1.view plainCodec c' = w.view plainCodec c' := by
  intro w forged r
  have hnone : r.2.toOption = none := by decide
  refine ⟨hnone, ?_⟩
  cases hr : r.2 with
  | ok pt =>
    rw [hr] at hnone
    exact absurd hnone (by simp [Except.toOption])
  | error e =>
    refine (Process.failed_decrypt_iff .inMemory rfl (Prod.ext rfl hr)).mpr ?_
    intro _ st _
    rintro ⟨-, -, j, -, hlt, -⟩
    have h := UInt64.lt_iff_toNat_lt.mp hlt
    exact absurd h (Nat.not_lt_zero _)

end Ardents.Crypto
