import Ardents.Crypto.SessionManager

/-!
# Concurrent senders

`Encrypt` reads a session, moves its send index on and saves it. Each of the two store calls is
atomic, the pair is not. Any number of calls for one contact run against one store, interleaved at
that granularity.
-/

namespace Ardents.Crypto

open Go
open LawfulSessionStore

/-- An `Encrypt` between its `Get` and its `Save`: what it will save and return. -/
structure EncryptCall where
  st : SessionState
  env : MessageEnvelope
  /-- How many envelopes had been returned when it read the session. -/
  readAt : Nat

inductive EncryptEvent where
  | get (call : Nat) (plaintext : Bytes) (inp : EncryptInputs)
  | save (call : Nat)
  | saveFails (call : Nat)

/-- The store, the calls under way, and the envelopes returned, oldest first. -/
structure Senders (σ : Type) where
  store : σ
  pending : GoMap Nat EncryptCall
  returned : List MessageEnvelope

section

variable (P : Primitives) {σ : Type} [SessionStore σ]

def Senders.step (c : String) (w : Senders σ) : EncryptEvent → Senders σ
  | .get k plaintext inp =>
    if k ∈ w.pending then w
    else
      match SessionStore.get w.store c with
      | .error _ => w
      | .ok none => w
      | .ok (some st) =>
        match encryptState P st plaintext inp with
        | .error _ => w
        | .ok (st', env) =>
          { w with pending := w.pending.insert k ⟨st', env, w.returned.length⟩ }
  | .save k =>
    match w.pending[k]? with
    | none => w
    | some call =>
      match SessionStore.save w.store call.st with
      | .error _ => { w with pending := w.pending.erase k }
      | .ok s' =>
        { store := s', pending := w.pending.erase k, returned := w.returned ++ [call.env] }
  | .saveFails k => { w with pending := w.pending.erase k }

/-- A `Save` finds the session as its own call read it: nothing was saved in between. -/
def TakesTurn (w : Senders σ) : EncryptEvent → Prop
  | .save k => ∀ call ∈ w.pending[k]?, call.readAt = w.returned.length
  | _ => True

instance (w : Senders σ) : ∀ ev, Decidable (TakesTurn w ev)
  | .save k => inferInstanceAs (Decidable (∀ call ∈ w.pending[k]?, _))
  | .get _ _ _ => isTrue trivial
  | .saveFails _ => isTrue trivial

/-- Indexes handed out one by one from `i₀` on. -/
structure Senders.InTurn (c : String) (i₀ : UInt64) (w : Senders σ) : Prop where
  current : ∃ st, SessionStore.get w.store c = .ok (some st) ∧
    st.sendChainIndex = i₀ + UInt64.ofNat w.returned.length
  returned : ∀ n env, w.returned[n]? = some env → env.chainIndex = i₀ + UInt64.ofNat n
  /-- A call under way holds the index current when it read. -/
  pending : ∀ (k : Nat) (call : EncryptCall), w.pending[k]? = some call →
    call.readAt ≤ w.returned.length ∧ call.st.contactID = c ∧
    call.env.chainIndex = i₀ + UInt64.ofNat call.readAt ∧
    call.st.sendChainIndex = i₀ + UInt64.ofNat (call.readAt + 1)

variable {P} {c : String} {i₀ : UInt64} {w : Senders σ}

omit [SessionStore σ] in
theorem pending_erase {k k' : Nat} {call : EncryptCall}
    (h : (w.pending.erase k)[k']? = some call) : w.pending[k']? = some call := by
  grind

variable [LawfulSessionStore σ]

theorem Senders.InTurn.get (h : w.InTurn c i₀) (k : Nat) (plaintext : Bytes)
    (inp : EncryptInputs) : (w.step P c (.get k plaintext inp)).InTurn c i₀ := by
  obtain ⟨st, hst, hidx⟩ := h.current
  have hcid : st.contactID = c := get_contactID hst
  simp only [Senders.step, hst, encryptState_eq]
  split
  · exact h
  cases inp.nonce with
  | none => exact h
  | some nonce =>
    refine ⟨h.current, h.returned, fun k' call hcall => ?_⟩
    rw [get_insert] at hcall
    split at hcall
    · obtain rfl := Option.some.inj hcall
      refine ⟨Nat.le_refl _, hcid, hidx, ?_⟩
      show st.sendChainIndex + 1 = _
      rw [hidx, UInt64.ofNat_add, ← UInt64.add_assoc]
      rfl
    · exact h.pending k' call hcall

theorem Senders.InTurn.save (h : w.InTurn c i₀) {k : Nat} (hturn : TakesTurn w (.save k)) :
    (w.step P c (.save k)).InTurn c i₀ := by
  simp only [Senders.step]
  cases hcall : w.pending[k]? with
  | none => exact h
  | some call =>
    obtain ⟨hle, hcid, henv, hnext⟩ := h.pending k call hcall
    have hread : call.readAt = w.returned.length := hturn call hcall
    obtain ⟨s', hs⟩ := save_ok w.store call.st
    simp only [hs]
    refine ⟨⟨call.st, ?_, ?_⟩, ?_, ?_⟩
    · exact (get_save c hs).trans (if_pos hcid)
    · simp_all
    · intro n env hn
      rcases Nat.lt_trichotomy n w.returned.length with hlt | heq | hgt
      · rw [List.getElem?_append_left hlt] at hn
        exact h.returned n env hn
      · simp_all
      · simp_all
    · intro k' call' hcall'
      obtain ⟨h1, h2⟩ := h.pending k' call' (pending_erase hcall')
      refine ⟨?_, h2⟩
      rw [List.length_append]
      omega

theorem Senders.InTurn.step (h : w.InTurn c i₀) (ev : EncryptEvent) (hturn : TakesTurn w ev) :
    (w.step P c ev).InTurn c i₀ := by
  cases ev with
  | get k plaintext inp => exact h.get k plaintext inp
  | save k => exact h.save hturn
  | saveFails k =>
    exact ⟨h.current, h.returned, fun k' call hc => h.pending k' call (pending_erase hc)⟩

theorem Senders.InTurn.run (h : w.InTurn c i₀) {evs : List EncryptEvent}
    (hturns : Along (Senders.step P c) TakesTurn w evs) :
    (run (Senders.step P c) w evs).InTurn c i₀ :=
  along_run (I := Senders.InTurn c i₀) (fun _ ev hv hev => hv.step ev hev) h hturns

omit [LawfulSessionStore σ] in
theorem Senders.returned_step (w : Senders σ) (ev : EncryptEvent) :
    w.returned <+: (w.step P c ev).returned := by
  cases ev with
  | get | save =>
    grind [Senders.step]
  | saveFails k => exact List.prefix_refl _

omit [LawfulSessionStore σ] in
theorem Senders.returned_run (w : Senders σ) (evs : List EncryptEvent) :
    w.returned <+: (run (Senders.step P c) w evs).returned := by
  induction evs generalizing w with
  | nil => exact List.prefix_refl _
  | cons ev evs ih => exact (w.returned_step ev).trans (ih _)

theorem toNat_offset {i : UInt64} {n : Nat} (h : i.toNat + n < 2 ^ 64) :
    (i + UInt64.ofNat n).toNat = i.toNat + n := by
  simp_all

omit [LawfulSessionStore σ] in
theorem Senders.InTurn.nodup (h : w.InTurn c i₀)
    (hlen : i₀.toNat + w.returned.length < 2 ^ 64) : (w.returned.map (·.chainIndex)).Nodup := by
  rw [List.nodup_iff_getElem?_ne_getElem?]
  intro m n hmn hn heq
  rw [List.length_map] at hn
  have hm : m < w.returned.length := by omega
  rw [List.getElem?_map, List.getElem?_map, List.getElem?_eq_getElem hm,
    List.getElem?_eq_getElem hn, Option.map_some, Option.map_some] at heq
  have hidx := congrArg UInt64.toNat (Option.some.inj heq)
  rw [h.returned m _ (List.getElem?_eq_getElem hm), h.returned n _ (List.getElem?_eq_getElem hn),
    toNat_offset (by omega), toNat_offset (by omega)] at hidx
  omega

theorem Senders.InTurn.stale_save (h : w.InTurn c i₀) {ev : EncryptEvent}
    (hturn : ¬ TakesTurn w ev) : ¬ ((w.step P c ev).returned.map (·.chainIndex)).Nodup := by
  cases ev with
  | get | saveFails => exact absurd trivial hturn
  | save k =>
    simp only [TakesTurn, not_forall] at hturn
    obtain ⟨call, hcall, hread⟩ := hturn
    rw [Option.mem_def] at hcall
    obtain ⟨hle, -, henv, -⟩ := h.pending k call hcall
    obtain ⟨s', hs⟩ := save_ok w.store call.st
    simp only [Senders.step, hcall, hs, List.map_append, List.map_cons, List.map_nil]
    intro hnodup
    have hlt : call.readAt < w.returned.length := by omega
    -- the envelope returned at position `readAt` has this very index
    have hmem : call.env.chainIndex ∈ w.returned.map (·.chainIndex) := by
      refine List.mem_map.mpr ⟨w.returned[call.readAt], List.getElem_mem hlt, ?_⟩
      rw [henv]
      exact h.returned call.readAt _ (List.getElem?_eq_getElem hlt)
    exact (List.nodup_append.mp hnodup).2.2 _ hmem _ (List.mem_singleton.mpr rfl) rfl

/--
**Concurrent senders.** The envelopes returned carry different indexes and the
send index has grown by their number exactly when every `Save` was in turn and the
index did not run out.
-/
theorem concurrent_encrypt_iff {s : σ} {st₀ : SessionState}
    (hget : SessionStore.get s c = .ok (some st₀)) (sched : List EncryptEvent) :
    let w := run (Senders.step P c) ⟨s, ∅, []⟩ sched
    ((w.returned.map (·.chainIndex)).Nodup ∧
      ∃ st, SessionStore.get w.store c = .ok (some st) ∧
        st.sendChainIndex.toNat = st₀.sendChainIndex.toNat + w.returned.length) ↔
    (Along (Senders.step P c) TakesTurn ⟨s, ∅, []⟩ sched ∧
      st₀.sendChainIndex.toNat + w.returned.length < 2 ^ 64) := by
  intro w
  have hstart : (Senders.mk s ∅ []).InTurn c st₀.sendChainIndex := by
    refine ⟨⟨st₀, hget, (UInt64.add_zero _).symm⟩, fun n env hn => ?_, fun k call hk => ?_⟩
    · exact absurd hn (by simp)
    · simp_all
  constructor
  · rintro ⟨hnodup, st, -, hgrown⟩
    have hlt : st₀.sendChainIndex.toNat + w.returned.length < 2 ^ 64 := by
      rw [← hgrown]
      exact st.sendChainIndex.toNat_lt
    refine ⟨?_, hlt⟩
    by_contra hnot
    -- the first save out of turn already repeats an index, and nothing is ever taken back
    obtain ⟨pre, ev, post, hsched, hpre, hev⟩ := exists_first_of_not_along hnot
    refine (hstart.run hpre).stale_save (P := P) hev ?_
    grind [Senders.returned_run, run_cons, run_append]
  · rintro ⟨halong, hlt⟩
    have hturn := hstart.run halong
    refine ⟨hturn.nodup hlt, ?_⟩
    obtain ⟨st, hst, hidx⟩ := hturn.current
    exact ⟨st, hst, by rw [hidx, toNat_offset hlt]⟩

end

def overlapping : List EncryptEvent :=
  [.get 1 [1] sampleInputs, .get 2 [2] sampleInputs, .save 1, .save 2]

/-- Two calls that both read before either saves are given one index between them. -/
theorem overlapping_share_index :
    let w := run (Senders.step transparent "bob") ⟨sampleStore "alice" "bob", ∅, []⟩ overlapping
    w.returned.map (·.chainIndex) = [0, 0] ∧
      (SessionStore.get w.store "bob").toOption.map (Option.map (·.sendChainIndex))
        = some (some 1) := by
  decide

/-- The same two calls one after the other. -/
theorem consecutive_differ :
    let w := run (Senders.step transparent "bob") ⟨sampleStore "alice" "bob", ∅, []⟩
      [.get 1 [1] sampleInputs, .save 1, .get 2 [2] sampleInputs, .save 2]
    (w.returned.map (·.chainIndex)).Nodup ∧
      ∃ st, SessionStore.get w.store "bob" = .ok (some st) ∧
        st.sendChainIndex.toNat = 0 + w.returned.length := by
  exact (concurrent_encrypt_iff (get_sampleStore "alice" "bob") _).mpr
    ⟨by decide, by decide⟩

end Ardents.Crypto
