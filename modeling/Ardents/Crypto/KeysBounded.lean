import Ardents.Crypto.SessionManager

/-!
# Keys on file while forged envelopes arrive

Over a store that shares its maps, a `Decrypt` that fails may already have filed keys ahead of the
receive index. They stay close to it, so pruning never has to make room, and what a failed call
did to the map can be said exactly.
-/

namespace Ardents.Crypto

open Go

/-- Every index on file is at most a gap away from `recv`, on either side. The last
case is what a wrapped receive index leaves behind. -/
def KeysBounded (recv : UInt64) (keys : SkippedKeys) : Prop :=
  ∀ j ∈ keys, j.toNat + 512 < 2 ^ 64 ∧ recv.toNat ≤ j.toNat + 512 ∧
    (j.toNat < recv.toNat + 512 ∨ 2 ^ 64 ≤ j.toNat + 1025)

theorem keysBounded_empty (recv : UInt64) : KeysBounded recv ∅ := by
  intro j hj
  exact absurd hj Std.ExtTreeMap.not_mem_empty

section

variable {P : Primitives} {st st' : SessionState} {env : MessageEnvelope} {now : Time}

def nearby (recv : UInt64) : Finset Nat :=
  Finset.Ico (recv.toNat - 512) (recv.toNat + 512) ∪ Finset.Ico (2 ^ 64 - 1025) (2 ^ 64 - 512)

theorem KeysBounded.mem_nearby {recv : UInt64} {keys : SkippedKeys} (h : KeysBounded recv keys) :
    ∀ j ∈ keys, j.toNat ∈ nearby recv := by
  intro j hj
  obtain ⟨h1, h2, h3⟩ := h j hj
  grind [nearby]

theorem Ico_subset_nearby (recv : UInt64) :
    Finset.Ico recv.toNat (recv.toNat + 512) ⊆ nearby recv :=
  (Finset.Ico_subset_Ico (Nat.sub_le _ _) (Nat.le_refl _)).trans Finset.subset_union_left

theorem nearby_card (recv : UInt64) : (nearby recv).card ≤ maxSkippedMessageKey := by
  refine (Finset.card_union_le _ _).trans ?_
  rw [Nat.card_Ico, Nat.card_Ico, maxSkippedMessageKey]
  omega

theorem KeysBounded.not_stale {recv : UInt64} {keys : SkippedKeys} (h : KeysBounded recv keys)
    {j : UInt64} (hj : j ∈ keys) : ¬ Stale j recv := by
  obtain ⟨h1, h2, -⟩ := h j hj
  rw [stale_iff]
  omega

theorem KeysBounded.derived (h : KeysBounded st.recvChainIndex st.skippedKeys)
    (hf : Ahead st env) : KeysBounded st.recvChainIndex (derivedKeys P st env.chainIndex) := by
  intro j hj
  obtain ⟨v, hv⟩ := mem_iff_get.mp hj
  obtain ⟨hle, hgap⟩ := hf.toNat_le
  rw [get_derivedKeys hf.2.1 hf.2.2 h.mem_nearby (Ico_subset_nearby _) (nearby_card _)] at hv
  split at hv
  · exact absurd hv (by simp)
  rename_i hstale
  split at hv
  · rename_i hin
    have h2 := UInt64.lt_iff_toNat_lt.mp hin.2
    have h4 := j.toNat_lt
    rw [stale_iff] at hstale
    omega
  · exact h j (mem_iff_get.mpr ⟨v, hv⟩)

theorem KeysBounded.afterForward (h : KeysBounded st.recvChainIndex st.skippedKeys)
    (hf : Ahead st env) : KeysBounded (afterForward P st env now).recvChainIndex
      (afterForward P st env now).skippedKeys := by
  intro j hj
  obtain ⟨v, hv⟩ := mem_iff_get.mp hj
  have hd := h.derived (P := P) hf
  obtain ⟨hle, hgap⟩ := hf.toNat_le
  have hpruned : (Ardents.Crypto.afterForward P st env now).skippedKeys[j]?
      = if Stale j (env.chainIndex + 1) then none
        else (derivedKeys P st env.chainIndex)[j]? :=
    get_pruneSkippedKeys (fun i hi _ => hd.mem_nearby i hi) (nearby_card _) j
  rw [hpruned] at hv
  split at hv
  · exact absurd hv (by simp)
  rename_i hstale
  obtain ⟨h1, h2, h3⟩ := hd j (mem_iff_get.mpr ⟨v, hv⟩)
  have hnext : (env.chainIndex + 1).toNat = (env.chainIndex.toNat + 1) % 2 ^ 64 := by
    rw [UInt64.toNat_add, UInt64.toNat_one]
  rw [stale_iff] at hstale
  show _ ∧ (env.chainIndex + 1).toNat ≤ _ ∧ (_ < (env.chainIndex + 1).toNat + 512 ∨ _)
  omega

theorem KeysBounded.decrypt_ok (h : KeysBounded st.recvChainIndex st.skippedKeys)
    {plaintext : Bytes} (hd : (decryptState P st env now).2 = .ok (st', plaintext)) :
    KeysBounded st'.recvChainIndex st'.skippedKeys := by
  obtain ⟨-, ⟨key, -, -, rfl⟩ | ⟨hf, -, rfl⟩⟩ := decryptState_ok hd
  · intro j hj
    exact h j (Std.ExtTreeMap.mem_of_mem_erase hj)
  · exact h.afterForward hf

def DerivesKeys (P : Primitives) (st : SessionState) (env : MessageEnvelope) : Prop :=
  Admissible st env ∧ Ahead st env ∧
    ∃ j, st.recvChainIndex ≤ j ∧ j < env.chainIndex ∧ ¬ Stale j st.recvChainIndex ∧
      st.skippedKeys[j]? ≠ some (messageKeyFrom P st.recvChainKey st.recvChainIndex j)

theorem derivedKeys_eq_iff (h : KeysBounded st.recvChainIndex st.skippedKeys) (hf : Ahead st env) :
    derivedKeys P st env.chainIndex = st.skippedKeys ↔
      ∀ j, st.recvChainIndex ≤ j → j < env.chainIndex → ¬ Stale j st.recvChainIndex →
        st.skippedKeys[j]? = some (messageKeyFrom P st.recvChainKey st.recvChainIndex j) := by
  have hget := get_derivedKeys (P := P) hf.2.1 hf.2.2 h.mem_nearby (Ico_subset_nearby _)
    (nearby_card _)
  constructor
  · intro heq j h1 h2 h3
    rw [← heq, hget, if_neg h3, if_pos ⟨h1, h2⟩]
  · intro hall
    refine map_ext fun j => ?_
    rw [hget]
    split
    · rename_i hstale
      cases hk : st.skippedKeys[j]? with
      | none => rfl
      | some v => exact absurd hstale (h.not_stale (mem_iff_get.mpr ⟨v, hk⟩))
    · rename_i hstale
      split
      · rename_i hin
        exact (hall j hin.1 hin.2 hstale).symm
      · rfl

theorem decryptState_error (h : KeysBounded st.recvChainIndex st.skippedKeys) {e : SessionError}
    (hd : (decryptState P st env now).2 = .error e) :
    KeysBounded st.recvChainIndex (decryptState P st env now).1 ∧
      ((decryptState P st env now).1 = st.skippedKeys ↔ ¬ DerivesKeys P st env) := by
  by_cases ha : Admissible st env
  · cases hk : st.skippedKeys[env.chainIndex]? with
    | some key =>
      have hsame : (decryptState P st env now).1 = st.skippedKeys := by
        rw [decryptState_skipped ha hk] at hd ⊢
        split at hd
        · rfl
        · exact absurd hd (by simp)
      rw [hsame]
      exact ⟨h, iff_of_true rfl fun hder => by rw [hder.2.1.1] at hk; exact absurd hk (by simp)⟩
    | none =>
      by_cases hf : Ahead st env
      · have hderived : (decryptState P st env now).1 = derivedKeys P st env.chainIndex := by
          grind [decryptState_forward]
        rw [hderived, derivedKeys_eq_iff h hf]
        refine ⟨h.derived hf, ?_⟩
        constructor
        · rintro hall ⟨-, -, j, h1, h2, h3, h4⟩
          exact h4 (hall j h1 h2 h3)
        · intro hno j h1 h2 h3
          by_contra h4
          exact hno ⟨ha, hf, j, h1, h2, h3, h4⟩
      · obtain ⟨e', he'⟩ := decryptState_refused (P := P) now (Or.inr ⟨hk, hf⟩)
        rw [he']
        exact ⟨h, iff_of_true rfl fun hder => hf hder.2.1⟩
  · obtain ⟨e', he'⟩ := decryptState_refused (P := P) now (Or.inl ha)
    rw [he']
    exact ⟨h, iff_of_true rfl fun hder => ha hder.1⟩

end

end Ardents.Crypto
