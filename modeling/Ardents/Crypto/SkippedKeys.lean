import Ardents.Crypto.Session

/-!
# What the derivation loop and the pruning do to the skipped keys

The loop from `RecvChainIndex` up to the envelope's index files the message key of each index it
passes. Pruning drops exactly the indexes more than a gap behind, as long as what is left fits the
size limit, and it always does.
-/

namespace Ardents.Crypto

open Go

/-! ## Pruning -/

/-- `pruneSkippedKeys` deletes this index. -/
def Stale (idx recvChainIndex : UInt64) : Prop := idx + maxSkippedChainGap < recvChainIndex

instance (idx recv : UInt64) : Decidable (Stale idx recv) :=
  inferInstanceAs (Decidable (idx + maxSkippedChainGap < recv))

theorem stale_iff {idx recv : UInt64} :
    Stale idx recv ↔ (idx.toNat + 512) % 2 ^ 64 < recv.toNat := by
  rfl

theorem evictOldest_of_le {max fuel : Nat} {keys : SkippedKeys} (h : keys.size ≤ max) :
    evictOldest max fuel keys = keys := by
  cases fuel with
  | zero => rfl
  | succ n => rw [evictOldest, if_neg (by omega)]

theorem evictOldest_size {max fuel : Nat} {keys : SkippedKeys} (h : keys.size ≤ max + fuel) :
    (evictOldest max fuel keys).size ≤ max := by
  induction fuel generalizing keys with
  | zero => exact h
  | succ fuel ih =>
    unfold evictOldest
    split
    · split
      · rename_i hnone
        simp [Std.ExtTreeMap.minKey?_eq_none_iff.mp hnone]
      · rename_i minIdx hmin
        refine ih ?_
        rw [Std.ExtTreeMap.size_erase, if_pos (Std.ExtTreeMap.contains_minKey? hmin)]
        omega
    · omega

theorem pruneSkippedKeys_size (keys : SkippedKeys) (recv : UInt64) (max : Nat) :
    (pruneSkippedKeys keys recv max).size ≤ max := by
  unfold pruneSkippedKeys
  split
  · omega
  · exact evictOldest_size (Nat.le_add_left _ _)

theorem get_sweep (keys : SkippedKeys) (recv j : UInt64) :
    (keys.filter fun idx _ => !decide (idx + maxSkippedChainGap < recv))[j]?
      = if Stale j recv then none else keys[j]? := by
  grind [Stale]

theorem get_pruneSkippedKeys {keys : SkippedKeys} {recv : UInt64} {s : Finset Nat}
    (hs : ∀ j ∈ keys, ¬ Stale j recv → j.toNat ∈ s) (hcard : s.card ≤ maxSkippedMessageKey)
    (j : UInt64) : (pruneSkippedKeys keys recv maxSkippedMessageKey)[j]?
      = if Stale j recv then none else keys[j]? := by
  unfold pruneSkippedKeys
  split
  · rename_i h0
    have hnone : keys[j]? = none := by
      rw [Std.ExtTreeMap.eq_empty_iff_size_eq_zero.mpr h0]
      exact Std.ExtTreeMap.getElem?_empty
    rw [hnone, ite_self]
  · rename_i h0
    have hsize : (keys.filter fun idx _ => !decide (idx + maxSkippedChainGap < recv)).size
        ≤ maxSkippedMessageKey := by
      refine le_trans (size_le_card (f := UInt64.toNat) (s := s) ?_ ?_) hcard
      · exact fun a b hab => UInt64.toNat_inj.mp hab
      · intro a ha
        obtain ⟨v, hv⟩ := mem_iff_get.mp ha
        grind [get_sweep]
    rw [evictOldest_of_le hsize, get_sweep]

/-! ## Deriving -/

section

variable (P : Primitives)

/-- The chain key `k` steps after the chain key `ck` of index `i`. -/
def chainKeyFrom (ck : Bytes) (i : UInt64) : Nat → Bytes
  | 0 => ck
  | k + 1 => chainKeyFrom (deriveMessageKey P ck i).2 (i + 1) k

/-- The message key of index `j`, derived from the chain key `ck` of an index `i` at or below it. -/
def messageKeyFrom (ck : Bytes) (i j : UInt64) : Bytes :=
  (deriveMessageKey P (chainKeyFrom P ck i (j - i).toNat) j).1

theorem toNat_succ {i : UInt64} {n : Nat} (h : i.toNat + (n + 1) < 2 ^ 64) :
    (i + 1).toNat = i.toNat + 1 := by
  rw [UInt64.toNat_add, UInt64.toNat_one]
  omega

theorem messageKeyFrom_succ (ck : Bytes) {i j : UInt64} (h : i < j) :
    messageKeyFrom P (deriveMessageKey P ck i).2 (i + 1) j = messageKeyFrom P ck i j := by
  have hij : i.toNat < j.toNat := UInt64.lt_iff_toNat_lt.mp h
  have hj := j.toNat_lt
  have h1 : (i + 1).toNat = i.toNat + 1 := toNat_succ (n := 0) (by omega)
  have hsub : (j - i).toNat = (j - (i + 1)).toNat + 1 := by
    rw [UInt64.toNat_sub_of_le j i (UInt64.le_iff_toNat_le.mpr (by omega)),
      UInt64.toNat_sub_of_le j (i + 1) (UInt64.le_iff_toNat_le.mpr (by omega))]
    omega
  unfold messageKeyFrom
  rw [hsub, chainKeyFrom]

theorem messageKeyFrom_self (ck : Bytes) (i : UInt64) :
    messageKeyFrom P ck i i = (deriveMessageKey P ck i).1 := by
  unfold messageKeyFrom
  rw [UInt64.sub_self]
  rfl

theorem skipForward_index (target : UInt64) : ∀ (n : Nat) (ck : Bytes) (i : UInt64)
    (keys : SkippedKeys), i.toNat + n = target.toNat →
    (skipForward P target n ck i keys).2.1 = target
  | 0, _, _, _, h => UInt64.toNat_inj.mp h
  | n + 1, ck, i, keys, h => by
    have ht := target.toNat_lt
    rw [skipForward, if_pos (UInt64.lt_iff_toNat_lt.mpr (by omega))]
    refine skipForward_index target n _ _ _ ?_
    rw [toNat_succ (i := i) (n := 0) (by omega)]
    omega

theorem skipForward_chain (target : UInt64) : ∀ (n : Nat) (ck : Bytes) (i : UInt64)
    (keys : SkippedKeys), i.toNat + n = target.toNat →
    (skipForward P target n ck i keys).1 = chainKeyFrom P ck i n
  | 0, _, _, _, _ => rfl
  | n + 1, ck, i, keys, h => by
    have ht := target.toNat_lt
    rw [skipForward, if_pos (UInt64.lt_iff_toNat_lt.mpr (by omega)), chainKeyFrom]
    refine skipForward_chain target n _ _ _ ?_
    rw [toNat_succ (i := i) (n := 0) (by omega)]
    omega

theorem skipForward_keys (target : UInt64) : ∀ (n : Nat) (ck : Bytes) (i : UInt64)
    (keys : SkippedKeys) (j : UInt64), i.toNat + n = target.toNat →
    (skipForward P target n ck i keys).2.2[j]?
      = if i ≤ j ∧ j < target then some (messageKeyFrom P ck i j) else keys[j]?
  | 0, ck, i, keys, j, h => by
    rw [if_neg]
    · rfl
    · rw [UInt64.le_iff_toNat_le, UInt64.lt_iff_toNat_lt]
      omega
  | n + 1, ck, i, keys, j, h => by
    have ht := target.toNat_lt
    have h1 : (i + 1).toNat = i.toNat + 1 := toNat_succ (n := 0) (by omega)
    have hlt : i < target := UInt64.lt_iff_toNat_lt.mpr (by omega)
    rw [skipForward, if_pos hlt]
    dsimp only
    rw [skipForward_keys target n _ _ _ j (by omega), get_insert]
    rcases Nat.lt_trichotomy i.toNat j.toNat with hij | hij | hij
    · -- a later index: the rest of the loop files it, if it comes that far
      have hne : i ≠ j := fun he => by rw [he] at hij; omega
      rw [if_neg hne, messageKeyFrom_succ P ck (UInt64.lt_iff_toNat_lt.mpr hij)]
      by_cases hjt : j < target
      · rw [if_pos ⟨UInt64.le_iff_toNat_le.mpr (by omega), hjt⟩,
          if_pos ⟨UInt64.le_iff_toNat_le.mpr (by omega), hjt⟩]
      · rw [if_neg (fun hc => hjt hc.2), if_neg (fun hc => hjt hc.2)]
    · -- the index filed by this very step
      obtain rfl : i = j := UInt64.toNat_inj.mp hij
      rw [if_neg (fun hc => by have := UInt64.le_iff_toNat_le.mp hc.1; omega), if_pos rfl,
        if_pos ⟨UInt64.le_iff_toNat_le.mpr (Nat.le_refl _), hlt⟩, messageKeyFrom_self]
    · -- below the start: untouched
      have hne : i ≠ j := fun he => by rw [he] at hij; omega
      rw [if_neg (fun hc => by have := UInt64.le_iff_toNat_le.mp hc.1; omega), if_neg hne,
        if_neg (fun hc => by have := UInt64.le_iff_toNat_le.mp hc.1; omega)]

/-! ## Derived keys are chain positions -/

theorem chainKeyFrom_at (ck : Bytes) : ∀ (k : Nat) (i : UInt64), i.toNat + k < 2 ^ 64 →
    chainKeyFrom P (chainKeyAt P ck i.toNat) i k = chainKeyAt P ck (i.toNat + k)
  | 0, _, _ => rfl
  | k + 1, i, h => by
    have h1 : (i + 1).toNat = i.toNat + 1 := toNat_succ h
    rw [chainKeyFrom, deriveMessageKey_at, ← h1, chainKeyFrom_at ck k (i + 1) (by omega), h1]
    congr 1
    omega

theorem messageKeyFrom_at (ck : Bytes) {i j : UInt64} (h : i ≤ j) :
    messageKeyFrom P (chainKeyAt P ck i.toNat) i j = messageKeyAt P ck j.toNat := by
  have hij := UInt64.le_iff_toNat_le.mp h
  have hj := j.toNat_lt
  simp_all [messageKeyFrom, chainKeyFrom_at, deriveMessageKey_at]

end

end Ardents.Crypto
