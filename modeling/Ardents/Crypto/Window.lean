import Ardents.Crypto.SkippedKeys

/-!
# The receive window

`decryptState` has three ways to go: use a skipped key, run the chain forward, or
refuse without touching anything. The first section states each as an equation,
so that nothing later unfolds the function.
-/

namespace Ardents.Crypto

open Go

section

variable (P : Primitives)

/-! ## The three paths of `Decrypt` -/

/-- The envelope belongs to the session and its message id is not on the seen list. -/
def Admissible (st : SessionState) (env : MessageEnvelope) : Prop :=
  env.sessionID = st.sessionID ∧ env.messageID ∉ st.seenMessageIDs

/-- No key is on file and the index is at or ahead of the receive index, by at most a gap. -/
def Ahead (st : SessionState) (env : MessageEnvelope) : Prop :=
  st.skippedKeys[env.chainIndex]? = none ∧ st.recvChainIndex ≤ env.chainIndex ∧
    env.chainIndex - st.recvChainIndex ≤ maxSkippedChainGap

/-- The map after the derivation loop and the first pruning, before anything is authenticated. -/
def derivedKeys (st : SessionState) (target : UInt64) : SkippedKeys :=
  pruneSkippedKeys
    (skipForward P target (target - st.recvChainIndex).toNat st.recvChainKey st.recvChainIndex
      st.skippedKeys).2.2
    st.recvChainIndex maxSkippedMessageKey

def afterSkipped (st : SessionState) (env : MessageEnvelope) (now : Time) : SessionState :=
  { st with
    skippedKeys := st.skippedKeys.erase env.chainIndex
    seenMessageIDs := appendSeen st.seenMessageIDs env.messageID maxSeenMessageIDs
    updatedAt := now }

def afterForward (st : SessionState) (env : MessageEnvelope) (now : Time) : SessionState :=
  { st with
    recvChainKey := chainKeyFrom P st.recvChainKey st.recvChainIndex
      ((env.chainIndex - st.recvChainIndex).toNat + 1)
    recvChainIndex := env.chainIndex + 1
    seenMessageIDs := appendSeen st.seenMessageIDs env.messageID maxSeenMessageIDs
    skippedKeys := pruneSkippedKeys (derivedKeys P st env.chainIndex) (env.chainIndex + 1)
      maxSkippedMessageKey
    updatedAt := now }

theorem chainKeyFrom_succ (ck : Bytes) : ∀ (n : Nat) (i : UInt64),
    chainKeyFrom P ck i (n + 1)
      = (deriveMessageKey P (chainKeyFrom P ck i n) (i + UInt64.ofNat n)).2
  | 0, i => by
    rw [chainKeyFrom, chainKeyFrom, chainKeyFrom]
    simp
  | n + 1, i => by
    rw [chainKeyFrom, chainKeyFrom_succ _ n (i + 1), chainKeyFrom]
    congr 2
    rw [UInt64.ofNat_add, UInt64.add_comm (UInt64.ofNat n), ← UInt64.add_assoc]
    rfl

variable {P}

variable {st : SessionState} {env : MessageEnvelope}

theorem decryptState_skipped {now : Time}
    {key : Bytes} (ha : Admissible st env) (hk : st.skippedKeys[env.chainIndex]? = some key) :
    decryptState P st env now =
      match openEnvelope P key st.sessionID env with
      | .error e => (st.skippedKeys, .error e)
      | .ok plaintext => ((afterSkipped st env now).skippedKeys,
          .ok (afterSkipped st env now, plaintext)) := by
  unfold decryptState
  rw [if_neg (by simp [ha.1]), if_neg (by simp [seen, ha.2]), hk]
  rfl

theorem decryptState_forward {now : Time} (ha : Admissible st env) (hf : Ahead st env) :
    decryptState P st env now =
      match openEnvelope P (messageKeyFrom P st.recvChainKey st.recvChainIndex env.chainIndex)
          st.sessionID env with
      | .error e => (derivedKeys P st env.chainIndex, .error e)
      | .ok plaintext => ((afterForward P st env now).skippedKeys,
          .ok (afterForward P st env now, plaintext)) := by
  obtain ⟨hk, hle, hgap⟩ := hf
  have hn : st.recvChainIndex.toNat + (env.chainIndex - st.recvChainIndex).toNat
      = env.chainIndex.toNat := by
    rw [UInt64.toNat_sub_of_le _ _ hle]
    exact Nat.add_sub_cancel' (UInt64.le_iff_toNat_le.mp hle)
  have hidx := skipForward_index P env.chainIndex _ st.recvChainKey st.recvChainIndex
    st.skippedKeys hn
  have hchain := skipForward_chain P env.chainIndex _ st.recvChainKey st.recvChainIndex
    st.skippedKeys hn
  have hnext : (deriveMessageKey P (chainKeyFrom P st.recvChainKey st.recvChainIndex
      (env.chainIndex - st.recvChainIndex).toNat) env.chainIndex).2
      = chainKeyFrom P st.recvChainKey st.recvChainIndex
        ((env.chainIndex - st.recvChainIndex).toNat + 1) := by
    rw [chainKeyFrom_succ, UInt64.ofNat_toNat, add_sub_cancel]
  unfold decryptState
  rw [if_neg (by simp [ha.1]), if_neg (by simp [seen, ha.2]), hk]
  dsimp only
  rw [if_neg (UInt64.not_lt.mpr hle), if_neg (UInt64.not_lt.mpr hgap), hidx, hchain, hnext]
  rfl

theorem decryptState_refused (now : Time)
    (h : ¬ Admissible st env ∨ (st.skippedKeys[env.chainIndex]? = none ∧ ¬ Ahead st env)) :
    ∃ e, decryptState P st env now = (st.skippedKeys, .error e) := by
  unfold decryptState
  by_cases hid : env.sessionID = st.sessionID
  · by_cases hseen : env.messageID ∈ st.seenMessageIDs
    · simp_all [seen]
    · rcases h with h | ⟨hk, hf⟩
      · exact absurd ⟨hid, hseen⟩ h
      rw [if_neg (by simp [hid]), if_neg (by simp [seen, hseen]), hk]
      by_cases hlt : env.chainIndex < st.recvChainIndex
      · rw [if_pos hlt]
        exact ⟨_, rfl⟩
      · rw [if_neg hlt, if_pos]
        · exact ⟨_, rfl⟩
        · by_contra hgap
          exact hf ⟨hk, UInt64.not_lt.mp hlt, UInt64.not_lt.mp hgap⟩
  · rw [if_pos hid]
    exact ⟨_, rfl⟩

theorem decryptState_ok {st' : SessionState} {now : Time}
    {plaintext : Bytes} (h : (decryptState P st env now).2 = .ok (st', plaintext)) :
    Admissible st env ∧ ((∃ key, st.skippedKeys[env.chainIndex]? = some key ∧
        openEnvelope P key st.sessionID env = .ok plaintext ∧ st' = afterSkipped st env now) ∨
      (Ahead st env ∧
        openEnvelope P (messageKeyFrom P st.recvChainKey st.recvChainIndex env.chainIndex)
          st.sessionID env = .ok plaintext ∧ st' = afterForward P st env now)) := by
  by_cases ha : Admissible st env
  · refine ⟨ha, ?_⟩
    cases hk : st.skippedKeys[env.chainIndex]? with
    | some key =>
      grind [decryptState_skipped]
    | none =>
      by_cases hf : Ahead st env
      · grind [decryptState_forward]
      · obtain ⟨e, he⟩ := decryptState_refused (P := P) now (Or.inr ⟨hk, hf⟩)
        simp_all
  · obtain ⟨e, he⟩ := decryptState_refused (P := P) now (Or.inl ha)
    rw [he] at h
    exact absurd h (by simp)

variable (P) in
/-- The envelope is for this session, unseen and in reach, and the key of its index opens it. -/
def Opens (st : SessionState) (env : MessageEnvelope) : Prop :=
  Admissible st env ∧ ∃ plaintext,
    (∃ key, st.skippedKeys[env.chainIndex]? = some key ∧
      openEnvelope P key st.sessionID env = .ok plaintext) ∨
    (Ahead st env ∧ openEnvelope P (messageKeyFrom P st.recvChainKey st.recvChainIndex
      env.chainIndex) st.sessionID env = .ok plaintext)

theorem decryptState_opens_iff {now : Time} :
    (∃ r, (decryptState P st env now).2 = .ok r) ↔ Opens P st env := by
  constructor
  · rintro ⟨⟨st', plaintext⟩, h⟩
    obtain ⟨ha, ⟨key, hk, hopen, -⟩ | ⟨hf, hopen, -⟩⟩ := decryptState_ok h
    · exact ⟨ha, plaintext, Or.inl ⟨key, hk, hopen⟩⟩
    · exact ⟨ha, plaintext, Or.inr ⟨hf, hopen⟩⟩
  · rintro ⟨ha, plaintext, ⟨key, hk, hopen⟩ | ⟨hf, hopen⟩⟩
    · rw [decryptState_skipped ha hk, hopen]
      exact ⟨_, rfl⟩
    · rw [decryptState_forward ha hf, hopen]
      exact ⟨_, rfl⟩

/-! ## What the map holds -/

theorem get_derivedKeys {target : UInt64} {s : Finset Nat}
    (hle : st.recvChainIndex ≤ target) (hgap : target - st.recvChainIndex ≤ maxSkippedChainGap)
    (hs : ∀ j ∈ st.skippedKeys, j.toNat ∈ s)
    (hr : Finset.Ico st.recvChainIndex.toNat (st.recvChainIndex.toNat + 512) ⊆ s)
    (hcard : s.card ≤ maxSkippedMessageKey) (j : UInt64) : (derivedKeys P st target)[j]? =
      if Stale j st.recvChainIndex then none
      else if st.recvChainIndex ≤ j ∧ j < target then
        some (messageKeyFrom P st.recvChainKey st.recvChainIndex j)
      else st.skippedKeys[j]? := by
  have hn : st.recvChainIndex.toNat + (target - st.recvChainIndex).toNat = target.toNat := by
    rw [UInt64.toNat_sub_of_le _ _ hle]
    exact Nat.add_sub_cancel' (UInt64.le_iff_toNat_le.mp hle)
  have hgap' : (target - st.recvChainIndex).toNat ≤ 512 := UInt64.le_iff_toNat_le.mp hgap
  have hkeys := fun j => skipForward_keys P target _ st.recvChainKey st.recvChainIndex
    st.skippedKeys j hn
  unfold derivedKeys
  rw [get_pruneSkippedKeys (s := s) ?_ hcard, hkeys]
  intro i hi _
  obtain ⟨v, hv⟩ := mem_iff_get.mp hi
  rw [hkeys] at hv
  split at hv
  · rename_i hin
    have h1 := UInt64.le_iff_toNat_le.mp hin.1
    have h2 := UInt64.lt_iff_toNat_lt.mp hin.2
    exact hr (Finset.mem_Ico.mpr ⟨h1, by omega⟩)
  · exact hs i (mem_iff_get.mpr ⟨v, hv⟩)

theorem get_afterForward {s : Finset Nat}
    (hf : Ahead st env) (hs : ∀ j ∈ st.skippedKeys, j.toNat ∈ s)
    (hr : Finset.Ico st.recvChainIndex.toNat (st.recvChainIndex.toNat + 512) ⊆ s)
    (hcard : s.card ≤ maxSkippedMessageKey) (now : Time) (j : UInt64) :
    (afterForward P st env now).skippedKeys[j]? =
      if Stale j (env.chainIndex + 1) then none
      else if Stale j st.recvChainIndex then none
      else if st.recvChainIndex ≤ j ∧ j < env.chainIndex then
        some (messageKeyFrom P st.recvChainKey st.recvChainIndex j)
      else st.skippedKeys[j]? := by
  obtain ⟨-, hle, hgap⟩ := hf
  have hkeys := get_derivedKeys (P := P) hle hgap hs hr hcard
  show (pruneSkippedKeys (derivedKeys P st env.chainIndex) _ _)[j]? = _
  rw [get_pruneSkippedKeys (s := s) ?_ hcard, hkeys]
  intro i hi _
  obtain ⟨v, hv⟩ := mem_iff_get.mp hi
  rw [hkeys] at hv
  split at hv
  · exact absurd hv (by simp)
  split at hv
  · rename_i hin
    have h1 := UInt64.le_iff_toNat_le.mp hin.1
    have h2 := UInt64.lt_iff_toNat_lt.mp hin.2
    have h3 : (env.chainIndex - st.recvChainIndex).toNat ≤ 512 := UInt64.le_iff_toNat_le.mp hgap
    rw [UInt64.toNat_sub_of_le _ _ hle] at h3
    exact hr (Finset.mem_Ico.mpr ⟨h1, by omega⟩)
  · exact hs i (mem_iff_get.mpr ⟨v, hv⟩)

end

/-! ## The invariant of a receiving session -/

/-- The key of `j` is on file when the receive index is `recv` and `consumed` has been used up. -/
def Retained (consumed : List UInt64) (recv j : UInt64) : Prop :=
  j.toNat < recv.toNat ∧ recv.toNat ≤ j.toNat + 512 ∧ j.toNat + 512 < 2 ^ 64 ∧ j ∉ consumed

instance (consumed : List UInt64) (recv j : UInt64) : Decidable (Retained consumed recv j) :=
  inferInstanceAs (Decidable (_ ∧ _ ∧ _ ∧ _))

/-- A session receiving on the chain that starts at `ck`, after the indexes in `consumed`. -/
structure Window (P : Primitives) (ck : Bytes) (consumed : List UInt64) (st : SessionState) :
    Prop where
  /-- The chain key is the one of the receive index. -/
  chain : st.recvChainKey = chainKeyAt P ck st.recvChainIndex.toNat
  /-- The map holds the message keys of the retained indexes. -/
  keys : ∀ j : UInt64, st.skippedKeys[j]? =
    if Retained consumed st.recvChainIndex j then some (messageKeyAt P ck j.toNat) else none
  /-- Consumed indexes lie behind. -/
  below : ∀ j ∈ consumed, j.toNat < st.recvChainIndex.toNat

variable {P : Primitives} {ck : Bytes} {consumed : List UInt64} {st st' : SessionState}
  {env : MessageEnvelope} {now : Time}

theorem Window.key_some (w : Window P ck consumed st) {j : UInt64}
    (h : Retained consumed st.recvChainIndex j) :
    st.skippedKeys[j]? = some (messageKeyAt P ck j.toNat) := by
  rw [w.keys, if_pos h]

theorem Window.key_none (w : Window P ck consumed st) {j : UInt64}
    (h : ¬ Retained consumed st.recvChainIndex j) : st.skippedKeys[j]? = none := by
  rw [w.keys, if_neg h]

theorem Window.retained_of_key (w : Window P ck consumed st) {j : UInt64} {key : Bytes}
    (h : st.skippedKeys[j]? = some key) :
    Retained consumed st.recvChainIndex j ∧ key = messageKeyAt P ck j.toNat := by
  grind [cases Window]

theorem Window.forward_key (w : Window P ck consumed st) {j : UInt64} (h : st.recvChainIndex ≤ j) :
    messageKeyFrom P st.recvChainKey st.recvChainIndex j = messageKeyAt P ck j.toNat := by
  rw [w.chain]
  exact messageKeyFrom_at P ck h

theorem window_newSession (P : Primitives) (localID contactID : String) (key : Bytes) (now : Time) :
    Window P (newSession P localID contactID key (∅ : SkippedKeys) now).recvChainKey []
      (newSession P localID contactID key ∅ now) where
  chain := rfl
  keys j := by
    rw [if_neg (fun h => absurd h.1 (Nat.not_lt_zero _))]
    exact Std.ExtTreeMap.getElem?_empty
  below j hj := absurd hj (by simp)

theorem Window.skipped (w : Window P ck consumed st) {key : Bytes}
    (hk : st.skippedKeys[env.chainIndex]? = some key) : env.chainIndex ∉ consumed ∧
      Window P ck (env.chainIndex :: consumed) (afterSkipped st env now) := by
  obtain ⟨hr, -⟩ := w.retained_of_key hk
  refine ⟨hr.2.2.2, w.chain, ?_, ?_⟩
  · intro j
    show (st.skippedKeys.erase env.chainIndex)[j]?
      = if Retained (env.chainIndex :: consumed) st.recvChainIndex j then _ else _
    grind [cases Window, Retained]
  · intro j hj
    rcases List.mem_cons.mp hj with rfl | hj
    · exact hr.1
    · exact w.below j hj

theorem Ahead.toNat_le (hf : Ahead st env) : st.recvChainIndex.toNat ≤ env.chainIndex.toNat ∧
      env.chainIndex.toNat ≤ st.recvChainIndex.toNat + 512 := by
  have hle := UInt64.le_iff_toNat_le.mp hf.2.1
  have hgap : (env.chainIndex - st.recvChainIndex).toNat ≤ 512 :=
    UInt64.le_iff_toNat_le.mp hf.2.2
  rw [UInt64.toNat_sub_of_le _ _ hf.2.1] at hgap
  omega

theorem Window.forward_keys (w : Window P ck consumed st) (hf : Ahead st env)
    (hnext : (env.chainIndex + 1).toNat = env.chainIndex.toNat + 1) (j : UInt64) :
    (afterForward P st env now).skippedKeys[j]? =
      if Retained (env.chainIndex :: consumed) (env.chainIndex + 1) j then
        some (messageKeyAt P ck j.toNat)
      else none := by
  obtain ⟨hle, hgap⟩ := hf.toNat_le
  rw [get_afterForward (s := Finset.Ico (st.recvChainIndex.toNat - 512)
    (st.recvChainIndex.toNat + 512)) hf ?hs ?hr ?hcard]
  case hs =>
    intro i hi
    obtain ⟨v, hv⟩ := mem_iff_get.mp hi
    obtain ⟨⟨h1, h2, -, -⟩, -⟩ := w.retained_of_key hv
    exact Finset.mem_Ico.mpr ⟨by omega, by omega⟩
  case hr => exact Finset.Ico_subset_Ico (by omega) (Nat.le_refl _)
  case hcard =>
    rw [Nat.card_Ico, maxSkippedMessageKey]
    omega
  have hbelow : j ∈ consumed → j.toNat < st.recvChainIndex.toNat := w.below j
  have hmem : j ∈ env.chainIndex :: consumed ↔
      j.toNat = env.chainIndex.toNat ∨ j ∈ consumed := by
    rw [List.mem_cons, UInt64.toNat_inj]
  simp only [stale_iff, UInt64.le_iff_toNat_le, UInt64.lt_iff_toNat_lt]
  by_cases hret : Retained (env.chainIndex :: consumed) (env.chainIndex + 1) j
  · -- still wanted: either just passed, or on file already
    have ⟨h1, h2, h3, h4⟩ := hret
    rw [hmem] at h4
    rw [if_pos hret, if_neg (by omega), if_neg (by omega)]
    split
    · rename_i hin
      rw [w.forward_key (UInt64.le_iff_toNat_le.mpr hin.1)]
    · rename_i hin
      exact w.key_some ⟨by omega, by omega, h3, fun hc => h4 (Or.inr hc)⟩
  · -- not wanted: stale by now, or never on file
    rw [if_neg hret]
    split
    · rfl
    rename_i hstale
    split
    · rfl
    rw [if_neg]
    · refine w.key_none fun hr => hret ?_
      obtain ⟨h1, h2, h3, h4⟩ := hr
      refine ⟨by omega, by omega, h3, fun hc => ?_⟩
      rcases hmem.mp hc with hc | hc
      · omega
      · exact h4 hc
    · rintro ⟨h1, h2⟩
      refine hret ⟨by omega, by omega, by omega, fun hc => ?_⟩
      rcases hmem.mp hc with hc | hc
      · omega
      · have := hbelow hc
        omega

theorem Window.forward (w : Window P ck consumed st) (hf : Ahead st env)
    (hidx : env.chainIndex.toNat < 2 ^ 64 - 1) : env.chainIndex ∉ consumed ∧
      Window P ck (env.chainIndex :: consumed) (afterForward P st env now) := by
  obtain ⟨hle, hgap⟩ := hf.toNat_le
  have hnext : (env.chainIndex + 1).toNat = env.chainIndex.toNat + 1 :=
    toNat_succ (n := 0) (by omega)
  have hnew : env.chainIndex ∉ consumed := fun hc => by
    have := w.below _ hc
    omega
  refine ⟨hnew, ?_, w.forward_keys hf hnext, ?_⟩
  · -- the chain key moved on by as many steps as the index
    show chainKeyFrom P st.recvChainKey st.recvChainIndex _
      = chainKeyAt P ck (env.chainIndex + 1).toNat
    rw [w.chain, chainKeyFrom_at P ck _ _ (by rw [UInt64.toNat_sub_of_le _ _ hf.2.1]; omega),
      hnext, UInt64.toNat_sub_of_le _ _ hf.2.1]
    congr 1
    omega
  · intro j hj
    show j.toNat < (env.chainIndex + 1).toNat
    rcases List.mem_cons.mp hj with rfl | hj
    · omega
    · have := w.below j hj
      omega

variable {plaintext : Bytes}

theorem Window.decrypt (w : Window P ck consumed st) (hidx : env.chainIndex.toNat < 2 ^ 64 - 1)
    (h : (decryptState P st env now).2 = .ok (st', plaintext)) :
    env.chainIndex ∉ consumed ∧ Window P ck (env.chainIndex :: consumed) st' := by
  obtain ⟨-, ⟨key, hk, -, rfl⟩ | ⟨hf, -, rfl⟩⟩ := decryptState_ok h
  · exact w.skipped hk
  · exact w.forward hf hidx

theorem Window.opened (w : Window P ck consumed st)
    (h : (decryptState P st env now).2 = .ok (st', plaintext)) :
    openEnvelope P (messageKeyAt P ck env.chainIndex.toNat) st.sessionID env = .ok plaintext := by
  obtain ⟨-, ⟨key, hk, hopen, -⟩ | ⟨hf, hopen, -⟩⟩ := decryptState_ok h
  · rw [← (w.retained_of_key hk).2]
    exact hopen
  · rw [← w.forward_key hf.2.1]
    exact hopen

/-- The indexes a window still accepts: those on file, and those ahead by at most a gap. -/
def Open (consumed : List UInt64) (recv j : UInt64) : Prop :=
  Retained consumed recv j ∨ (recv.toNat ≤ j.toNat ∧ j.toNat ≤ recv.toNat + 512)

theorem Window.accepts_iff (w : Window P ck consumed st) (now : Time) (ha : Admissible st env)
    (hopen : openEnvelope P (messageKeyAt P ck env.chainIndex.toNat) st.sessionID env
      = .ok plaintext) : (∃ st', (decryptState P st env now).2 = .ok (st', plaintext)) ↔
      Open consumed st.recvChainIndex env.chainIndex := by
  constructor
  · rintro ⟨st', h⟩
    obtain ⟨-, ⟨key, hk, -, -⟩ | ⟨hf, -, -⟩⟩ := decryptState_ok h
    · exact Or.inl (w.retained_of_key hk).1
    · exact Or.inr hf.toNat_le
  · rintro (hr | ⟨hle, hgap⟩)
    · rw [decryptState_skipped ha (w.key_some hr), hopen]
      exact ⟨_, rfl⟩
    · have hle' : st.recvChainIndex ≤ env.chainIndex := UInt64.le_iff_toNat_le.mpr hle
      have hf : Ahead st env := by
        refine ⟨w.key_none fun hr => ?_, hle', UInt64.le_iff_toNat_le.mpr ?_⟩
        · have := hr.1
          omega
        · rw [UInt64.toNat_sub_of_le _ _ hle']
          show _ ≤ 512
          omega
      rw [decryptState_forward ha hf, w.forward_key hle', hopen]
      exact ⟨_, rfl⟩

/-! ## The list of seen message ids -/

theorem mem_appendSeen {l : List String} {v m : String} {max : Nat}
    (h : m ∈ appendSeen l v max) : m ∈ l ∨ m = v := by
  grind [appendSeen]

theorem appendSeen_length (l : List String) (v : String) (max : Nat) :
    (appendSeen l v max).length ≤ max := by
  unfold appendSeen
  grind

theorem decryptState_seen {m : String}
    (h : (decryptState P st env now).2 = .ok (st', plaintext)) (hm : m ∈ st'.seenMessageIDs) :
    m ∈ st.seenMessageIDs ∨ m = env.messageID := by
  obtain ⟨-, ⟨key, -, -, rfl⟩ | ⟨-, -, rfl⟩⟩ := decryptState_ok h
  · exact mem_appendSeen hm
  · exact mem_appendSeen hm

/-! ## How much is kept -/

/-- The index below the receive index has been used up, and few enough ids are on the seen list. -/
structure Bounded (consumed : List UInt64) (st : SessionState) : Prop where
  newest : st.recvChainIndex = 0 ∨ ∃ j ∈ consumed, j.toNat + 1 = st.recvChainIndex.toNat
  seen : st.seenMessageIDs.length ≤ maxSeenMessageIDs

theorem Bounded.decrypt (h : Bounded consumed st) (hidx : env.chainIndex.toNat < 2 ^ 64 - 1)
    (hbody : (decryptState P st env now).2 = .ok (st', plaintext)) :
    Bounded (env.chainIndex :: consumed) st' := by
  obtain ⟨-, ⟨key, -, -, rfl⟩ | ⟨-, -, rfl⟩⟩ := decryptState_ok hbody
  · refine ⟨h.newest.imp_right ?_, appendSeen_length _ _ _⟩
    rintro ⟨j, hj, hnext⟩
    exact ⟨j, List.mem_cons_of_mem _ hj, hnext⟩
  · refine ⟨.inr ⟨env.chainIndex, List.mem_cons_self, ?_⟩, appendSeen_length _ _ _⟩
    exact (toNat_succ (n := 0) (by omega)).symm

theorem Window.size_le (w : Window P ck consumed st) (h : Bounded consumed st) :
    st.skippedKeys.size ≤ 511 := by
  let recv := st.recvChainIndex.toNat
  have hkeys : ∀ i ∈ st.skippedKeys, i.toNat ∈ Finset.Ico (recv - 512) (recv - 1) := by
    intro i hi
    obtain ⟨key, hkey⟩ := mem_iff_get.mp hi
    obtain ⟨⟨hbelow, hnear, -, hunused⟩, -⟩ := w.retained_of_key hkey
    have hne : i.toNat + 1 ≠ recv := by
      rcases h.newest with hzero | ⟨j, hj, hnext⟩
      · rw [hzero] at hbelow
        exact absurd hbelow (Nat.not_lt_zero _)
      · intro hi
        obtain rfl : i = j := UInt64.toNat_inj.mp (by omega)
        exact hunused hj
    exact Finset.mem_Ico.mpr ⟨by omega, by omega⟩
  have hcard := size_le_card (f := UInt64.toNat) (fun _ _ => UInt64.toNat_inj.mp) hkeys
  rw [Nat.card_Ico] at hcard
  omega

end Ardents.Crypto
