import Ardents.Go.Map

/-!
# Adding up a map

A loop over a map that adds something up for each entry gives the same total in whatever
order the entries come. The total is a sum over any finite set that has all the keys, in
which a key that is not there counts for nothing.
-/

namespace Ardents.Go

section

variable {α β : Type} [Ord α] [Std.TransOrd α] {f : β → Int}

def sumBy (f : β → Int) (m : GoMap α β) : Int := (m.toList.map fun entry => f entry.2).sum

variable {m : GoMap α β}

theorem sumBy_congr {g : β → Int} [Std.LawfulEqOrd α]
    (h : ∀ (a : α) v, m[a]? = some v → f v = g v) : sumBy f m = sumBy g m := by
  unfold sumBy
  congr 1
  refine List.map_congr_left fun entry hentry => ?_
  exact h entry.1 entry.2 (Std.ExtTreeMap.mem_toList_iff_getElem?_eq_some.mp hentry)

def valueAt (f : β → Int) (m : GoMap α β) (a : α) : Int := (m[a]?).elim 0 f

theorem valueAt_of_get {a : α} {v : β} (h : m[a]? = some v) :
    valueAt f m a = f v := by simp [valueAt, h]

theorem valueAt_of_not_mem {a : α} (h : a ∉ m) : valueAt f m a = 0 := by
  simp [valueAt, h]

theorem valueAt_nonneg (h : ∀ (a : α) v, m[a]? = some v → 0 ≤ f v) (a : α) : 0 ≤ valueAt f m a := by
  grind [valueAt]

variable [Std.LawfulEqOrd α] [DecidableEq α]

theorem sumBy_eq_sum {s : Finset α} (hs : ∀ a ∈ m, a ∈ s) : sumBy f m = ∑ a ∈ s, valueAt f m a := by
  have hkeys : m.toList.map (fun entry => f entry.2) = m.keys.map (valueAt f m) := by
    rw [← Std.ExtTreeMap.map_fst_toList_eq_keys, List.map_map]
    refine List.map_congr_left fun entry hentry => ?_
    exact (valueAt_of_get (Std.ExtTreeMap.mem_toList_iff_getElem?_eq_some.mp hentry)).symm
  have hsub : m.keys.toFinset ⊆ s := by
    intro a ha
    exact hs a (Std.ExtTreeMap.mem_keys.mp (List.mem_toFinset.mp ha))
  unfold sumBy
  rw [hkeys, ← List.sum_toFinset _ m.nodup_keys]
  refine Finset.sum_subset hsub fun a _ ha => valueAt_of_not_mem fun hin => ha ?_
  exact List.mem_toFinset.mpr (Std.ExtTreeMap.mem_keys.mpr hin)

theorem exists_keys (m n : GoMap α β) : ∃ s : Finset α, (∀ a ∈ m, a ∈ s) ∧ ∀ a ∈ n, a ∈ s := by
  refine ⟨m.keys.toFinset ∪ n.keys.toFinset, fun a ha => ?_, fun a ha => ?_⟩
  · exact Finset.mem_union_left _ (List.mem_toFinset.mpr (Std.ExtTreeMap.mem_keys.mpr ha))
  · exact Finset.mem_union_right _ (List.mem_toFinset.mpr (Std.ExtTreeMap.mem_keys.mpr ha))

theorem sumBy_le {n : GoMap α β} (h : ∀ a, valueAt f m a ≤ valueAt f n a) :
    sumBy f m ≤ sumBy f n := by
  obtain ⟨s, hm, hn⟩ := exists_keys m n
  rw [sumBy_eq_sum hm, sumBy_eq_sum hn]
  exact Finset.sum_le_sum fun a _ => h a

theorem sumBy_nonneg (h : ∀ a, 0 ≤ valueAt f m a) : 0 ≤ sumBy f m := by
  rw [sumBy_eq_sum (s := m.keys.toFinset) fun a ha =>
    List.mem_toFinset.mpr (Std.ExtTreeMap.mem_keys.mpr ha)]
  exact Finset.sum_nonneg fun a _ => h a

theorem sumBy_insert (m : GoMap α β) (k : α) (v : β) :
    sumBy f (m.insert k v) = sumBy f m - valueAt f m k + f v := by
  obtain ⟨s, hm, hinsert⟩ := exists_keys m (m.insert k v)
  have hk : k ∈ s := hinsert k Std.ExtTreeMap.mem_insert_self
  have hsplit : ∀ a, valueAt f (m.insert k v) a =
      valueAt f m a + if k = a then f v - valueAt f m k else 0 := by
    grind [valueAt]
  rw [sumBy_eq_sum hm, sumBy_eq_sum hinsert, Finset.sum_congr rfl fun a _ => hsplit a,
    Finset.sum_add_distrib, Finset.sum_ite_eq, if_pos hk]
  omega

theorem sumBy_without (m : GoMap α β) {gone : List α} (hgone : gone.Nodup) :
    sumBy f (m.filter fun a _ => decide (a ∉ gone)) = sumBy f m - (gone.map (valueAt f m)).sum := by
  have hsplit : ∀ a, valueAt f m a = valueAt f (m.filter fun a _ => decide (a ∉ gone)) a +
      if a ∈ gone.toFinset then valueAt f m a else 0 := by
    intro a
    unfold valueAt
    rw [get_filter]
    by_cases ha : a ∈ gone
    · simp [ha]
    · simp [ha]
  -- all keys, those that go included
  let s := m.keys.toFinset ∪ gone.toFinset
  have hm : ∀ a ∈ m, a ∈ s := fun a ha =>
    Finset.mem_union_left _ (List.mem_toFinset.mpr (Std.ExtTreeMap.mem_keys.mpr ha))
  have hkept : ∀ a ∈ m.filter fun a _ => decide (a ∉ gone), a ∈ s := by
    grind
  have hgone' : s ∩ gone.toFinset = gone.toFinset :=
    Finset.inter_eq_right.mpr Finset.subset_union_right
  rw [sumBy_eq_sum hkept, sumBy_eq_sum hm]
  conv_rhs => rw [Finset.sum_congr rfl fun a _ => hsplit a, Finset.sum_add_distrib]
  rw [Finset.sum_ite_mem, hgone', List.sum_toFinset _ hgone]
  exact (add_sub_cancel_right _ _).symm

end

end Ardents.Go
