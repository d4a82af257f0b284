import Mathlib

/-!
# Go maps

A Go map is a finite map whose iteration order means nothing. `Std.ExtTreeMap` is exactly that:
equality of maps is equality of contents.
-/

namespace Ardents.Go

/-- A Go `map[α]β`. -/
abbrev GoMap (α β : Type) [Ord α] : Type := Std.ExtTreeMap α β compare

section

variable {α β : Type} [Ord α] [Std.TransOrd α] [Std.LawfulEqOrd α]

theorem get_insert [DecidableEq α] (m : GoMap α β) (k a : α) (v : β) :
    (m.insert k v)[a]? = if k = a then some v else m[a]? := by
  simp [Std.ExtTreeMap.getElem?_insert]

theorem get_erase [DecidableEq α] (m : GoMap α β) (k a : α) :
    (m.erase k)[a]? = if k = a then none else m[a]? := by
  simp [Std.ExtTreeMap.getElem?_erase]

theorem get_filter (m : GoMap α β) (p : α → Bool) (a : α) :
    (m.filter (fun k _ => p k))[a]? = if p a then m[a]? else none := by
  rw [Std.ExtTreeMap.getElem?_filter']
  cases m[a]? <;> cases p a <;> simp

theorem get_sweep (m : GoMap α β) (p : β → Bool) (a : α) :
    (m.filter (fun _ v => p v))[a]? = (m[a]?).filter p := by
  rw [Std.ExtTreeMap.getElem?_filter']

variable {m : GoMap α β}

theorem get_of_filter {p : α → β → Bool} {a : α} {v : β}
    (h : (m.filter p)[a]? = some v) : m[a]? = some v := by
  simp_all

theorem get_of_erase [DecidableEq α] {k a : α} {v : β}
    (h : (m.erase k)[a]? = some v) : m[a]? = some v := by
  grind

theorem get_map {γ : Type} {f : α → β → γ} {a : α} {w : γ}
    (h : (m.map f)[a]? = some w) : ∃ v, m[a]? = some v ∧ f a v = w := by
  rw [Std.ExtTreeMap.getElem?_map] at h
  exact Option.map_eq_some_iff.mp h

theorem map_ext {n : GoMap α β} (h : ∀ a : α, m[a]? = n[a]?) : m = n :=
  Std.ExtTreeMap.ext_getElem? h

omit [Std.LawfulEqOrd α] in
theorem mem_iff_get {a : α} : a ∈ m ↔ ∃ v, m[a]? = some v := by
  rw [Std.ExtTreeMap.mem_iff_isSome_getElem?, Option.isSome_iff_exists]

theorem insert_eq_self [DecidableEq α] {k : α} {v : β} (h : m[k]? = some v) : m.insert k v = m := by
  refine map_ext fun a => ?_
  rw [get_insert]
  split
  · rename_i hk; rw [← hk, h]
  · rfl

theorem insert_insert [DecidableEq α] (m : GoMap α β) (k : α) (v w : β) :
    (m.insert k v).insert k w = m.insert k w := by
  refine map_ext fun a => ?_
  rw [get_insert, get_insert, get_insert]
  split
  · rfl
  · rfl

/-- A list that holds the entries of a map, in whatever order a loop visits them. -/
def Lists (l : List (α × β)) (m : GoMap α β) : Prop := ∀ k v, (k, v) ∈ l ↔ m[k]? = some v

theorem lists_toList (m : GoMap α β) : Lists m.toList m :=
  fun _ _ => Std.ExtTreeMap.mem_toList_iff_getElem?_eq_some

theorem Lists.of_perm {l : List (α × β)} (h : l.Perm m.toList) : Lists l m :=
  fun k v => h.mem_iff.trans (lists_toList m k v)

structure RangeOrder (α β : Type) [Ord α] [Std.TransOrd α] where
  entries : GoMap α β → List (α × β)
  perm : ∀ m, (entries m).Perm m.toList

def RangeOrder.sorted : RangeOrder α β := ⟨fun m => m.toList, fun _ => List.Perm.refl _⟩

theorem RangeOrder.lists (r : RangeOrder α β) (m : GoMap α β) : Lists (r.entries m) m :=
  Lists.of_perm (r.perm m)

theorem foldlM_rebuild_of [DecidableEq α] {ε γ : Type} {n : GoMap α γ}
    {l : List (α × β)} {f : GoMap α γ → α × β → Except ε (GoMap α γ)} (hl : Lists l m)
    (hf : ∀ (out : GoMap α γ) (k : α) (v : β), (∀ (a : α) (w : γ), out[a]? = some w →
      n[a]? = some w) → m[k]? = some v → ∃ w, n[k]? = some w ∧ f out (k, v) = .ok (out.insert k w))
    (hn : ∀ k : α, k ∈ n → k ∈ m) : l.foldlM f ∅ = .ok n := by
  -- what the loop has built once it is through with the rest of the list
  have key : ∀ (rest : List (α × β)), (∀ p ∈ rest, m[p.1]? = some p.2) → ∀ acc : GoMap α γ,
      (∀ (a : α) (w : γ), acc[a]? = some w → n[a]? = some w) →
      ∃ out, rest.foldlM f acc = .ok out ∧
        ∀ k : α, out[k]? = if k ∈ rest.map Prod.fst then n[k]? else acc[k]? := by
    intro rest
    induction rest with
    | nil =>
      intro _ acc _
      exact ⟨acc, rfl, fun k => by simp⟩
    | cons p rest ih =>
      intro hrest acc hacc
      obtain ⟨w, hw, hp⟩ := hf acc p.1 p.2 hacc (hrest p List.mem_cons_self)
      have hnext : ∀ (a : α) (w' : γ), (acc.insert p.1 w)[a]? = some w' → n[a]? = some w' := by
        intro a w' ha
        rw [get_insert] at ha
        split at ha
        · rename_i hk
          rw [← hk, hw, ha]
        · exact hacc a w' ha
      obtain ⟨out, hout, hget⟩ :=
        ih (fun q hq => hrest q (List.mem_cons_of_mem _ hq)) (acc.insert p.1 w) hnext
      refine ⟨out, ?_, fun k => ?_⟩
      · rw [List.foldlM_cons, hp]
        exact hout
      · rw [hget k, get_insert]
        by_cases hk : p.1 = k
        · have hmem : k ∈ (p :: rest).map Prod.fst := by simp [hk]
          rw [if_pos hk, if_pos hmem, ← hk, hw]
          exact ite_self _
        · have hmem : k ∈ rest.map Prod.fst ↔ k ∈ (p :: rest).map Prod.fst := by
            rw [List.map_cons, List.mem_cons, or_iff_right (Ne.symm hk)]
          rw [if_neg hk]
          exact if_congr hmem rfl rfl
  obtain ⟨out, hout, hget⟩ := key l (fun p hp => (hl p.1 p.2).mp hp) ∅
    (fun a w ha => absurd ha (by simp))
  rw [hout]
  refine congrArg Except.ok (map_ext fun k => ?_)
  rw [hget k]
  by_cases hk : k ∈ m
  · obtain ⟨v, hv⟩ := mem_iff_get.mp hk
    rw [if_pos (List.mem_map.mpr ⟨(k, v), (hl k v).mpr hv, rfl⟩)]
  · grind

theorem foldlM_rebuild [DecidableEq α] {ε γ : Type} {n : GoMap α γ}
    {f : GoMap α γ → α × β → Except ε (GoMap α γ)}
    (hf : ∀ (out : GoMap α γ) (k : α) (v : β), m[k]? = some v →
      ∃ w, n[k]? = some w ∧ f out (k, v) = .ok (out.insert k w))
    (hn : ∀ k : α, k ∈ n → k ∈ m) : m.toList.foldlM f ∅ = .ok n :=
  foldlM_rebuild_of (lists_toList m) (fun out k v _ => hf out k v) hn

theorem foldl_rebuild_of [DecidableEq α] {γ : Type} {n : GoMap α γ}
    {l : List (α × β)} {f : GoMap α γ → α × β → GoMap α γ} (hl : Lists l m)
    (hf : ∀ (out : GoMap α γ) (k : α) (v : β), (∀ (a : α) (w : γ), out[a]? = some w →
      n[a]? = some w) → m[k]? = some v → ∃ w, n[k]? = some w ∧ f out (k, v) = out.insert k w)
    (hn : ∀ k : α, k ∈ n → k ∈ m) : l.foldl f ∅ = n := by
  have h : l.foldlM (fun out p => (pure (f out p) : Except Unit (GoMap α γ))) ∅ = .ok n := by
    refine foldlM_rebuild_of hl (fun out k v hout hv => ?_) hn
    obtain ⟨w, hw, hstep⟩ := hf out k v hout hv
    exact ⟨w, hw, congrArg Except.ok hstep⟩
  rw [List.foldlM_pure] at h
  exact Except.ok.inj h

theorem foldl_rebuild [DecidableEq α] {f : GoMap α β → α × β → GoMap α β}
    (hf : ∀ (out : GoMap α β) (k : α) (v : β), m[k]? = some v → f out (k, v) = out.insert k v) :
    m.toList.foldl f ∅ = m :=
  foldl_rebuild_of (lists_toList m) (fun out k v _ hv => ⟨v, hv, hf out k v hv⟩) fun _ hk => hk

theorem foldl_values [DecidableEq α] {γ : Type} {l : List β} {key : β → α}
    (hkey : ∀ (k : α) (v : β), m[k]? = some v → key v = k) (hl : l.Perm (m.toList.map Prod.snd))
    (g : β → γ) : l.foldl (fun out v => out.insert (key v) (g v)) ∅ = m.map fun _ v => g v := by
  have hlists : Lists (l.map fun v => (key v, v)) m := by
    intro k v
    simp only [List.mem_map, hl.mem_iff, Prod.mk.injEq]
    constructor
    · grind
    · intro hget
      exact ⟨v, ⟨(k, v), (lists_toList m k v).mpr hget, rfl⟩, hkey k v hget, rfl⟩
  have h : (l.map fun v => (key v, v)).foldl (fun out p => out.insert p.1 (g p.2)) ∅
      = m.map fun _ v => g v := by
    refine foldl_rebuild_of hlists (fun out k v _ hv => ⟨g v, ?_, rfl⟩) fun k hk => ?_
    · simp [hv]
    · simpa using hk
  rwa [List.foldl_map] at h

theorem size_le_card {γ : Type} [DecidableEq γ] {f : α → γ} {s : Finset γ}
    (hf : Function.Injective f) (h : ∀ a ∈ m, f a ∈ s) : m.size ≤ s.card := by
  have hnd : (m.keys.map f).Nodup := m.nodup_keys.map hf
  have hsub : (m.keys.map f).toFinset ⊆ s := by
    intro x hx
    obtain ⟨a, ha, rfl⟩ := List.mem_map.mp (List.mem_toFinset.mp hx)
    exact h a (Std.ExtTreeMap.mem_keys.mp ha)
  calc m.size = (m.keys.map f).length := by
        rw [List.length_map, Std.ExtTreeMap.length_keys]
    _ = (m.keys.map f).toFinset.card := (List.toFinset_card_of_nodup hnd).symm
    _ ≤ s.card := Finset.card_le_card hsub

end

end Ardents.Go
