import Mathlib

/-!
# References to maps

A Go map value is a reference: two structs can hold one and the same map, and a write through
either is seen through both. The heap is a growing list of cells, addressed by position.
-/

namespace Ardents.Go

abbrev Ref : Type := Nat

/-- A heap of cells of type `β`. Cells are never freed. -/
structure Heap (β : Type) where
  /-- The contents, by address. -/
  cells : List β

namespace Heap

variable {β : Type}

def empty : Heap β := ⟨[]⟩

/-- The contents at `a`, if it is allocated. -/
def read (h : Heap β) (a : Ref) : Option β := h.cells[a]?

/-- Replace the contents at `a`. -/
def write (h : Heap β) (a : Ref) (v : β) : Heap β := ⟨h.cells.set a v⟩

/-- A fresh cell holding `v`, with its address. -/
def alloc (h : Heap β) (v : β) : Ref × Heap β := (h.cells.length, ⟨h.cells ++ [v]⟩)

def Valid (h : Heap β) (a : Ref) : Prop := a < h.cells.length

variable {h : Heap β} {a : Ref}

theorem read_eq_some_of_valid (ha : h.Valid a) : ∃ v, h.read a = some v :=
  ⟨h.cells[a], List.getElem?_eq_getElem ha⟩

theorem valid_of_read {v : β} (hr : h.read a = some v) : h.Valid a :=
  (List.getElem?_eq_some_iff.mp hr).1

theorem read_write_self (ha : h.Valid a) (v : β) : (h.write a v).read a = some v := by
  unfold read write
  rw [List.getElem?_set_self ha]

theorem read_write_ne {b : Ref} (v : β) (hab : a ≠ b) : (h.write a v).read b = h.read b := by
  unfold read write
  rw [List.getElem?_set_ne hab]

theorem write_read {v : β} (hr : h.read a = some v) : h.write a v = h := by
  obtain ⟨ha, hv⟩ := List.getElem?_eq_some_iff.mp hr
  unfold write
  rw [← hv, List.set_getElem_self]

theorem write_write (h : Heap β) (a : Ref) (v w : β) : (h.write a v).write a w = h.write a w := by
  unfold write
  rw [List.set_set]

@[simp] theorem valid_write {b : Ref} {v : β} : (h.write a v).Valid b ↔ h.Valid b := by
  unfold Valid write
  rw [List.length_set]

theorem read_alloc_self (h : Heap β) (v : β) : (h.alloc v).2.read (h.alloc v).1 = some v := by
  unfold read alloc
  simp

theorem read_alloc_of_valid (ha : h.Valid a) (v : β) : (h.alloc v).2.read a = h.read a := by
  unfold read alloc
  rw [List.getElem?_append_left ha]

theorem valid_alloc (ha : h.Valid a) (v : β) : (h.alloc v).2.Valid a := by
  show a < (h.cells ++ [v]).length
  rw [List.length_append]
  exact Nat.lt_add_right _ ha

theorem valid_alloc_self (h : Heap β) (v : β) : (h.alloc v).2.Valid (h.alloc v).1 :=
  valid_of_read (read_alloc_self h v)

theorem ne_alloc (ha : h.Valid a) (v : β) : a ≠ (h.alloc v).1 :=
  Nat.ne_of_lt ha

end Heap

end Ardents.Go
