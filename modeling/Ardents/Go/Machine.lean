import Mathlib

/-!
# Integers, lower case and paths

`int64` arithmetic, which wraps around; `strings.ToLower`, which needs tables of Unicode
that are left open here; and file paths, which `filepath.Join` puts together and cleans by
their components. Paths are those of Unix.
-/

namespace Ardents.Go

/-! ## `int64` -/

/-- The `int64` that a calculation ends in. -/
def int64 (x : Int) : Int := x.bmod (2 ^ 64)

theorem int64_eq_self {x : Int} (hlow : -2 ^ 63 ≤ x) (hhigh : x < 2 ^ 63) : int64 x = x := by
  exact Int.bmod_eq_of_le (by omega) (by omega)

/-! ## `strings.ToLower` -/

/-- `unicode.ToLower`, of which only the ASCII part is fixed. -/
class LowerCase where
  toLower : Char → Char
  ascii : ∀ c : Char, c.toNat < 128 → toLower c = c.toLower

@[reducible] def asciiLowerCase : LowerCase := ⟨Char.toLower, fun _ _ => rfl⟩

/-- `strings.ToLower`. -/
def toLower [LowerCase] (s : String) : String := String.ofList (s.toList.map LowerCase.toLower)

theorem toLower_eq_self [LowerCase] {s : String}
    (h : ∀ c ∈ s.toList, c.toNat < 128 ∧ c.isUpper = false) : toLower s = s := by
  have hmap : s.toList.map LowerCase.toLower = s.toList := by
    conv_rhs => rw [← List.map_id s.toList]
    refine List.map_congr_left fun c hc => ?_
    obtain ⟨hascii, hlower⟩ := h c hc
    rw [LowerCase.ascii c hascii]
    simp only [Char.isUpper, decide_eq_false_iff_not] at hlower
    exact dif_neg hlower
  simp_all [toLower]

/-! ## Paths -/

/-- A clean path: no component is empty or `.`, and `..` stands only in front, and only where the
path is not rooted. -/
structure Path where
  rooted : Bool
  parts : List String
  deriving DecidableEq, Repr

namespace Path

/-- One component more, the last one first. Above the root there is nothing. -/
def push (rooted : Bool) (stack : List String) (part : String) : List String :=
  if part = "" ∨ part = "." then stack
  else if part = ".." then
    match stack with
    | [] => if rooted then [] else [".."]
    | last :: rest => if last = ".." then ".." :: stack else rest
  else part :: stack

def split (s : String) : List String := (s.toList.splitOn '/').map String.ofList

/-- `filepath.Clean`. -/
def clean (s : String) : Path :=
  let rooted := s.toList.head? = some '/'
  ⟨rooted, ((split s).foldl (push rooted) []).reverse⟩

/-- `filepath.Join` of a directory that is not empty and a name. -/
def join (dir name : String) : Path := clean (dir ++ "/" ++ name)

def Inside (dir p : Path) : Prop :=
  p.rooted = dir.rooted ∧ ∃ rest, rest ≠ [] ∧ p.parts = dir.parts ++ rest ∧ ".." ∉ rest

example : join "data/attachments" "../x.bin" = ⟨false, ["data", "x.bin"]⟩ := by decide

end Path

end Ardents.Go
