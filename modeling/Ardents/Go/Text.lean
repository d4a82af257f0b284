import Mathlib

/-!
# Strings, bytes and their encodings

Go strings that reach this program come out of a JSON decoder or a formatter, so they are valid
UTF-8 and are modelled by `String`. White space differs from Lean's library: `strings.TrimSpace`
cuts everything `unicode.IsSpace` accepts. What is read from a file or from the environment may be
any bytes; the last section trims those.
-/

namespace Ardents.Go

/-- A Go `[]byte`. -/
abbrev Bytes : Type := List UInt8

/-- `unicode.IsSpace`. -/
def isSpace (c : Char) : Bool :=
  let n := c.toNat
  (0x09 ≤ n && n ≤ 0x0d) || n == 0x20 || n == 0x85 || n == 0xa0 || n == 0x1680
    || (0x2000 ≤ n && n ≤ 0x200a) || n == 0x2028 || n == 0x2029 || n == 0x202f
    || n == 0x205f || n == 0x3000

/-- Cut what satisfies `p` from both ends of a list. -/
def trimBoth {α : Type} (p : α → Bool) (l : List α) : List α := (l.dropWhile p).rdropWhile p

variable (s : String)

/-- `strings.TrimSpace`. -/
def trimSpace : String := String.ofList (trimBoth isSpace s.toList)

theorem trimBoth_idem {α : Type} (p : α → Bool) (l : List α) :
    trimBoth p (trimBoth p l) = trimBoth p l := by
  -- cutting at the back cannot expose a blank at the front
  have hfront : (trimBoth p l).dropWhile p = trimBoth p l := by
    rw [List.dropWhile_eq_self_iff]
    intro hlen
    have hpre : trimBoth p l <+: l.dropWhile p := List.rdropWhile_prefix p _
    have hne : l.dropWhile p ≠ [] := by
      grind
    have hget := hpre.getElem (i := 0) hlen
    rw [hget]
    exact List.dropWhile_get_zero_not p l (List.length_pos_of_ne_nil hne)
  unfold trimBoth at hfront ⊢
  rw [hfront]
  exact List.rdropWhile_idempotent p _

@[simp] theorem trimSpace_idem : trimSpace (trimSpace s) = trimSpace s := by
  simp [trimSpace, trimBoth_idem]

example : trimSpace " \t alice\n" = "alice" := by decide

theorem trimSpace_eq_self {s : String} (h : ∀ c ∈ s.toList, isSpace c = false) :
    trimSpace s = s := by
  have hfront : s.toList.dropWhile isSpace = s.toList := by
    simp_all
  have hback : s.toList.rdropWhile isSpace = s.toList := by
    simp_all
  unfold trimSpace trimBoth
  rw [hfront, hback, String.ofList_toList]

theorem trimSpace_ne_empty {s : String} {c : Char} {rest : List Char} (hs : s.toList = c :: rest)
    (hc : isSpace c = false) : trimSpace s ≠ "" := by
  intro hempty
  have hnil : (s.toList.dropWhile isSpace).rdropWhile isSpace = [] := by
    simp_all [trimSpace, trimBoth]
  simp_all

/-- The conversion `[]byte(s)`. -/
def bytesOf : Bytes := s.toUTF8.data.toList

theorem bytesOf_inj {s t : String} (h : bytesOf s = bytesOf t) : s = t :=
  String.toByteArray_inj.mp (ByteArray.ext (Array.toList_inj.mp h))

theorem bytesOf_append (t : String) : bytesOf (s ++ t) = bytesOf s ++ bytesOf t := by
  unfold bytesOf
  simp [String.toUTF8]

theorem bytesOf_eq_flatMap : bytesOf s = s.toList.flatMap String.utf8EncodeChar := by
  have h : s.toByteArray = s.toList.utf8Encode := by
    rw [← String.toByteArray_ofList, String.ofList_toList]
  unfold bytesOf
  rw [String.toUTF8, h, List.utf8Encode, List.data_toByteArray]

theorem length_toList_le_bytesOf : s.toList.length ≤ (bytesOf s).length := by
  rw [bytesOf_eq_flatMap]
  induction s.toList with
  | nil => exact le_rfl
  | cons c rest ih =>
    have hchar : 0 < (String.utf8EncodeChar c).length := by
      rw [String.length_utf8EncodeChar]
      exact Char.utf8Size_pos c
    rw [List.flatMap_cons, List.length_append, List.length_cons]
    omega

theorem first_separator_unique {α : Type} {p : α → Bool} {x y r t : List α} {a b : α}
    (ha : p a = true) (hb : p b = true) (hx : ∀ c ∈ x, p c = false) (hy : ∀ c ∈ y, p c = false)
    (h : x ++ a :: r = y ++ b :: t) : x = y ∧ a = b ∧ r = t := by
  have key : ∀ (z s : List α) (c : α), p c = true → (∀ d ∈ z, p d = false) →
      (z ++ c :: s).takeWhile (fun d => !p d) = z := by
    simp_all
  have hxy : x = y := by rw [← key x r a ha hx, h, key y t b hb hy]
  subst hxy
  obtain ⟨hab, hrt⟩ := List.cons.inj (List.append_cancel_left h)
  exact ⟨rfl, hab, hrt⟩

/-! ## Reading a decimal number off the end of a text -/

theorem suffix_unique {α : Type} [DecidableEq α] {c : α} {l m x y : List α}
    (hx : c ∉ x) (hy : c ∉ y) (h : l ++ c :: x = m ++ c :: y) : x = y := by
  have key : ∀ (l x : List α), c ∉ x → (l ++ c :: x).rtakeWhile (fun a => decide (a ≠ c)) = x := by
    intro l x hx
    rw [List.rtakeWhile, List.reverse_append, List.reverse_cons, List.append_assoc,
      List.takeWhile_append_of_pos, List.singleton_append, List.takeWhile_cons_of_neg]
    · simp
    · simp
    · grind
  rw [← key l x hx, h, key m y hy]

theorem underscore_not_mem_repr (n : Nat) : '_' ∉ (Nat.repr n).toList := by
  simp

theorem decimal_suffix_inj {p q : String} {m n : Nat}
    (h : p ++ "_" ++ toString m = q ++ "_" ++ toString n) : m = n := by
  have hl := congrArg String.toList h
  simp only [String.toList_append, List.append_assoc] at hl
  have hx := suffix_unique (c := '_') (underscore_not_mem_repr m) (underscore_not_mem_repr n) hl
  exact Nat.repr_inj.mp (String.toList_inj.mp hx)

/-! ## Big-endian bytes -/

/-- The eight bytes `byte(x>>56), ..., byte(x)`. -/
def bigEndian64 (x : UInt64) : Bytes :=
  [(x >>> 56).toUInt8, (x >>> 48).toUInt8, (x >>> 40).toUInt8, (x >>> 32).toUInt8,
    (x >>> 24).toUInt8, (x >>> 16).toUInt8, (x >>> 8).toUInt8, x.toUInt8]

@[simp] theorem bigEndian64_length (x : UInt64) : (bigEndian64 x).length = 8 := rfl

theorem bigEndian64_inj {x y : UInt64} (h : bigEndian64 x = bigEndian64 y) : x = y := by
  simp only [bigEndian64, List.cons.injEq, and_true, ← UInt8.toNat_inj, UInt64.toNat_toUInt8,
    UInt64.toNat_shiftRight, Nat.shiftRight_eq_div_pow] at h
  have hx := x.toNat_lt
  have hy := y.toNat_lt
  rw [← UInt64.toNat_inj]
  simp at h
  omega

/-! ## Byte strings -/

/-- The encodings of the characters that `unicode.IsSpace` accepts. -/
def spaceEncodings : List Bytes :=
  [[0x09], [0x0a], [0x0b], [0x0c], [0x0d], [0x20], [0xc2, 0x85], [0xc2, 0xa0], [0xe1, 0x9a, 0x80],
    [0xe2, 0x80, 0xa8], [0xe2, 0x80, 0xa9], [0xe2, 0x80, 0xaf], [0xe2, 0x81, 0x9f],
    [0xe3, 0x80, 0x80]] ++
  (List.range 11).map fun i => [0xe2, 0x80, 0x80 + UInt8.ofNat i]

def cutFront (cuts : List Bytes) : Nat → Bytes → Bytes
  | 0, b => b
  | n + 1, b =>
    match cuts.find? (·.isPrefixOf b) with
    | none => b
    | some cut => cutFront cuts n (b.drop cut.length)

/-- `strings.TrimSpace` on any bytes. -/
def trimSpaceBytes (b : Bytes) : Bytes :=
  let b := cutFront spaceEncodings b.length b
  (cutFront (spaceEncodings.map List.reverse) b.length b.reverse).reverse

example : trimSpaceBytes (bytesOf " \t ke y\u00a0\n") = bytesOf "ke y" := by decide

/-- `strings.ToLower`, for comparing with ASCII words: of the other characters, only `İ` and the
Kelvin sign have a lower case in ASCII. -/
def toLowerBytes : Bytes → Bytes
  | 0xc4 :: 0xb0 :: rest => 0x69 :: toLowerBytes rest
  | 0xe2 :: 0x84 :: 0xaa :: rest => 0x6b :: toLowerBytes rest
  | b :: rest => (if 0x41 ≤ b ∧ b ≤ 0x5a then b + 0x20 else b) :: toLowerBytes rest
  | [] => []

def base64Alphabet : Bytes :=
  bytesOf "ABCDEFGHIJKLMNOPQRSTUVWXYZabcdefghijklmnopqrstuvwxyz0123456789+/"

def bigEndianNat (b : Bytes) : Nat := b.foldl (fun n x => 256 * n + x.toNat) 0

def base64Digit (n : Nat) : UInt8 := base64Alphabet.getD (n % 64) 0

/-- `base64.RawStdEncoding`. -/
def base64RawEncode : Bytes → Bytes
  | a :: b :: c :: rest =>
    let n := bigEndianNat [a, b, c]
    base64Digit (n / 262144) :: base64Digit (n / 4096) :: base64Digit (n / 64) ::
      base64Digit n :: base64RawEncode rest
  | [a, b] =>
    let n := bigEndianNat [a, b, 0]
    [base64Digit (n / 262144), base64Digit (n / 4096), base64Digit (n / 64)]
  | [a] =>
    let n := bigEndianNat [a, 0, 0]
    [base64Digit (n / 262144), base64Digit (n / 4096)]
  | [] => []

example : base64RawEncode (bytesOf "light work") = bytesOf "bGlnaHQgd29yaw" := by decide

def base64Value (c : UInt8) : Option Nat := base64Alphabet.findIdx? (· == c)

/-- Groups of four digits, of which the last may be filled up with `=`. -/
def base64Groups : Bytes → Option Bytes
  | [] => some []
  | a :: b :: c :: d :: rest => do
    let n := (← base64Value a) * 262144 + (← base64Value b) * 4096
    -- the bits that a filled-up group has left over are not looked at
    if c = 0x3d ∧ d = 0x3d ∧ rest = [] then
      return [(n / 65536).toUInt8]
    let n := n + (← base64Value c) * 64
    if d = 0x3d ∧ rest = [] then
      return [(n / 65536).toUInt8, (n / 256).toUInt8]
    let n := n + (← base64Value d)
    return (n / 65536).toUInt8 :: (n / 256).toUInt8 :: n.toUInt8 :: (← base64Groups rest)
  | _ => none

/-- `base64.StdEncoding.DecodeString`, which skips the ends of lines. -/
def base64StdDecode : Option Bytes :=
  base64Groups ((bytesOf s).filter fun c => c ≠ 0x0a ∧ c ≠ 0x0d)

example : base64StdDecode "bGlna\nHQgd29yaw==" = some (bytesOf "light work") := by decide

end Ardents.Go
