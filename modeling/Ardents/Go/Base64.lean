import Ardents.Go.Text

/-!
# Base64 without padding

The raw encodings of `encoding/base64`, over any alphabet of 64 symbols. Three bytes make four
digits; what is left at the end makes two or three, and the bits that are then to spare are zero
when encoding and ignored when decoding.
-/

namespace Ardents.Go

structure Alphabet where
  symbols : List Char
  length_eq : symbols.length = 64
  nodup : symbols.Nodup

namespace Alphabet

def digit (A : Alphabet) (n : Nat) : Char :=
  A.symbols.get ⟨n % 64, by rw [A.length_eq]; exact Nat.mod_lt _ (by norm_num)⟩

def value (A : Alphabet) (c : Char) : Option Nat := A.symbols.findIdx? (· == c)

theorem digit_mem (A : Alphabet) (n : Nat) : A.digit n ∈ A.symbols := List.get_mem _ _

theorem value_digit (A : Alphabet) (n : Nat) : A.value (A.digit n) = some (n % 64) := by
  have hlt : n % 64 < A.symbols.length := by
    rw [A.length_eq]
    exact Nat.mod_lt _ (by norm_num)
  unfold value digit
  rw [List.findIdx?_eq_some_iff_getElem]
  refine ⟨hlt, by simp, fun j hj => ?_⟩
  -- an earlier symbol is another one
  simp only [List.get_eq_getElem, beq_iff_eq]
  intro heq
  have hsame := (A.nodup.getElem_inj_iff).mp heq
  omega

/-- `EncodeToString` of a raw encoding. -/
def encode (A : Alphabet) : Bytes → List Char
  | a :: b :: c :: rest =>
    let n := a.toNat * 65536 + b.toNat * 256 + c.toNat
    A.digit (n / 262144) :: A.digit (n / 4096) :: A.digit (n / 64) :: A.digit n :: A.encode rest
  | [a, b] =>
    let n := a.toNat * 65536 + b.toNat * 256
    [A.digit (n / 262144), A.digit (n / 4096), A.digit (n / 64)]
  | [a] =>
    let n := a.toNat * 65536
    [A.digit (n / 262144), A.digit (n / 4096)]
  | [] => []

/-- The digits of a raw encoding, in groups of four; a last group has two or three. -/
def decodeDigits (A : Alphabet) : List Char → Option Bytes
  | p :: q :: r :: t :: rest => do
    let n := (← A.value p) * 262144 + (← A.value q) * 4096 + (← A.value r) * 64 + (← A.value t)
    return UInt8.ofNat (n / 65536) :: UInt8.ofNat (n / 256) :: UInt8.ofNat n ::
      (← A.decodeDigits rest)
  | [p, q, r] => do
    let n := (← A.value p) * 262144 + (← A.value q) * 4096 + (← A.value r) * 64
    return [UInt8.ofNat (n / 65536), UInt8.ofNat (n / 256)]
  | [p, q] => do
    let n := (← A.value p) * 262144 + (← A.value q) * 4096
    return [UInt8.ofNat (n / 65536)]
  | [_] => none
  | [] => some []

/-- `DecodeString` of a raw encoding, which skips the ends of lines. -/
def decode (A : Alphabet) (digits : List Char) : Option Bytes :=
  A.decodeDigits (digits.filter fun c => c ≠ '\n' ∧ c ≠ '\r')

variable {A : Alphabet}

theorem encode_mem {b : Bytes} {c : Char} (h : c ∈ A.encode b) : c ∈ A.symbols := by
  fun_induction A.encode b with
  | case1 x y z rest n ih =>
    grind [digit_mem]
  | case2 x y n =>
    grind [digit_mem]
  | case3 x n =>
    grind [digit_mem]
  | case4 => exact absurd h List.not_mem_nil

theorem ofNat_eq {n : Nat} {x : UInt8} (h : n % 256 = x.toNat) : UInt8.ofNat n = x := by
  rw [← UInt8.toNat_inj, UInt8.toNat_ofNat']
  exact h

theorem decodeDigits_encode (b : Bytes) : A.decodeDigits (A.encode b) = some b := by
  fun_induction A.encode b with
  | case1 x y z rest n ih =>
    have hx := x.toNat_lt
    have hy := y.toNat_lt
    have hz := z.toNat_lt
    have hn : n / 262144 % 64 * 262144 + n / 4096 % 64 * 4096 + n / 64 % 64 * 64 + n % 64 =
        n := by
      omega
    simp only [decodeDigits, value_digit, ih, bind, Option.bind, pure, hn]
    rw [ofNat_eq (x := x) (by omega), ofNat_eq (x := y) (by omega), ofNat_eq (x := z) (by omega)]
  | case2 x y n =>
    have hx := x.toNat_lt
    have hy := y.toNat_lt
    have hn : n / 262144 % 64 * 262144 + n / 4096 % 64 * 4096 + n / 64 % 64 * 64 = n := by
      omega
    simp only [decodeDigits, value_digit, bind, Option.bind, pure, hn]
    rw [ofNat_eq (x := x) (by omega), ofNat_eq (x := y) (by omega)]
  | case3 x n =>
    have hx := x.toNat_lt
    have hn : n / 262144 % 64 * 262144 + n / 4096 % 64 * 4096 = n := by omega
    simp only [decodeDigits, value_digit, bind, Option.bind, pure, hn]
    rw [ofNat_eq (x := x) (by omega)]
  | case4 => rfl

theorem decode_encode (hn : '\n' ∉ A.symbols) (hr : '\r' ∉ A.symbols) (b : Bytes) :
    A.decode (A.encode b) = some b := by
  have hkeep : (A.encode b).filter (fun c => c ≠ '\n' ∧ c ≠ '\r') = A.encode b := by
    refine List.filter_eq_self.mpr fun c hc => ?_
    grind [encode_mem]
  unfold decode
  rw [hkeep, decodeDigits_encode]

end Alphabet

def urlAlphabet : Alphabet where
  symbols := "ABCDEFGHIJKLMNOPQRSTUVWXYZabcdefghijklmnopqrstuvwxyz0123456789-_".toList
  length_eq := by decide
  nodup := by decide

/-- `base64.RawURLEncoding`. -/
def rawURLEncode (b : Bytes) : String := String.ofList (urlAlphabet.encode b)

def rawURLDecode (s : String) : Option Bytes := urlAlphabet.decode s.toList

example : rawURLEncode [251, 255, 1] = "-_8B" := by decide

theorem rawURLDecode_encode (b : Bytes) : rawURLDecode (rawURLEncode b) = some b := by
  unfold rawURLDecode rawURLEncode
  rw [String.toList_ofList]
  exact Alphabet.decode_encode (by decide) (by decide) b

end Ardents.Go
