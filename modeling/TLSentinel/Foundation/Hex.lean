/-
  Foundation.Hex
  ──────────────
  **HEXADECIMAL DIGITS, AND BYTES AS PAIRS OF THEM.**

  The digits may be of either case: what is proved of bytes holds of any choice of sixteen
  digits that have their values.

  Main results:
    * `asciiValue?_asciiDigit` — a digit is read as the number it was written for;
    * `decode_encode` — pairs of digits give back the bytes;
    * `leftpad_toDigits` — a number below 256, printed in base 16 and padded to two
                           digits, is such a pair.
-/
import Mathlib.Data.List.Basic

namespace Foundation.Hex

/-! ## §1. Digits. -/

/-- A hexadecimal digit. -/
def isHex (c : Char) : Bool :=
  c.isDigit || (decide ('a' ≤ c) && decide (c ≤ 'f')) || (decide ('A' ≤ c) && decide (c ≤ 'F'))

/-- The value of a hexadecimal digit. -/
def hexValue (c : Char) : Nat :=
  if c.isDigit then c.toNat - 48
  else if 'a' ≤ c then c.toNat - 87
  else c.toNat - 55

/-- The value of several digits. -/
def hexGroup (digits : List Char) : Nat := digits.foldl (fun acc c => acc * 16 + hexValue c) 0

/-- A choice of sixteen digits. -/
structure Digits (digit : Nat → Char) : Prop where
  isHex : ∀ n < 16, isHex (digit n) = true
  value : ∀ n < 16, hexValue (digit n) = n

/-- The digits in upper case. -/
def upperDigit (n : Nat) : Char := n.digitChar.toUpper

/-- The code points of digits, of both cases. -/
theorem isHex_iff {c : Char} : isHex c = true ↔
    48 ≤ c.toNat ∧ c.toNat ≤ 57 ∨ 97 ≤ c.toNat ∧ c.toNat ≤ 102 ∨
      65 ≤ c.toNat ∧ c.toNat ≤ 70 := by
  unfold isHex
  simp only [Bool.or_eq_true, Bool.and_eq_true, decide_eq_true_eq, Char.isDigit_iff_toNat,
    Char.le_def, UInt32.le_iff_toNat_le, or_assoc]
  rfl

theorem isHex_of_isDigit {c : Char} (h : c.isDigit = true) : isHex c = true := by
  simp [isHex, h]

theorem digits_lower : Digits Nat.digitChar := ⟨by decide, by decide⟩

theorem digits_upper : Digits upperDigit := ⟨by decide, by decide⟩

/-- A digit in lower case, as a byte of ASCII. -/
def asciiDigit (n : Nat) : UInt8 := UInt8.ofNat n.digitChar.toNat

/-- The value of a byte that is a digit. -/
def asciiValue? (b : UInt8) : Option Nat :=
  if isHex (Char.ofNat b.toNat) then some (hexValue (Char.ofNat b.toNat)) else none

theorem asciiValue?_asciiDigit {n : Nat} (hn : n < 16) :
    asciiValue? (asciiDigit n) = some n := by
  have hall : ∀ n : Fin 16, asciiValue? (asciiDigit n) = some n.val := by decide
  exact hall ⟨n, hn⟩

/-! ## §2. Bytes. -/

/-- The two digits of a byte. -/
def byteDigits (digit : Nat → Char) (b : UInt8) : List Char :=
  [digit (b.toNat / 16), digit (b.toNat % 16)]

/-- The digits of some bytes. -/
def encode (digit : Nat → Char) (bs : List UInt8) : List Char := bs.flatMap (byteDigits digit)

/-- The bytes of pairs of digits. -/
def decode : List Char → List UInt8
  | a :: b :: s => UInt8.ofNat (hexGroup [a, b]) :: decode s
  | _ => []

variable {digit : Nat → Char}

theorem div_lt_of_byte (b : UInt8) : b.toNat / 16 < 16 := by
  have hb := b.toNat_lt
  omega

theorem mod_lt_of_byte (b : UInt8) : b.toNat % 16 < 16 := Nat.mod_lt _ (by omega)

theorem isHex_of_mem_encode (h : Digits digit) {bs : List UInt8} :
    ∀ c ∈ encode digit bs, isHex c = true := by
  intro c hc
  obtain ⟨b, -, hb⟩ := List.mem_flatMap.mp hc
  simp only [byteDigits, List.mem_cons, List.not_mem_nil, or_false] at hb
  rcases hb with rfl | rfl
  · exact h.isHex _ (div_lt_of_byte b)
  · exact h.isHex _ (mod_lt_of_byte b)

theorem length_encode (bs : List UInt8) : (encode digit bs).length = 2 * bs.length := by
  induction bs with
  | nil => rfl
  | cons b bs ih =>
      have hcons : (encode digit (b :: bs)).length = (encode digit bs).length + 2 := rfl
      rw [hcons, ih, List.length_cons]
      omega

/-- **The digits of bytes give them back.** -/
theorem decode_encode (h : Digits digit) (bs : List UInt8) : decode (encode digit bs) = bs := by
  induction bs with
  | nil => rfl
  | cons b bs ih =>
      have hgroup : hexGroup [digit (b.toNat / 16), digit (b.toNat % 16)] = b.toNat := by
        show (0 * 16 + hexValue (digit (b.toNat / 16))) * 16 + hexValue (digit (b.toNat % 16)) = _
        rw [h.value _ (div_lt_of_byte b), h.value _ (mod_lt_of_byte b)]
        omega
      show UInt8.ofNat (hexGroup _) :: decode (encode digit bs) = b :: bs
      rw [hgroup, ih, UInt8.ofNat_toNat]

/-- What has no pair, and no odd digit, is empty. -/
theorem eq_nil_of_even {s : List Char} (hshort : ∀ a b t, s = a :: b :: t → False)
    (heven : s.length % 2 = 0) : s = [] := by
  match s, hshort, heven with
  | [], _, _ => rfl
  | [a], _, heven => exact absurd heven Nat.one_ne_zero
  | a :: b :: t, hshort, _ => exact (hshort a b t rfl).elim

theorem length_decode {s : List Char} (heven : s.length % 2 = 0) :
    2 * (decode s).length = s.length := by
  fun_induction decode s with
  | case1 a b s ih =>
      rw [List.length_cons, List.length_cons] at heven ⊢
      have htwice := ih (by omega)
      rw [List.length_cons]
      omega
  | case2 s hshort =>
      rw [eq_nil_of_even hshort heven]
      rfl

/-- Two digits of every number below 256. -/
theorem leftpad_toDigits (b : UInt8) :
    (Nat.toDigits 16 b.toNat).leftpad 2 '0' = byteDigits Nat.digitChar b := by
  have hb := b.toNat_lt
  by_cases hsmall : b.toNat < 16
  · rw [Nat.toDigits_of_lt_base hsmall, byteDigits, Nat.div_eq_of_lt hsmall,
      Nat.mod_eq_of_lt hsmall]
    rfl
  · have htop := div_lt_of_byte b
    rw [Nat.toDigits_of_base_le (by omega) (by omega), Nat.toDigits_of_lt_base htop]
    rfl

end Foundation.Hex
