/-
  Foundation.Base32
  ─────────────────
  **THE BASE 32 ENCODING OF BYTES, WITHOUT PADDING.**

  The bits of the bytes are taken five at a time, the most significant one first, and
  each group is a character of the alphabet A-Z, 2-7; the last group is filled up with
  zeros.

  Main results:
    * `decode_encode`    — an encoded text reads back as the bytes;
    * `encode_injective` — different bytes have different texts.
-/
import Mathlib.Data.List.Basic

namespace Foundation.Base32

/-- A byte. -/
abbrev Byte := BitVec 8

/-! ## §1. Groups of bits. -/

/-- The number that the bits are, the most significant one first. -/
def value (bits : List Bool) : Nat := bits.foldl (fun n b => 2 * n + b.toNat) 0

/-- The bits of a byte. -/
def byteBits (b : Byte) : List Bool :=
  [b.getMsbD 0, b.getMsbD 1, b.getMsbD 2, b.getMsbD 3, b.getMsbD 4, b.getMsbD 5, b.getMsbD 6,
    b.getMsbD 7]

/-- The alphabet. -/
def alphabet : List Char :=
  ['A', 'B', 'C', 'D', 'E', 'F', 'G', 'H', 'I', 'J', 'K', 'L', 'M', 'N', 'O', 'P', 'Q', 'R', 'S',
    'T', 'U', 'V', 'W', 'X', 'Y', 'Z', '2', '3', '4', '5', '6', '7']

/-- The character of a group of five bits. -/
def digit (bits : List Bool) : Char := alphabet.getD (value bits) 'A'

/-- The bits of a character. -/
def undigit (c : Char) : List Bool :=
  let n := alphabet.idxOf c
  [n.testBit 4, n.testBit 3, n.testBit 2, n.testBit 1, n.testBit 0]

theorem undigit_digit : ∀ b₄ b₃ b₂ b₁ b₀ : Bool,
    undigit (digit [b₄, b₃, b₂, b₁, b₀]) = [b₄, b₃, b₂, b₁, b₀] := by decide

theorem digit_mem_alphabet : ∀ b₄ b₃ b₂ b₁ b₀ : Bool,
    digit [b₄, b₃, b₂, b₁, b₀] ∈ alphabet := by decide

theorem ofNat_value_byteBits : ∀ b : Byte, BitVec.ofNat 8 (value (byteBits b)) = b := by
  decide

/-! ## §2. Texts. -/

/-- The characters of some bits. -/
def encodeBits : List Bool → List Char
  | [] => []
  | [b₄] => [digit [b₄, false, false, false, false]]
  | [b₄, b₃] => [digit [b₄, b₃, false, false, false]]
  | [b₄, b₃, b₂] => [digit [b₄, b₃, b₂, false, false]]
  | [b₄, b₃, b₂, b₁] => [digit [b₄, b₃, b₂, b₁, false]]
  | b₄ :: b₃ :: b₂ :: b₁ :: b₀ :: bits => digit [b₄, b₃, b₂, b₁, b₀] :: encodeBits bits

/-- The text of some bytes. -/
def encode (bytes : List Byte) : List Char := encodeBits (bytes.flatMap byteBits)

/-- The bytes of some bits; a last group that is not full is dropped. -/
def bytesOf : List Bool → List Byte
  | b₇ :: b₆ :: b₅ :: b₄ :: b₃ :: b₂ :: b₁ :: b₀ :: bits =>
      BitVec.ofNat 8 (value [b₇, b₆, b₅, b₄, b₃, b₂, b₁, b₀]) :: bytesOf bits
  | _ => []

/-- The bytes of a text. -/
def decode (chars : List Char) : List Byte := bytesOf (chars.flatMap undigit)

/-- A text is made of characters of the alphabet. -/
theorem mem_alphabet_of_mem_encodeBits (bits : List Bool) :
    ∀ c ∈ encodeBits bits, c ∈ alphabet := by
  induction bits using encodeBits.induct with
  | case1 => exact fun c hc => absurd hc List.not_mem_nil
  | case2 b₄ =>
      intro c hc
      rw [List.mem_singleton.mp hc]
      exact digit_mem_alphabet _ _ _ _ _
  | case3 b₄ b₃ =>
      intro c hc
      rw [List.mem_singleton.mp hc]
      exact digit_mem_alphabet _ _ _ _ _
  | case4 b₄ b₃ b₂ =>
      intro c hc
      rw [List.mem_singleton.mp hc]
      exact digit_mem_alphabet _ _ _ _ _
  | case5 b₄ b₃ b₂ b₁ =>
      intro c hc
      rw [List.mem_singleton.mp hc]
      exact digit_mem_alphabet _ _ _ _ _
  | case6 b₄ b₃ b₂ b₁ b₀ bits ih =>
      intro c hc
      obtain rfl | hc := List.mem_cons.mp hc
      · exact digit_mem_alphabet _ _ _ _ _
      · exact ih c hc

theorem mem_alphabet_of_mem_encode {bytes : List Byte} {c : Char} (hc : c ∈ encode bytes) :
    c ∈ alphabet :=
  mem_alphabet_of_mem_encodeBits _ c hc

/-- The bits of a text are those encoded, and the zeros that fill them up. -/
theorem flatMap_undigit_encodeBits (bits : List Bool) :
    ∃ k < 5, (encodeBits bits).flatMap undigit = bits ++ List.replicate k false := by
  induction bits using encodeBits.induct with
  | case1 => exact ⟨0, by decide, rfl⟩
  | case2 b₄ => exact ⟨4, by decide, by simp [encodeBits, undigit_digit]⟩
  | case3 b₄ b₃ => exact ⟨3, by decide, by simp [encodeBits, undigit_digit]⟩
  | case4 b₄ b₃ b₂ => exact ⟨2, by decide, by simp [encodeBits, undigit_digit]⟩
  | case5 b₄ b₃ b₂ b₁ => exact ⟨1, by decide, by simp [encodeBits, undigit_digit]⟩
  | case6 b₄ b₃ b₂ b₁ b₀ bits ih =>
      obtain ⟨k, hk, hbits⟩ := ih
      refine ⟨k, hk, ?_⟩
      rw [encodeBits, List.flatMap_cons, undigit_digit, hbits]
      rfl

/-- Bits that fill no byte are dropped. -/
theorem bytesOf_of_length_lt {bits : List Bool} (h : bits.length < 8) : bytesOf bits = [] := by
  unfold bytesOf
  split
  · simp only [List.length_cons] at h
    omega
  · rfl

theorem bytesOf_byteBits_append (b : Byte) (bits : List Bool) :
    bytesOf (byteBits b ++ bits) = b :: bytesOf bits :=
  congrArg (· :: bytesOf bits) (ofNat_value_byteBits b)

theorem bytesOf_flatMap_byteBits (bytes : List Byte) {rest : List Bool} (h : rest.length < 8) :
    bytesOf (bytes.flatMap byteBits ++ rest) = bytes := by
  induction bytes with
  | nil => exact bytesOf_of_length_lt h
  | cons b bytes ih =>
      rw [List.flatMap_cons, List.append_assoc, bytesOf_byteBits_append, ih]

/-- **An encoded text reads back as the bytes.** -/
theorem decode_encode (bytes : List Byte) : decode (encode bytes) = bytes := by
  obtain ⟨k, hk, hbits⟩ := flatMap_undigit_encodeBits (bytes.flatMap byteBits)
  unfold decode encode
  rw [hbits]
  refine bytesOf_flatMap_byteBits bytes ?_
  rw [List.length_replicate]
  omega

/-- **Different bytes have different texts.** -/
theorem encode_injective : Function.Injective encode :=
  Function.LeftInverse.injective decode_encode

end Foundation.Base32
