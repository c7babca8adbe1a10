/-
  Foundation.Utf8
  ───────────────
  **TEXTS AS UTF-8 BYTES.**

  A character is one to four bytes, and one byte exactly if it is ASCII; the bytes of any
  other are none of ASCII.

  Main results:
    * `utf8_injective` — a text is determined by its bytes;
    * `text_utf8`      — and it is read back from them.
-/
import Mathlib.Data.List.Basic
import Mathlib.Logic.Function.Basic

namespace Foundation.Utf8

/-- The bytes of a text. -/
def utf8 : List Char → List UInt8
  | [] => []
  | c :: cs => String.utf8EncodeChar c ++ utf8 cs

/-- A character of ASCII. -/
def isAscii (c : Char) : Bool := c.toNat < 0x80

theorem utf8_append (s t : List Char) : utf8 (s ++ t) = utf8 s ++ utf8 t := by
  induction s with
  | nil => rfl
  | cons c s ih => rw [List.cons_append, utf8, utf8, ih, List.append_assoc]

theorem utf8_eq_flatMap (s : List Char) : utf8 s = s.flatMap String.utf8EncodeChar := by
  induction s with
  | nil => rfl
  | cons c s ih => rw [utf8, ih, List.flatMap_cons]

/-- **A text is determined by its bytes.** -/
theorem utf8_injective : Function.Injective utf8 := by
  intro s t h
  rw [utf8_eq_flatMap, utf8_eq_flatMap] at h
  have hbytes : s.utf8Encode = t.utf8Encode := by
    unfold List.utf8Encode
    rw [h]
  have hstring : String.ofList s = String.ofList t := String.toByteArray_inj.mp hbytes
  exact String.ofList_inj.mp hstring

/-- The text that some bytes are, if they are one. -/
def text (bytes : List UInt8) : Option String := String.fromUTF8? bytes.toByteArray

/-- **A text is read back from its bytes.** -/
theorem text_utf8 (s : String) : text (utf8 s.toList) = some s := by
  have hbytes : (utf8 s.toList).toByteArray = s.toByteArray := by
    rw [utf8_eq_flatMap]
    exact String.utf8Encode_toList
  unfold text String.fromUTF8?
  rw [dif_pos (hbytes ▸ s.isValidUTF8)]
  exact congrArg some (String.toByteArray_inj.mp hbytes)

theorem utf8Size_eq_one_iff {c : Char} : c.utf8Size = 1 ↔ isAscii c = true := by
  rw [Char.utf8Size_eq_one_iff, isAscii, decide_eq_true_eq]
  show c.toNat ≤ 0x7f ↔ _
  omega

/-- A character of ASCII is its own byte. -/
theorem utf8EncodeChar_of_isAscii {c : Char} (h : isAscii c = true) :
    String.utf8EncodeChar c = [UInt8.ofNat c.toNat] :=
  String.utf8EncodeChar_eq_singleton (utf8Size_eq_one_iff.mpr h)

/-- The bytes of any other character are not of ASCII. -/
theorem le_of_mem_utf8EncodeChar {c : Char} (hc : isAscii c = false) {b : UInt8}
    (hb : b ∈ String.utf8EncodeChar c) : 0x80 ≤ b := by
  have hofNat : ∀ n, 0x80 ≤ n → n < 0x100 → (0x80 : UInt8) ≤ UInt8.ofNat n := by
    intro n hle hlt
    rw [UInt8.le_iff_toNat_le, UInt8.toNat_ofNat_of_lt' hlt]
    exact hle
  have hv : ¬ c.val.toNat ≤ 0x7f := by
    rw [isAscii, decide_eq_false_iff_not] at hc
    have hc' : ¬ c.val.toNat < 0x80 := hc
    omega
  unfold String.utf8EncodeChar at hb
  dsimp only at hb
  rw [if_neg hv] at hb
  split at hb
  · simp only [List.mem_cons, List.not_mem_nil, or_false] at hb
    rcases hb with rfl | rfl
    · exact hofNat _ (by omega) (by omega)
    · exact hofNat _ (by omega) (by omega)
  · split at hb
    · simp only [List.mem_cons, List.not_mem_nil, or_false] at hb
      rcases hb with rfl | rfl | rfl
      · exact hofNat _ (by omega) (by omega)
      · exact hofNat _ (by omega) (by omega)
      · exact hofNat _ (by omega) (by omega)
    · simp only [List.mem_cons, List.not_mem_nil, or_false] at hb
      rcases hb with rfl | rfl | rfl | rfl
      · exact hofNat _ (by omega) (by omega)
      · exact hofNat _ (by omega) (by omega)
      · exact hofNat _ (by omega) (by omega)
      · exact hofNat _ (by omega) (by omega)

theorem length_le_length_utf8 (s : List Char) : s.length ≤ (utf8 s).length := by
  induction s with
  | nil => exact Nat.le_refl 0
  | cons c s ih =>
      have hc := c.utf8Size_pos
      rw [utf8, List.length_append, String.length_utf8EncodeChar, List.length_cons]
      omega

end Foundation.Utf8
