/-
  TLSentinel.Toolbox.HexInput
  ───────────────────────────
  **HEXADECIMAL TEXT OF THE TOOLBOX, BOTH WAYS.**

  `bufToHex` of the PEM/DER page puts blanks between the bytes, that of `cert-utils.ts`
  what it is told to, a colon by default.  `parseHexInput` drops white space and colons,
  wherever they stand, and reads what is left two digits at a time.

  Main result: `hex_roundTrip` — what is displayed is read back, and what is read is as
  long as half its digits.
-/
import TLSentinel.Endpoints.CSVImport
import TLSentinel.Foundation.Hex
import TLSentinel.Foundation.Pieces

namespace TLSentinel.Toolbox.HexInput

open Foundation
open Foundation.Hex (isHex hexValue hexGroup)
open TLSentinel.Endpoints.CSVImport (jsSpace trim)

/-! ## §1. Display. -/

/-- The text of bytes with a separator of ASCII between them. -/
def hexText (sep : String) (buf : List UInt8) : String :=
  String.ofList ((sep.toList.intercalate (buf.map fun b =>
    (Nat.toDigits 16 b.toNat).leftpad 2 '0')).map Char.toUpper)

/-- `bufToHex` of `PemDerPage.tsx`. -/
def bufToHex (buf : List UInt8) : String := hexText " " buf

/-- `bufToHex` of `cert-utils.ts`, with its default separator. -/
def bufToHexShared (buf : List UInt8) : String := hexText ":" buf

example : bufToHex [0x0a, 0xff] = "0A FF" := by decide

/-! ## §2. Input. -/

/-- `/[\s:]/`. -/
def isSeparator (c : Char) : Bool := jsSpace c || c = ':'

/-- `parseInt(digits, 16)`, for digits that have been tested: they have no prefix and no
sign. -/
def parseInt16 (digits : List Char) : Nat := hexGroup digits

/-- `parseHexInput`; `none` is the error. -/
def parseHexInput (raw : String) : Option (List UInt8) :=
  let cleaned := (trim raw.toList).filter fun c => !isSeparator c
  if (cleaned = [] ∨ cleaned.all isHex = false) ∨ cleaned.length % 2 ≠ 0 then none
  else
    some ((List.range (cleaned.length / 2)).map fun i =>
      UInt8.ofNat (parseInt16 ((cleaned.drop (i * 2)).take 2)))

/-! ## §3. What is left of a text. -/

/-- Trimming takes away only what is dropped anyhow. -/
theorem filter_trim (s : List Char) :
    (trim s).filter (fun c => !isSeparator c) = s.filter fun c => !isSeparator c := by
  have hdrop : ∀ t : List Char, (t.dropWhile jsSpace).filter (fun c => !isSeparator c) =
      t.filter fun c => !isSeparator c := by
    intro t
    induction t with
    | nil => rfl
    | cons c t ih =>
        by_cases hc : jsSpace c = true
        · have hsep : (!isSeparator c) = false := by
            rw [isSeparator, hc]
            rfl
          rw [List.dropWhile_cons_of_pos hc, ih, List.filter_cons_of_neg (by rw [hsep]; decide)]
        · rw [List.dropWhile_cons_of_neg hc]
  unfold trim
  rw [List.rdropWhile, List.filter_reverse, hdrop, ← List.filter_reverse, List.reverse_reverse,
    hdrop]

theorem isSeparator_of_isHex {c : Char} (h : isHex c = true) : isSeparator c = false := by
  have hrange := Hex.isHex_iff.mp h
  have hcolon : c ≠ ':' := by
    rintro rfl
    exact absurd h (by decide)
  unfold isSeparator jsSpace
  simp only [List.mem_cons, List.not_mem_nil, or_false, Bool.or_eq_false_iff,
    Bool.and_eq_false_iff, decide_eq_false_iff_not]
  exact ⟨by omega, hcolon⟩

/-- What is left of a displayed text are its digits. -/
theorem filter_hexText {sep : String}
    (hsep : (sep.toList.map Char.toUpper).all isSeparator = true) (buf : List UInt8) :
    (hexText sep buf).toList.filter (fun c => !isSeparator c) =
      Hex.encode Hex.upperDigit buf := by
  have hdropped : ∀ c ∈ sep.toList.map Char.toUpper, (!isSeparator c) = false := by
    intro c hc
    rw [List.all_eq_true.mp hsep c hc]
    rfl
  have hdigits : ∀ b : UInt8, (((Nat.toDigits 16 b.toNat).leftpad 2 '0').map Char.toUpper).filter
      (fun c => !isSeparator c) = Hex.byteDigits Hex.upperDigit b := by
    intro b
    rw [Hex.leftpad_toDigits]
    refine List.filter_eq_self.mpr fun c hc => ?_
    have hmem : c ∈ Hex.encode Hex.upperDigit [b] := by
      rw [Hex.encode, List.flatMap_singleton]
      exact hc
    rw [isSeparator_of_isHex (Hex.isHex_of_mem_encode Hex.digits_upper c hmem)]
    rfl
  rw [hexText, String.toList_ofList, Pieces.map_intercalate, Pieces.filter_intercalate hdropped,
    List.map_map, List.flatMap_map]
  exact List.flatMap_congr fun b _ => hdigits b

/-! ## §4. What is read. -/

/-- The loop reads pair by pair. -/
theorem map_range_eq_decode {s : List Char} (heven : s.length % 2 = 0) :
    ((List.range (s.length / 2)).map fun i =>
      UInt8.ofNat (parseInt16 ((s.drop (i * 2)).take 2))) = Hex.decode s := by
  fun_induction Hex.decode s with
  | case1 a b s ih =>
      have hlen : (a :: b :: s).length = s.length + 2 := rfl
      rw [hlen] at heven
      have hhalf : (a :: b :: s).length / 2 = s.length / 2 + 1 := by
        rw [hlen]
        omega
      rw [hhalf, List.range_succ_eq_map, List.map_cons, List.map_map, ← ih (by omega)]
      refine congrArg (List.cons _) (List.map_congr_left fun i _ => ?_)
      have hdrop : (i + 1) * 2 = i * 2 + 2 := by omega
      rw [Function.comp_apply, Nat.succ_eq_add_one, hdrop]
      rfl
  | case2 s hshort =>
      rw [Hex.eq_nil_of_even hshort heven]
      rfl

/-- **What is read**: the pairs of the digits, if there are digits, all else separates, and
they are even in number. -/
theorem parseHexInput_eq_some_iff {raw : String} {bytes : List UInt8} :
    parseHexInput raw = some bytes ↔
      ∃ digits, raw.toList.filter (fun c => !isSeparator c) = digits ∧ digits ≠ [] ∧
        (∀ c ∈ digits, isHex c = true) ∧ digits.length % 2 = 0 ∧ Hex.decode digits = bytes := by
  unfold parseHexInput
  dsimp only
  rw [filter_trim]
  constructor
  · intro h
    split at h
    · cases h
    · next hnot =>
        rw [not_or, not_or, not_not, Bool.not_eq_false] at hnot
        obtain ⟨⟨hne, hall⟩, heven⟩ := hnot
        rw [map_range_eq_decode heven] at h
        exact ⟨_, rfl, hne, List.all_eq_true.mp hall, heven, Option.some.inj h⟩
  · rintro ⟨digits, rfl, hne, hall, heven, hbytes⟩
    rw [if_neg, map_range_eq_decode heven, hbytes]
    rw [not_or, not_or, not_not, Bool.not_eq_false]
    exact ⟨⟨hne, List.all_eq_true.mpr hall⟩, heven⟩

/-- **What is displayed is read back**, whatever is dropped between the bytes. -/
theorem parseHexInput_hexText {sep : String}
    (hsep : (sep.toList.map Char.toUpper).all isSeparator = true) {buf : List UInt8}
    (hne : buf ≠ []) :
    parseHexInput (hexText sep buf) = some buf := by
  have hlen : (Hex.encode Hex.upperDigit buf).length = 2 * buf.length := Hex.length_encode buf
  refine parseHexInput_eq_some_iff.mpr ⟨_, filter_hexText hsep buf, ?_,
    Hex.isHex_of_mem_encode Hex.digits_upper, ?_, Hex.decode_encode Hex.digits_upper buf⟩
  · have hpos := List.length_pos_of_ne_nil hne
    exact List.ne_nil_of_length_pos (by omega)
  · omega

/-- **Display and input are inverse.**  Bytes are read back from either display; what a text
was read as is read again from its display, and has half as many bytes as the text has
digits. -/
theorem hex_roundTrip :
    (∀ buf, buf ≠ [] →
      parseHexInput (bufToHex buf) = some buf ∧ parseHexInput (bufToHexShared buf) = some buf) ∧
    ∀ raw bytes, parseHexInput raw = some bytes →
      parseHexInput (bufToHex bytes) = some bytes ∧
        parseHexInput (bufToHexShared bytes) = some bytes ∧
          2 * bytes.length = (raw.toList.filter isHex).length := by
  have hread : ∀ buf, buf ≠ [] →
      parseHexInput (bufToHex buf) = some buf ∧ parseHexInput (bufToHexShared buf) = some buf :=
    fun buf hne => ⟨parseHexInput_hexText (by decide) hne, parseHexInput_hexText (by decide) hne⟩
  refine ⟨hread, fun raw bytes h => ?_⟩
  obtain ⟨digits, hdigits, hne, hall, heven, hbytes⟩ := parseHexInput_eq_some_iff.mp h
  have hlen : 2 * bytes.length = digits.length := by rw [← hbytes, Hex.length_decode heven]
  have hpos := List.length_pos_of_ne_nil hne
  have hbytesNe : bytes ≠ [] := List.ne_nil_of_length_pos (by omega)
  have hcount : raw.toList.filter isHex = digits := by
    -- a digit is not dropped, and nothing else is left
    have hself : digits.filter isHex = digits := List.filter_eq_self.mpr hall
    rw [← hself, ← hdigits, List.filter_filter]
    refine List.filter_congr fun c _ => ?_
    cases hc : isHex c with
    | false => rfl
    | true =>
        rw [isSeparator_of_isHex hc]
        rfl
  rw [hcount]
  exact ⟨(hread bytes hbytesNe).1, (hread bytes hbytesNe).2, hlen⟩

end TLSentinel.Toolbox.HexInput
