/-
  Foundation.Base64
  ─────────────────
  **BASE 64, WITH AND WITHOUT PADDING.**

  Three bytes are four digits; one and two bytes at the end are two and three.  The
  alphabet for URLs has `-` and `_` where the other has `+` and `/`.

  Main results:
    * `atob_encode`                 — what is written is read back;
    * `mem_urlAlphabet_encode`      — what is written is of the alphabet for URLs;
    * `decodeString_encodeToString` — so is what is written with padding.
-/
import Mathlib.Data.List.Basic

namespace Foundation.Base64

/-! ## §1. Digits. -/

/-- The alphabet for URLs, by value. -/
def urlAlphabet : List Char :=
  "ABCDEFGHIJKLMNOPQRSTUVWXYZabcdefghijklmnopqrstuvwxyz0123456789-_".toList

/-- The digit of a value below 64. -/
def urlDigit (n : Nat) : Char := urlAlphabet.getD n 'A'

/-- The alphabet that `atob` reads, by value. -/
def alphabet : List Char :=
  "ABCDEFGHIJKLMNOPQRSTUVWXYZabcdefghijklmnopqrstuvwxyz0123456789+/".toList

/-- The value of a digit. -/
def value (c : Char) : Option Nat := alphabet.idxOf? c

/-- A digit of the alphabet for URLs in the other one. -/
def toStandard (c : Char) : Char := if c = '-' then '+' else if c = '_' then '/' else c

/-- ASCII white space, which `atob` skips. -/
def isBlank (c : Char) : Bool := c.toNat ∈ [0x09, 0x0a, 0x0c, 0x0d, 0x20]

/-- The letters and the ten digits, by value: both alphabets begin with them. -/
def letters : List Char :=
  ['A', 'B', 'C', 'D', 'E', 'F', 'G', 'H', 'I', 'J', 'K', 'L', 'M', 'N', 'O', 'P', 'Q', 'R', 'S',
    'T', 'U', 'V', 'W', 'X', 'Y', 'Z', 'a', 'b', 'c', 'd', 'e', 'f', 'g', 'h', 'i', 'j', 'k', 'l',
    'm', 'n', 'o', 'p', 'q', 'r', 's', 't', 'u', 'v', 'w', 'x', 'y', 'z', '0', '1', '2', '3', '4',
    '5', '6', '7', '8', '9']

theorem urlAlphabet_eq : urlAlphabet = letters ++ ['-', '_'] := String.toList_ofList

theorem alphabet_eq : alphabet = letters ++ ['+', '/'] := String.toList_ofList

/-- A digit for URLs has its value in the other alphabet, and is neither blank nor padding. -/
theorem urlDigit_spec {n : Nat} (hn : n < 64) :
    urlDigit n ∈ urlAlphabet ∧ value (toStandard (urlDigit n)) = some n ∧
      isBlank (toStandard (urlDigit n)) = false ∧ toStandard (urlDigit n) ≠ '=' := by
  have hall : ∀ n : Fin 64, urlDigit n ∈ urlAlphabet ∧
      value (toStandard (urlDigit n)) = some n.val ∧
        isBlank (toStandard (urlDigit n)) = false ∧ toStandard (urlDigit n) ≠ '=' := by
    unfold urlDigit value
    rw [urlAlphabet_eq, alphabet_eq]
    decide +kernel
  exact hall ⟨n, hn⟩

/-! ## §2. Groups of three bytes. -/

/-- The values of the digits of some bytes. -/
def sextets : List UInt8 → List Nat
  | [] => []
  | [a] => [a.toNat / 4, a.toNat % 4 * 16]
  | [a, b] => [a.toNat / 4, a.toNat % 4 * 16 + b.toNat / 16, b.toNat % 16 * 4]
  | a :: b :: c :: s =>
      a.toNat / 4 :: (a.toNat % 4 * 16 + b.toNat / 16) :: (b.toNat % 16 * 4 + c.toNat / 64) ::
        c.toNat % 64 :: sextets s

/-- The bytes of some digits; the bits of a last group that are no byte are dropped. -/
def octets : List Nat → Option (List UInt8)
  | [] => some []
  | [_] => none
  | [w, x] => some [UInt8.ofNat (w * 4 + x / 16)]
  | [w, x, y] => some [UInt8.ofNat (w * 4 + x / 16), UInt8.ofNat (x % 16 * 16 + y / 4)]
  | w :: x :: y :: z :: s =>
      (octets s).map fun bytes => UInt8.ofNat (w * 4 + x / 16) ::
        UInt8.ofNat (x % 16 * 16 + y / 4) :: UInt8.ofNat (y % 4 * 64 + z) :: bytes

theorem sextets_lt (s : List UInt8) : ∀ n ∈ sextets s, n < 64 := by
  induction s using sextets.induct with
  | case1 => nofun
  | case2 a =>
      have ha := a.toNat_lt
      simp only [sextets, List.forall_mem_cons]
      exact ⟨by omega, by omega, nofun⟩
  | case3 a b =>
      have ha := a.toNat_lt
      have hb := b.toNat_lt
      simp only [sextets, List.forall_mem_cons]
      exact ⟨by omega, by omega, by omega, nofun⟩
  | case4 a b c s ih =>
      have ha := a.toNat_lt
      have hb := b.toNat_lt
      have hc := c.toNat_lt
      simp only [sextets, List.forall_mem_cons]
      exact ⟨by omega, by omega, by omega, by omega, ih⟩

theorem ofNat_eq {n : Nat} {a : UInt8} (h : n = a.toNat) : UInt8.ofNat n = a := by
  rw [h, UInt8.ofNat_toNat]

/-- **The bytes come back.** -/
theorem octets_sextets (s : List UInt8) : octets (sextets s) = some s := by
  induction s using sextets.induct with
  | case1 => rfl
  | case2 a =>
      have ha := a.toNat_lt
      rw [sextets, octets, ofNat_eq (a := a) (by omega)]
  | case3 a b =>
      have ha := a.toNat_lt
      have hb := b.toNat_lt
      rw [sextets, octets, ofNat_eq (a := a) (by omega), ofNat_eq (a := b) (by omega)]
  | case4 a b c s ih =>
      have ha := a.toNat_lt
      have hb := b.toNat_lt
      have hc := c.toNat_lt
      rw [sextets, octets, ih, ofNat_eq (a := a) (by omega), ofNat_eq (a := b) (by omega),
        ofNat_eq (a := c) (by omega)]
      rfl

/-! ## §3. Texts. -/

/-- `RawURLEncoding`: no padding. -/
def encode (bytes : List UInt8) : List Char := (sextets bytes).map urlDigit

/-- A text without one or two `=` at its end. -/
def dropPadding (s : List Char) : List Char :=
  match s.reverse with
  | '=' :: '=' :: t => t.reverse
  | '=' :: t => t.reverse
  | _ => s

/-- `atob`: the bytes of a text, padded or not. -/
def atob (s : List Char) : Option (List UInt8) :=
  let digits := s.filter fun c => !isBlank c
  let digits := if digits.length % 4 = 0 then dropPadding digits else digits
  (digits.mapM value).bind octets

theorem mem_urlAlphabet_encode {bytes : List UInt8} {c : Char} (h : c ∈ encode bytes) :
    c ∈ urlAlphabet := by
  obtain ⟨n, hn, rfl⟩ := List.mem_map.mp h
  exact (urlDigit_spec (sextets_lt bytes n hn)).1

theorem dropPadding_of_not_mem {s : List Char} (h : '=' ∉ s) : dropPadding s = s := by
  rw [← List.mem_reverse] at h
  unfold dropPadding
  split
  · next t heq =>
      rw [heq] at h
      exact absurd List.mem_cons_self h
  · next t _ heq =>
      rw [heq] at h
      exact absurd List.mem_cons_self h
  · rfl

/-- **What is written is read back**, once it is in the other alphabet. -/
theorem atob_encode (bytes : List UInt8) : atob ((encode bytes).map toStandard) = some bytes := by
  have hdigits : ∀ c ∈ (encode bytes).map toStandard, isBlank c = false ∧ c ≠ '=' := by
    unfold encode
    rw [List.map_map, List.forall_mem_map]
    exact fun n hn => (urlDigit_spec (sextets_lt bytes n hn)).2.2
  have hfilter : ((encode bytes).map toStandard).filter (fun c => !isBlank c) =
      (encode bytes).map toStandard := by
    rw [List.filter_eq_self]
    intro c hc
    rw [(hdigits c hc).1]
    rfl
  have hpadding : dropPadding ((encode bytes).map toStandard) = (encode bytes).map toStandard :=
    dropPadding_of_not_mem fun hmem => (hdigits '=' hmem).2 rfl
  have hvalues : ∀ ns : List Nat, (∀ n ∈ ns, n < 64) →
      ((ns.map urlDigit).map toStandard).mapM value = some ns := by
    intro ns hns
    induction ns with
    | nil => rfl
    | cons n ns ih =>
        rw [List.forall_mem_cons] at hns
        rw [List.map_cons, List.map_cons, List.mapM_cons, (urlDigit_spec hns.1).2.1,
          ih hns.2]
        rfl
  unfold atob
  dsimp only
  rw [hfilter, hpadding, ite_self]
  unfold encode
  rw [hvalues _ (sextets_lt bytes), Option.bind_some, octets_sextets]

/-! ## §4. With padding. -/

/-- The digit of a value below 64, in the alphabet that is not for URLs. -/
def digit (n : Nat) : Char := alphabet.getD n 'A'

theorem digit_spec {n : Nat} (hn : n < 64) :
    value (digit n) = some n ∧ digit n ≠ '=' ∧ digit n ≠ '\r' ∧ digit n ≠ '\n' := by
  have hall : ∀ n : Fin 64, value (digit n) = some n.val ∧ digit n ≠ '=' ∧ digit n ≠ '\r' ∧
      digit n ≠ '\n' := by
    unfold digit value
    rw [alphabet_eq]
    decide +kernel
  exact hall ⟨n, hn⟩

/-- `StdEncoding.EncodeToString`. -/
def encodeToString : List UInt8 → List Char
  | [] => []
  | [a] => (sextets [a]).map digit ++ ['=', '=']
  | [a, b] => (sextets [a, b]).map digit ++ ['=']
  | a :: b :: c :: s => (sextets [a, b, c]).map digit ++ encodeToString s

/-- The bytes of two, three or four digits. -/
def decodeQuantum (digits : List Char) : Option (List UInt8) := (digits.mapM value).bind octets

/-- The bytes of a text without line breaks.  Padding ends the text, and may not be left out;
the bits of a last digit that are no byte may be anything. -/
def decodeQuanta : List Char → Option (List UInt8)
  | [] => some []
  | w :: x :: y :: z :: s =>
      if z = '=' then
        if s ≠ [] then none
        else if y = '=' then decodeQuantum [w, x]
        else decodeQuantum [w, x, y]
      else
        match decodeQuantum [w, x, y, z] with
        | none => none
        | some bytes => (decodeQuanta s).map (bytes ++ ·)
  | _ => none

/-- `StdEncoding.DecodeString`: line breaks are skipped. -/
def decodeString (s : List Char) : Option (List UInt8) :=
  decodeQuanta (s.filter fun c => c ≠ '\r' ∧ c ≠ '\n')

theorem mapM_value_digits {ns : List Nat} (hns : ∀ n ∈ ns, n < 64) :
    (ns.map digit).mapM value = some ns := by
  induction ns with
  | nil => rfl
  | cons n ns ih =>
      rw [List.forall_mem_cons] at hns
      rw [List.map_cons, List.mapM_cons, (digit_spec hns.1).1, ih hns.2]
      rfl

theorem decodeQuantum_digits (bytes : List UInt8) :
    decodeQuantum ((sextets bytes).map digit) = some bytes := by
  unfold decodeQuantum
  rw [mapM_value_digits (sextets_lt bytes), Option.bind_some, octets_sextets]

theorem mem_encodeToString {bytes : List UInt8} {c : Char} (h : c ∈ encodeToString bytes) :
    c = '=' ∨ ∃ n < 64, c = digit n := by
  have hdigits : ∀ group : List UInt8, c ∈ (sextets group).map digit → ∃ n < 64, c = digit n := by
    intro group hc
    obtain ⟨n, hn, rfl⟩ := List.mem_map.mp hc
    exact ⟨n, sextets_lt group n hn, rfl⟩
  induction bytes using encodeToString.induct with
  | case1 => exact absurd h List.not_mem_nil
  | case2 a =>
      rcases List.mem_append.mp h with h | h
      · exact .inr (hdigits _ h)
      · exact .inl (by simpa using h)
  | case3 a b =>
      rcases List.mem_append.mp h with h | h
      · exact .inr (hdigits _ h)
      · exact .inl (by simpa using h)
  | case4 a b c' s ih =>
      rcases List.mem_append.mp h with h | h
      · exact .inr (hdigits _ h)
      · exact ih h

/-- Nothing that is written is a line break. -/
theorem filter_encodeToString (bytes : List UInt8) :
    (encodeToString bytes).filter (fun c => c ≠ '\r' ∧ c ≠ '\n') = encodeToString bytes := by
  rw [List.filter_eq_self]
  intro c hc
  rw [decide_eq_true_iff]
  rcases mem_encodeToString hc with rfl | ⟨n, hn, rfl⟩
  · decide
  · exact (digit_spec hn).2.2

/-- **What is written with padding is read back.** -/
theorem decodeString_encodeToString (bytes : List UInt8) :
    decodeString (encodeToString bytes) = some bytes := by
  unfold decodeString
  rw [filter_encodeToString]
  induction bytes using encodeToString.induct with
  | case1 => rfl
  | case2 a =>
      have h := decodeQuantum_digits [a]
      simp only [sextets, List.map_cons, List.map_nil] at h
      simp [encodeToString, sextets, decodeQuanta, h]
  | case3 a b =>
      have h := decodeQuantum_digits [a, b]
      have hb := b.toNat_lt
      have hy := (digit_spec (n := b.toNat % 16 * 4) (by omega)).2.1
      simp only [sextets, List.map_cons, List.map_nil] at h
      simp [encodeToString, sextets, decodeQuanta, h, hy]
  | case4 a b c s ih =>
      have h := decodeQuantum_digits [a, b, c]
      have hz := (digit_spec (n := c.toNat % 64) (by omega)).2.1
      simp only [sextets, List.map_cons, List.map_nil] at h
      simp [encodeToString, sextets, decodeQuanta, h, hz, ih]

end Foundation.Base64
