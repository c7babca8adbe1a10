/-
  TLSentinel.Discovery.Ranges
  ───────────────────────────
  **WHICH RANGES A NETWORK MAY HAVE.**

  `validateRange` takes a CIDR text, or two addresses of version 4 around a hyphen of
  which the first is not the greater.  A CIDR text is accepted whatever the bits after
  its prefix, though the comment over the call says that `ParseCIDR` refuses one with
  such bits.

  Main results:
    * `validateRange_eq_none_iff`  — which texts are accepted;
    * `validateRange_exact_iff`    — when that is right: not with host bits set.
-/
import TLSentinel.Discovery.Networks
import TLSentinel.Foundation.NetBlocks

namespace TLSentinel.Discovery

open Foundation.NetAddr
open Foundation.Splits (takeWhile_ne_append append_cons_inj)

/-! ## §1. Blocks and ranges. -/

/-- The bits after the prefix are zero. -/
def HostBitsZero (bytes : List UInt8) (n : Nat) : Prop := 2 ^ (8 * bytes.length - n) ∣ num bytes

/-- A CIDR text of which the bits after the prefix are zero. -/
def IsBlock (t : List Char) : Prop := ∃ bytes n, IsCIDR t bytes n ∧ HostBitsZero bytes n

/-- A CIDR text with a bit after the prefix. -/
def HasHostBits (t : List Char) : Prop := ∃ bytes n, IsCIDR t bytes n ∧ ¬HostBitsZero bytes n

/-- A text of an address of version 4. -/
def IsIPv4 (t : List Char) (bytes : List UInt8) : Prop :=
  (parseIP (String.ofList t)).bind to4 = some bytes

/-- Two addresses of version 4 around a hyphen, in order. -/
structure IsRange (t : List Char) : Prop where
  text : ∃ a left right b, t = (a ++ left) ++ '-' :: (right ++ b) ∧
    (∀ c ∈ left, isSpace c = true) ∧ (∀ c ∈ right, isSpace c = true) ∧
      ∃ x y, IsIPv4 a x ∧ IsIPv4 b y ∧ num x ≤ num y

/-! ## §2. What is accepted. -/

theorem length_of_isIPv4 {t : List Char} {bytes : List UInt8} (h : IsIPv4 t bytes) :
    bytes.length = 4 := by
  obtain ⟨ip, hip, hto4⟩ := Option.bind_eq_some_iff.mp h
  have hlen := length_of_parseIP hip
  rw [to4_of_length hlen] at hto4
  split_ifs at hto4
  injection hto4 with hto4
  rw [← hto4, List.length_drop, hlen]

theorem IsIPv4.not_mem {t : List Char} {bytes : List UInt8} (h : IsIPv4 t bytes) {c : Char}
    (hc : isAddrChar c = false) : c ∉ t := by
  obtain ⟨ip, hip, -⟩ := Option.bind_eq_some_iff.mp h
  exact not_mem_of_parseIP hip hc

theorem IsIPv4.ne_nil {t : List Char} {bytes : List UInt8} (h : IsIPv4 t bytes) : t ≠ [] := by
  rintro rfl
  cases h

/-- The characters of an address are visible ones of ASCII. -/
theorem toNat_of_isAddrChar {c : Char} (h : isAddrChar c = true) :
    0x21 ≤ c.toNat ∧ c.toNat ≤ 0x7e := by
  unfold isAddrChar Foundation.Hex.isHex at h
  rw [Bool.or_eq_true, Bool.or_eq_true, Bool.or_eq_true, Bool.or_eq_true, Bool.and_eq_true,
    Bool.and_eq_true, decide_eq_true_eq, decide_eq_true_eq, decide_eq_true_eq, decide_eq_true_eq,
    decide_eq_true_eq, decide_eq_true_eq, Char.isDigit_iff_toNat] at h
  have h0 : '0'.toNat = 48 := rfl
  have h9 : '9'.toNat = 57 := rfl
  obtain (((hdigit | ⟨hlow, hhigh⟩) | ⟨hlow, hhigh⟩) | rfl) | rfl := h
  · omega
  · have hlow' : 97 ≤ c.toNat := hlow
    have hhigh' : c.toNat ≤ 102 := hhigh
    omega
  · have hlow' : 65 ≤ c.toNat := hlow
    have hhigh' : c.toNat ≤ 70 := hhigh
    omega
  · decide
  · decide

theorem not_isSpace_of_isAddrChar {c : Char} (h : isAddrChar c = true) : isSpace c = false := by
  obtain ⟨hlow, hhigh⟩ := toNat_of_isAddrChar h
  rw [← Bool.not_eq_true, isSpace, Bool.or_eq_true, Bool.and_eq_true, decide_eq_true_eq,
    decide_eq_true_eq, decide_eq_true_eq]
  simp only [List.mem_cons, List.not_mem_nil, or_false]
  omega

/-- White space around an address is trimmed away. -/
theorem trimSpace_isIPv4 {left t right : List Char} {bytes : List UInt8} (h : IsIPv4 t bytes)
    (hleft : ∀ c ∈ left, isSpace c = true) (hright : ∀ c ∈ right, isSpace c = true) :
    trimSpace (String.ofList (left ++ t ++ right)) = String.ofList t := by
  rw [trimSpace_surround hleft hright]
  refine trimSpace_eq_self fun c hc => not_isSpace_of_isAddrChar ?_
  obtain ⟨ip, hip, -⟩ := Option.bind_eq_some_iff.mp h
  exact isAddrChar_of_parseIP hip c (by rwa [String.toList_ofList])

/-- The part of `validateRange` after a text is no CIDR text, for what stands before the first
hyphen and after it. -/
def rangeCheck (before after : List Char) : Option RangeError :=
  match (parseIP (trimSpace (String.ofList before))).bind to4,
      (parseIP (trimSpace (String.ofList after))).bind to4 with
  | none, _ => some (.startIP (trimSpace (String.ofList before)))
  | some _, none => some (.endIP (trimSpace (String.ofList after)))
  | some startIP, some endIP =>
      if endIP < startIP then
        some (.order (trimSpace (String.ofList before)) (trimSpace (String.ofList after)))
      else none

/-- `rangeCheck` accepts two addresses in order. -/
theorem rangeCheck_eq_none_iff (before after : List Char) :
    rangeCheck before after = none ↔
      ∃ x y, IsIPv4 (trimSpace (String.ofList before)).toList x ∧
        IsIPv4 (trimSpace (String.ofList after)).toList y ∧ num x ≤ num y := by
  unfold rangeCheck IsIPv4
  rw [String.ofList_toList, String.ofList_toList]
  cases hx : (parseIP (trimSpace (String.ofList before))).bind to4 with
  | none => simp
  | some x =>
      cases hy : (parseIP (trimSpace (String.ofList after))).bind to4 with
      | none => simp
      | some y =>
          have hlen : y.length = x.length := by
            have hx' : IsIPv4 (trimSpace (String.ofList before)).toList x := by
              rw [IsIPv4, String.ofList_toList, hx]
            have hy' : IsIPv4 (trimSpace (String.ofList after)).toList y := by
              rw [IsIPv4, String.ofList_toList, hy]
            rw [length_of_isIPv4 hx', length_of_isIPv4 hy']
          simp [lt_iff_num_lt hlen]

/-- `validateRange` of a text that is no CIDR text and has a hyphen. -/
theorem validateRange_of_hyphen {s : String} {before after : List Char}
    (ht : (trimSpace s).toList = before ++ '-' :: after) (hbefore : '-' ∉ before)
    (hcidr : ¬(parseCIDR (trimSpace s)).isSome = true) :
    validateRange s = if before = [] then some .form else rangeCheck before after := by
  have hmem : '-' ∈ (trimSpace s).toList := by
    rw [ht]
    exact List.mem_append_right before List.mem_cons_self
  have htake : (trimSpace s).toList.takeWhile (fun c => decide (c ≠ '-')) = before := by
    rw [ht, takeWhile_ne_append hbefore]
  have hdrop : (trimSpace s).toList.drop (before.length + 1) = after := by
    rw [ht, ← List.drop_drop, List.drop_left, List.drop_one, List.tail_cons]
  unfold validateRange
  dsimp only
  rw [if_neg hcidr, htake, hdrop]
  by_cases hnil : before = []
  · rw [if_neg fun h => h.2 hnil, if_pos hnil]
  · rw [if_pos ⟨hmem, hnil⟩, if_neg hnil]
    unfold rangeCheck
    cases (parseIP (trimSpace (String.ofList before))).bind to4 with
    | none => rfl
    | some startIP =>
        cases (parseIP (trimSpace (String.ofList after))).bind to4 with
        | none => rfl
        | some endIP => rfl

theorem IsRange.hyphen {t : List Char} (h : IsRange t) :
    ∃ before after, t = before ++ '-' :: after ∧ '-' ∉ before ∧ before ≠ [] ∧
      ∃ a left right b, before = a ++ left ∧ after = right ++ b ∧
        (∀ c ∈ left, isSpace c = true) ∧ (∀ c ∈ right, isSpace c = true) ∧
          ∃ x y, IsIPv4 a x ∧ IsIPv4 b y ∧ num x ≤ num y := by
  obtain ⟨a, left, right, b, ht, hleft, hright, x, y, hx, hy, hle⟩ := h.text
  refine ⟨a ++ left, right ++ b, ht, ?_, ?_, a, left, right, b, rfl, rfl, hleft, hright, x, y,
    hx, hy, hle⟩
  · rw [List.mem_append, not_or]
    exact ⟨hx.not_mem (by decide), fun hmem => absurd (hleft '-' hmem) (by decide)⟩
  · exact List.append_ne_nil_of_left_ne_nil hx.ne_nil left

/-- Around the hyphen of a trimmed text, white space is at the hyphen only. -/
theorem isRange_iff {s : String} {before after : List Char}
    (ht : (trimSpace s).toList = before ++ '-' :: after) (hbefore : '-' ∉ before) :
    IsRange (trimSpace s).toList ↔ before ≠ [] ∧ rangeCheck before after = none := by
  rw [rangeCheck_eq_none_iff]
  constructor
  · intro h
    obtain ⟨before', after', ht', hbefore', hne, a, left, right, b, hb, ha, hleft, hright, x, y,
      hx, hy, hle⟩ := h.hyphen
    obtain ⟨rfl, rfl⟩ := append_cons_inj hbefore hbefore' (ht.symm.trans ht')
    have hnone : ∀ c ∈ ([] : List Char), isSpace c = true := nofun
    have hstart : trimSpace (String.ofList ([] ++ a ++ left)) = String.ofList a :=
      trimSpace_isIPv4 hx hnone hleft
    have hend : trimSpace (String.ofList (right ++ b ++ [])) = String.ofList b :=
      trimSpace_isIPv4 hy hright hnone
    rw [List.nil_append, ← hb] at hstart
    rw [List.append_nil, ← ha] at hend
    refine ⟨hne, x, y, ?_, ?_, hle⟩
    · rw [hstart, String.toList_ofList]
      exact hx
    · rw [hend, String.toList_ofList]
      exact hy
  · rintro ⟨hne, x, y, hx, hy, hle⟩
    obtain ⟨l, r, hbefore_eq, hl, hr⟩ := trimSpace_spec (String.ofList before)
    obtain ⟨l', r', hafter_eq, hl', hr'⟩ := trimSpace_spec (String.ofList after)
    rw [String.toList_ofList] at hbefore_eq hafter_eq
    have hstart : l = [] := by
      -- the text begins with no white space
      cases l with
      | nil => rfl
      | cons c l =>
          have hhead : c ∈ (trimSpace s).toList.head? := by
            rw [ht, hbefore_eq]
            rfl
          have hspace := hl c List.mem_cons_self
          rw [head?_trimSpace hhead] at hspace
          cases hspace
    have hend : r' = [] := by
      cases hlast : r'.getLast? with
      | none => exact List.getLast?_eq_none_iff.mp hlast
      | some c =>
          have hmem : c ∈ (trimSpace s).toList.getLast? := by
            rw [ht, hafter_eq]
            simp [List.getLast?_append, List.getLast?_cons, hlast]
          have hspace := hr' c (List.mem_of_getLast? hlast)
          rw [getLast?_trimSpace hmem] at hspace
          cases hspace
    subst hstart hend
    rw [List.nil_append] at hbefore_eq
    rw [List.append_nil] at hafter_eq
    exact ⟨⟨_, r, l', _, by rw [ht, ← hbefore_eq, ← hafter_eq], hr, hl', x, y, hx, hy, hle⟩⟩

/-- **Which texts are accepted.** -/
theorem validateRange_eq_none_iff (s : String) :
    validateRange s = none ↔
      (∃ bytes n, IsCIDR (trimSpace s).toList bytes n) ∨ IsRange (trimSpace s).toList := by
  have hparse : (parseCIDR (trimSpace s)).isSome = true ↔
      ∃ bytes n, IsCIDR (trimSpace s).toList bytes n := by
    rw [Option.isSome_iff_exists]
    constructor
    · rintro ⟨⟨ip, net⟩, h⟩
      obtain ⟨bytes, n, hcidr, -⟩ := parseCIDR_iff.mp ⟨ip, h⟩
      exact ⟨bytes, n, hcidr⟩
    · rintro ⟨bytes, n, hcidr⟩
      obtain ⟨ip, h⟩ := parseCIDR_iff.mpr ⟨bytes, n, hcidr, rfl⟩
      exact ⟨_, h⟩
  rw [← hparse]
  by_cases hcidr : (parseCIDR (trimSpace s)).isSome = true
  · refine iff_of_true ?_ (Or.inl hcidr)
    unfold validateRange
    dsimp only
    rw [if_pos hcidr]
  · rw [or_iff_right hcidr]
    by_cases hyphen : '-' ∈ (trimSpace s).toList
    · obtain ⟨before, after, ht, hbefore⟩ := List.eq_append_cons_of_mem hyphen
      rw [validateRange_of_hyphen ht hbefore hcidr, isRange_iff ht hbefore]
      by_cases hnil : before = []
      · rw [if_pos hnil]
        exact iff_of_false nofun fun h => h.1 hnil
      · rw [if_neg hnil, and_iff_right hnil]
    · refine iff_of_false (fun h => ?_) fun h => ?_
      · unfold validateRange at h
        dsimp only at h
        rw [if_neg hcidr, if_neg fun hand => hyphen hand.1] at h
        cases h
      · obtain ⟨before, after, ht, -⟩ := h.hyphen
        rw [ht] at hyphen
        exact hyphen (List.mem_append_right before List.mem_cons_self)

/-! ## §3. When that is right. -/

theorem not_isRange_of_isCIDR {t : List Char} {bytes : List UInt8} {n : Nat}
    (h : IsCIDR t bytes n) : ¬IsRange t := by
  intro hrange
  obtain ⟨addr, mask, ip, ht, hip, -, -, hdigits, -⟩ := h.text
  obtain ⟨before, after, ht', -⟩ := hrange.hyphen
  have hmem : '-' ∈ t := by
    rw [ht']
    exact List.mem_append_right before List.mem_cons_self
  rw [ht, List.mem_append, List.mem_cons] at hmem
  rcases hmem with haddr | hslash | hmask
  · exact not_mem_of_parseIP hip (by decide) haddr
  · exact absurd hslash (by decide)
  · exact absurd (hdigits '-' hmask) (by decide)

/-- A CIDR text with a bit after the prefix is accepted, and is neither a block nor a range. -/
theorem validateRange_of_hasHostBits {s : String} (h : HasHostBits (trimSpace s).toList) :
    validateRange s = none ∧
      ¬(IsBlock (trimSpace s).toList ∨ IsRange (trimSpace s).toList) := by
  obtain ⟨bytes, n, hcidr, hbits⟩ := h
  refine ⟨(validateRange_eq_none_iff s).mpr (Or.inl ⟨bytes, n, hcidr⟩), ?_⟩
  rintro (⟨bytes', n', hcidr', hzero⟩ | hrange)
  · obtain ⟨rfl, rfl⟩ := hcidr.unique hcidr'
    exact hbits hzero
  · exact not_isRange_of_isCIDR hcidr hrange

/-- **The check is right** exactly if the text is no CIDR text with a bit after the prefix. -/
theorem validateRange_exact_iff (s : String) :
    (validateRange s = none ↔ IsBlock (trimSpace s).toList ∨ IsRange (trimSpace s).toList) ↔
      ¬HasHostBits (trimSpace s).toList := by
  constructor
  · intro h hbits
    obtain ⟨haccepted, hneither⟩ := validateRange_of_hasHostBits hbits
    exact hneither (h.mp haccepted)
  · intro h
    rw [validateRange_eq_none_iff]
    refine or_congr_left ⟨?_, ?_⟩
    · rintro ⟨bytes, n, hcidr⟩
      by_contra hblock
      exact h ⟨bytes, n, hcidr, fun hzero => hblock ⟨bytes, n, hcidr, hzero⟩⟩
    · rintro ⟨bytes, n, hcidr, -⟩
      exact ⟨bytes, n, hcidr⟩

/-- The block of `10.0.0.5/24` is `10.0.0.0/24`, and yet the text is accepted. -/
theorem validateRange_host_bits :
    ¬∀ s, validateRange s = none ↔
      IsBlock (trimSpace s).toList ∨ IsRange (trimSpace s).toList := by
  intro h
  have hdecimal : IsDecimal ['2', '4'] 24 :=
    ⟨by decide, List.all_eq_true.mp (by decide), by decide⟩
  have hbits : HasHostBits (trimSpace "10.0.0.5/24").toList := by
    refine ⟨[10, 0, 0, 5], 24, ⟨⟨"10.0.0.5".toList, ['2', '4'], v4InV6Prefix ++ [10, 0, 0, 5],
      by decide, by decide, by decide, hdecimal⟩, by decide⟩, ?_⟩
    have hnum : num [10, 0, 0, 5] = 167772165 := by decide
    have hlen : 8 * [(10 : UInt8), 0, 0, 5].length - 24 = 8 := rfl
    unfold HostBitsZero
    rw [hlen, hnum]
    omega
  obtain ⟨haccepted, hneither⟩ := validateRange_of_hasHostBits hbits
  exact hneither ((h "10.0.0.5/24").mp haccepted)

end TLSentinel.Discovery
