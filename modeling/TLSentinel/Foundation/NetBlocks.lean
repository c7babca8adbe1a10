/-
  Foundation.NetBlocks
  ────────────────────
  **ADDRESSES AS NUMBERS, AND THE BLOCKS THAT CIDR TEXTS NAME.**

  The bytes of an address are a number, and a block is the addresses that agree in
  their first bits: that have the same quotient by a power of two.  `ParseCIDR`
  accepts an address, a slash and a prefix length, whatever the bits after the prefix;
  the network it returns has them cleared.

  Main results:
    * `num_and_cidrMask`       — a mask clears the bits after the prefix;
    * `parseCIDR_iff`          — which texts are accepted, and as which network;
    * `contains_block_of_four`, `contains_block_of_sixteen` — what a network contains.
-/
import TLSentinel.Foundation.NetAddr
import TLSentinel.Foundation.Splits
import Mathlib.Algebra.Group.Nat.Defs
import Mathlib.Data.Nat.Basic
import Mathlib.Tactic.Ring

namespace Foundation.NetAddr

open Foundation.Splits

/-! ## §1. Bytes as numbers. -/

/-- The number that some bytes are, high bytes first. -/
def num : List UInt8 → Nat
  | [] => 0
  | b :: bs => b.toNat * 256 ^ bs.length + num bs

theorem num_lt (bs : List UInt8) : num bs < 256 ^ bs.length := by
  induction bs with
  | nil => exact Nat.one_pos
  | cons b bs ih =>
      have hb : b.toNat + 1 ≤ 256 := b.toNat_lt
      have hmul := Nat.mul_le_mul_right (256 ^ bs.length) hb
      rw [num, List.length_cons, Nat.pow_succ']
      rw [Nat.add_mul, Nat.one_mul] at hmul
      omega

theorem num_append (as bs : List UInt8) :
    num (as ++ bs) = num as * 256 ^ bs.length + num bs := by
  induction as with
  | nil => rw [List.nil_append, num, Nat.zero_mul, Nat.zero_add]
  | cons a as ih =>
      rw [List.cons_append, num, num, ih, List.length_append, Nat.pow_add]
      ring

/-- Two digits compare by the high one first. -/
theorem digits_lt_iff {B x y u v : Nat} (hu : u < B) (hv : v < B) :
    x * B + u < y * B + v ↔ x < y ∨ x = y ∧ u < v := by
  constructor
  · intro h
    rcases Nat.lt_trichotomy x y with hlt | heq | hgt
    · exact Or.inl hlt
    · rw [heq] at h
      exact Or.inr ⟨heq, by omega⟩
    · have hmul := Nat.mul_le_mul_right B (Nat.succ_le_of_lt hgt)
      rw [Nat.succ_mul] at hmul
      omega
  · rintro (hlt | ⟨rfl, hlt⟩)
    · have hmul := Nat.mul_le_mul_right B (Nat.succ_le_of_lt hlt)
      rw [Nat.succ_mul] at hmul
      omega
    · omega

theorem digits_eq_iff {B x y u v : Nat} (hu : u < B) (hv : v < B) :
    x * B + u = y * B + v ↔ x = y ∧ u = v := by
  have hlt := digits_lt_iff (x := x) (y := y) hu hv
  have hgt := digits_lt_iff (x := y) (y := x) hv hu
  omega

/-- **The order of bytes** of one length is that of their numbers. -/
theorem lt_iff_num_lt {as bs : List UInt8} (hlen : as.length = bs.length) :
    as < bs ↔ num as < num bs := by
  induction as generalizing bs with
  | nil =>
      obtain rfl := List.length_eq_zero_iff.mp hlen.symm
      exact iff_of_false (List.not_lt_nil []) (Nat.lt_irrefl 0)
  | cons a as ih =>
      cases bs with
      | nil => cases hlen
      | cons b bs =>
          have hlen' : as.length = bs.length := Nat.succ.inj hlen
          have has := num_lt as
          rw [hlen'] at has
          rw [List.cons_lt_cons_iff, ih hlen', num, num, hlen', UInt8.lt_iff_toNat_lt,
            digits_lt_iff has (num_lt bs), UInt8.toNat_inj]

/-- Bytes of one length are told apart by their numbers. -/
theorem num_inj {as bs : List UInt8} (hlen : as.length = bs.length) :
    num as = num bs ↔ as = bs := by
  induction as generalizing bs with
  | nil =>
      obtain rfl := List.length_eq_zero_iff.mp hlen.symm
      exact iff_of_true rfl rfl
  | cons a as ih =>
      cases bs with
      | nil => cases hlen
      | cons b bs =>
          have hlen' : as.length = bs.length := Nat.succ.inj hlen
          have has := num_lt as
          rw [hlen'] at has
          rw [num, num, hlen', digits_eq_iff has (num_lt bs), UInt8.toNat_inj, ih hlen',
            List.cons.injEq]

/-! ## §2. Masks. -/

/-- A byte without its low bits. -/
theorem toNat_and_mask {ones : Nat} (h : ones < 8) (b : UInt8) :
    (b &&& ~~~((0xff : UInt8) >>> UInt8.ofNat ones)).toNat =
      b.toNat / 2 ^ (8 - ones) * 2 ^ (8 - ones) := by
  have hall : ∀ ones < 8, ∀ n < 256,
      (UInt8.ofNat n &&& ~~~((0xff : UInt8) >>> UInt8.ofNat ones)).toNat =
        n / 2 ^ (8 - ones) * 2 ^ (8 - ones) := by decide +kernel
  have hb := hall ones h b.toNat b.toNat_lt
  rwa [UInt8.ofNat_toNat] at hb

theorem length_cidrMask (l n : Nat) : (cidrMask l n).length = l := by
  induction l generalizing n with
  | zero => rfl
  | succ l ih =>
      unfold cidrMask
      split
      · rw [List.length_cons, ih]
      · rw [List.length_cons, ih]

/-- Cutting off more digits than the low number has. -/
theorem div_mul_two_pow_of_le {x y k m : Nat} (hy : y < 2 ^ k) (hm : k ≤ m) :
    (x * 2 ^ k + y) / 2 ^ m = x / 2 ^ (m - k) := by
  obtain ⟨d, rfl⟩ := Nat.exists_eq_add_of_le hm
  rw [Nat.pow_add, ← Nat.div_div_eq_div_mul, Nat.mul_comm x, Nat.mul_add_div (Nat.two_pow_pos k),
    Nat.div_eq_of_lt hy, Nat.add_zero, Nat.add_sub_cancel_left]

/-- Cutting off digits of the low number alone. -/
theorem div_mul_two_pow_of_ge {x y k m : Nat} (hm : m ≤ k) :
    (x * 2 ^ k + y) / 2 ^ m = x * 2 ^ (k - m) + y / 2 ^ m := by
  obtain ⟨d, rfl⟩ := Nat.exists_eq_add_of_le hm
  have hsplit : x * 2 ^ (m + d) = 2 ^ m * (x * 2 ^ d) := by
    rw [Nat.pow_add]
    ring
  rw [hsplit, Nat.mul_add_div (Nat.two_pow_pos m), Nat.add_sub_cancel_left]

theorem pow_256 (n : Nat) : 256 ^ n = 2 ^ (8 * n) := by
  rw [Nat.pow_mul]

/-- **A mask clears the bits after the prefix.** -/
theorem num_and_cidrMask (bs : List UInt8) {n : Nat} (hn : n ≤ 8 * bs.length) :
    num (List.zipWith (· &&& ·) bs (cidrMask bs.length n)) =
      num bs / 2 ^ (8 * bs.length - n) * 2 ^ (8 * bs.length - n) := by
  induction bs generalizing n with
  | nil =>
      show 0 = 0 / 2 ^ (0 - n) * 2 ^ (0 - n)
      rw [Nat.zero_div, Nat.zero_mul]
  | cons b bs ih =>
      rw [List.length_cons] at hn ⊢
      have hlow : num bs < 2 ^ (8 * bs.length) := pow_256 bs.length ▸ num_lt bs
      unfold cidrMask
      split
      · next hfull =>
          -- the whole byte is kept
          have hbits : 8 * (bs.length + 1) - n = 8 * bs.length - (n - 8) := by omega
          have hle : 8 * bs.length - (n - 8) ≤ 8 * bs.length := Nat.sub_le _ _
          have hkeep : b &&& 0xff = b := UInt8.and_neg_one
          rw [List.zipWith_cons_cons, num, num, ih (by omega), hkeep, List.length_zipWith,
            length_cidrMask, Nat.min_self, pow_256, hbits, div_mul_two_pow_of_ge hle, Nat.add_mul,
            Nat.mul_assoc, ← Nat.pow_add, Nat.sub_add_cancel hle]
      · next hpart =>
          have hbits : 8 * (bs.length + 1) - n = (8 - n) + 8 * bs.length := by omega
          have hle : 8 * bs.length ≤ 8 - n + 8 * bs.length := Nat.le_add_left _ _
          rw [List.zipWith_cons_cons, num, num, ih (Nat.zero_le _), toNat_and_mask (by omega),
            List.length_zipWith, length_cidrMask, Nat.min_self, pow_256, hbits,
            div_mul_two_pow_of_le hlow hle, Nat.add_sub_cancel, Nat.sub_zero,
            Nat.div_eq_of_lt hlow, Nat.zero_mul, Nat.add_zero, Nat.mul_assoc, ← Nat.pow_add]

/-! ## §3. Texts of blocks. -/

/-- The number that some decimal digits are. -/
def decimalValue (digits : List Char) : Nat :=
  digits.foldl (fun acc c => acc * 10 + (c.toNat - 48)) 0

/-- A text is a decimal number. -/
def IsDecimal (s : List Char) (n : Nat) : Prop :=
  s ≠ [] ∧ (∀ c ∈ s, c.isDigit = true) ∧ decimalValue s = n

/-- The bytes that a text of an address is about: four, unless it has a colon. -/
def textBytes (addr : List Char) (ip : IP) : List UInt8 :=
  if ':' ∈ addr then ip else ip.drop 12

/-- A CIDR text: an address, a slash, and a prefix length that the address has bits for. -/
structure IsCIDR (s : List Char) (bytes : List UInt8) (n : Nat) : Prop where
  text : ∃ addr mask ip, s = addr ++ '/' :: mask ∧ parseIP (String.ofList addr) = some ip ∧
    textBytes addr ip = bytes ∧ IsDecimal mask n
  fits : n ≤ 8 * bytes.length

/-- The network of some bytes and a prefix length. -/
def block (bytes : List UInt8) (n : Nat) : IPNet :=
  ⟨List.zipWith (· &&& ·) bytes (cidrMask bytes.length n), cidrMask bytes.length n⟩

theorem le_foldl_decimal (s : List Char) (n : Nat) :
    n ≤ s.foldl (fun acc c => acc * 10 + (c.toNat - 48)) n := by
  induction s generalizing n with
  | nil => exact Nat.le_refl n
  | cons c cs ih =>
      have hstep := ih (n * 10 + (c.toNat - 48))
      rw [List.foldl_cons]
      omega

/-- The loop reads everything exactly if everything is a digit. -/
theorem dtoiLoop_full {s : List Char} {n i m : Nat} :
    dtoiLoop s n i = some (m, i + s.length) ∧ m < 0xFFFFFF ↔
      (s ≠ [] ∨ i ≠ 0) ∧ (∀ c ∈ s, c.isDigit = true) ∧
        s.foldl (fun acc c => acc * 10 + (c.toNat - 48)) n = m ∧ m < 0xFFFFFF := by
  induction s generalizing n i with
  | nil =>
      unfold dtoiLoop
      split_ifs with hi
      · simp [hi]
      · simp [hi]
  | cons c cs ih =>
      have hlen : i + (c :: cs).length = i + 1 + cs.length := by
        rw [List.length_cons]
        omega
      have hmono := le_foldl_decimal cs (n * 10 + (c.toNat - 48))
      unfold dtoiLoop
      rw [hlen, List.foldl_cons, List.forall_mem_cons]
      split_ifs with hdigit hbig hzero
      · refine iff_of_false (fun h => nomatch h.1) fun ⟨_, _, hm, hlt⟩ => ?_
        omega
      · rw [ih]
        simp [hdigit]
      · exact iff_of_false (fun h => nomatch h.1) fun h => absurd h.2.1.1 hdigit
      · refine iff_of_false (fun h => ?_) fun h => absurd h.2.1.1 hdigit
        have hpair := Option.some.inj h.1
        have hlen' := congrArg Prod.snd hpair
        dsimp only at hlen'
        omega

/-- A prefix length is read off a decimal number. -/
theorem dtoi_iff {mask : List Char} {n : Nat} (hn : n < 0xFFFFFF) :
    dtoi mask = some (n, mask.length) ↔ IsDecimal mask n := by
  have h := dtoiLoop_full (s := mask) (n := 0) (i := 0) (m := n)
  rw [Nat.zero_add, and_iff_left hn, and_iff_left hn] at h
  unfold dtoi IsDecimal decimalValue
  rw [h]
  simp

/-- A text of an address is dotted decimal if it has no colon. -/
theorem find?_dot_iff {addr : List Char} {ip : IP} (h : parseIP (String.ofList addr) = some ip) :
    addr.find? (fun c => c = '.' || c = ':') = some '.' ↔ ':' ∉ addr := by
  unfold parseIP at h
  rw [String.toList_ofList] at h
  split at h
  · next hfind =>
      obtain ⟨fields, hfields, -⟩ := Option.map_eq_some_iff.mp h
      have hcolon : ':' ∉ addr := by
        intro hmem
        rcases mem_of_ipv4Fields hfields ':' hmem with hdigit | hdot
        · exact absurd hdigit (by decide)
        · exact absurd hdot (by decide)
      refine iff_of_true ?_ hcolon
      cases hdot : addr.find? fun c => c = '.' || c = ':' with
      | none =>
          have hno := List.find?_eq_none.mp hdot '.' (List.mem_of_find?_eq_some hfind)
          exact absurd rfl hno
      | some c =>
          have hc := List.find?_some hdot
          rw [Bool.or_eq_true, decide_eq_true_eq, decide_eq_true_eq] at hc
          rcases hc with rfl | rfl
          · rfl
          · exact absurd (List.mem_of_find?_eq_some hdot) hcolon
  · next hfind =>
      refine iff_of_false (fun hdot => ?_) fun hcolon =>
        hcolon (List.mem_of_find?_eq_some hfind)
      -- nothing before the first colon is a dot
      obtain ⟨-, before, after, rfl, hbefore⟩ := List.find?_eq_some_iff_append.mp hfind
      have hnone : before.find? (fun c => c = '.' || c = ':') = none := by
        refine List.find?_eq_none.mpr fun c hc => ?_
        have hno := hbefore c hc
        simp only [Bool.not_eq_true', Bool.or_eq_false_iff] at hno
        simp [hno.1.1, hno.1.2]
      rw [List.find?_append, hnone, Option.none_or, List.find?_cons_of_pos (by decide)] at hdot
      exact absurd hdot (by decide)
  · cases h

theorem length_textBytes (addr : List Char) {ip : IP} (h : ip.length = 16) :
    (textBytes addr ip).length = if ':' ∈ addr then 16 else 4 := by
  unfold textBytes
  split
  · exact h
  · rw [List.length_drop, h]

theorem prefix_lt {addr : List Char} {ip : IP} {n : Nat} (h : ip.length = 16)
    (hn : n ≤ 8 * (textBytes addr ip).length) : n < 0xFFFFFF := by
  rw [length_textBytes addr h] at hn
  split_ifs at hn
  · omega
  · omega

theorem block_textBytes {addr : List Char} {ip : IP} (h : ip.length = 16) (n : Nat) :
    block (textBytes addr ip) n =
      ⟨ip.mask (cidrMask (textBytes addr ip).length n),
        cidrMask (textBytes addr ip).length n⟩ := by
  unfold block IP.mask
  rw [length_cidrMask, length_textBytes addr h]
  unfold textBytes
  split
  · rfl
  · rfl

/-- No other character is in the text of an address. -/
theorem not_mem_of_parseIP {addr : List Char} {ip : IP} {c : Char}
    (h : parseIP (String.ofList addr) = some ip) (hc : isAddrChar c = false) : c ∉ addr := by
  intro hmem
  have haddr := isAddrChar_of_parseIP h c (by rwa [String.toList_ofList])
  rw [hc] at haddr
  exact Bool.false_ne_true haddr

/-- A CIDR text determines its bytes and its prefix length. -/
theorem IsCIDR.unique {s : List Char} {bytes bytes' : List UInt8} {n n' : Nat}
    (h : IsCIDR s bytes n) (h' : IsCIDR s bytes' n') : bytes = bytes' ∧ n = n' := by
  obtain ⟨addr, mask, ip, hs, hip, rfl, -, -, rfl⟩ := h.text
  obtain ⟨addr', mask', ip', hs', hip', rfl, -, -, rfl⟩ := h'.text
  obtain ⟨rfl, rfl⟩ := append_cons_inj (not_mem_of_parseIP hip (by decide))
    (not_mem_of_parseIP hip' (by decide)) (hs.symm.trans hs')
  rw [hip] at hip'
  injection hip' with hip'
  rw [hip']
  exact ⟨rfl, rfl⟩

/-- What `ParseCIDR` answers for an address, a slash and a text. -/
theorem parseCIDR_of_split {s : String} {addr mask : List Char} {ip : IP}
    (hs : s.toList = addr ++ '/' :: mask) (hip : parseIP (String.ofList addr) = some ip) :
    parseCIDR s =
      match dtoi mask with
      | none => none
      | some (n, i) =>
          if i ≠ mask.length ∨ 8 * (textBytes addr ip).length < n then none
          else some (ip, block (textBytes addr ip) n) := by
  have hslash := not_mem_of_parseIP (c := '/') hip (by decide)
  have hdrop : s.toList.dropWhile (fun c => decide (c ≠ '/')) = '/' :: mask := by
    rw [hs, dropWhile_ne_append hslash]
  have htake : s.toList.takeWhile (fun c => decide (c ≠ '/')) = addr := by
    rw [hs, takeWhile_ne_append hslash]
  have hlen : (if addr.find? (fun c => c = '.' || c = ':') = some '.' then 4 else 16) =
      (textBytes addr ip).length := by
    rw [length_textBytes addr (length_of_parseIP hip)]
    by_cases hcolon : ':' ∈ addr
    · rw [if_neg fun h => (find?_dot_iff hip).mp h hcolon, if_pos hcolon]
    · rw [if_pos ((find?_dot_iff hip).mpr hcolon), if_neg hcolon]
  unfold parseCIDR
  rw [hdrop]
  dsimp only
  rw [htake, hip]
  dsimp only
  rw [hlen]
  cases dtoi mask with
  | none => rfl
  | some p =>
      obtain ⟨n, i⟩ := p
      dsimp only
      rw [block_textBytes (length_of_parseIP hip), Nat.mul_comm 8]

/-- **The texts that `ParseCIDR` accepts, and what networks they are.** -/
theorem parseCIDR_iff {s : String} {net : IPNet} :
    (∃ ip, parseCIDR s = some (ip, net)) ↔
      ∃ bytes n, IsCIDR s.toList bytes n ∧ net = block bytes n := by
  constructor
  · rintro ⟨ip, h⟩
    have hparsed := h
    unfold parseCIDR at hparsed
    split at hparsed
    · cases hparsed
    · next c mask hdrop =>
        dsimp only at hparsed
        split at hparsed
        · cases hparsed
        · next ip' hip =>
            have hc : c = '/' := by
              have hhead := List.head?_dropWhile_not (fun c => decide (c ≠ '/')) s.toList
              rw [hdrop] at hhead
              simpa using hhead
            subst hc
            have hs : s.toList = s.toList.takeWhile (fun c => decide (c ≠ '/')) ++ '/' :: mask := by
              rw [← hdrop, List.takeWhile_append_dropWhile]
            rw [parseCIDR_of_split hs hip] at h
            cases hmask : dtoi mask with
            | none =>
                rw [hmask] at h
                cases h
            | some p =>
                obtain ⟨n, i⟩ := p
                rw [hmask] at h
                dsimp only at h
                split_ifs at h with hbad
                rw [not_or, not_not, not_lt] at hbad
                obtain ⟨rfl, hfits⟩ := hbad
                injection h with h
                injection h with _ hnet
                have hsmall := prefix_lt (length_of_parseIP hip) hfits
                exact ⟨_, n, ⟨⟨_, mask, ip', hs, hip, rfl, (dtoi_iff hsmall).mp hmask⟩, hfits⟩,
                  hnet.symm⟩
  · rintro ⟨bytes, n, ⟨⟨addr, mask, ip, hs, hip, rfl, hdecimal⟩, hfits⟩, rfl⟩
    refine ⟨ip, ?_⟩
    have hsmall := prefix_lt (length_of_parseIP hip) hfits
    rw [parseCIDR_of_split hs hip, (dtoi_iff hsmall).mpr hdecimal]
    dsimp only
    rw [if_neg (by omega)]

/-! ## §4. What a network contains. -/

theorem num_drop_twelve {ip : IP} (h : ip.length = 16) :
    num ip = num (ip.take 12) * 2 ^ 32 + num (ip.drop 12) ∧ num (ip.drop 12) < 2 ^ 32 := by
  have hdrop : (ip.drop 12).length = 4 := by rw [List.length_drop, h]
  constructor
  · conv_lhs => rw [← List.take_append_drop 12 ip]
    rw [num_append, hdrop, pow_256]
  · have hlt := num_lt (ip.drop 12)
    rwa [hdrop, pow_256] at hlt

/-- **The addresses of version 4**, by their numbers. -/
theorem to4_of_length {ip : IP} (h : ip.length = 16) :
    to4 ip = if num ip / 2 ^ 32 = 0xffff then some (ip.drop 12) else none := by
  obtain ⟨hnum, hlow⟩ := num_drop_twelve h
  have hhigh : num ip / 2 ^ 32 = num (ip.take 12) := by
    rw [hnum, Nat.mul_comm, Nat.mul_add_div (Nat.two_pow_pos 32), Nat.div_eq_of_lt hlow,
      Nat.add_zero]
  have hprefix : num v4InV6Prefix = 0xffff := by decide
  have htake : (ip.take 12).length = v4InV6Prefix.length := by
    rw [List.length_take, h]
    rfl
  unfold to4
  rw [if_neg (by omega), hhigh, ← hprefix]
  simp only [num_inj htake, h, true_and]

/-- Two numbers agree in all but the low bits. -/
theorem masked_eq_iff {x y k : Nat} :
    x / 2 ^ k * 2 ^ k = y / 2 ^ k * 2 ^ k ↔ x / 2 ^ k = y / 2 ^ k :=
  Nat.mul_left_inj (Nat.two_pow_pos k).ne'

/-- Bytes agree under a mask if their numbers agree in the prefix. -/
theorem zipWith_mask_eq_iff {as bs : List UInt8} {n : Nat} (hlen : as.length = bs.length)
    (hn : n ≤ 8 * as.length) :
    List.zipWith (· &&& ·) as (cidrMask as.length n) =
        List.zipWith (· &&& ·) bs (cidrMask as.length n) ↔
      num as / 2 ^ (8 * as.length - n) = num bs / 2 ^ (8 * as.length - n) := by
  have hlength : ∀ cs : List UInt8, cs.length = as.length →
      (List.zipWith (· &&& ·) cs (cidrMask as.length n)).length = as.length := by
    intro cs hcs
    rw [List.length_zipWith, length_cidrMask, hcs, Nat.min_self]
  have hbs := num_and_cidrMask bs (n := n) (by omega)
  rw [← hlen] at hbs
  rw [← num_inj ((hlength as rfl).trans (hlength bs hlen.symm).symm), num_and_cidrMask as hn, hbs,
    masked_eq_iff]

theorem length_block_ip (bytes : List UInt8) (n : Nat) :
    (block bytes n).ip.length = bytes.length := by
  show (List.zipWith _ _ _).length = _
  rw [List.length_zipWith, length_cidrMask, Nat.min_self]

/-- The prefix of the network is that of its bytes. -/
theorem num_block_ip {bytes : List UInt8} {n : Nat} (hn : n ≤ 8 * bytes.length) :
    num (block bytes n).ip = num bytes / 2 ^ (8 * bytes.length - n) *
      2 ^ (8 * bytes.length - n) := num_and_cidrMask bytes hn

theorem num_block_ip_div {bytes : List UInt8} {n : Nat} (hn : n ≤ 8 * bytes.length) :
    num (block bytes n).ip / 2 ^ (8 * bytes.length - n) =
      num bytes / 2 ^ (8 * bytes.length - n) := by
  rw [num_block_ip hn, Nat.mul_div_cancel _ (Nat.two_pow_pos _)]

/-- Bytes are in the network, under its mask, if they have its prefix. -/
theorem masked_block_iff {bytes as : List UInt8} {n : Nat} (hlen : as.length = bytes.length)
    (hn : n ≤ 8 * bytes.length) :
    List.zipWith (· &&& ·) (block bytes n).ip (block bytes n).mask =
        List.zipWith (· &&& ·) as (block bytes n).mask ↔
      num as / 2 ^ (8 * bytes.length - n) = num bytes / 2 ^ (8 * bytes.length - n) := by
  have hip := length_block_ip bytes n
  have h := zipWith_mask_eq_iff (n := n) (hip.trans hlen.symm) (hip.symm ▸ hn)
  rw [hip, num_block_ip_div hn] at h
  exact h.trans eq_comm

/-- **What a network of version 4 contains.** -/
theorem contains_block_of_four {bytes : List UInt8} {n : Nat} (hbytes : bytes.length = 4)
    (hn : n ≤ 32) {a : IP} (ha : a.length = 16) :
    (block bytes n).contains a = true ↔
      ∃ b, to4 a = some b ∧ num b / 2 ^ (32 - n) = num bytes / 2 ^ (32 - n) := by
  have hip := (length_block_ip bytes n).trans hbytes
  have hfour : to4 (block bytes n).ip = some (block bytes n).ip := by
    unfold to4
    rw [if_pos hip]
  have hmask : (block bytes n).mask.length = 4 := (length_cidrMask _ n).trans hbytes
  have hnumber : networkNumberAndMask (block bytes n) =
      some ((block bytes n).ip, (block bytes n).mask) := by
    unfold networkNumberAndMask
    rw [hfour]
    simp [hip, hmask]
  unfold IPNet.contains
  rw [hnumber]
  dsimp only
  rw [Bool.and_eq_true, decide_eq_true_eq, decide_eq_true_eq, hip]
  cases hto4 : to4 a with
  | none => exact iff_of_false (fun h => absurd h.1 (by simp [ha])) (by simp)
  | some b =>
      have hb : b.length = bytes.length := by
        rw [to4_of_length ha] at hto4
        split_ifs at hto4
        injection hto4 with hto4
        rw [← hto4, List.length_drop, ha, hbytes]
      have hmasked := masked_block_iff (n := n) hb (by omega)
      rw [hbytes] at hmasked
      rw [Option.getD_some, hmasked]
      simp [hb, hbytes]

/-- Numbers that agree in a prefix of 96 bits or more agree in 96 bits. -/
theorem div_two_pow_32_of_le {x y n : Nat} (hn : 96 ≤ n) (hn' : n ≤ 128)
    (h : x / 2 ^ (128 - n) = y / 2 ^ (128 - n)) : x / 2 ^ 32 = y / 2 ^ 32 := by
  have hsplit : 2 ^ 32 = 2 ^ (128 - n) * 2 ^ (n - 96) := by
    rw [← Nat.pow_add]
    congr 1
    omega
  rw [hsplit, ← Nat.div_div_eq_div_mul, ← Nat.div_div_eq_div_mul, h]

/-- Only a prefix of 96 bits or more has all ones of the prefix of version 4. -/
theorem prefix_of_v4 {x n : Nat} (h : x * 2 ^ (128 - n) / 2 ^ 32 = 0xffff) : 96 ≤ n := by
  by_contra hlt
  have hsplit : x * 2 ^ (128 - n) = x * 2 ^ (95 - n) * 2 * 2 ^ 32 := by
    have hexp : 128 - n = 95 - n + 1 + 32 := by omega
    rw [hexp, Nat.pow_add, Nat.pow_succ]
    ring
  rw [hsplit, Nat.mul_div_cancel _ (Nat.two_pow_pos 32)] at h
  omega

/-- Lists of which the first twelve agree. -/
theorem eq_iff_drop_eq {l l' : List UInt8} (h : l.take 12 = l'.take 12) :
    l = l' ↔ l.drop 12 = l'.drop 12 := by
  constructor
  · exact fun heq => heq ▸ rfl
  · intro hdrop
    rw [← List.take_append_drop 12 l, ← List.take_append_drop 12 l', h, hdrop]

theorem take_of_num {ip : IP} (h : ip.length = 16) (hv4 : num ip / 2 ^ 32 = 0xffff) :
    ip.take 12 = v4InV6Prefix := by
  have hto4 := to4_of_length h
  rw [if_pos hv4] at hto4
  unfold to4 at hto4
  split_ifs at hto4 with hfour hsixteen
  · omega
  · exact hsixteen.2

/-- An address of version 4 is determined by its four bytes. -/
theorem to4_inj {a a' : IP} {b : List UInt8} (ha : a.length = 16) (ha' : a'.length = 16)
    (h : to4 a = some b) (h' : to4 a' = some b) : a = a' := by
  rw [to4_of_length ha] at h
  rw [to4_of_length ha'] at h'
  split_ifs at h h' with hv4 hv4'
  injection h with h
  injection h' with h'
  have htake := (take_of_num ha hv4).trans (take_of_num ha' hv4').symm
  exact (eq_iff_drop_eq htake).mpr (h.trans h'.symm)

/-- **What a network of version 6 contains**: no address of version 4, unless its prefix is
longer than theirs. -/
theorem contains_block_of_sixteen {bytes : List UInt8} {n : Nat} (hbytes : bytes.length = 16)
    (hn : n ≤ 128) {a : IP} (ha : a.length = 16) :
    (block bytes n).contains a = true ↔
      num a / 2 ^ (128 - n) = num bytes / 2 ^ (128 - n) ∧ ((to4 a).isSome = true → 96 ≤ n) := by
  have hip := (length_block_ip bytes n).trans hbytes
  have hmask : (block bytes n).mask.length = 16 := (length_cidrMask _ n).trans hbytes
  have hfits : n ≤ 8 * bytes.length := by omega
  have hagree := masked_block_iff (n := n) (ha.trans hbytes.symm) hfits
  have hprefix := num_block_ip_div hfits
  have hnum := num_block_ip hfits
  rw [hbytes] at hagree hprefix hnum
  have hto4 := to4_of_length hip
  have hto4a := to4_of_length ha
  unfold IPNet.contains networkNumberAndMask
  by_cases hnet : num (block bytes n).ip / 2 ^ 32 = 0xffff
  · -- the network is one of version 4
    have hlong : 96 ≤ n := prefix_of_v4 (hnum ▸ hnet)
    have hbytes4 := (div_two_pow_32_of_le hlong hn hprefix).symm.trans hnet
    rw [if_pos hnet] at hto4
    by_cases hv4 : num a / 2 ^ 32 = 0xffff
    · rw [if_pos hv4] at hto4a
      have hheads : (List.zipWith (· &&& ·) (block bytes n).ip (block bytes n).mask).take 12 =
          (List.zipWith (· &&& ·) a (block bytes n).mask).take 12 := by
        rw [List.take_zipWith, List.take_zipWith, take_of_num hip hnet, take_of_num ha hv4]
      have htails := eq_iff_drop_eq hheads
      rw [List.drop_zipWith, List.drop_zipWith] at htails
      rw [hto4, hto4a]
      simp [hip, ha, hmask, ← htails, hagree, hlong]
    · rw [if_neg hv4] at hto4a
      rw [hto4, hto4a]
      have hno : ¬num a / 2 ^ (128 - n) = num bytes / 2 ^ (128 - n) := fun h =>
        hv4 ((div_two_pow_32_of_le hlong hn h).trans hbytes4)
      simp [hip, ha, hmask, hno]
  · rw [if_neg hnet] at hto4
    by_cases hv4 : num a / 2 ^ 32 = 0xffff
    · rw [if_pos hv4] at hto4a
      rw [hto4, hto4a]
      have hno : num a / 2 ^ (128 - n) = num bytes / 2 ^ (128 - n) → ¬96 ≤ n := by
        intro h hlong
        have hsame := div_two_pow_32_of_le hlong hn (h.trans hprefix.symm)
        exact hnet (hsame.symm.trans hv4)
      simp [hip, ha, hmask]
      omega
    · rw [if_neg hv4] at hto4a
      rw [hto4, hto4a]
      simp [hip, ha, hmask, hagree]

end Foundation.NetAddr
