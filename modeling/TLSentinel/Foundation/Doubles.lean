/-
  Foundation.Doubles
  ──────────────────
  **INTEGERS AS BINARY64 NUMBERS, AND HOW THESE ARE WRITTEN.**

  A double has 53 significant bits; an integer is rounded to the nearest one, ties to
  the even one, and from 2^1024 - 2^970 on to infinity.  Written in decimal, a double
  has as few significant digits as tell it apart from all others.

  Main results:
    * `roundNat_mono`      — rounding is monotone;
    * `roundNat_lt_iff`    — it leaves the numbers below a double below it, up to a half
                             unit;
    * `roundNat_shortest`  — what is written rounds to the double;
    * `shortest_le_iff`    — and is at most 2^63 exactly if the double is below 2^63.
-/
import Mathlib.Algebra.Group.Int.Defs
import Mathlib.Algebra.Group.Nat.Defs
import Mathlib.Data.Nat.Log

namespace Foundation.Doubles

/-! ## §1. Rounding. -/

/-- The multiple of `u` next to `n`, the even one of two. -/
def roundTo (u n : Nat) : Nat :=
  if u < 2 * (n % u) ∨ 2 * (n % u) = u ∧ n / u % 2 = 1 then (n / u + 1) * u else n / u * u

/-- The distance of the doubles around `n`. -/
def unit (n : Nat) : Nat := 2 ^ (n.log2 - 52)

/-- The double next to `n`, its exponent not bounded. -/
def roundNat (n : Nat) : Nat := roundTo (unit n) n

theorem unit_pos (n : Nat) : 0 < unit n := Nat.two_pow_pos _

/-- Rounding moves to a multiple on one side or the other. -/
theorem roundTo_bounds (u n : Nat) : n / u * u ≤ roundTo u n ∧ roundTo u n ≤ (n / u + 1) * u := by
  have hle : n / u * u ≤ (n / u + 1) * u := Nat.mul_le_mul_right u (Nat.le_succ _)
  unfold roundTo
  split
  · exact ⟨hle, Nat.le_refl _⟩
  · exact ⟨Nat.le_refl _, hle⟩

theorem roundTo_mono {u n m : Nat} (h : n ≤ m) : roundTo u n ≤ roundTo u m := by
  have hdiv : n / u ≤ m / u := Nat.div_le_div_right h
  obtain hlt | heq := Nat.lt_or_eq_of_le hdiv
  · -- the multiple above `n` is not above `m`
    calc roundTo u n ≤ (n / u + 1) * u := (roundTo_bounds u n).2
      _ ≤ m / u * u := Nat.mul_le_mul_right u hlt
      _ ≤ roundTo u m := (roundTo_bounds u m).1
  · -- between the same two multiples the remainders decide
    have hmod : n % u ≤ m % u := by
      have hn := Nat.div_add_mod n u
      have hm := Nat.div_add_mod m u
      rw [heq] at hn
      omega
    unfold roundTo
    rw [heq]
    split
    · next hup =>
        have hup' : u < 2 * (m % u) ∨ 2 * (m % u) = u ∧ m / u % 2 = 1 := by omega
        rw [if_pos hup']
    · exact (roundTo_bounds u m).1

/-- A number rounds to one between the powers of two around it. -/
theorem roundNat_bounds {n : Nat} (hn : n ≠ 0) :
    2 ^ n.log2 ≤ roundNat n ∧ roundNat n ≤ 2 ^ (n.log2 + 1) := by
  have hlow : 2 ^ n.log2 ≤ n := Nat.log2_self_le hn
  have hhigh : n < 2 ^ (n.log2 + 1) := Nat.lt_log2_self
  obtain ⟨hdown, hup⟩ := roundTo_bounds (unit n) n
  -- both powers are multiples of the unit
  have hdvd : unit n ∣ 2 ^ n.log2 := Nat.pow_dvd_pow 2 (Nat.sub_le _ _)
  have hdvd' : unit n ∣ 2 ^ (n.log2 + 1) := Nat.dvd_trans hdvd (Nat.pow_dvd_pow 2 (Nat.le_succ _))
  constructor
  · calc 2 ^ n.log2 = 2 ^ n.log2 / unit n * unit n := (Nat.div_mul_cancel hdvd).symm
      _ ≤ n / unit n * unit n := Nat.mul_le_mul_right _ (Nat.div_le_div_right hlow)
      _ ≤ roundNat n := hdown
  · have hquot : n / unit n < 2 ^ (n.log2 + 1) / unit n :=
      Nat.div_lt_div_of_lt_of_dvd hdvd' hhigh
    calc roundNat n ≤ (n / unit n + 1) * unit n := hup
      _ ≤ 2 ^ (n.log2 + 1) / unit n * unit n := Nat.mul_le_mul_right _ hquot
      _ = 2 ^ (n.log2 + 1) := Nat.div_mul_cancel hdvd'

theorem dvd_roundTo (u n : Nat) : u ∣ roundTo u n := by
  unfold roundTo
  split
  · exact Nat.dvd_mul_left u _
  · exact Nat.dvd_mul_left u _

/-- A multiple stays. -/
theorem roundTo_of_dvd {u n : Nat} (hu : 0 < u) (h : u ∣ n) : roundTo u n = n := by
  have hmod : n % u = 0 := Nat.mod_eq_zero_of_dvd h
  unfold roundTo
  rw [if_neg (by omega)]
  exact Nat.div_mul_cancel h

/-- **A double stays.** -/
theorem roundNat_roundNat (n : Nat) : roundNat (roundNat n) = roundNat n := by
  by_cases hn : n = 0
  · rw [hn]
    decide
  · apply roundTo_of_dvd (unit_pos _)
    obtain ⟨hlow, hhigh⟩ := roundNat_bounds hn
    have hpos : roundNat n ≠ 0 := by
      have hpow : 0 < 2 ^ n.log2 := Nat.two_pow_pos _
      omega
    obtain hlt | heq := Nat.lt_or_eq_of_le hhigh
    · -- the unit is the same
      have hlog : (roundNat n).log2 = n.log2 := by
        have hle := (Nat.le_log2 hpos).mpr hlow
        have hge := (Nat.log2_lt hpos).mpr hlt
        omega
      have hunit : unit (roundNat n) = unit n := congrArg (fun l => 2 ^ (l - 52)) hlog
      rw [hunit]
      exact dvd_roundTo _ n
    · -- a power of two is a multiple of its unit
      have hlog : (roundNat n).log2 = n.log2 + 1 := by
        rw [heq]
        exact Nat.log2_two_pow
      unfold unit
      rw [hlog, heq]
      exact Nat.pow_dvd_pow 2 (Nat.sub_le _ _)

theorem roundNat_zero : roundNat 0 = 0 := by decide

/-- **Rounding is monotone.** -/
theorem roundNat_mono {n m : Nat} (h : n ≤ m) : roundNat n ≤ roundNat m := by
  by_cases hn : n = 0
  · rw [hn, roundNat_zero]
    exact Nat.zero_le _
  · have hm : m ≠ 0 := by omega
    have hlog : n.log2 ≤ m.log2 := (Nat.le_log2 hm).mpr ((Nat.log2_self_le hn).trans h)
    obtain hlt | heq := Nat.lt_or_eq_of_le hlog
    · calc roundNat n ≤ 2 ^ (n.log2 + 1) := (roundNat_bounds hn).2
        _ ≤ 2 ^ m.log2 := Nat.pow_le_pow_right Nat.two_pos hlt
        _ ≤ roundNat m := (roundNat_bounds hm).1
    · have hunit : unit n = unit m := congrArg (fun l => 2 ^ (l - 52)) heq
      unfold roundNat
      rw [hunit]
      exact roundTo_mono h

/-- **Numbers that round below a double**: those below the first one that does not. -/
theorem roundNat_lt_iff {n k b : Nat} (hbelow : roundNat k < b) (habove : roundNat (k + 1) = b) :
    roundNat n < b ↔ n ≤ k := by
  constructor
  · intro h
    by_contra hgt
    have hle : roundNat (k + 1) ≤ roundNat n := roundNat_mono (by omega)
    omega
  · exact fun h => (roundNat_mono h).trans_lt hbelow

/-! ## §2. Doubles. -/

/-- An integer, as a double holds it. -/
inductive Integral where
  | finite (v : Int)
  | infinite (negative : Bool)
  deriving DecidableEq, Repr

/-- The double next to an integer. -/
def ofInt (n : Int) : Integral :=
  if 2 ^ 1024 ≤ roundNat n.natAbs then .infinite (decide (n < 0))
  else if n < 0 then .finite (-(roundNat n.natAbs : Int))
  else .finite (roundNat n.natAbs)

/-! ## §3. Decimal digits. -/

/-- The multiple of a power of ten next to a double, of those that round to it. -/
def shortestAt (v p : Nat) : Option Nat :=
  let low := v / 10 ^ p * 10 ^ p
  let high := low + 10 ^ p
  if roundNat low = v ∧ (roundNat high ≠ v ∨ v - low ≤ high - v) then some low
  else if roundNat high = v then some high
  else none

/-- The number that the digits of a double below 10^21 say: the fewest significant ones that
round to it, then zeros. -/
def shortest (v : Nat) : Nat := ((List.range 22).reverse.findSome? (shortestAt v)).getD v

/-- **What is written rounds to the double.** -/
theorem roundNat_shortest {v : Nat} (hv : roundNat v = v) : roundNat (shortest v) = v := by
  unfold shortest
  cases hfound : (List.range 22).reverse.findSome? (shortestAt v) with
  | none => exact hv
  | some w =>
      obtain ⟨p, -, hp⟩ := List.exists_of_findSome?_eq_some hfound
      unfold shortestAt at hp
      dsimp only at hp
      split at hp
      · next hlow => exact Option.some.inj hp ▸ hlow.1
      · split at hp
        · next hhigh => exact Option.some.inj hp ▸ hhigh
        · cases hp

/-- 2^63 is written as a larger number. -/
theorem shortest_two_pow : shortest (2 ^ 63) = 9223372036854776000 := by decide +kernel

/-- **Where a double is written within a 64-bit integer.** -/
theorem shortest_le_iff {v : Nat} (hv : roundNat v = v) :
    (shortest v ≤ 2 ^ 63 ↔ v < 2 ^ 63) ∧ (shortest v < 2 ^ 63 ↔ v < 2 ^ 63) := by
  have hround := roundNat_shortest hv
  have hpow : roundNat (2 ^ 63) = 2 ^ 63 := by decide +kernel
  have hbelow : v < 2 ^ 63 → shortest v < 2 ^ 63 := by
    intro h
    by_contra hge
    have hmono : roundNat (2 ^ 63) ≤ roundNat (shortest v) := roundNat_mono (by omega)
    omega
  have habove : shortest v ≤ 2 ^ 63 → v < 2 ^ 63 := by
    intro h
    have hle : roundNat (shortest v) ≤ roundNat (2 ^ 63) := roundNat_mono h
    have hne : v ≠ 2 ^ 63 := by
      rintro rfl
      rw [shortest_two_pow] at h
      omega
    omega
  exact ⟨⟨habove, fun h => (hbelow h).le⟩, ⟨fun h => habove h.le, hbelow⟩⟩

end Foundation.Doubles
