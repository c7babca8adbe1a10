/-
  Foundation.Calendar
  ───────────────────
  **THE GREGORIAN CALENDAR, AND DATES AS TEXT.**

  Days are counted from 1 January 1970 and months from `0`.  A `Date` is a day that
  exists, of a year of at most four digits.  Its text has ten characters; a text put
  together from a numeral of the year, without leading zeros, and two digits each for
  month and day is that of a date only if the year has four digits.

  Main results:
    * `Date.ofDay`                — the date of a day;
    * `dateText_numeral_eq_iff`   — when a text put together is that of a date;
    * `take_rfc3339`              — a timestamp begins with its date.
-/
import Mathlib.Algebra.Group.Int.Defs
import Mathlib.Algebra.Group.Nat.Defs
import Mathlib.Data.Nat.Find
import Mathlib.Data.List.Basic

namespace Foundation.Calendar

/-! ## §1. Years, months and days. -/

def isLeap (year : Int) : Bool :=
  decide (year % 4 = 0) && (decide (year % 100 ≠ 0) || decide (year % 400 = 0))

/-- The number of days of a month. -/
def daysIn (year : Int) : Nat → Nat
  | 1 => if isLeap year then 29 else 28
  | 3 => 30
  | 5 => 30
  | 8 => 30
  | 10 => 30
  | _ => 31

/-- The number of days of a year before a month. -/
def monthStart (year : Int) : Nat → Nat
  | 0 => 0
  | month + 1 => monthStart year month + daysIn year month

/-- The first day of a year. -/
def yearStart (year : Int) : Int :=
  365 * (year - 1970) + (year - 1969) / 4 - (year - 1901) / 100 + (year - 1601) / 400

/-- The day of a date. -/
def dayNumber (year : Int) (month day : Nat) : Int :=
  yearStart year + monthStart year month + day - 1

/-- The day of the week; Sunday is `0`. -/
def weekday (day : Int) : Nat := ((day + 4) % 7).toNat

theorem yearStart_succ (year : Int) :
    yearStart (year + 1) = yearStart year + monthStart year 12 := by
  simp only [yearStart, monthStart, daysIn, isLeap, Bool.and_eq_true, Bool.or_eq_true,
    decide_eq_true_eq]
  split <;> omega

/-! ## §2. Dates. -/

/-- A day that exists, of a year of at most four digits. -/
structure Date where
  year : Nat
  month : Nat
  day : Nat
  year_le : year ≤ 9999
  month_lt : month < 12
  day_pos : 1 ≤ day
  day_le : day ≤ daysIn year month

/-- The year that a day falls into. -/
def yearOf (n : Int) : Nat := Nat.findGreatest (fun y => yearStart y ≤ n) 9999

/-- The month that a day of a year falls into, from the day's place in it. -/
def monthOf (year : Int) (place : Nat) : Nat :=
  Nat.findGreatest (fun month => monthStart year month ≤ place) 11

theorem yearOf_spec {n : Int} (hfirst : yearStart 0 ≤ n) (hlast : n < yearStart 10000) :
    yearOf n ≤ 9999 ∧ yearStart (yearOf n) ≤ n ∧
      n < yearStart (yearOf n) + monthStart (yearOf n) 12 := by
  have hle : yearOf n ≤ 9999 := Nat.findGreatest_le 9999
  refine ⟨hle, Nat.findGreatest_spec (P := fun y : Nat => yearStart y ≤ n) (Nat.zero_le 9999)
    hfirst, ?_⟩
  rw [← yearStart_succ]
  rcases Nat.lt_or_eq_of_le hle with hlt | heq
  · -- the next year starts later
    have hnext : ¬ yearStart ((yearOf n + 1 : Nat) : Int) ≤ n :=
      Nat.findGreatest_is_greatest (Nat.lt_succ_self _) hlt
    push_cast at hnext
    omega
  · rw [heq]
    exact hlast

theorem monthOf_spec {year : Int} {place : Nat} (hplace : place < monthStart year 12) :
    monthOf year place < 12 ∧ monthStart year (monthOf year place) ≤ place ∧
      place < monthStart year (monthOf year place) + daysIn year (monthOf year place) := by
  have hle : monthOf year place ≤ 11 := Nat.findGreatest_le 11
  refine ⟨Nat.lt_succ_of_le hle, Nat.findGreatest_spec
    (P := fun month => monthStart year month ≤ place) (Nat.zero_le 11) (Nat.zero_le place), ?_⟩
  show place < monthStart year (monthOf year place + 1)
  rcases Nat.lt_or_eq_of_le hle with hlt | heq
  · -- the next month starts later
    exact Nat.lt_of_not_le (Nat.findGreatest_is_greatest
      (P := fun month => monthStart year month ≤ place) (Nat.lt_succ_self _) hlt)
  · rw [heq]
    exact hplace

/-- **The date of a day**, of a year of at most four digits. -/
def Date.ofDay (n : Int) : Option Date :=
  if h : yearStart 0 ≤ n ∧ n < yearStart 10000 then
    have hyear := yearOf_spec h.1 h.2
    have hplace : (n - yearStart (yearOf n)).toNat < monthStart (yearOf n) 12 := by omega
    have hmonth := monthOf_spec hplace
    some {
      year := yearOf n
      month := monthOf (yearOf n) (n - yearStart (yearOf n)).toNat
      day := (n - yearStart (yearOf n)).toNat
        - monthStart (yearOf n) (monthOf (yearOf n) (n - yearStart (yearOf n)).toNat) + 1
      year_le := hyear.1
      month_lt := hmonth.1
      day_pos := Nat.le_add_left 1 _
      day_le := by omega }
  else none

/-- It is the date of that day. -/
theorem Date.dayNumber_ofDay {n : Int} {d : Date} (h : Date.ofDay n = some d) :
    dayNumber d.year d.month d.day = n := by
  unfold Date.ofDay at h
  split at h
  · next hn =>
      injection h with h
      subst h
      have hyear := yearOf_spec hn.1 hn.2
      have hplace : (n - yearStart (yearOf n)).toNat < monthStart (yearOf n) 12 := by omega
      have hmonth := monthOf_spec hplace
      simp only [dayNumber]
      omega
  · exact absurd h (by simp)

/-! ## §3. Numerals. -/

/-- The numeral of a natural number. -/
def digits (n : Nat) : List Char := Nat.toDigits 10 n

/-- The numeral of an integer. -/
def numeral : Int → List Char
  | .ofNat n => digits n
  | .negSucc n => '-' :: digits (n + 1)

/-- Zeros in front, up to a width. -/
def padStart (width : Nat) (s : List Char) : List Char :=
  List.replicate (width - s.length) '0' ++ s

theorem digits_ne_dash {n : Nat} {c : Char} (hc : c ∈ digits n) : c ≠ '-' := by
  intro hdash
  have hdigit := Nat.isDigit_of_mem_toDigits (by decide) (by decide) hc
  rw [hdash] at hdigit
  exact absurd hdigit (by decide)

theorem padStart_ne_dash {width n : Nat} {c : Char} (hc : c ∈ padStart width (digits n)) :
    c ≠ '-' := by
  -- a zero in front, or a digit
  rcases List.mem_append.mp hc with hzero | hdigit
  · rw [List.eq_of_mem_replicate hzero]
    decide
  · exact digits_ne_dash hdigit

/-- A padded numeral has the value of the numeral. -/
theorem ofDigitChars_padStart (width n : Nat) :
    Nat.ofDigitChars 10 (padStart width (digits n)) 0 = n := by
  unfold padStart digits
  rw [Nat.ofDigitChars_append, Nat.ofDigitChars_replicate_zero, Nat.mul_zero,
    Nat.ofDigitChars_ten_toDigits]

theorem padStart_digits_inj {width m n : Nat}
    (h : padStart width (digits m) = padStart width (digits n)) : m = n := by
  rw [← ofDigitChars_padStart width m, h, ofDigitChars_padStart]

theorem length_padStart {width n : Nat} (hpos : 0 < width) (hn : n < 10 ^ width) :
    (padStart width (digits n)).length = width := by
  have hle : (digits n).length ≤ width := (Nat.length_toDigits_le_iff (by decide) hpos).mpr hn
  unfold padStart
  rw [List.length_append, List.length_replicate]
  omega

/-- A numeral is padded as it stands if it has as many digits. -/
theorem digits_eq_padStart_iff {m n width : Nat} (hpos : 0 < width) :
    digits m = padStart (width + 1) (digits n) ↔ m = n ∧ 10 ^ width ≤ n := by
  constructor
  · intro h
    have hmn : m = n := by
      have hvalue := congrArg (fun s => Nat.ofDigitChars 10 s 0) h
      simp only [ofDigitChars_padStart] at hvalue
      rwa [digits, Nat.ofDigitChars_ten_toDigits] at hvalue
    subst hmn
    refine ⟨rfl, Nat.le_of_not_lt fun hlt => ?_⟩
    -- a shorter numeral would be padded
    have hle : (digits m).length ≤ width := (Nat.length_toDigits_le_iff (by decide) hpos).mpr hlt
    have hlength := congrArg List.length h
    unfold padStart at hlength
    rw [List.length_append, List.length_replicate] at hlength
    omega
  · intro h
    obtain ⟨hmn, hn⟩ := h
    subst hmn
    have hlength : ¬ (digits m).length ≤ width := fun hle =>
      absurd ((Nat.length_toDigits_le_iff (by decide) hpos).mp hle) (Nat.not_lt.mpr hn)
    unfold padStart
    rw [Nat.sub_eq_zero_of_le (by omega), List.replicate_zero, List.nil_append]

/-! ## §4. Dates as text. -/

/-- `year-MM-DD`. -/
def dateText (year : List Char) (month day : Nat) : List Char :=
  year ++ '-' :: (padStart 2 (digits (month + 1)) ++ '-' :: padStart 2 (digits day))

/-- `YYYY-MM-DD`. -/
def Date.text (d : Date) : List Char := dateText (padStart 4 (digits d.year)) d.month d.day

theorem daysIn_le (year : Int) (month : Nat) : daysIn year month ≤ 31 := by
  unfold daysIn
  cases isLeap year <;> split <;> decide

theorem Date.length_text (d : Date) : d.text.length = 10 := by
  have hyear := d.year_le
  have hmonth := d.month_lt
  have hday := d.day_le
  have hdays := daysIn_le d.year d.month
  unfold Date.text dateText
  rw [List.length_append, List.length_cons, List.length_append, List.length_cons,
    length_padStart (by decide) (by omega), length_padStart (by decide) (by omega),
    length_padStart (by decide) (by omega)]

/-- A text is cut at its first separator in one way. -/
theorem append_cons_inj {sep : Char} {a b a' b' : List Char} (ha : ∀ c ∈ a, c ≠ sep)
    (ha' : ∀ c ∈ a', c ≠ sep) (h : a ++ sep :: b = a' ++ sep :: b') : a = a' ∧ b = b' := by
  -- by induction on the part in front of the separator
  induction a generalizing a' with
  | nil =>
      cases a' with
      | nil => exact ⟨rfl, (List.cons.inj h).2⟩
      | cons c a' => exact absurd (List.cons.inj h).1.symm (ha' c List.mem_cons_self)
  | cons c a ih =>
      cases a' with
      | nil => exact absurd (List.cons.inj h).1 (ha c List.mem_cons_self)
      | cons c' a' =>
          obtain ⟨hc, htail⟩ := List.cons.inj h
          obtain ⟨haa', hbb'⟩ := ih (fun x hx => ha x (List.mem_cons_of_mem _ hx))
            (fun x hx => ha' x (List.mem_cons_of_mem _ hx)) htail
          exact ⟨by rw [hc, haa'], hbb'⟩

theorem dateText_inj {year year' : List Char} {month day month' day' : Nat}
    (hy : ∀ c ∈ year, c ≠ '-') (hy' : ∀ c ∈ year', c ≠ '-')
    (h : dateText year month day = dateText year' month' day') :
    year = year' ∧ month = month' ∧ day = day' := by
  -- no part has a separator in it
  obtain ⟨hyear, hrest⟩ := append_cons_inj hy hy' h
  obtain ⟨hmonth, hday⟩ :=
    append_cons_inj (fun _ => padStart_ne_dash) (fun _ => padStart_ne_dash) hrest
  exact ⟨hyear, Nat.succ.inj (padStart_digits_inj hmonth), padStart_digits_inj hday⟩

/-- **When a text put together is that of a date.** -/
theorem dateText_numeral_eq_iff (year : Int) (month day : Nat) (d : Date) :
    dateText (numeral year) month day = d.text ↔
      year = d.year ∧ 1000 ≤ d.year ∧ month = d.month ∧ day = d.day := by
  cases year with
  | ofNat n =>
      constructor
      · intro h
        obtain ⟨hyear, hmonth, hday⟩ :=
          dateText_inj (fun _ => digits_ne_dash) (fun _ => padStart_ne_dash) h
        obtain ⟨hn, hfour⟩ := (digits_eq_padStart_iff (by decide)).mp hyear
        exact ⟨by rw [hn]; rfl, hfour, hmonth, hday⟩
      · intro h
        obtain ⟨hn, hfour, hmonth, hday⟩ := h
        have hyear : digits n = padStart 4 (digits d.year) :=
          (digits_eq_padStart_iff (by decide)).mpr ⟨Int.ofNat.inj hn, hfour⟩
        rw [hmonth, hday]
        exact congrArg (fun y => dateText y d.month d.day) hyear
  | negSucc n =>
      constructor
      · -- a date does not begin with a sign
        intro h
        unfold Date.text dateText numeral at h
        have hlength := length_padStart (n := d.year) (show 0 < 4 by decide)
          (Nat.lt_succ_of_le d.year_le)
        cases hdigits : padStart 4 (digits d.year) with
        | nil =>
            rw [hdigits] at hlength
            exact absurd hlength (by decide)
        | cons c cs =>
            rw [hdigits] at h
            have hc : c ∈ padStart 4 (digits d.year) := by
              rw [hdigits]
              exact List.mem_cons_self
            exact absurd (List.cons.inj h).1.symm (padStart_ne_dash hc)
      · intro h
        exact absurd h.1 (by omega)

/-! ## §5. Instants. -/

/-- A time zone: how many seconds it is ahead at an instant. -/
structure Zone where
  offset : Int → Int
  bounded : ∀ t, (offset t).natAbs < 86400

/-- Coordinated universal time. -/
def utc : Zone := ⟨fun _ => 0, fun _ => by decide⟩

namespace Zone

/-- What clocks in the zone show at an instant, in microseconds. -/
def localTime (zone : Zone) (t : Int) : Int := t + zone.offset t * 1000000

/-- The date in the zone at an instant. -/
def date (zone : Zone) (t : Int) : Option Date := Date.ofDay (zone.localTime t / 86400000000)

/-- `hh:mm`, of a number of minutes. -/
def hourText (minutes : Nat) : List Char :=
  padStart 2 (digits (minutes / 60)) ++ ':' :: padStart 2 (digits (minutes % 60))

/-- The fraction of a second, without trailing zeros. -/
def fractionText (micros : Nat) : List Char :=
  if micros = 0 then [] else
    '.' :: ((padStart 6 (digits micros)).reverse.dropWhile (fun c => decide (c = '0'))).reverse

/-- How far the zone is ahead. -/
def offsetText (offset : Int) : List Char :=
  if offset = 0 then ['Z'] else
    (if offset < 0 then '-' else '+') :: hourText (offset.natAbs / 60)

/-- The time of day in the zone, and the zone. -/
def clockText (zone : Zone) (t : Int) : List Char :=
  let micros := (zone.localTime t % 86400000000).toNat
  hourText (micros / 60000000) ++ ':' :: (padStart 2 (digits (micros / 1000000 % 60)) ++
    (fractionText (micros % 1000000) ++ offsetText (zone.offset t)))

/-- The timestamp of an instant; its year has four digits. -/
def rfc3339 (zone : Zone) (t : Int) : Option (List Char) :=
  (zone.date t).map (fun d => d.text ++ 'T' :: zone.clockText t)

/-- **A timestamp begins with its date.** -/
theorem take_rfc3339 {zone : Zone} {t : Int} {s : List Char} (h : zone.rfc3339 t = some s) :
    ∃ d, zone.date t = some d ∧ s.take 10 = d.text := by
  obtain ⟨d, hd, hs⟩ := Option.map_eq_some_iff.mp h
  refine ⟨d, hd, ?_⟩
  rw [← hs, ← d.length_text, List.take_left]

end Zone

end Foundation.Calendar
