/-
  Foundation.CronExpr
  ───────────────────
  **CRON EXPRESSIONS OF FIVE FIELDS, AND THE TIMES AT WHICH THEY FIRE.**

  A field is a list of ranges, separated by commas: `*` (or `?`), a number or a name, or
  two of these with a dash between them, each with a step after a slash:

      */15      0,30      9-17      mon-fri      10-50/20      5/10

  An expression fires at a time when each field allows its part of it.  Of the day of
  the month and the weekday one is enough, unless either field is a star.  Sunday is 0
  and 7.

  Main results:
    * `parseField_leading` — the first number of a field that begins with a digit;
    * `parseField_plain`   — a field that begins with none;
    * `parseText_join`     — an expression written with blanks between its fields;
    * `parts_agree`        — conditions on the parts of a time that hold at the same times.
-/
import Mathlib.Data.List.Basic
import Mathlib.Data.List.DropRight

namespace Foundation.CronExpr

/-! ## §1. Ranges. -/

/-- The numbers of a field, and the names that it has for some. -/
structure Bounds where
  lo : Nat
  hi : Nat
  names : List (List Char × Nat)

/-- The bounds of the minute. -/
def minutes : Bounds := ⟨0, 59, []⟩

/-- The bounds of the hour. -/
def hours : Bounds := ⟨0, 23, []⟩

/-- The bounds of the day of the month. -/
def days : Bounds := ⟨1, 31, []⟩

/-- The bounds of the month. -/
def months : Bounds where
  lo := 1
  hi := 12
  names :=
    [(['j', 'a', 'n'], 1), (['f', 'e', 'b'], 2), (['m', 'a', 'r'], 3), (['a', 'p', 'r'], 4),
      (['m', 'a', 'y'], 5), (['j', 'u', 'n'], 6), (['j', 'u', 'l'], 7), (['a', 'u', 'g'], 8),
      (['s', 'e', 'p'], 9), (['o', 'c', 't'], 10), (['n', 'o', 'v'], 11), (['d', 'e', 'c'], 12)]

/-- The bounds of the weekday. -/
def weekdays : Bounds where
  lo := 0
  hi := 7
  names :=
    [(['s', 'u', 'n'], 0), (['m', 'o', 'n'], 1), (['t', 'u', 'e'], 2), (['w', 'e', 'd'], 3),
      (['t', 'h', 'u'], 4), (['f', 'r', 'i'], 5), (['s', 'a', 't'], 6)]

/-- A range of a field, within its bounds. -/
structure Range (b : Bounds) where
  low : Nat
  high : Nat
  step : Nat
  /-- The range is a star. -/
  star : Bool
  lo_le : b.lo ≤ low
  low_le : low ≤ high
  le_hi : high ≤ b.hi
  step_pos : 0 < step
  deriving DecidableEq

/-- The number is one of the range. -/
def Range.contains {b : Bounds} (r : Range b) (n : Nat) : Prop :=
  r.low ≤ n ∧ n ≤ r.high ∧ (n - r.low) % r.step = 0

instance {b : Bounds} (r : Range b) (n : Nat) : Decidable (r.contains n) :=
  inferInstanceAs (Decidable (_ ∧ _ ∧ _))

/-- The ranges of a field. -/
abbrev Field (b : Bounds) := List (Range b)

/-- The field allows the number. -/
def Field.allows {b : Bounds} (f : Field b) (n : Nat) : Prop := ∃ r ∈ f, r.contains n

instance {b : Bounds} (f : Field b) (n : Nat) : Decidable (f.allows n) :=
  inferInstanceAs (Decidable (∃ r ∈ f, _))

/-- One of the ranges is a star. -/
def Field.star {b : Bounds} (f : Field b) : Bool := f.any Range.star

/-! ## §2. Reading a field. -/

/-- The number that digits are. -/
def number (ds : List Char) : Nat := ds.foldl (fun n d => 10 * n + (d.toNat - '0'.toNat)) 0

/-- The text is digits. -/
def isNumber (cs : List Char) : Bool := !cs.isEmpty && cs.all Char.isDigit

/-- A number, or a name in capital or small letters. -/
def valueOf (b : Bounds) (cs : List Char) : Option Nat :=
  if isNumber cs then some (number cs) else b.names.lookup (cs.map Char.toLower)

/-- What stands before the slash of a range. -/
structure Span where
  low : Nat
  high : Nat
  star : Bool
  single : Bool

/-- A star, a value, or two with a dash between them. -/
def parseSpan (b : Bounds) (cs : List Char) : Option Span :=
  match cs.splitOn '-' with
  | [v] =>
      if v = ['*'] ∨ v = ['?'] then some ⟨b.lo, b.hi, true, false⟩
      else (valueOf b v).map fun n => ⟨n, n, false, true⟩
  | [v, w] =>
      (valueOf b v).bind fun low => (valueOf b w).map fun high => ⟨low, high, false, false⟩
  | _ => none

/-- A range that is one. -/
def mkRange (b : Bounds) (low high step : Nat) (star : Bool) : Option (Range b) :=
  if h : b.lo ≤ low ∧ low ≤ high ∧ high ≤ b.hi ∧ 0 < step then
    some ⟨low, high, step, star, h.1, h.2.1, h.2.2.1, h.2.2.2⟩
  else none

/-- A range, with its step; a single value with a step runs to the end of the field, and a
star with a step is no star any more. -/
def parseRange (b : Bounds) (cs : List Char) : Option (Range b) :=
  match cs.splitOn '/' with
  | [r] => (parseSpan b r).bind fun s => mkRange b s.low s.high 1 s.star
  | [r, n] =>
      if isNumber n then
        (parseSpan b r).bind fun s => mkRange b s.low (if s.single then b.hi else s.high)
          (number n) (s.star && decide (number n ≤ 1))
      else none
  | _ => none

/-- The characters that a field is written with. -/
def fieldChar (c : Char) : Bool := c.isAlphanum || decide (c ∈ [',', '-', '/', '*', '?'])

/-- A field. -/
def parseField (b : Bounds) (cs : List Char) : Option (Field b) :=
  if cs.all fieldChar then (cs.splitOn ',').mapM (parseRange b) else none

/-! ## §3. Expressions. -/

/-- A cron expression. -/
structure Expr where
  minute : Field minutes
  hour : Field hours
  day : Field days
  month : Field months
  weekday : Field weekdays
  deriving DecidableEq

/-- A time, as far as a cron expression looks at it. -/
structure Time where
  minute : Nat
  hour : Nat
  day : Nat
  month : Nat
  weekday : Nat
  minute_lt : minute < 60
  hour_lt : hour < 24
  day_pos : 0 < day
  day_le : day ≤ 31
  month_pos : 0 < month
  month_le : month ≤ 12
  weekday_lt : weekday < 7

/-- The field allows the weekday; Sunday may be written 7. -/
def onWeekday (f : Field weekdays) (w : Nat) : Prop := f.allows w ∨ (w = 0 ∧ f.allows 7)

instance (f : Field weekdays) (w : Nat) : Decidable (onWeekday f w) :=
  inferInstanceAs (Decidable (_ ∨ _))

/-- The day is one of the expression. -/
def Expr.onDay (x : Expr) (day weekday : Nat) : Prop :=
  if x.day.star || x.weekday.star then x.day.allows day ∧ onWeekday x.weekday weekday
  else x.day.allows day ∨ onWeekday x.weekday weekday

/-- The expression fires at the time. -/
def Expr.fires (x : Expr) (t : Time) : Prop :=
  x.minute.allows t.minute ∧ x.hour.allows t.hour ∧ x.month.allows t.month ∧
    x.onDay t.day t.weekday

instance (x : Expr) (day weekday : Nat) : Decidable (x.onDay day weekday) :=
  inferInstanceAs (Decidable (if x.day.star || x.weekday.star then _ ∧ _ else _ ∨ _))

instance (x : Expr) (t : Time) : Decidable (x.fires t) :=
  inferInstanceAs (Decidable (_ ∧ _ ∧ _ ∧ _))

/-- The fields of an expression. -/
def parse : List (List Char) → Option Expr
  | [min, hr, dom, mon, dow] =>
      (parseField minutes min).bind fun minute =>
        (parseField hours hr).bind fun hour =>
          (parseField days dom).bind fun day =>
            (parseField months mon).bind fun month =>
              (parseField weekdays dow).map fun weekday => ⟨minute, hour, day, month, weekday⟩
  | _ => none

/-- The words of a text between white space. -/
def words (space : Char → Bool) : List Char → List (List Char)
  | [] => []
  | [c] => if space c then [] else [[c]]
  | c :: d :: cs =>
      if space c then words space (d :: cs)
      else if space d then [c] :: words space (d :: cs)
      else (words space (d :: cs)).modifyHead (List.cons c)

/-- The white space between fields. -/
def isBlank (c : Char) : Bool := decide (c = ' ' ∨ c = '\t')

/-- A cron expression of five fields. -/
def parseText (e : String) : Option Expr := parse (words isBlank e.toList)

example : (parseText "*/15 9-17 * * mon-fri").isSome = true := by decide

/-! ## §4. How a field begins. -/

/-- The names of the field begin with a letter. -/
def Bounds.Named (b : Bounds) : Prop := ∀ e ∈ b.names, ∃ c cs, e.1 = c :: cs ∧ c.isLower = true

theorem named_of_all {b : Bounds}
    (h : b.names.all (fun e => e.1.head?.any Char.isLower) = true) : b.Named := by
  intro e he
  have hhead := List.all_eq_true.mp h e he
  cases hcs : e.1 with
  | nil => simp [hcs] at hhead
  | cons c cs =>
      refine ⟨c, cs, rfl, ?_⟩
      simpa [hcs] using hhead

theorem minutes_named : minutes.Named := named_of_all rfl
theorem hours_named : hours.Named := named_of_all rfl
theorem days_named : days.Named := named_of_all rfl
theorem months_named : months.Named := named_of_all (by decide)
theorem weekdays_named : weekdays.Named := named_of_all (by decide)

theorem isUpper_iff_toNat {c : Char} : c.isUpper = true ↔ 65 ≤ c.toNat ∧ c.toNat ≤ 90 := by
  show decide (c.val ≥ 'A'.val ∧ c.val ≤ 'Z'.val) = true ↔ _
  rw [decide_eq_true_iff]
  exact Iff.rfl

theorem isLower_iff_toNat {c : Char} : c.isLower = true ↔ 97 ≤ c.toNat ∧ c.toNat ≤ 122 := by
  show (decide (c.val ≥ 'a'.val) && decide (c.val ≤ 'z'.val)) = true ↔ _
  rw [Bool.and_eq_true, decide_eq_true_iff, decide_eq_true_iff]
  exact Iff.rfl

theorem isAlpha_iff {c : Char} : c.isAlpha = true ↔ c.isUpper = true ∨ c.isLower = true := by
  show (c.isUpper || c.isLower) = true ↔ _
  rw [Bool.or_eq_true]

/-- A character that stands for a small letter is a letter. -/
theorem isAlpha_of_isLower_toLower {c : Char} (h : c.toLower.isLower = true) :
    c.isAlpha = true := by
  rw [isAlpha_iff]
  by_cases hupper : c.isUpper = true
  · exact Or.inl hupper
  · refine Or.inr ?_
    have hself : c.toLower = c := by
      unfold Char.toLower
      rw [dif_neg]
      exact fun h => hupper (isUpper_iff_toNat.mpr h)
    rwa [hself] at h

theorem not_isDigit_of_isAlpha {c : Char} (h : c.isAlpha = true) : c.isDigit = false := by
  rw [isAlpha_iff, isUpper_iff_toNat, isLower_iff_toNat] at h
  rw [← Bool.not_eq_true, Char.isDigit_iff_toNat]
  have h9 : '9'.toNat = 57 := rfl
  omega

/-- A value is a number, or begins with a letter. -/
theorem valueOf_cases {b : Bounds} (hb : b.Named) {v : List Char} {n : Nat}
    (h : valueOf b v = some n) :
    (isNumber v = true ∧ n = number v) ∨ ∃ c cs, v = c :: cs ∧ c.isAlpha = true := by
  unfold valueOf at h
  split at h
  · next hnum => exact Or.inl ⟨hnum, (Option.some.inj h).symm⟩
  · right
    obtain ⟨l₁, l₂, heq, -⟩ := List.lookup_eq_some_iff.mp h
    obtain ⟨c, cs, hname, hlower⟩ := hb (v.map Char.toLower, n) (by rw [heq]; simp)
    cases v with
    | nil => cases hname
    | cons d v =>
        obtain ⟨hd, -⟩ := List.cons.inj hname
        exact ⟨d, v, rfl, isAlpha_of_isLower_toLower (hd ▸ hlower)⟩

/-- The text is the first part of another, which ends there or goes on with a separator. -/
def Cut (v cs : List Char) : Prop :=
  ∃ rest, cs = v ++ rest ∧ ∀ c ∈ rest.head?, c ∈ [',', '-', '/']

theorem Cut.trans {u v cs : List Char} (h : Cut u v) (h' : Cut v cs) : Cut u cs := by
  obtain ⟨rest, rfl, hrest⟩ := h
  obtain ⟨rest', rfl, hrest'⟩ := h'
  refine ⟨rest ++ rest', List.append_assoc _ _ _, ?_⟩
  cases rest with
  | nil => exact hrest'
  | cons c rest => exact hrest

theorem cut_of_splitOn {a : Char} (ha : a ∈ [',', '-', '/']) {cs : List Char} :
    ∀ {p : List Char} {ps : List (List Char)}, cs.splitOn a = p :: ps → Cut p cs := by
  induction cs with
  | nil =>
      intro p ps h
      rw [List.splitOn_nil] at h
      obtain ⟨rfl, -⟩ := List.cons.inj h
      exact ⟨[], rfl, by simp⟩
  | cons c cs ih =>
      intro p ps h
      rw [List.splitOn_cons_eq_if_modifyHead] at h
      split at h
      · next hc =>
          obtain ⟨rfl, -⟩ := List.cons.inj h
          refine ⟨c :: cs, rfl, fun d hd => ?_⟩
          rw [List.head?_cons, Option.mem_some_iff] at hd
          rw [← hd, eq_of_beq hc]
          exact ha
      · cases hsplit : cs.splitOn a with
        | nil => exact absurd hsplit (List.splitOn_ne_nil a cs)
        | cons q qs =>
            rw [hsplit, List.modifyHead_cons] at h
            obtain ⟨rfl, -⟩ := List.cons.inj h
            obtain ⟨rest, rfl, hrest⟩ := ih hsplit
            exact ⟨rest, rfl, hrest⟩

/-- What a range begins with: a star, or its first value. -/
def Begins (b : Bounds) (v : List Char) (low : Nat) : Prop :=
  v = ['*'] ∨ v = ['?'] ∨ valueOf b v = some low

theorem parseSpan_first {b : Bounds} {cs : List Char} {s : Span} (h : parseSpan b cs = some s) :
    ∃ v, Cut v cs ∧ Begins b v s.low := by
  unfold parseSpan at h
  split at h
  · next v hv =>
      refine ⟨v, cut_of_splitOn (by decide) hv, ?_⟩
      split at h
      · next hstar => exact hstar.imp_right Or.inl
      · obtain ⟨n, hn, rfl⟩ := Option.map_eq_some_iff.mp h
        exact Or.inr (Or.inr hn)
  · next v w hv =>
      obtain ⟨low, hlow, h⟩ := Option.bind_eq_some_iff.mp h
      obtain ⟨high, -, rfl⟩ := Option.map_eq_some_iff.mp h
      exact ⟨v, cut_of_splitOn (by decide) hv, Or.inr (Or.inr hlow)⟩
  · cases h

theorem mkRange_low {b : Bounds} {low high step : Nat} {star : Bool} {r : Range b}
    (h : mkRange b low high step star = some r) : r.low = low := by
  unfold mkRange at h
  split at h
  · injection h with h
    subst h
    rfl
  · cases h

theorem parseRange_first {b : Bounds} {cs : List Char} {r : Range b}
    (h : parseRange b cs = some r) : ∃ v, Cut v cs ∧ Begins b v r.low := by
  unfold parseRange at h
  split at h
  · next hsplit =>
      obtain ⟨s, hs, hr⟩ := Option.bind_eq_some_iff.mp h
      obtain ⟨v, hcut, hbegins⟩ := parseSpan_first hs
      exact ⟨v, hcut.trans (cut_of_splitOn (by decide) hsplit), mkRange_low hr ▸ hbegins⟩
  · next hsplit =>
      split at h
      · obtain ⟨s, hs, hr⟩ := Option.bind_eq_some_iff.mp h
        obtain ⟨v, hcut, hbegins⟩ := parseSpan_first hs
        exact ⟨v, hcut.trans (cut_of_splitOn (by decide) hsplit), mkRange_low hr ▸ hbegins⟩
      · cases h
  · cases h

theorem parseField_first {b : Bounds} {cs : List Char} {f : Field b}
    (h : parseField b cs = some f) :
    ∃ v r fs, f = r :: fs ∧ Cut v cs ∧ Begins b v r.low := by
  unfold parseField at h
  split at h
  · cases hsplit : cs.splitOn ',' with
    | nil => exact absurd hsplit (List.splitOn_ne_nil ',' cs)
    | cons p ps =>
        rw [hsplit, List.mapM_cons] at h
        obtain ⟨r, hr, h⟩ := Option.bind_eq_some_iff.mp h
        obtain ⟨fs, -, h⟩ := Option.bind_eq_some_iff.mp h
        obtain rfl := Option.some.inj h
        obtain ⟨v, hcut, hbegins⟩ := parseRange_first hr
        exact ⟨v, r, fs, rfl, hcut.trans (cut_of_splitOn (by decide) hsplit), hbegins⟩
  · cases h

/-- The text begins with a digit. -/
def startsWithDigit (cs : List Char) : Bool := cs.head?.any Char.isDigit

/-- The number that it begins with. -/
def leading (cs : List Char) : Nat := number (cs.takeWhile Char.isDigit)

/-- **A field that begins with a digit** begins with its number, and that is the first one of
its first range. -/
theorem parseField_leading {b : Bounds} (hb : b.Named) {cs : List Char} {f : Field b}
    (h : parseField b cs = some f) (hd : startsWithDigit cs = true) :
    ∃ ds rest, cs = ds ++ rest ∧ isNumber ds = true ∧ cs.takeWhile Char.isDigit = ds ∧
      (∀ c ∈ rest.head?, c ∈ [',', '-', '/']) ∧ b.lo ≤ leading cs ∧ leading cs ≤ b.hi := by
  obtain ⟨v, r, fs, rfl, ⟨rest, rfl, hrest⟩, hbegins⟩ := parseField_first h
  have hnumber : isNumber v = true ∧ r.low = number v := by
    obtain rfl | rfl | hvalue := hbegins
    · cases hd
    · cases hd
    · obtain hnum | ⟨c, v, rfl, hc⟩ := valueOf_cases hb hvalue
      · exact hnum
      · have hdigit : c.isDigit = true := hd
        rw [not_isDigit_of_isAlpha hc] at hdigit
        cases hdigit
  obtain ⟨hnum, hlow⟩ := hnumber
  have hall : ∀ c ∈ v, c.isDigit = true := by
    unfold isNumber at hnum
    exact List.all_eq_true.mp (Bool.and_eq_true _ _ ▸ hnum).2
  -- the digits end where the first part does
  have htail : rest.takeWhile Char.isDigit = [] := by
    cases rest with
    | nil => rfl
    | cons c rest =>
        have hsep : c ∈ [',', '-', '/'] := hrest c rfl
        simp only [List.mem_cons, List.not_mem_nil, or_false] at hsep
        obtain rfl | rfl | rfl := hsep <;> rfl
  have htake : (v ++ rest).takeWhile Char.isDigit = v := by
    rw [List.takeWhile_append_of_pos hall, htail, List.append_nil]
  have hleading : leading (v ++ rest) = r.low := by
    unfold leading
    rw [htake, hlow]
  refine ⟨v, rest, rfl, hnum, htake, hrest, hleading ▸ r.lo_le, hleading ▸ ?_⟩
  exact Nat.le_trans r.low_le r.le_hi

/-- **A field that begins with none** begins with a star or a letter. -/
theorem parseField_plain {b : Bounds} (hb : b.Named) {cs : List Char} {f : Field b}
    (h : parseField b cs = some f) (hd : startsWithDigit cs = false) :
    ∃ c rest, cs = c :: rest ∧ (c = '*' ∨ c = '?' ∨ c.isAlpha = true) := by
  obtain ⟨v, r, fs, rfl, ⟨rest, rfl, hrest⟩, hbegins⟩ := parseField_first h
  obtain rfl | rfl | hvalue := hbegins
  · exact ⟨'*', rest, rfl, Or.inl rfl⟩
  · exact ⟨'?', rest, rfl, Or.inr (Or.inl rfl)⟩
  · obtain ⟨hnum, -⟩ | ⟨c, v, rfl, hc⟩ := valueOf_cases hb hvalue
    · cases v with
      | nil => cases hnum
      | cons c v =>
          have hall := (Bool.and_eq_true _ _ ▸ hnum).2
          rw [List.all_cons, Bool.and_eq_true] at hall
          have hdigit : c.isDigit = false := hd
          rw [hall.1] at hdigit
          cases hdigit
    · exact ⟨c, v ++ rest, rfl, Or.inr (Or.inr hc)⟩

/-! ## §5. Words. -/

/-- A word that ends the text. -/
theorem words_self {space : Char → Bool} {w : List Char} (hne : w ≠ [])
    (h : ∀ c ∈ w, space c = false) : words space w = [w] := by
  induction w with
  | nil => exact absurd rfl hne
  | cons c w ih =>
      have hc := h c List.mem_cons_self
      cases w with
      | nil => simp [words, hc]
      | cons d w =>
          have hd := h d (List.mem_cons_of_mem _ List.mem_cons_self)
          rw [words, if_neg (by simp [hc]), if_neg (by simp [hd]),
            ih (List.cons_ne_nil _ _) fun e he => h e (List.mem_cons_of_mem _ he)]
          rfl

/-- A word before white space. -/
theorem words_cons {space : Char → Bool} {w : List Char} {a : Char} (hne : w ≠ [])
    (h : ∀ c ∈ w, space c = false) (ha : space a = true) (cs : List Char) :
    words space (w ++ a :: cs) = w :: words space (a :: cs) := by
  induction w with
  | nil => exact absurd rfl hne
  | cons c w ih =>
      have hc := h c List.mem_cons_self
      cases w with
      | nil =>
          show words space (c :: a :: cs) = _
          rw [words, if_neg (by simp [hc]), if_pos ha]
      | cons d w =>
          have hd := h d (List.mem_cons_of_mem _ List.mem_cons_self)
          show words space (c :: d :: (w ++ a :: cs)) = _
          rw [words, if_neg (by simp [hc]), if_neg (by simp [hd])]
          have := ih (List.cons_ne_nil _ _) fun e he => h e (List.mem_cons_of_mem _ he)
          rw [List.cons_append] at this
          rw [this]
          rfl

/-- White space before the words. -/
theorem words_space {space : Char → Bool} {a : Char} (ha : space a = true) (cs : List Char) :
    words space (a :: cs) = words space cs := by
  cases cs with
  | nil => simp [words, ha]
  | cons c cs => rw [words, if_pos ha]

/-- The words depend on where the white space of the text is, and on nothing else. -/
theorem words_congr {space space' : Char → Bool} {cs : List Char}
    (h : ∀ c ∈ cs, space c = space' c) : words space cs = words space' cs := by
  induction cs with
  | nil => rfl
  | cons c cs ih =>
      have hc := h c List.mem_cons_self
      cases cs with
      | nil => rw [words, words, hc]
      | cons d cs =>
          have hd := h d (List.mem_cons_of_mem _ List.mem_cons_self)
          rw [words, words, hc, hd, ih fun e he => h e (List.mem_cons_of_mem _ he)]

/-- White space after the words. -/
theorem words_concat_space {space : Char → Bool} {a : Char} (ha : space a = true)
    (cs : List Char) : words space (cs ++ [a]) = words space cs := by
  induction cs with
  | nil => exact words_space ha []
  | cons c cs ih =>
      cases cs with
      | nil =>
          show words space [c, a] = words space [c]
          simp [words, ha]
      | cons d cs =>
          show words space (c :: d :: (cs ++ [a])) = _
          rw [List.cons_append] at ih
          rw [words, words, ih]

theorem words_dropWhile {space : Char → Bool} (cs : List Char) :
    words space (cs.dropWhile space) = words space cs := by
  induction cs with
  | nil => rfl
  | cons c cs ih =>
      rw [List.dropWhile_cons]
      split
      · next hc => rw [ih, words_space hc]
      · rfl

theorem words_rdropWhile {space : Char → Bool} (cs : List Char) :
    words space (cs.rdropWhile space) = words space cs := by
  induction cs using List.reverseRecOn with
  | nil => rfl
  | append_singleton cs c ih =>
      rw [List.rdropWhile_concat]
      split
      · next hc => rw [ih, words_concat_space hc]
      · rfl

/-- A text that begins with no white space has words. -/
theorem words_ne_nil {space : Char → Bool} {c : Char} (hc : space c = false) (cs : List Char) :
    words space (c :: cs) ≠ [] := by
  induction cs generalizing c with
  | nil => simp [words, hc]
  | cons d cs ih =>
      rw [words, if_neg (by simp [hc])]
      split
      · exact List.cons_ne_nil _ _
      · next hd =>
          have hne := ih (Bool.not_eq_true _ ▸ hd)
          cases hws : words space (d :: cs) with
          | nil => exact absurd hws hne
          | cons w ws => exact List.cons_ne_nil _ _

/-- A character is white space, or stands in a word. -/
theorem mem_words {space : Char → Bool} {cs : List Char} {c : Char} (h : c ∈ cs) :
    space c = true ∨ ∃ w ∈ words space cs, c ∈ w := by
  induction cs with
  | nil => cases h
  | cons d cs ih =>
      by_cases hd : space d = true
      · obtain rfl | h := List.mem_cons.mp h
        · exact Or.inl hd
        · rw [words_space hd]
          exact ih h
      · cases cs with
        | nil =>
            obtain rfl := List.mem_singleton.mp h
            exact Or.inr ⟨[c], by simp [words, hd], List.mem_singleton_self c⟩
        | cons e cs =>
            rw [words, if_neg hd]
            split
            · obtain rfl | h := List.mem_cons.mp h
              · exact Or.inr ⟨[c], List.mem_cons_self, List.mem_singleton_self c⟩
              · exact (ih h).imp_right fun ⟨w, hw, hc⟩ => ⟨w, List.mem_cons_of_mem _ hw, hc⟩
            · next he =>
                cases hws : words space (e :: cs) with
                | nil => exact absurd hws (words_ne_nil (Bool.not_eq_true _ ▸ he) cs)
                | cons w ws =>
                    rw [List.modifyHead_cons]
                    obtain rfl | h := List.mem_cons.mp h
                    · exact Or.inr ⟨c :: w, List.mem_cons_self, List.mem_cons_self⟩
                    · obtain hc | ⟨v, hv, hc⟩ := ih h
                      · exact Or.inl hc
                      · rw [hws] at hv
                        obtain rfl | hv := List.mem_cons.mp hv
                        · exact Or.inr ⟨d :: v, List.mem_cons_self, List.mem_cons_of_mem _ hc⟩
                        · exact Or.inr ⟨v, List.mem_cons_of_mem _ hv, hc⟩

theorem fieldChar_of_parseField {b : Bounds} {cs : List Char} {f : Field b}
    (h : parseField b cs = some f) : ∀ c ∈ cs, fieldChar c = true := by
  unfold parseField at h
  split at h
  · next hall => exact List.all_eq_true.mp hall
  · cases h

/-- The fields of an expression, read one by one. -/
theorem parse_cases {ws : List (List Char)} {x : Expr} (h : parse ws = some x) :
    ∃ min hr dom mon dow, ws = [min, hr, dom, mon, dow] ∧
      parseField minutes min = some x.minute ∧ parseField hours hr = some x.hour ∧
      parseField days dom = some x.day ∧ parseField months mon = some x.month ∧
      parseField weekdays dow = some x.weekday := by
  unfold parse at h
  split at h
  · next min hr dom mon dow =>
      obtain ⟨minute, hmin, h⟩ := Option.bind_eq_some_iff.mp h
      obtain ⟨hour, hhr, h⟩ := Option.bind_eq_some_iff.mp h
      obtain ⟨day, hdom, h⟩ := Option.bind_eq_some_iff.mp h
      obtain ⟨month, hmon, h⟩ := Option.bind_eq_some_iff.mp h
      obtain ⟨weekday, hdow, rfl⟩ := Option.map_eq_some_iff.mp h
      exact ⟨min, hr, dom, mon, dow, rfl, hmin, hhr, hdom, hmon, hdow⟩
  · cases h

/-- An expression is written with blanks and the characters of fields. -/
theorem parseText_chars {e : String} {x : Expr} (h : parseText e = some x) :
    ∀ c ∈ e.toList, isBlank c = true ∨ fieldChar c = true := by
  intro c hc
  obtain ⟨min, hr, dom, mon, dow, hwords, hmin, hhr, hdom, hmon, hdow⟩ := parse_cases h
  refine (mem_words hc).imp_right fun ⟨w, hw, hcw⟩ => ?_
  rw [hwords] at hw
  simp only [List.mem_cons, List.not_mem_nil, or_false] at hw
  obtain rfl | rfl | rfl | rfl | rfl := hw
  · exact fieldChar_of_parseField hmin c hcw
  · exact fieldChar_of_parseField hhr c hcw
  · exact fieldChar_of_parseField hdom c hcw
  · exact fieldChar_of_parseField hmon c hcw
  · exact fieldChar_of_parseField hdow c hcw

/-! ## §6. Writing expressions. -/

theorem allows_bounds {b : Bounds} {f : Field b} {n : Nat} (h : f.allows n) :
    b.lo ≤ n ∧ n ≤ b.hi := by
  obtain ⟨r, -, hlow, hhigh, -⟩ := h
  exact ⟨Nat.le_trans r.lo_le hlow, Nat.le_trans hhigh r.le_hi⟩

/-- The range of one number. -/
def Range.one (b : Bounds) (n : Nat) (h : b.lo ≤ n ∧ n ≤ b.hi) : Range b :=
  ⟨n, n, 1, false, h.1, Nat.le_refl n, h.2, Nat.one_pos⟩

theorem allows_one {b : Bounds} {n m : Nat} {h : b.lo ≤ n ∧ n ≤ b.hi} :
    Field.allows [Range.one b n h] m ↔ m = n := by
  unfold Field.allows Range.contains Range.one
  simp only [List.mem_singleton, exists_eq_left, Nat.mod_one, and_true]
  omega

/-- The star of a field. -/
def Range.all (b : Bounds) (h : b.lo ≤ b.hi) : Range b :=
  ⟨b.lo, b.hi, 1, true, Nat.le_refl _, h, Nat.le_refl _, Nat.one_pos⟩

theorem allows_all {b : Bounds} {m : Nat} {h : b.lo ≤ b.hi} :
    Field.allows [Range.all b h] m ↔ b.lo ≤ m ∧ m ≤ b.hi := by
  unfold Field.allows Range.contains Range.all
  simp only [List.mem_singleton, exists_eq_left, Nat.mod_one, and_true]

theorem parseField_star {b : Bounds} (h : b.lo ≤ b.hi) :
    parseField b ['*'] = some [Range.all b h] := by
  have hrange : parseRange b ['*'] = some (Range.all b h) :=
    dif_pos ⟨Nat.le_refl _, h, Nat.le_refl _, Nat.one_pos⟩
  have hsplit : ['*'].splitOn ',' = [['*']] := rfl
  unfold parseField
  rw [if_pos (by decide), hsplit, List.mapM_cons, hrange]
  rfl

/-- A number within the bounds is a field. -/
theorem parseField_number {b : Bounds} {ds : List Char} (hds : isNumber ds = true)
    (h : b.lo ≤ number ds ∧ number ds ≤ b.hi) :
    parseField b ds = some [Range.one b (number ds) h] := by
  have hall : ∀ c ∈ ds, c.isDigit = true := List.all_eq_true.mp (Bool.and_eq_true _ _ ▸ hds).2
  have hsep : ∀ a : Char, a.isDigit = false → ds.splitOn a = [ds] := by
    intro a ha
    refine List.splitOn_eq_singleton fun hmem => ?_
    rw [hall a hmem] at ha
    cases ha
  have hspan : parseSpan b ds = some ⟨number ds, number ds, false, true⟩ := by
    unfold parseSpan
    rw [hsep '-' rfl]
    have hstar : ¬(ds = ['*'] ∨ ds = ['?']) := by
      rintro (rfl | rfl) <;> cases hds
    simp only [if_neg hstar, valueOf, if_pos hds, Option.map_some]
  have hrange : parseRange b ds = some (Range.one b (number ds) h) := by
    unfold parseRange
    rw [hsep '/' rfl]
    simp only [hspan, Option.bind_some]
    exact dif_pos ⟨h.1, Nat.le_refl _, h.2, Nat.one_pos⟩
  have hchars : ds.all fieldChar = true := List.all_eq_true.mpr fun c hc => by
    show ((c.isAlpha || c.isDigit) || _) = true
    simp [hall c hc]
  unfold parseField
  rw [if_pos hchars, hsep ',' rfl, List.mapM_cons, hrange]
  rfl

theorem toNat_of_fieldChar {c : Char} (h : fieldChar c = true) : 33 ≤ c.toNat ∧ c.toNat ≤ 126 := by
  unfold fieldChar at h
  rw [Bool.or_eq_true, decide_eq_true_eq] at h
  obtain h | h := h
  · have h : (c.isAlpha || c.isDigit) = true := h
    rw [Bool.or_eq_true, isAlpha_iff, isUpper_iff_toNat, isLower_iff_toNat,
      Char.isDigit_iff_toNat] at h
    have h0 : '0'.toNat = 48 := rfl
    have h9 : '9'.toNat = 57 := rfl
    omega
  · simp only [List.mem_cons, List.not_mem_nil, or_false] at h
    obtain rfl | rfl | rfl | rfl | rfl := h <;> decide

theorem isBlank_of_fieldChar {c : Char} (h : fieldChar c = true) : isBlank c = false := by
  unfold isBlank
  refine decide_eq_false ?_
  rintro (rfl | rfl) <;> cases h

theorem parseField_ne_nil {b : Bounds} (hb : b.Named) {cs : List Char} {f : Field b}
    (h : parseField b cs = some f) : cs ≠ [] := by
  rintro rfl
  obtain ⟨c, rest, hcs, -⟩ := parseField_plain hb h rfl
  cases hcs

/-- A field before a blank. -/
theorem words_field {b : Bounds} (hb : b.Named) {w : List Char} {f : Field b}
    (h : parseField b w = some f) (cs : List Char) :
    words isBlank (w ++ ' ' :: cs) = w :: words isBlank cs := by
  have hchars : ∀ c ∈ w, isBlank c = false :=
    fun c hc => isBlank_of_fieldChar (fieldChar_of_parseField h c hc)
  rw [words_cons (parseField_ne_nil hb h) hchars rfl, words_space rfl]

/-- **An expression written with one blank between its fields.** -/
theorem parseText_join {min hr dom mon dow : List Char} {x : Expr}
    (hmin : parseField minutes min = some x.minute) (hhr : parseField hours hr = some x.hour)
    (hdom : parseField days dom = some x.day) (hmon : parseField months mon = some x.month)
    (hdow : parseField weekdays dow = some x.weekday) :
    parseText (String.ofList
      (min ++ ' ' :: (hr ++ ' ' :: (dom ++ ' ' :: (mon ++ ' ' :: dow))))) = some x := by
  have hlast : words isBlank dow = [dow] :=
    words_self (parseField_ne_nil weekdays_named hdow) fun c hc =>
      isBlank_of_fieldChar (fieldChar_of_parseField hdow c hc)
  unfold parseText
  rw [String.toList_ofList, words_field minutes_named hmin, words_field hours_named hhr,
    words_field days_named hdom, words_field months_named hmon, hlast]
  simp only [parse, hmin, hhr, hdom, hmon, hdow, Option.bind_some, Option.map_some]

/-! ## §7. Fields of one number. -/

/-- The field allows one number, or all of them and is a star. -/
structure Single {b : Bounds} (f : Field b) (o : Option Nat) : Prop where
  allows : ∀ n, b.lo ≤ n → n ≤ b.hi → (f.allows n ↔ ∀ k ∈ o, n = k)
  star : o = none → f.star = true
  bounds : ∀ k ∈ o, b.lo ≤ k ∧ k ≤ b.hi

theorem single_one {b : Bounds} {n : Nat} (h : b.lo ≤ n ∧ n ≤ b.hi) :
    Single [Range.one b n h] (some n) where
  allows m _ _ := by
    rw [allows_one]
    exact ⟨fun hm k hk => hm.trans (Option.some.inj hk), fun hall => hall n rfl⟩
  star := nofun
  bounds k hk := Option.some.inj hk ▸ h

theorem single_all {b : Bounds} (h : b.lo ≤ b.hi) : Single [Range.all b h] none where
  allows m hlo hhi := by
    rw [allows_all]
    exact ⟨fun _ _ hk => (nomatch hk), fun _ => ⟨hlo, hhi⟩⟩
  star _ := rfl
  bounds k hk := nomatch hk

/-- A field of one number or of all has a number. -/
theorem Single.exists {b : Bounds} {f : Field b} {o : Option Nat} (h : Single f o)
    (hb : b.lo ≤ b.hi) : ∃ n, b.lo ≤ n ∧ n ≤ b.hi ∧ ∀ k ∈ o, n = k := by
  cases o with
  | none => exact ⟨b.lo, Nat.le_refl _, hb, fun k hk => nomatch hk⟩
  | some k =>
      obtain ⟨hlo, hhi⟩ := h.bounds k rfl
      exact ⟨k, hlo, hhi, fun m hm => Option.some.inj hm⟩

theorem Single.onWeekday {f : Field weekdays} {o : Option Nat} (h : Single f o) {w : Nat}
    (hw : w < 7) : onWeekday f w ↔ ∀ k ∈ o, w = k % 7 := by
  have hself := h.allows w (Nat.zero_le _) (Nat.le_of_lt hw)
  have hseven := h.allows 7 (Nat.zero_le _) (Nat.le_refl _)
  unfold CronExpr.onWeekday
  rw [hself, hseven]
  cases o with
  | none => simp
  | some k =>
      have hk : k ≤ 7 := (h.bounds k rfl).2
      simp only [Option.mem_def, Option.some.injEq, forall_eq']
      omega

/-- An expression of fields of one number has a time. -/
theorem exists_time {y : Expr} {min hr dom mon dow : Option Nat} (hmin : Single y.minute min)
    (hhr : Single y.hour hr) (hdom : Single y.day dom) (hmon : Single y.month mon)
    (hdow : Single y.weekday dow) :
    ∃ t : Time, y.minute.allows t.minute ∧ y.hour.allows t.hour ∧ y.month.allows t.month ∧
      y.day.allows t.day ∧ onWeekday y.weekday t.weekday := by
  obtain ⟨m, hm₀, hm₁, hm⟩ := hmin.exists (by decide)
  obtain ⟨h, hh₀, hh₁, hh⟩ := hhr.exists (by decide)
  obtain ⟨d, hd₀, hd₁, hd⟩ := hdom.exists (by decide)
  obtain ⟨o, ho₀, ho₁, ho⟩ := hmon.exists (by decide)
  obtain ⟨w, hw₀, hw₁, hw⟩ := hdow.exists (by decide)
  refine ⟨⟨m, h, d, o, w % 7, Nat.lt_succ_of_le hm₁, Nat.lt_succ_of_le hh₁, hd₀, hd₁, ho₀, ho₁,
    Nat.mod_lt _ (by decide)⟩, (hmin.allows m hm₀ hm₁).mpr hm, (hhr.allows h hh₀ hh₁).mpr hh,
    (hmon.allows o ho₀ ho₁).mpr ho, (hdom.allows d hd₀ hd₁).mpr hd, ?_⟩
  rw [hdow.onWeekday (Nat.mod_lt _ (by decide))]
  exact fun k hk => by rw [hw k hk]

/-- Both days of an expression are looked at when one of them is a star. -/
theorem fires_of_star {x : Expr} (h : x.day.star = true ∨ x.weekday.star = true) (t : Time) :
    x.fires t ↔ x.minute.allows t.minute ∧ x.hour.allows t.hour ∧ x.month.allows t.month ∧
      x.day.allows t.day ∧ onWeekday x.weekday t.weekday := by
  unfold Expr.fires Expr.onDay
  rw [if_pos (by simpa using h)]

/-- Conditions on the parts of a time that hold at the same times agree part by part, where
there is a time at all at which they hold. -/
theorem parts_agree {minute minute' hour hour' month month' day day' weekday weekday' : Nat → Prop}
    (h : ∀ t : Time,
      (minute t.minute ∧ hour t.hour ∧ month t.month ∧ day t.day ∧ weekday t.weekday) ↔
        (minute' t.minute ∧ hour' t.hour ∧ month' t.month ∧ day' t.day ∧ weekday' t.weekday))
    {s : Time} (hs : minute' s.minute ∧ hour' s.hour ∧ month' s.month ∧ day' s.day ∧
      weekday' s.weekday) (t : Time) :
    (minute t.minute ↔ minute' t.minute) ∧ (hour t.hour ↔ hour' t.hour) ∧
      (month t.month ↔ month' t.month) ∧ (day t.day ↔ day' t.day) ∧
      (weekday t.weekday ↔ weekday' t.weekday) := by
  obtain ⟨hmin, hhr, hmon, hdom, hdow⟩ := (h s).mpr hs
  obtain ⟨hmin', hhr', hmon', hdom', hdow'⟩ := hs
  -- one part is that of `t`, the others are those of `s`
  refine ⟨?_, ?_, ?_, ?_, ?_⟩
  · simpa [*] using h { s with minute := t.minute, minute_lt := t.minute_lt }
  · simpa [*] using h { s with hour := t.hour, hour_lt := t.hour_lt }
  · simpa [*] using h { s with month := t.month, month_pos := t.month_pos, month_le := t.month_le }
  · simpa [*] using h { s with day := t.day, day_pos := t.day_pos, day_le := t.day_le }
  · simpa [*] using h { s with weekday := t.weekday, weekday_lt := t.weekday_lt }

end Foundation.CronExpr
