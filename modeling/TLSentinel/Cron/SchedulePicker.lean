/-
  TLSentinel.Cron.SchedulePicker
  ──────────────────────────────
  **WHAT THE SCHEDULE PICKER MAKES OF A CRON EXPRESSION.**

  `cronToSchedule` of `web/src/components/SchedulePicker.tsx` reads an expression as one of
  a few simple schedules, `scheduleToCron` writes such a schedule as an expression again.
  The first one looks at no month and reads fields with `parseInt`, which takes the digits
  that a text begins with.  `describeCron` of `pages/settings/MaintenancePage.tsx` checks
  both before it describes an expression.

  Main results:
    * `pick_of_takes`    — what the picker reads in a text that it takes;
    * `keepsMeaning_iff` — when this is what the expression means.
-/
import TLSentinel.Endpoints.CSVImport
import TLSentinel.Foundation.CronExpr
import TLSentinel.Foundation.Hex

namespace TLSentinel.Cron.SchedulePicker

open Foundation Foundation.CronExpr
open Foundation.Doubles (Integral)
open TLSentinel.Endpoints.CSVImport (jsSpace trim jsSpace_of_head?_trim)

/-! ## §1. Texts and numbers. -/

/-- `split(/\s+/)`; `inRun` is whether white space was just split at. -/
def splitRuns : Bool → List Char → List (List Char)
  | _, [] => [[]]
  | inRun, c :: cs =>
      if jsSpace c then
        if inRun then splitRuns true cs else [] :: splitRuns true cs
      else (splitRuns false cs).modifyHead (List.cons c)

/-- The number that a text begins with; `0x` makes it hexadecimal. -/
def magnitude : List Char → Option Nat
  | '0' :: 'x' :: cs | '0' :: 'X' :: cs =>
      match cs.takeWhile Hex.isHex with
      | [] => none
      | ds => some (Hex.hexGroup ds)
  | cs =>
      match cs.takeWhile Char.isDigit with
      | [] => none
      | ds => some (number ds)

/-- `parseInt(s)`; `none` is NaN. -/
def parseInt (s : List Char) : Option Integral :=
  match s.dropWhile jsSpace with
  | '-' :: cs => (magnitude cs).map fun n : Nat => Doubles.ofInt (-(n : Int))
  | '+' :: cs => (magnitude cs).map fun n : Nat => Doubles.ofInt n
  | cs => (magnitude cs).map fun n : Nat => Doubles.ofInt n

/-- A large number is written with an exponent. -/
def exponentText (v : Nat) : List Char :=
  let digits := Nat.toDigits 10
    (((List.range 310).reverse.findSome? (Doubles.shortestAt v)).getD v)
  let exponent := 'e' :: '+' :: Nat.toDigits 10 (digits.length - 1)
  match digits.rdropWhile fun d => decide (d = '0') with
  | [] => exponent
  | [d] => d :: exponent
  | d :: ds => d :: '.' :: (ds ++ exponent)

/-- A number in a template literal. -/
def numberText : Integral → List Char
  | .infinite true => "-Infinity".toList
  | .infinite false => "Infinity".toList
  | .finite v =>
      let digits := if 10 ^ 21 ≤ v.natAbs then exponentText v.natAbs
        else Nat.toDigits 10 (Doubles.shortest v.natAbs)
      if v < 0 then '-' :: digits else digits

/-! ## §2. The picker. -/

inductive Frequency where
  | hourly
  | daily
  | weekly
  | monthly
  | custom
  deriving DecidableEq, Repr

structure Schedule where
  frequency : Frequency
  hour : Integral
  minute : Integral
  weekday : Integral
  day : Integral
  deriving DecidableEq, Repr

/-- `cronToSchedule` on the parts of an expression; the month is not looked at. -/
def pick (min hr dom dow : List Char) : Option Schedule :=
  if min = ['0'] ∧ hr = ['*'] ∧ dom = ['*'] ∧ dow = ['*'] then
    some ⟨.hourly, .finite 0, .finite 0, .finite 0, .finite 1⟩
  else
    match parseInt hr, parseInt min with
    | some h, some m =>
        if dom = ['*'] ∧ dow = ['*'] then some ⟨.daily, h, m, .finite 0, .finite 1⟩
        else if dom = ['*'] ∧ dow ≠ ['*'] then
          (parseInt dow).map fun d => ⟨.weekly, h, m, d, .finite 1⟩
        else if dom ≠ ['*'] ∧ dow = ['*'] then
          (parseInt dom).map fun d => ⟨.monthly, h, m, .finite 0, d⟩
        else none
    | _, _ => none

/-- `cronToSchedule`. -/
def cronToSchedule (expr : String) : Option Schedule :=
  match splitRuns false (trim expr.toList) with
  | [min, hr, dom, _, dow] => pick min hr dom dow
  | _ => none

/-- The five fields of an expression. -/
def joinFields (min hr dom mon dow : List Char) : List Char :=
  min ++ ' ' :: (hr ++ ' ' :: (dom ++ ' ' :: (mon ++ ' ' :: dow)))

/-- `scheduleToCron`. -/
def scheduleToCron (s : Schedule) : String :=
  String.ofList <|
    match s.frequency with
    | .hourly => joinFields ['0'] ['*'] ['*'] ['*'] ['*']
    | .daily => joinFields (numberText s.minute) (numberText s.hour) ['*'] ['*'] ['*']
    | .weekly =>
        joinFields (numberText s.minute) (numberText s.hour) ['*'] ['*'] (numberText s.weekday)
    | .monthly =>
        joinFields (numberText s.minute) (numberText s.hour) (numberText s.day) ['*'] ['*']
    | .custom => joinFields ['0'] ['*'] ['*'] ['*'] ['*']

/-- `DEFAULT_SCHED`. -/
def defaultSched : Schedule := ⟨.daily, .finite 2, .finite 0, .finite 0, .finite 1⟩

/-- `initFromValue`: the schedule, and the text of the custom one. -/
def initFromValue (value : String) : Schedule × String :=
  match cronToSchedule value with
  | some parsed => (parsed, value)
  | none => ({ defaultSched with frequency := .custom }, value)

/-- The effect of the picker when its value changes: a custom schedule is left as it is. -/
def valueChanged (state : Schedule × String) (value : String) : Schedule × String :=
  if state.1.frequency = .custom then state else initFromValue value

/-! ## §3. Keeping the meaning. -/

/-- Two expressions fire at the same times. -/
def SameTimes (a b : String) : Prop :=
  ∃ x y, parseText a = some x ∧ parseText b = some y ∧ ∀ t, x.fires t ↔ y.fires t

/-- The schedule that the picker reads fires at the times of the expression, and an expression
that no schedule stands for stays custom. -/
structure KeepsMeaning (e : String) : Prop where
  same : ∀ s, cronToSchedule e = some s → SameTimes (scheduleToCron s) e
  custom : (∀ s, ¬ SameTimes (scheduleToCron s) e) →
    cronToSchedule e = none ∧
      initFromValue e = ({ defaultSched with frequency := .custom }, e) ∧
      ∀ value, valueChanged (initFromValue e) value = initFromValue e

/-- The texts of the five fields. -/
structure Texts where
  min : List Char
  hr : List Char
  dom : List Char
  mon : List Char
  dow : List Char
  deriving DecidableEq

/-- The fields of an expression. -/
def textsOf (e : String) : Option Texts :=
  match words isBlank e.toList with
  | [min, hr, dom, mon, dow] => some ⟨min, hr, dom, mon, dow⟩
  | _ => none

/-- The picker takes the expression: it is hourly, or minute and hour begin with a digit, and so
does at most one of the two days, any other of them being a star. -/
def Takes (p : Texts) : Prop :=
  (p.min = ['0'] ∧ p.hr = ['*'] ∧ p.dom = ['*'] ∧ p.dow = ['*']) ∨
    (startsWithDigit p.min = true ∧ startsWithDigit p.hr = true ∧
      ((p.dom = ['*'] ∧ (p.dow = ['*'] ∨ startsWithDigit p.dow = true)) ∨
        (startsWithDigit p.dom = true ∧ p.dow = ['*'])))

instance (p : Texts) : Decidable (Takes p) := inferInstanceAs (Decidable (_ ∨ _))

/-- The month is not restricted, and a field that begins with a digit allows the number that it
begins with, and no other. -/
structure Plain (p : Texts) (x : Expr) : Prop where
  month : ∀ m, 1 ≤ m → m ≤ 12 → x.month.allows m
  minute : startsWithDigit p.min = true → ∀ n, x.minute.allows n ↔ n = leading p.min
  hour : startsWithDigit p.hr = true → ∀ n, x.hour.allows n ↔ n = leading p.hr
  day : startsWithDigit p.dom = true → ∀ n, x.day.allows n ↔ n = leading p.dom
  weekday : startsWithDigit p.dow = true → ∀ w < 7, onWeekday x.weekday w ↔ w = leading p.dow % 7

/-! ## §4. The parts of an expression. -/

/-- A text that does not end in white space is split into its words. -/
theorem splitRuns_eq_words {cs : List Char} (hne : cs ≠ [])
    (hlast : jsSpace (cs.getLast hne) = false) {inRun : Bool}
    (hhead : inRun = true ∨ jsSpace (cs.head hne) = false) :
    splitRuns inRun cs = words jsSpace cs := by
  induction cs generalizing inRun with
  | nil => exact absurd rfl hne
  | cons c cs ih =>
      cases cs with
      | nil =>
          have hc : jsSpace c = false := hlast
          simp [splitRuns, words, hc]
      | cons d cs =>
          have hlast' : jsSpace ((d :: cs).getLast (List.cons_ne_nil _ _)) = false := by
            rwa [List.getLast_cons_cons] at hlast
          have hrun := ih (List.cons_ne_nil _ _) hlast' (Or.inl rfl)
          rw [splitRuns, words]
          split
          · next hc =>
              obtain rfl | hhead := hhead
              · rw [if_pos rfl, hrun]
              · rw [List.head_cons, hc] at hhead
                cases hhead
          · split
            · next hd =>
                -- the word ends here
                rw [splitRuns, if_pos hd] at hrun ⊢
                rw [if_pos rfl] at hrun
                rw [if_neg Bool.false_ne_true, hrun]
                rfl
            · next hd =>
                rw [ih (List.cons_ne_nil _ _) hlast' (Or.inr (Bool.not_eq_true _ ▸ hd))]

theorem words_trim (cs : List Char) : words jsSpace (trim cs) = words jsSpace cs := by
  unfold trim
  rw [words_rdropWhile, words_dropWhile]

/-- The parts of a text that has some. -/
theorem splitRuns_trim {cs : List Char} (h : words jsSpace cs ≠ []) :
    splitRuns false (trim cs) = words jsSpace cs := by
  have hne : trim cs ≠ [] := by
    intro hnil
    rw [← words_trim, hnil] at h
    exact h rfl
  have hlast : jsSpace ((trim cs).getLast hne) = false :=
    Bool.not_eq_true _ ▸ List.rdropWhile_last_not jsSpace _ hne
  have hhead : jsSpace ((trim cs).head hne) = false :=
    jsSpace_of_head?_trim (List.head?_eq_some_head hne)
  rw [splitRuns_eq_words hne hlast (Or.inr hhead), words_trim]

theorem jsSpace_of_isBlank {c : Char} (h : isBlank c = true) : jsSpace c = true := by
  obtain rfl | rfl := of_decide_eq_true h <;> rfl

theorem jsSpace_of_fieldChar {c : Char} (h : fieldChar c = true) : jsSpace c = false := by
  obtain ⟨hlo, hhi⟩ := toNat_of_fieldChar h
  unfold jsSpace
  simp only [List.mem_cons, List.not_mem_nil, or_false, Bool.or_eq_false_iff,
    Bool.and_eq_false_iff, decide_eq_false_iff_not]
  omega

/-- A field, read as a number by the picker. -/
def firstNumber (cs : List Char) : Option Nat :=
  if startsWithDigit cs then some (leading cs) else none

/-- A text that is not hexadecimal. -/
theorem magnitude_decimal {cs : List Char} (hx : ∀ rest, cs ≠ '0' :: 'x' :: rest)
    (hX : ∀ rest, cs ≠ '0' :: 'X' :: rest) :
    magnitude cs = if startsWithDigit cs then some (leading cs) else none := by
  have hdecimal : magnitude cs =
      match cs.takeWhile Char.isDigit with
      | [] => none
      | ds => some (number ds) := by
    unfold magnitude
    split
    · exact absurd rfl (hx _)
    · exact absurd rfl (hX _)
    · rfl
  rw [hdecimal]
  cases cs with
  | nil => rfl
  | cons c cs =>
      unfold startsWithDigit leading
      rw [List.head?_cons, Option.any_some, List.takeWhile_cons]
      cases c.isDigit <;> rfl

/-- A field that begins with a digit is no hexadecimal number. -/
theorem ne_hex_of_parseField {b : Bounds} (hb : b.Named) {cs : List Char} {f : Field b}
    (h : parseField b cs = some f) {x : Char} (hx : x.isDigit = false)
    (hsep : x ∉ [',', '-', '/']) (rest : List Char) : cs ≠ '0' :: x :: rest := by
  rintro rfl
  obtain ⟨ds, tail, hcs, -, htake, htail, -, -⟩ := parseField_leading hb h rfl
  rw [List.takeWhile_cons_of_pos rfl, List.takeWhile_cons_of_neg (by simp [hx])] at htake
  subst htake
  obtain rfl := (List.cons.inj hcs).2
  exact hsep (htail x rfl)

/-- `parseInt` of a field. -/
theorem parseInt_field {b : Bounds} (hb : b.Named) {cs : List Char} {f : Field b}
    (h : parseField b cs = some f) :
    parseInt cs = (firstNumber cs).map fun n : Nat => Doubles.ofInt n := by
  obtain ⟨c, rest, rfl⟩ := List.exists_cons_of_ne_nil (parseField_ne_nil hb h)
  have hspace : jsSpace c = false :=
    jsSpace_of_fieldChar (fieldChar_of_parseField h c List.mem_cons_self)
  have hminus : c ≠ '-' := by
    rintro rfl
    obtain ⟨d, tail, hcs, hd⟩ := parseField_plain hb h rfl
    obtain rfl := (List.cons.inj hcs).1
    exact absurd hd (by decide)
  have hplus : c ≠ '+' := by
    rintro rfl
    cases fieldChar_of_parseField h '+' List.mem_cons_self
  have hmagnitude : magnitude (c :: rest) = firstNumber (c :: rest) :=
    magnitude_decimal (ne_hex_of_parseField hb h rfl (by decide))
      (ne_hex_of_parseField hb h rfl (by decide))
  unfold parseInt
  rw [List.dropWhile_cons_of_neg (by simp [hspace])]
  split
  · next heq => exact absurd (List.cons.inj heq).1 hminus
  · next heq => exact absurd (List.cons.inj heq).1 hplus
  · rw [hmagnitude]

/-! ## §5. Reading and writing. -/

/-- A small number is written with its digits. -/
theorem numberText_small :
    ∀ n : Nat, n < 60 → isNumber (numberText (Doubles.ofInt n)) = true ∧
      number (numberText (Doubles.ofInt n)) = n := by
  decide +kernel

/-- A number of a field, written by the picker, is a field. -/
theorem parseField_numberText {b : Bounds} (hsmall : b.hi < 60) {n : Nat}
    (h : b.lo ≤ n ∧ n ≤ b.hi) :
    parseField b (numberText (Doubles.ofInt n)) = some [Range.one b n h] := by
  obtain ⟨hnum, hself⟩ := numberText_small n (Nat.lt_of_le_of_lt h.2 hsmall)
  generalize numberText (Doubles.ofInt n) = ds at hnum hself ⊢
  subst hself
  exact parseField_number hnum h

/-- The texts are the fields of an expression. -/
structure Reads (p : Texts) (x : Expr) : Prop where
  minute : parseField minutes p.min = some x.minute
  hour : parseField hours p.hr = some x.hour
  day : parseField days p.dom = some x.day
  month : parseField months p.mon = some x.month
  weekday : parseField weekdays p.dow = some x.weekday

theorem reads_of_parseText {e : String} {x : Expr} (h : parseText e = some x) :
    ∃ p, textsOf e = some p ∧ Reads p x ∧
      cronToSchedule e = pick p.min p.hr p.dom p.dow := by
  obtain ⟨min, hr, dom, mon, dow, hwords, hmin, hhr, hdom, hmon, hdow⟩ := parse_cases h
  refine ⟨⟨min, hr, dom, mon, dow⟩, ?_, ⟨hmin, hhr, hdom, hmon, hdow⟩, ?_⟩
  · unfold textsOf
    rw [hwords]
  · have hspace : words jsSpace e.toList = [min, hr, dom, mon, dow] := by
      rw [← hwords]
      refine words_congr fun c hc => ?_
      obtain hblank | hfield := parseText_chars h c hc
      · rw [hblank, jsSpace_of_isBlank hblank]
      · rw [isBlank_of_fieldChar hfield, jsSpace_of_fieldChar hfield]
    unfold cronToSchedule
    rw [splitRuns_trim (hspace ▸ List.cons_ne_nil _ _), hspace]

/-- A field that begins with a digit, as the picker writes it. -/
theorem parseField_written {b : Bounds} (hb : b.Named) (hsmall : b.hi < 60) {cs : List Char}
    {f : Field b} (h : parseField b cs = some f) (hd : startsWithDigit cs = true) :
    ∃ g : Field b, parseField b (numberText (Doubles.ofInt (leading cs))) = some g ∧
      Single g (firstNumber cs) := by
  obtain ⟨ds, rest, -, -, -, -, hbounds⟩ := parseField_leading hb h hd
  refine ⟨_, parseField_numberText hsmall hbounds, ?_⟩
  unfold firstNumber
  rw [if_pos hd]
  exact single_one hbounds

theorem single_star {b : Bounds} (h : b.lo ≤ b.hi) :
    Single [Range.all b h] (firstNumber ['*']) := single_all h

theorem ne_star {cs : List Char} (h : startsWithDigit cs = true) : cs ≠ ['*'] := by
  rintro rfl
  cases h

theorem parseInt_leading {b : Bounds} (hb : b.Named) {cs : List Char} {f : Field b}
    (h : parseField b cs = some f) (hd : startsWithDigit cs = true) :
    parseInt cs = some (Doubles.ofInt (leading cs)) := by
  rw [parseInt_field hb h, firstNumber, if_pos hd, Option.map_some]

theorem parseInt_none {b : Bounds} (hb : b.Named) {cs : List Char} {f : Field b}
    (h : parseField b cs = some f) (hd : ¬ startsWithDigit cs = true) : parseInt cs = none := by
  rw [parseInt_field hb h, firstNumber, if_neg hd, Option.map_none]

theorem parseText_joinFields {min hr dom mon dow : List Char} {x : Expr}
    (hmin : parseField minutes min = some x.minute) (hhr : parseField hours hr = some x.hour)
    (hdom : parseField days dom = some x.day) (hmon : parseField months mon = some x.month)
    (hdow : parseField weekdays dow = some x.weekday) :
    parseText (String.ofList (joinFields min hr dom mon dow)) = some x := by
  unfold joinFields
  exact parseText_join hmin hhr hdom hmon hdow

theorem scheduleToCron_daily (h m d w : Integral) :
    scheduleToCron ⟨.daily, h, m, w, d⟩ =
      String.ofList (joinFields (numberText m) (numberText h) ['*'] ['*'] ['*']) := rfl

theorem scheduleToCron_weekly (h m d w : Integral) :
    scheduleToCron ⟨.weekly, h, m, w, d⟩ =
      String.ofList (joinFields (numberText m) (numberText h) ['*'] ['*'] (numberText w)) := rfl

theorem scheduleToCron_monthly (h m d w : Integral) :
    scheduleToCron ⟨.monthly, h, m, w, d⟩ =
      String.ofList (joinFields (numberText m) (numberText h) (numberText d) ['*'] ['*']) := rfl

/-- The picker on minute and hour that begin with digits. -/
theorem pick_of_digits {min hr : List Char} {minute : Field minutes} {hour : Field hours}
    (hmin : parseField minutes min = some minute) (hdmin : startsWithDigit min = true)
    (hhr : parseField hours hr = some hour) (hdhr : startsWithDigit hr = true)
    (dom dow : List Char) :
    pick min hr dom dow =
      if dom = ['*'] ∧ dow = ['*'] then
        some ⟨.daily, Doubles.ofInt (leading hr), Doubles.ofInt (leading min), .finite 0,
          .finite 1⟩
      else if dom = ['*'] ∧ dow ≠ ['*'] then
        (parseInt dow).map fun d => ⟨.weekly, Doubles.ofInt (leading hr),
          Doubles.ofInt (leading min), d, .finite 1⟩
      else if dom ≠ ['*'] ∧ dow = ['*'] then
        (parseInt dom).map fun d => ⟨.monthly, Doubles.ofInt (leading hr),
          Doubles.ofInt (leading min), .finite 0, d⟩
      else none := by
  unfold pick
  rw [if_neg fun h => ne_star hdhr h.2.1, parseInt_leading hours_named hhr hdhr,
    parseInt_leading minutes_named hmin hdmin]

/-- **A text that the picker takes**, as it writes it. -/
theorem pick_of_takes {p : Texts} {x : Expr} (hp : Reads p x) (ht : Takes p) :
    ∃ s y, pick p.min p.hr p.dom p.dow = some s ∧ parseText (scheduleToCron s) = some y ∧
      Single y.minute (firstNumber p.min) ∧ Single y.hour (firstNumber p.hr) ∧
      Single y.month none ∧ Single y.day (firstNumber p.dom) ∧
      Single y.weekday (firstNumber p.dow) := by
  have hhours : hours.lo ≤ hours.hi := by decide
  have hdays : days.lo ≤ days.hi := by decide
  have hmonths : months.lo ≤ months.hi := by decide
  have hweekdays : weekdays.lo ≤ weekdays.hi := by decide
  obtain ⟨hmin, hhr, hdom, hdow⟩ | ⟨hmin, hhr, hday⟩ := ht
  · -- hourly
    have hzero : parseField minutes ['0'] = some [Range.one minutes 0 (by decide)] :=
      parseField_number rfl (by decide)
    rw [hmin, hhr, hdom, hdow]
    exact ⟨_, ⟨_, _, _, _, _⟩, rfl,
      parseText_joinFields hzero (parseField_star hhours) (parseField_star hdays)
        (parseField_star hmonths) (parseField_star hweekdays),
      single_one _, single_star hhours, single_all hmonths, single_star hdays,
      single_star hweekdays⟩
  · obtain ⟨minute, hminute, hsmin⟩ := parseField_written minutes_named (by decide) hp.minute hmin
    obtain ⟨hour, hhour, hshr⟩ := parseField_written hours_named (by decide) hp.hour hhr
    have hpick := pick_of_digits hp.minute hmin hp.hour hhr p.dom p.dow
    obtain ⟨hdom, hdow | hdow⟩ | ⟨hdom, hdow⟩ := hday
    · -- daily
      rw [if_pos ⟨hdom, hdow⟩] at hpick
      refine ⟨_, ⟨minute, hour, [Range.all days hdays], [Range.all months hmonths],
        [Range.all weekdays hweekdays]⟩, hpick, ?_, hsmin, hshr, single_all hmonths, ?_, ?_⟩
      · rw [scheduleToCron_daily]
        exact parseText_joinFields hminute hhour (parseField_star hdays) (parseField_star hmonths)
          (parseField_star hweekdays)
      · rw [hdom]
        exact single_star hdays
      · rw [hdow]
        exact single_star hweekdays
    · -- weekly
      obtain ⟨weekday, hweekday, hsdow⟩ :=
        parseField_written weekdays_named (by decide) hp.weekday hdow
      rw [if_neg fun h => ne_star hdow h.2, if_pos ⟨hdom, ne_star hdow⟩,
        parseInt_leading weekdays_named hp.weekday hdow, Option.map_some] at hpick
      refine ⟨_, ⟨minute, hour, [Range.all days hdays], [Range.all months hmonths], weekday⟩,
        hpick, ?_, hsmin, hshr, single_all hmonths, ?_, hsdow⟩
      · rw [scheduleToCron_weekly]
        exact parseText_joinFields hminute hhour (parseField_star hdays) (parseField_star hmonths)
          hweekday
      · rw [hdom]
        exact single_star hdays
    · -- monthly
      obtain ⟨day, hdayf, hsdom⟩ := parseField_written days_named (by decide) hp.day hdom
      rw [if_neg fun h => ne_star hdom h.1, if_neg fun h => ne_star hdom h.1,
        if_pos ⟨ne_star hdom, hdow⟩, parseInt_leading days_named hp.day hdom,
        Option.map_some] at hpick
      refine ⟨_, ⟨minute, hour, day, [Range.all months hmonths], [Range.all weekdays hweekdays]⟩,
        hpick, ?_, hsmin, hshr, single_all hmonths, hsdom, ?_⟩
      · rw [scheduleToCron_monthly]
        exact parseText_joinFields hminute hhour hdayf (parseField_star hmonths)
          (parseField_star hweekdays)
      · rw [hdow]
        exact single_star hweekdays

/-- Any other is left to the custom schedule. -/
theorem pick_of_not_takes {p : Texts} {x : Expr} (hp : Reads p x) (ht : ¬ Takes p) :
    pick p.min p.hr p.dom p.dow = none := by
  unfold Takes at ht
  rw [not_or] at ht
  obtain ⟨hhourly, hsimple⟩ := ht
  unfold pick
  rw [if_neg hhourly]
  by_cases hmin : startsWithDigit p.min = true
  · by_cases hhr : startsWithDigit p.hr = true
    · rw [parseInt_leading hours_named hp.hour hhr, parseInt_leading minutes_named hp.minute hmin]
      simp only [hmin, hhr, true_and, not_or, not_and] at hsimple
      obtain ⟨hweekly, hmonthly⟩ := hsimple
      dsimp only
      split
      · next hday => exact absurd hday.2 (hweekly hday.1).1
      · split
        · next hday =>
            rw [parseInt_none weekdays_named hp.weekday (hweekly hday.1).2, Option.map_none]
        · split
          · next hday =>
              rw [parseInt_none days_named hp.day fun hd => hmonthly hd hday.2, Option.map_none]
          · rfl
    · rw [parseInt_none hours_named hp.hour hhr]
  · rw [parseInt_none minutes_named hp.minute hmin]
    cases parseInt p.hr <;> rfl

/-! ## §6. Plain expressions. -/

theorem star_of_reads {b : Bounds} (hb : b.lo ≤ b.hi) {cs : List Char} {f : Field b}
    (h : parseField b cs = some f) (hcs : cs = ['*']) : f = [Range.all b hb] := by
  rw [hcs, parseField_star hb] at h
  exact (Option.some.inj h).symm

/-- A text that the picker takes has a star for one of its days, and each field that it looks
at is a star or begins with a digit. -/
theorem Takes.star {p : Texts} (ht : Takes p) : p.dom = ['*'] ∨ p.dow = ['*'] := by
  obtain ⟨-, -, hdom, -⟩ | ⟨-, -, ⟨hdom, -⟩ | ⟨-, hdow⟩⟩ := ht
  · exact Or.inl hdom
  · exact Or.inl hdom
  · exact Or.inr hdow

theorem Takes.digits {p : Texts} (ht : Takes p) :
    startsWithDigit p.min = true ∧ (startsWithDigit p.hr = true ∨ p.hr = ['*']) ∧
      (startsWithDigit p.dom = true ∨ p.dom = ['*']) ∧
      (startsWithDigit p.dow = true ∨ p.dow = ['*']) := by
  obtain ⟨hmin, hhr, hdom, hdow⟩ | ⟨hmin, hhr, hday⟩ := ht
  · exact ⟨hmin ▸ rfl, Or.inr hhr, Or.inr hdom, Or.inr hdow⟩
  · refine ⟨hmin, Or.inl hhr, ?_⟩
    obtain ⟨hdom, hdow⟩ | ⟨hdom, hdow⟩ := hday
    · exact ⟨Or.inr hdom, hdow.symm⟩
    · exact ⟨Or.inl hdom, Or.inr hdow⟩

/-- The field allows what the picker writes for it. -/
def Agrees {b : Bounds} (f : Field b) (cs : List Char) : Prop :=
  ∀ n, b.lo ≤ n → n ≤ b.hi → (f.allows n ↔ ∀ k ∈ firstNumber cs, n = k)

theorem firstNumber_digit {cs : List Char} (h : startsWithDigit cs = true) {P : Nat → Prop} :
    (∀ k ∈ firstNumber cs, P k) ↔ P (leading cs) := by
  unfold firstNumber
  rw [if_pos h]
  exact ⟨fun hall => hall _ rfl, fun hP k hk => Option.some.inj hk ▸ hP⟩

/-- A field that the picker looks at allows what the picker writes for it when it is a star, or
allows the number that it begins with and no other. -/
theorem agrees_iff {b : Bounds} (hb : b.Named) {cs : List Char} {f : Field b}
    (h : parseField b cs = some f) (hlo : b.lo ≤ b.hi)
    (hcs : startsWithDigit cs = true ∨ cs = ['*']) :
    Agrees f cs ↔ (startsWithDigit cs = true → ∀ n, f.allows n ↔ n = leading cs) := by
  unfold Agrees
  obtain hd | rfl := hcs
  · obtain ⟨ds, rest, -, -, -, -, hleading⟩ := parseField_leading hb h hd
    simp only [firstNumber_digit hd, hd, true_implies]
    refine ⟨fun hall n => ⟨fun hn => ?_, ?_⟩, fun hall n _ _ => hall n⟩
    · obtain ⟨hn₁, hn₂⟩ := allows_bounds hn
      exact (hall n hn₁ hn₂).mp hn
    · rintro rfl
      exact (hall _ hleading.1 hleading.2).mpr rfl
  · rw [star_of_reads hlo h rfl]
    refine ⟨fun _ hd => ?_, fun _ n hn₁ hn₂ => ?_⟩
    · cases hd
    · exact ⟨fun _ _ hk => (nomatch hk), fun _ => allows_all.mpr ⟨hn₁, hn₂⟩⟩

/-- The weekday allows what the picker writes for it. -/
def AgreesWeekday (f : Field weekdays) (cs : List Char) : Prop :=
  ∀ w < 7, onWeekday f w ↔ ∀ k ∈ firstNumber cs, w = k % 7

theorem agreesWeekday_iff {cs : List Char} {f : Field weekdays}
    (h : parseField weekdays cs = some f) (hcs : startsWithDigit cs = true ∨ cs = ['*']) :
    AgreesWeekday f cs ↔
      (startsWithDigit cs = true → ∀ w < 7, onWeekday f w ↔ w = leading cs % 7) := by
  unfold AgreesWeekday
  obtain hd | rfl := hcs
  · simp only [firstNumber_digit hd, hd, true_implies]
  · rw [star_of_reads (by decide) h rfl]
    refine ⟨fun _ hd => ?_, fun _ w hw => ?_⟩
    · cases hd
    · have hall : Field.allows [Range.all weekdays (by decide)] w :=
        allows_all.mpr ⟨Nat.zero_le _, Nat.le_of_lt hw⟩
      exact ⟨fun _ _ hk => (nomatch hk), fun _ => Or.inl hall⟩

/-- **What the picker writes for a text fires at the times of the expression** when the
expression is plain. -/
theorem sameTimes_iff_plain {p : Texts} {x y : Expr} (hp : Reads p x) (ht : Takes p)
    (hmin : Single y.minute (firstNumber p.min)) (hhr : Single y.hour (firstNumber p.hr))
    (hmon : Single y.month none) (hdom : Single y.day (firstNumber p.dom))
    (hdow : Single y.weekday (firstNumber p.dow)) :
    (∀ t, y.fires t ↔ x.fires t) ↔ Plain p x := by
  have hxstar : x.day.star = true ∨ x.weekday.star = true := by
    refine ht.star.imp (fun h => ?_) fun h => ?_
    · rw [star_of_reads (by decide) hp.day h]
      rfl
    · rw [star_of_reads (by decide) hp.weekday h]
      rfl
  have hystar : y.day.star = true ∨ y.weekday.star = true :=
    ht.star.imp (fun h => hdom.star (by rw [h]; rfl)) fun h => hdow.star (by rw [h]; rfl)
  obtain ⟨hdmin, hdhr, hddom, hddow⟩ := ht.digits
  have hminute := agrees_iff minutes_named hp.minute (by decide) (Or.inl hdmin)
  have hhour := agrees_iff hours_named hp.hour (by decide) hdhr
  have hday := agrees_iff days_named hp.day (by decide) hddom
  have hweekday := agreesWeekday_iff hp.weekday hddow
  constructor
  · intro h
    obtain ⟨s, hs⟩ := exists_time hmin hhr hdom hmon hdow
    have hparts := parts_agree (fun t => by
      rw [← fires_of_star hxstar, ← fires_of_star hystar]
      exact (h t).symm) hs
    exact
      { month := fun m h₀ h₁ =>
          ((hparts { s with month := m, month_pos := h₀, month_le := h₁ }).2.2.1.trans
            (hmon.allows m h₀ h₁)).mpr fun k hk => nomatch hk
        minute := hminute.mp fun n h₀ h₁ =>
          (hparts { s with minute := n, minute_lt := Nat.lt_succ_of_le h₁ }).1.trans
            (hmin.allows n h₀ h₁)
        hour := hhour.mp fun n h₀ h₁ =>
          (hparts { s with hour := n, hour_lt := Nat.lt_succ_of_le h₁ }).2.1.trans
            (hhr.allows n h₀ h₁)
        day := hday.mp fun n h₀ h₁ =>
          (hparts { s with day := n, day_pos := h₀, day_le := h₁ }).2.2.2.1.trans
            (hdom.allows n h₀ h₁)
        weekday := hweekday.mp fun w hw =>
          (hparts { s with weekday := w, weekday_lt := hw }).2.2.2.2.trans (hdow.onWeekday hw) }
  · intro hplain t
    have hm₁ : t.minute ≤ minutes.hi := Nat.le_of_lt_succ t.minute_lt
    have hh₁ : t.hour ≤ hours.hi := Nat.le_of_lt_succ t.hour_lt
    rw [fires_of_star hxstar, fires_of_star hystar, hmin.allows _ (Nat.zero_le _) hm₁,
      hhr.allows _ (Nat.zero_le _) hh₁, hmon.allows _ t.month_pos t.month_le,
      hdom.allows _ t.day_pos t.day_le, hdow.onWeekday t.weekday_lt,
      hminute.mpr hplain.minute _ (Nat.zero_le _) hm₁,
      hhour.mpr hplain.hour _ (Nat.zero_le _) hh₁,
      hday.mpr hplain.day _ t.day_pos t.day_le,
      hweekday.mpr hplain.weekday _ t.weekday_lt]
    have hmonth := hplain.month t.month t.month_pos t.month_le
    simp [hmonth]

/-- **The picker keeps the meaning of an expression** when it does not take it, or when its
month is not restricted and each field that begins with a digit allows that number alone. -/
theorem keepsMeaning_iff {e : String} {x : Expr} (h : parseText e = some x) :
    KeepsMeaning e ↔ ∀ p, textsOf e = some p → Takes p → Plain p x := by
  obtain ⟨p, hp, hreads, hcron⟩ := reads_of_parseText h
  have hall : (∀ q, textsOf e = some q → Takes q → Plain q x) ↔ (Takes p → Plain p x) :=
    ⟨fun hq => hq p hp, fun hq q heq => Option.some.inj (hp.symm.trans heq) ▸ hq⟩
  rw [hall]
  constructor
  · intro hkeeps ht
    obtain ⟨s, y, hpick, hy, hmin, hhr, hmon, hdom, hdow⟩ := pick_of_takes hreads ht
    obtain ⟨y', x', hy', hx', htimes⟩ := hkeeps.same s (hcron.trans hpick)
    obtain rfl := Option.some.inj (hy.symm.trans hy')
    obtain rfl := Option.some.inj (h.symm.trans hx')
    exact (sameTimes_iff_plain hreads ht hmin hhr hmon hdom hdow).mp htimes
  · intro hplain
    have hsame : ∀ s, cronToSchedule e = some s → SameTimes (scheduleToCron s) e := by
      intro s hs
      by_cases ht : Takes p
      · obtain ⟨s', y, hpick, hy, hmin, hhr, hmon, hdom, hdow⟩ := pick_of_takes hreads ht
        obtain rfl := Option.some.inj (hs.symm.trans (hcron.trans hpick))
        exact ⟨y, x, hy, h,
          (sameTimes_iff_plain hreads ht hmin hhr hmon hdom hdow).mpr (hplain ht)⟩
      · rw [hcron, pick_of_not_takes hreads ht] at hs
        cases hs
    refine ⟨hsame, fun hno => ?_⟩
    cases hs : cronToSchedule e with
    | some s => exact absurd (hsame s hs) (hno s)
    | none =>
        have hinit : initFromValue e = ({ defaultSched with frequency := .custom }, e) := by
          rw [initFromValue, hs]
        refine ⟨rfl, hinit, fun value => ?_⟩
        rw [hinit]
        exact if_pos rfl

/-- Half past four on Mondays. -/
theorem keepsMeaning_mondays : KeepsMeaning "30 4 * * 1" := by
  have hparse : parseText "30 4 * * 1" =
      some ⟨[Range.one _ 30 (by decide)], [Range.one _ 4 (by decide)], [Range.all _ (by decide)],
        [Range.all _ (by decide)], [Range.one _ 1 (by decide)]⟩ := by decide
  refine (keepsMeaning_iff hparse).mpr fun p hp _ => ?_
  obtain rfl : Texts.mk ['3', '0'] ['4'] ['*'] ['*'] ['1'] = p := Option.some.inj hp
  exact
    { month := fun m h₁ h₂ => allows_all.mpr ⟨h₁, h₂⟩
      minute := fun _ n => allows_one
      hour := fun _ n => allows_one
      day := nofun
      weekday := fun _ => by decide }

/-- An expression of January is read as one of every month. -/
theorem month_not_kept : ¬ ∀ e x, parseText e = some x → KeepsMeaning e := by
  intro h
  have hparse : parseText "0 2 * 1 *" =
      some ⟨[Range.one _ 0 (by decide)], [Range.one _ 2 (by decide)], [Range.all _ (by decide)],
        [Range.one _ 1 (by decide)], [Range.all _ (by decide)]⟩ := by decide
  have hread : cronToSchedule "0 2 * 1 *" = some defaultSched := by decide +kernel
  have hwritten : parseText (scheduleToCron defaultSched) =
      some ⟨[Range.one _ 0 (by decide)], [Range.one _ 2 (by decide)], [Range.all _ (by decide)],
        [Range.all _ (by decide)], [Range.all _ (by decide)]⟩ := by decide +kernel
  obtain ⟨y, x, hy, hx, htimes⟩ := (h _ _ hparse).same _ hread
  obtain rfl := Option.some.inj (hwritten.symm.trans hy)
  obtain rfl := Option.some.inj (hparse.symm.trans hx)
  -- two o'clock on the first of February, a Sunday
  have hfebruary := htimes ⟨0, 2, 1, 2, 0, by decide, by decide, by decide, by decide, by decide,
    by decide, by decide⟩
  exact absurd hfebruary (by decide)

end TLSentinel.Cron.SchedulePicker
