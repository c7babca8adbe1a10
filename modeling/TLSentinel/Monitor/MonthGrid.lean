/-
  TLSentinel.Monitor.MonthGrid
  ────────────────────────────
  **THE MONTH GRID OF THE CALENDAR VIEW.**

  `buildGrid` of `MonitorCalendarView.tsx`: a row of cells for each week of a month,
  with the text of its day in each cell and `null` in those before the first and after
  the last day.  Years are written as JavaScript writes them, without leading zeros,
  and `Date` takes the years `0` to `99` for `1900` to `1999`.

  Main results:
    * `length_of_mem_buildGrid`  — every week has seven cells;
    * `mem_gridDays_iff`         — the one grid that has a cell with the text of a date;
    * `column_eq_weekday`        — that cell stands under its weekday.
-/
import TLSentinel.Foundation.Calendar
import Mathlib.Data.List.Nodup

namespace TLSentinel.Monitor

open Foundation.Calendar

/-! ## §1. buildGrid. -/

/-- The year that `new Date(year, …)` is of. -/
def dateYear (year : Int) : Int := if 0 ≤ year ∧ year ≤ 99 then 1900 + year else year

/-- `Date` reaches a hundred million days into the past and the future. -/
def validDate (day : Int) : Bool := decide (day.natAbs ≤ 100000000)

/-- `new Date(year, month, 1).getDay()`. -/
def firstDow (year : Int) (month : Nat) : Nat := weekday (dayNumber (dateYear year) month 1)

/-- `new Date(year, month + 1, 0).getDate()`, the day before the first of the next month; past
the reach of `Date` it is NaN, and the length of no array. -/
def daysInMonth (year : Int) (month : Nat) : Nat :=
  if validDate (dayNumber (dateYear year) month (daysIn (dateYear year) month)) then
    daysIn (dateYear year) month
  else 0

/-- The text of day `i + 1` of a month. -/
def dayCell (year : Int) (month i : Nat) : String :=
  String.ofList (dateText (numeral year) month (i + 1))

/-- The cells up to the last day. -/
def monthCells (year : Int) (month : Nat) : List (Option String) :=
  List.replicate (firstDow year month) none ++
    (List.range (daysInMonth year month)).map (fun i => some (dayCell year month i))

/-- `while (cells.length % 7 !== 0) cells.push(null)`. -/
def fillWeek (cells : List (Option String)) : List (Option String) :=
  if cells.length % 7 ≠ 0 then fillWeek (cells ++ [none]) else cells
termination_by (7 - cells.length % 7) % 7
decreasing_by
  rw [List.length_append, List.length_singleton]
  omega

/-- The cells, seven by seven. -/
def weeks (cells : List (Option String)) : List (List (Option String)) :=
  if cells = [] then [] else cells.take 7 :: weeks (cells.drop 7)
termination_by cells.length
decreasing_by
  rw [List.length_drop]
  have hpos := List.length_pos_iff.mpr ‹cells ≠ []›
  omega

/-- `buildGrid`; past the reach of `Date`, `Array(NaN)` is a RangeError. -/
def buildGrid (year : Int) (month : Nat) : Option (List (List (Option String))) :=
  if validDate (dayNumber (dateYear year) month 1) then
    some (weeks (fillWeek (monthCells year month)))
  else none

/-- `grid.flat()`. -/
def gridCells (year : Int) (month : Nat) : List (Option String) :=
  ((buildGrid year month).getD []).flatten

/-! ## §2. Weeks. -/

theorem fillWeek_eq (cells : List (Option String)) :
    ∃ n, fillWeek cells = cells ++ List.replicate n none := by
  induction cells using fillWeek.induct with
  | case1 cells hmod ih =>
      obtain ⟨n, hn⟩ := ih
      rw [fillWeek, if_pos hmod, hn]
      exact ⟨n + 1, by rw [List.append_assoc, List.replicate_succ, List.singleton_append]⟩
  | case2 cells hmod =>
      rw [fillWeek, if_neg hmod]
      exact ⟨0, by rw [List.replicate_zero, List.append_nil]⟩

theorem length_fillWeek (cells : List (Option String)) : (fillWeek cells).length % 7 = 0 := by
  induction cells using fillWeek.induct with
  | case1 cells hmod ih =>
      rw [fillWeek, if_pos hmod]
      exact ih
  | case2 cells hmod =>
      rw [fillWeek, if_neg hmod]
      exact not_not.mp hmod

theorem flatten_weeks (cells : List (Option String)) : (weeks cells).flatten = cells := by
  induction cells using weeks.induct with
  | case1 => rw [weeks, if_pos rfl, List.flatten_nil]
  | case2 cells hne ih => rw [weeks, if_neg hne, List.flatten_cons, ih, List.take_append_drop]

/-- Full weeks stay full. -/
theorem length_of_mem_weeks {cells week : List (Option String)} (hlength : cells.length % 7 = 0)
    (hweek : week ∈ weeks cells) : week.length = 7 := by
  induction cells using weeks.induct with
  | case1 =>
      rw [weeks, if_pos rfl] at hweek
      exact absurd hweek List.not_mem_nil
  | case2 cells hne ih =>
      rw [weeks, if_neg hne] at hweek
      have hpos := List.length_pos_iff.mpr hne
      rcases List.mem_cons.mp hweek with hfirst | hrest
      · rw [hfirst, List.length_take]
        omega
      · exact ih (by rw [List.length_drop]; omega) hrest

/-- **Every week has seven cells.** -/
theorem length_of_mem_buildGrid {year : Int} {month : Nat} {grid : List (List (Option String))}
    (hgrid : buildGrid year month = some grid) {week : List (Option String)} (hweek : week ∈ grid) :
    week.length = 7 := by
  unfold buildGrid at hgrid
  split at hgrid
  · injection hgrid with hgrid
    subst hgrid
    exact length_of_mem_weeks (length_fillWeek _) hweek
  · exact absurd hgrid (by simp)

/-! ## §3. Days. -/

/-- The days of a grid, as text. -/
def gridDays (year : Int) (month : Nat) : List String :=
  (gridCells year month).filterMap (fun c => c)

theorem gridCells_eq {year : Int} {month : Nat}
    (hvalid : validDate (dayNumber (dateYear year) month 1) = true) :
    ∃ n, gridCells year month = monthCells year month ++ List.replicate n none := by
  unfold gridCells buildGrid
  rw [if_pos hvalid, Option.getD_some, flatten_weeks]
  exact fillWeek_eq _

/-- The days of a grid, from the first to the last of the month. -/
theorem gridDays_eq {year : Int} {month : Nat} : gridDays year month =
    if validDate (dayNumber (dateYear year) month 1) then
      (List.range (daysInMonth year month)).map (dayCell year month)
    else [] := by
  -- the cells without a day are dropped
  have hnulls : ∀ n, (List.replicate n (none : Option String)).filterMap (fun c => c) = [] := by
    intro n
    rw [List.filterMap_eq_nil_iff]
    exact fun c hc => List.eq_of_mem_replicate hc
  unfold gridDays
  split
  · next hvalid =>
      obtain ⟨n, hn⟩ := gridCells_eq hvalid
      unfold monthCells at hn
      rw [hn, List.filterMap_append, List.filterMap_append, hnulls, hnulls, List.filterMap_map,
        List.nil_append, List.append_nil, ← List.filterMap_eq_map]
      rfl
  · next hvalid =>
      unfold gridCells buildGrid
      rw [if_neg hvalid]
      rfl

/-- No day of a grid stands in two cells. -/
theorem nodup_gridDays (year : Int) (month : Nat) : (gridDays year month).Nodup := by
  rw [gridDays_eq]
  split
  · refine List.Nodup.map_on ?_ List.nodup_range
    intro i _ j _ hij
    -- the texts differ only in the day
    have htext := String.ofList_injective hij
    obtain ⟨-, hrest⟩ := List.append_inj htext rfl
    have hparts := List.append_inj (List.cons.inj hrest).2 rfl
    exact Nat.succ.inj (padStart_digits_inj (List.cons.inj hparts.2).2)
  · exact List.nodup_nil

/-- The years of four digits are in the reach of `Date`. -/
theorem validDate_date {year month day : Nat} (hyear : year ≤ 9999) (hmonth : month < 12)
    (hday : day ≤ 31) : validDate (dayNumber year month day) = true := by
  -- by induction on the month
  have hstart : ∀ m, monthStart year m ≤ 31 * m := by
    intro m
    induction m with
    | zero => exact Nat.le_refl 0
    | succ m ih =>
        have hdays := daysIn_le year m
        show monthStart year m + daysIn year m ≤ 31 * (m + 1)
        omega
  have hle := hstart month
  unfold validDate dayNumber yearStart
  rw [decide_eq_true_eq]
  omega

theorem dateYear_date {d : Date} (hfour : 1000 ≤ d.year) : dateYear d.year = d.year :=
  if_neg (by omega)

theorem daysInMonth_date {d : Date} (hfour : 1000 ≤ d.year) :
    daysInMonth d.year d.month = daysIn d.year d.month := by
  unfold daysInMonth
  rw [dateYear_date hfour, if_pos (validDate_date d.year_le d.month_lt (daysIn_le _ _))]

/-- **The grid of a date**: only the grid of its year and month has a cell with its text, and
that one has it if the year has four digits. -/
theorem mem_gridDays_iff (year : Int) (month : Nat) (d : Date) :
    String.ofList d.text ∈ gridDays year month ↔
      year = d.year ∧ month = d.month ∧ 1000 ≤ d.year := by
  rw [gridDays_eq]
  constructor
  · intro h
    split at h
    · obtain ⟨i, -, hi⟩ := List.mem_map.mp h
      obtain ⟨hyear, hfour, hmonth, -⟩ :=
        (dateText_numeral_eq_iff year month (i + 1) d).mp (String.ofList_injective hi)
      exact ⟨hyear, hmonth, hfour⟩
    · exact absurd h List.not_mem_nil
  · intro h
    obtain ⟨hyear, hmonth, hfour⟩ := h
    subst hyear hmonth
    have hpos := d.day_pos
    have hle := d.day_le
    rw [dateYear_date hfour, if_pos (validDate_date d.year_le d.month_lt (by decide)), List.mem_map]
    refine ⟨d.day - 1, ?_, ?_⟩
    · rw [List.mem_range, daysInMonth_date hfour]
      omega
    · unfold dayCell
      rw [(dateText_numeral_eq_iff d.year d.month (d.day - 1 + 1) d).mpr
        ⟨rfl, hfour, rfl, Nat.sub_add_cancel hpos⟩]

/-- **The cell of a date stands under its weekday.** -/
theorem column_eq_weekday {n : Int} {d : Date} (hd : Date.ofDay n = some d)
    (hfour : 1000 ≤ d.year) :
    ∃ i, (gridCells d.year d.month)[i]? = some (some (String.ofList d.text)) ∧
      i % 7 = weekday n := by
  have hpos := d.day_pos
  have hle := d.day_le
  have hvalid : validDate (dayNumber (dateYear d.year) d.month 1) = true := by
    rw [dateYear_date hfour]
    exact validDate_date d.year_le d.month_lt (by decide)
  obtain ⟨nulls, hcells⟩ := gridCells_eq hvalid
  refine ⟨firstDow d.year d.month + (d.day - 1), ?_, ?_⟩
  · have hplace : firstDow d.year d.month + (d.day - 1) < (monthCells d.year d.month).length := by
      unfold monthCells
      rw [List.length_append, List.length_replicate, List.length_map, List.length_range,
        daysInMonth_date hfour]
      omega
    rw [hcells, List.getElem?_append_left hplace]
    unfold monthCells
    rw [List.getElem?_append_right (by rw [List.length_replicate]; omega), List.length_replicate,
      Nat.add_sub_cancel_left, List.getElem?_map, List.getElem?_range (by
        rw [daysInMonth_date hfour]
        omega), Option.map_some]
    unfold dayCell
    rw [(dateText_numeral_eq_iff d.year d.month (d.day - 1 + 1) d).mpr
      ⟨rfl, hfour, rfl, Nat.sub_add_cancel hpos⟩]
  · -- the first of the month is `d.day - 1` days earlier
    rw [← Date.dayNumber_ofDay hd]
    unfold firstDow weekday
    rw [dateYear_date hfour]
    unfold dayNumber
    omega

end TLSentinel.Monitor
