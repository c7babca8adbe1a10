/-
  TLSentinel.Monitor.CalendarView
  ───────────────────────────────
  **THE MONITOR CALENDAR, FROM ITS REQUEST TO ITS CELLS.**

  `MonitorCalendarView` asks once, for page 1 of 10000 active certificates; the server
  parses the numbers and clamps the page size to 100, so that the calendar is of the
  100 certificates that expire first.  The items are grouped by the first ten characters
  of `notAfter`, and a cell of the month grid lists the group of its text.

  A row of the view is a certificate in one use on an endpoint; the calendar speaks of
  endpoint and certificate.

  Main results:
    * `parse_numerals`          — what the server makes of the client's numbers;
    * `shownOnce_iff`           — when a list of items shows a pair exactly once;
    * `calendar_complete_iff`   — when the calendar shows every active pair exactly once;
    * `shows_of_length_le`      — up to a hundred rows, one for each pair, are shown;
    * `pairs_le_of_shows`       — more than a hundred pairs are not.
-/
import TLSentinel.Foundation.Loops
import TLSentinel.Lists.Queries
import TLSentinel.Monitor.MonthGrid
import Mathlib.Data.List.Dedup

namespace TLSentinel.Monitor

open Foundation
open Foundation.Calendar
open TLSentinel.Lists

/-! ## §1. The request. -/

/-- `strconv.Atoi`, for an `int` of 64 bits. -/
def atoi (s : String) : Option Int :=
  let (negative, ds) := match s.toList with
    | '-' :: ds => (true, ds)
    | '+' :: ds => (false, ds)
    | ds => (false, ds)
  if ds = [] ∨ ds.any (fun c => !c.isDigit) = true then none
  else
    let n : Int := Nat.ofDigitChars 10 ds 0
    let v := if negative then -n else n
    if -2 ^ 63 ≤ v ∧ v < 2 ^ 63 then some v else none

/-- `pagination.Parse`: page and page size. -/
def parse (page pageSize : String) (defaultSize maxSize : Int) : Int × Int :=
  let page := match atoi page with
    | none => 1
    | some n => if n < 1 then 1 else n
  let size := match atoi pageSize with
    | none => defaultSize
    | some n => if n < 1 then defaultSize else n
  (page, if size > maxSize then maxSize else size)

/-- The query of `/certificates/active`, a parameter that is missing being empty. -/
structure ActiveQuery where
  page : String
  pageSize : String
  name : String
  status : String
  sort : String
  tagID : String

/-- `listActive` of the client. -/
def listActive (page pageSize : Nat) (name status sort tagId : String) : ActiveQuery :=
  ⟨String.ofList (digits page), String.ofList (digits pageSize), name, status, sort, tagId⟩

/-- What the view asks for. -/
def calendarQuery : ActiveQuery := listActive 1 10000 "" "" "" ""

/-! ## §2. The answer. -/

/-- `ExpiringCertItem`, as far as the calendar reads it. -/
structure ExpiringCertItem where
  endpointId : String
  endpointName : String
  fingerprint : String
  commonName : String
  /-- As JSON has it. -/
  notAfter : String
  daysRemaining : Int
  deriving DecidableEq, Repr

/-- The endpoint and the certificate. -/
def ExpiringCertItem.pair (c : ExpiringCertItem) : String × String := (c.endpointId, c.fingerprint)

/-- The endpoint and the certificate of a row. -/
def pairOf (r : VActiveCertificate) : String × String := (r.endpointID, r.fingerprint)

/-- The item of a row, in JSON; a time has no text if its year has more than four digits. -/
def toItem (zone : Zone) (r : VActiveCertificate) : Option ExpiringCertItem :=
  (zone.rfc3339 r.notAfter).map (fun s =>
    ⟨r.endpointID, r.endpointName, r.fingerprint, r.commonName, String.ofList s, r.daysRemaining⟩)

variable {T : Text} {Addr : Type}

/-- An answer of the handler `Active`: the items of its JSON text, or none if they could not be
encoded. -/
def Active (db : DB T Addr) (now : Int) (zone : Zone) (q : ActiveQuery)
    (answer : Option (List ExpiringCertItem)) : Prop :=
  ∃ rows, Paging.Page (DB.activeOrder T q.sort)
      (db.listAllActiveCerts now q.name q.status q.tagID).rows
      (parse q.page q.pageSize 20 100).2.toNat (parse q.page q.pageSize 20 100).1.toNat rows ∧
    answer = rows.mapM (toItem zone)

/-! ## §3. The view. -/

/-- `iso.slice(0, 10)`. -/
def toDateKey (iso : String) : String := String.ofList (iso.toList.take 10)

/-- One round of `groupByDate`. -/
def addToGroup (map : String → Option (List ExpiringCertItem)) (cert : ExpiringCertItem) :
    String → Option (List ExpiringCertItem) :=
  let key := toDateKey cert.notAfter
  Function.update map key (some ((map key).getD [] ++ [cert]))

/-- `groupByDate`: the map, as what it has for a key. -/
def groupByDate (items : List ExpiringCertItem) : String → Option (List ExpiringCertItem) :=
  items.foldl addToGroup (fun _ => none)

/-- The certificates of a day, in the order of the cell and of the sidebar. -/
def certsOf (byDate : String → Option (List ExpiringCertItem)) (date : String) :
    List ExpiringCertItem :=
  ((byDate date).getD []).mergeSort (fun a b => decide (a.daysRemaining ≤ b.daysRemaining))

/-- The certificates of a month grid, each with the day of its cell. -/
def monthCerts (items : List ExpiringCertItem) (year : Int) (month : Nat) :
    List (String × ExpiringCertItem) :=
  (gridDays year month).flatMap (fun date =>
    (certsOf (groupByDate items) date).map (fun cert => (date, cert)))

/-- Over the grids of all months, a pair of endpoint and certificate is shown exactly once, on
the day of a date. -/
def ShownOnce (items : List ExpiringCertItem) (pair : String × String) (d : Date) : Prop :=
  (∃ cert, (monthCerts items d.year d.month).filter (fun e => decide (e.2.pair = pair))
      = [(String.ofList d.text, cert)]) ∧
    ∀ (year : Int) (month : Nat), month < 12 → ¬ (year = d.year ∧ month = d.month) →
      ∀ e ∈ monthCerts items year month, e.2.pair ≠ pair

/-- **The calendar shows every expiry**: whatever the answer to its request, every active pair
exactly once, on the day of its `notAfter`; the view's items are `data?.items ?? []`. -/
def ShowsEveryExpiry (db : DB T Addr) (now : Int) (zone : Zone) : Prop :=
  ∀ answer, Active db now zone calendarQuery answer → ∀ r ∈ db.vActiveCertificates now,
    ∃ d, zone.date r.notAfter = some d ∧ ShownOnce (answer.getD []) (pairOf r) d

/-! ## §4. Requests. -/

/-- A number that a client writes is the number that the server reads. -/
theorem atoi_numeral {n : Nat} (hn : n < 2 ^ 63) :
    atoi (String.ofList (digits n)) = some (n : Int) := by
  have hdigits : ∀ c ∈ digits n, c.isDigit = true :=
    fun c hc => Nat.isDigit_of_mem_toDigits (by decide) (by decide) hc
  have hall : ¬ (digits n = [] ∨ (digits n).any (fun c => !c.isDigit) = true) := by
    intro h
    rcases h with hnil | hany
    · exact Nat.toDigits_ne_nil hnil
    · obtain ⟨c, hc, hnot⟩ := List.any_eq_true.mp hany
      rw [hdigits c hc] at hnot
      exact absurd hnot (by decide)
  -- a numeral begins with no sign
  have hsign : (match digits n with
      | '-' :: ds => (true, ds)
      | '+' :: ds => (false, ds)
      | ds => (false, ds)) = (false, digits n) := by
    split
    · next ds hds => exact absurd (hdigits '-' (hds ▸ List.mem_cons_self)) (by decide)
    · next ds hds => exact absurd (hdigits '+' (hds ▸ List.mem_cons_self)) (by decide)
    · rfl
  have hvalue : Nat.ofDigitChars 10 (digits n) 0 = n := Nat.ofDigitChars_ten_toDigits
  unfold atoi
  simp only [String.toList_ofList, hsign]
  rw [if_neg hall, hvalue, if_neg Bool.false_ne_true, if_pos (by omega)]

/-- **What the server makes of a client's numbers**: it clamps the page size. -/
theorem parse_numerals {page pageSize : Nat} {defaultSize maxSize : Int} (hpage : 1 ≤ page)
    (hsize : 1 ≤ pageSize) (hpage' : page < 2 ^ 63) (hsize' : pageSize < 2 ^ 63) :
    parse (String.ofList (digits page)) (String.ofList (digits pageSize)) defaultSize maxSize
      = ((page : Int), min (pageSize : Int) maxSize) := by
  unfold parse
  rw [atoi_numeral hpage', atoi_numeral hsize']
  simp only
  rw [if_neg (show ¬ (page : Int) < 1 by omega), if_neg (show ¬ (pageSize : Int) < 1 by omega),
    min_def]
  congr 1
  split <;> split <;> omega

/-- Without filters the list is the whole view. -/
theorem listAllActiveCerts_all (db : DB T Addr) (now : Int) :
    (db.listAllActiveCerts now "" "" "").rows = (db.vActiveCertificates now).rows :=
  List.filter_eq_self.mpr fun r _ => by
    unfold DB.activeMatches
    simp

/-- **The answer to the calendar's request**: the items of the first 100 rows. -/
theorem active_calendarQuery_iff (db : DB T Addr) (now : Int) (zone : Zone)
    (answer : Option (List ExpiringCertItem)) :
    Active db now zone calendarQuery answer ↔
      ∃ l, (DB.activeOrder T "").Listed (db.vActiveCertificates now).rows l ∧
        answer = (l.take 100).mapM (toItem zone) := by
  have hparse : parse calendarQuery.page calendarQuery.pageSize 20 100 = (1, 100) :=
    parse_numerals (by decide) (by decide) (by decide) (by decide)
  unfold Active
  rw [hparse]
  constructor
  · intro h
    obtain ⟨rows, ⟨l, hl, hcut⟩, hanswer⟩ := h
    exact ⟨l, listAllActiveCerts_all db now ▸ hl, by rw [hanswer, hcut]; rfl⟩
  · intro h
    obtain ⟨l, hl, hanswer⟩ := h
    exact ⟨l.take 100, ⟨l, (listAllActiveCerts_all db now).symm ▸ hl, rfl⟩, hanswer⟩

/-! ## §5. Groups. -/

/-- **The group of a day** is what a filter selects. -/
theorem groupByDate_eq_filter (items : List ExpiringCertItem) (date : String) :
    (groupByDate items date).getD []
      = items.filter (fun c => decide (toDateKey c.notAfter = date)) := by
  unfold groupByDate
  refine foldl_invariant (P := fun done (map : String → Option (List ExpiringCertItem)) =>
    (map date).getD [] = done.filter (fun c => decide (toDateKey c.notAfter = date))) ?_ ?_ items
  · rfl
  -- one more item, of this day or of another
  intro done cert map ih
  unfold addToGroup
  rw [List.filter_append]
  by_cases hdate : toDateKey cert.notAfter = date
  · subst hdate
    rw [Function.update_self, Option.getD_some, ih, List.filter_cons_of_pos (by simp),
      List.filter_nil]
  · rw [Function.update_of_ne (Ne.symm hdate), ih,
      List.filter_cons_of_neg (by simpa using hdate), List.filter_nil,
      List.append_nil]

/-- The certificates of a day, in some order. -/
theorem certsOf_perm (items : List ExpiringCertItem) (date : String) :
    (certsOf (groupByDate items) date).Perm
      (items.filter (fun c => decide (toDateKey c.notAfter = date))) := by
  unfold certsOf
  rw [groupByDate_eq_filter]
  exact List.mergeSort_perm _ _

/-- A list without repetitions has one place for an item. -/
theorem flatMap_eq_of_nodup {α β : Type} [DecidableEq α] {l : List α} (hl : l.Nodup)
    {f : α → List β} {a : α} (hf : ∀ b ∈ l, b ≠ a → f b = []) :
    l.flatMap f = if a ∈ l then f a else [] := by
  induction l with
  | nil => rfl
  | cons b l ih =>
      obtain ⟨hb, hl⟩ := List.nodup_cons.mp hl
      have hrest := ih hl (fun c hc => hf c (List.mem_cons_of_mem _ hc))
      rw [List.flatMap_cons, hrest]
      by_cases hba : b = a
      · -- it does not come again
        subst hba
        rw [if_neg hb, if_pos List.mem_cons_self, List.append_nil]
      · rw [hf b List.mem_cons_self hba, List.nil_append]
        refine if_congr ?_ rfl rfl
        rw [List.mem_cons]
        exact ⟨.inr, fun h => h.resolve_left (Ne.symm hba)⟩

variable {items : List ExpiringCertItem} {pair : String × String} {d : Date}

/-- **A pair in a month grid**: where all its items are of one date, the grid of that date has
all of them in one cell, and every other grid has none. -/
theorem filter_monthCerts
    (hkey : ∀ c ∈ items, c.pair = pair → toDateKey c.notAfter = String.ofList d.text) (year : Int)
    (month : Nat) :
    (monthCerts items year month).filter (fun e => decide (e.2.pair = pair))
      = if year = d.year ∧ month = d.month ∧ 1000 ≤ d.year then
          ((certsOf (groupByDate items) (String.ofList d.text)).filter
            (fun c => decide (c.pair = pair))).map (fun c => (String.ofList d.text, c))
        else [] := by
  have hcell : ∀ date, ((certsOf (groupByDate items) date).map (fun c => (date, c))).filter
      (fun e => decide (e.2.pair = pair))
        = ((certsOf (groupByDate items) date).filter (fun c => decide (c.pair = pair))).map
          (fun c => (date, c)) := by
    intro date
    rw [List.filter_map]
    rfl
  unfold monthCerts
  rw [List.filter_flatMap, flatMap_eq_of_nodup (nodup_gridDays year month)
    (a := String.ofList d.text)]
  · rw [hcell]
    exact if_congr (mem_gridDays_iff year month d) rfl rfl
  · -- the group of another day has no item of the pair
    intro date _ hdate
    rw [hcell, List.map_eq_nil_iff, List.filter_eq_nil_iff]
    intro c hc hpair
    obtain ⟨hitem, hgroup⟩ := List.mem_filter.mp ((certsOf_perm items date).mem_iff.mp hc)
    exact hdate ((of_decide_eq_true hgroup).symm.trans (hkey c hitem (of_decide_eq_true hpair)))

/-- How many items of a pair the group of its day has. -/
theorem length_filter_certsOf
    (hkey : ∀ c ∈ items, c.pair = pair → toDateKey c.notAfter = String.ofList d.text) :
    ((certsOf (groupByDate items) (String.ofList d.text)).filter
      (fun c => decide (c.pair = pair))).length
        = items.countP (fun c => decide (c.pair = pair)) := by
  rw [← List.countP_eq_length_filter, (certsOf_perm items _).countP_eq, List.countP_filter]
  refine List.countP_congr fun c hc => ?_
  rw [Bool.and_eq_true, decide_eq_true_eq, decide_eq_true_eq]
  exact ⟨fun h => h.1, fun h => ⟨h, hkey c hc h⟩⟩

/-- **When a list of items shows a pair exactly once.** -/
theorem shownOnce_iff
    (hkey : ∀ c ∈ items, c.pair = pair → toDateKey c.notAfter = String.ofList d.text) :
    ShownOnce items pair d ↔
      1000 ≤ d.year ∧ items.countP (fun c => decide (c.pair = pair)) = 1 := by
  have hlength := length_filter_certsOf hkey
  constructor
  · intro h
    obtain ⟨⟨cert, hone⟩, -⟩ := h
    -- the one entry is in the cell of the date, which has all items of the pair
    rw [filter_monthCerts hkey] at hone
    split at hone
    · next hdate =>
        have hcount := congrArg List.length hone
        rw [List.length_map, hlength] at hcount
        exact ⟨hdate.2.2, hcount⟩
    · exact absurd hone (by simp)
  · intro h
    obtain ⟨hfour, hcount⟩ := h
    rw [hcount] at hlength
    obtain ⟨cert, hcert⟩ := List.length_eq_one_iff.mp hlength
    constructor
    · refine ⟨cert, ?_⟩
      rw [filter_monthCerts hkey, if_pos ⟨rfl, rfl, hfour⟩, hcert]
      rfl
    · intro year month _ hother e he hpair
      have hnone := filter_monthCerts hkey year month
      rw [if_neg fun h => hother ⟨h.1, h.2.1⟩, List.filter_eq_nil_iff] at hnone
      exact hnone e he (decide_eq_true hpair)

/-! ## §6. When the calendar shows every expiry. -/

/-- A row is of the pair of another one. -/
def samePair (r s : VActiveCertificate) : Bool := decide (pairOf s = pairOf r)

/-- One of the pair's rows, and no more, is among the first 100 whatever the answer: it is the
only one and its ties are among them too, or it is the hundredth and ties with the others of
its pair only. -/
def OnceAmongFirst (db : DB T Addr) (now : Int) (r : VActiveCertificate) : Prop :=
  let rows := (db.vActiveCertificates now).rows
  let order := DB.activeOrder T ""
  (rows.countP (samePair r) = 1 ∧ order.upto rows r ≤ 100) ∨
    (order.before rows r + 1 = 100 ∧
      order.upto rows r = order.before rows r + rows.countP (samePair r))

/-- The year of its `notAfter` has four digits, none in front a zero. -/
def FourDigitYear (zone : Zone) (r : VActiveCertificate) : Prop :=
  ∃ d, zone.date r.notAfter = some d ∧ 1000 ≤ d.year

/-- A row of the view has its times from a stored certificate. -/
theorem exists_certificate {db : DB T Addr} {now : Int} {r : VActiveCertificate}
    (hr : r ∈ db.vActiveCertificates now) : ∃ c, db.certificates.find? r.fingerprint = some c ∧
      r.notAfter = c.notAfter ∧ r.daysRemaining = DB.daysRemaining now c.notAfter := by
  obtain ⟨ec, -, hrow⟩ := Table.mem_select.mp hr
  unfold DB.activeCertificate at hrow
  split at hrow
  · split at hrow
    · next e c he hc =>
        split at hrow
        · injection hrow with hrow
          subst hrow
          exact ⟨c, Table.key_of_find? hc ▸ hc, rfl, rfl⟩
        · exact absurd hrow (by simp)
    · exact absurd hrow (by simp)
  · exact absurd hrow (by simp)

/-- The rows of a pair expire at the same time. -/
theorem eq_of_samePair {db : DB T Addr} {now : Int} {r s : VActiveCertificate}
    (hr : r ∈ db.vActiveCertificates now) (hs : s ∈ db.vActiveCertificates now)
    (hpair : pairOf s = pairOf r) :
    s.notAfter = r.notAfter ∧ s.daysRemaining = r.daysRemaining := by
  obtain ⟨c, hc, hnotAfter, hdays⟩ := exists_certificate hr
  obtain ⟨c', hc', hnotAfter', hdays'⟩ := exists_certificate hs
  -- both have the certificate stored under the fingerprint
  rw [show s.fingerprint = r.fingerprint from congrArg Prod.snd hpair, hc] at hc'
  injection hc' with hcc
  rw [hnotAfter, hnotAfter', hdays, hdays', hcc]
  exact ⟨rfl, rfl⟩

theorem ties_of_samePair {db : DB T Addr} {now : Int} {r s : VActiveCertificate}
    (hr : r ∈ db.vActiveCertificates now) (hs : s ∈ db.vActiveCertificates now)
    (hpair : samePair r s = true) : (DB.activeOrder T "").ties r s = true := by
  have hdays := (eq_of_samePair hr hs (of_decide_eq_true hpair)).2
  show (decide (r.daysRemaining ≤ s.daysRemaining) && decide (s.daysRemaining ≤ r.daysRemaining))
    = true
  rw [hdays]
  simp

/-- An item is that of its row. -/
theorem toItem_eq_some {zone : Zone} {s : VActiveCertificate} {c : ExpiringCertItem}
    (h : toItem zone s = some c) : c.pair = pairOf s ∧
      ∃ d, zone.date s.notAfter = some d ∧ toDateKey c.notAfter = String.ofList d.text := by
  obtain ⟨text, htext, hc⟩ := Option.map_eq_some_iff.mp h
  obtain ⟨d, hd, htake⟩ := Zone.take_rfc3339 htext
  subst hc
  refine ⟨rfl, d, hd, ?_⟩
  unfold toDateKey
  rw [String.toList_ofList, htake]

theorem countP_items {zone : Zone} {rows : List VActiveCertificate} {items : List ExpiringCertItem}
    (h : rows.mapM (toItem zone) = some items) (r : VActiveCertificate) :
    items.countP (fun c => decide (c.pair = pairOf r)) = rows.countP (samePair r) := by
  have hmap := mapM_eq_some_iff.mp h
  calc items.countP (fun c => decide (c.pair = pairOf r))
      = (items.map some).countP (fun o => o.any (fun c => decide (c.pair = pairOf r))) := by
        rw [List.countP_map]
        rfl
    _ = (rows.map (toItem zone)).countP (fun o => o.any (fun c => decide (c.pair = pairOf r))) := by
        rw [hmap]
    _ = rows.countP (samePair r) := by
        rw [List.countP_map]
        refine List.countP_congr fun s hs => ?_
        have hsome : toItem zone s ∈ items.map some := hmap ▸ List.mem_map_of_mem hs
        obtain ⟨c, -, hc⟩ := List.mem_map.mp hsome
        unfold samePair
        rw [Function.comp_apply, ← hc, Option.any_some, (toItem_eq_some hc.symm).1]

/-- **What an answer shows**: a pair exactly once, if one of its rows is among the first 100. -/
theorem shownOnce_answer_iff {db : DB T Addr} {now : Int} {zone : Zone}
    {l : List VActiveCertificate} {items : List ExpiringCertItem}
    (hl : (DB.activeOrder T "").Listed (db.vActiveCertificates now).rows l)
    (hitems : (l.take 100).mapM (toItem zone) = some items) {r : VActiveCertificate}
    (hr : r ∈ db.vActiveCertificates now) (hd : zone.date r.notAfter = some d) :
    ShownOnce items (pairOf r) d ↔ 1000 ≤ d.year ∧ (l.take 100).countP (samePair r) = 1 := by
  rw [← countP_items hitems r]
  apply shownOnce_iff
  -- an item of the pair is of a row that expires when `r` does
  intro c hc hpair
  have hsome : some c ∈ (l.take 100).map (toItem zone) := by
    rw [mapM_eq_some_iff.mp hitems]
    exact List.mem_map_of_mem hc
  obtain ⟨s, hs, hsc⟩ := List.mem_map.mp hsome
  obtain ⟨hcs, d', hd', hkey⟩ := toItem_eq_some hsc
  have hsview : s ∈ db.vActiveCertificates now := hl.1.mem_iff.mp (List.mem_of_mem_take hs)
  rw [(eq_of_samePair hr hsview (hcs.symm.trans hpair)).1, hd] at hd'
  injection hd' with hdd
  rw [hkey, hdd]

/-- Exactly one row of the pair of `r` is among the first 100 of every answer. -/
theorem onceAmongFirst_iff {db : DB T Addr} {now : Int} {r : VActiveCertificate}
    (hr : r ∈ db.vActiveCertificates now) :
    (∀ l, (DB.activeOrder T "").Listed (db.vActiveCertificates now).rows l →
      (l.take 100).countP (samePair r) = 1) ↔ OnceAmongFirst db now r :=
  OrderBy.countP_take_eq_one_iff hr (decide_eq_true rfl)
    (fun _ hs hpair => ties_of_samePair hr hs hpair) 100

/-- Where every time has a text, every answer has items. -/
theorem exists_items {db : DB T Addr} {now : Int} {zone : Zone}
    (hdates : ∀ r ∈ db.vActiveCertificates now, ∃ d, zone.date r.notAfter = some d)
    {l : List VActiveCertificate}
    (hl : (DB.activeOrder T "").Listed (db.vActiveCertificates now).rows l) :
    ∃ items, (l.take 100).mapM (toItem zone) = some items := by
  refine exists_mapM_eq_some fun s hs => ?_
  obtain ⟨d, hd⟩ := hdates s (hl.1.mem_iff.mp (List.mem_of_mem_take hs))
  unfold toItem Zone.rfc3339
  rw [hd]
  exact ⟨_, rfl⟩

theorem onceAmongFirst_of_shows {db : DB T Addr} {now : Int} {zone : Zone}
    (h : ShowsEveryExpiry db now zone) :
    ∀ r ∈ db.vActiveCertificates now, FourDigitYear zone r ∧ OnceAmongFirst db now r := by
  intro r hr
  have hanswer := fun l hl => h _ ((active_calendarQuery_iff db now zone _).mpr ⟨l, hl, rfl⟩)
  obtain ⟨l₀, hl₀⟩ := (DB.activeOrder T "").exists_listed (db.vActiveCertificates now).rows
  -- some answer has items, so every time has a text, and every answer has items
  have hdates : ∀ r ∈ db.vActiveCertificates now, ∃ d, zone.date r.notAfter = some d := by
    intro s hs
    obtain ⟨d, hd, -⟩ := hanswer l₀ hl₀ s hs
    exact ⟨d, hd⟩
  obtain ⟨d, hd⟩ := hdates r hr
  have hshown : ∀ l, (DB.activeOrder T "").Listed (db.vActiveCertificates now).rows l →
      1000 ≤ d.year ∧ (l.take 100).countP (samePair r) = 1 := by
    intro l hl
    obtain ⟨items, hitems⟩ := exists_items hdates hl
    obtain ⟨d', hd', hshows⟩ := hanswer l hl r hr
    rw [hd] at hd'
    injection hd' with hdd
    rw [hitems, ← hdd] at hshows
    exact (shownOnce_answer_iff hl hitems hr hd).mp hshows
  exact ⟨⟨d, hd, (hshown l₀ hl₀).1⟩, (onceAmongFirst_iff hr).mp fun l hl => (hshown l hl).2⟩

theorem shows_of_onceAmongFirst {db : DB T Addr} {now : Int} {zone : Zone}
    (h : ∀ r ∈ db.vActiveCertificates now, FourDigitYear zone r ∧ OnceAmongFirst db now r) :
    ShowsEveryExpiry db now zone := by
  intro answer hanswer r hr
  obtain ⟨l, hl, hitems⟩ := (active_calendarQuery_iff db now zone answer).mp hanswer
  have hdates : ∀ r ∈ db.vActiveCertificates now, ∃ d, zone.date r.notAfter = some d := by
    intro s hs
    obtain ⟨d, hd, -⟩ := (h s hs).1
    exact ⟨d, hd⟩
  obtain ⟨items, hsome⟩ := exists_items hdates hl
  obtain ⟨⟨d, hd, hfour⟩, honce⟩ := h r hr
  refine ⟨d, hd, ?_⟩
  rw [hitems, hsome, Option.getD_some]
  exact (shownOnce_answer_iff hl hsome hr hd).mpr ⟨hfour, (onceAmongFirst_iff hr).mpr honce l hl⟩

/-- **When the calendar shows every expiry.** -/
theorem calendar_complete_iff (db : DB T Addr) (now : Int) (zone : Zone) :
    ShowsEveryExpiry db now zone ↔
      ∀ r ∈ db.vActiveCertificates now, FourDigitYear zone r ∧ OnceAmongFirst db now r :=
  ⟨onceAmongFirst_of_shows, shows_of_onceAmongFirst⟩

/-- **A hundred pairs**: more than that the calendar does not show. -/
theorem pairs_le_of_shows {db : DB T Addr} {now : Int} {zone : Zone}
    (h : ShowsEveryExpiry db now zone) :
    ((db.vActiveCertificates now).rows.map pairOf).dedup.length ≤ 100 := by
  obtain ⟨l, hl⟩ := (DB.activeOrder T "").exists_listed (db.vActiveCertificates now).rows
  -- a row of every pair is among the first 100 of this answer
  have hsub : ((db.vActiveCertificates now).rows.map pairOf).dedup ⊆ (l.take 100).map pairOf := by
    intro pair hpair
    obtain ⟨r, hr, hrpair⟩ := List.mem_map.mp (List.mem_dedup.mp hpair)
    have hone := (onceAmongFirst_iff hr).mpr (onceAmongFirst_of_shows h r hr).2 l hl
    obtain ⟨s, hs, hsame⟩ := List.countP_pos_iff.mp (Nat.lt_of_lt_of_eq Nat.one_pos hone.symm)
    exact List.mem_map.mpr ⟨s, hs, (of_decide_eq_true hsame).trans hrpair⟩
  calc ((db.vActiveCertificates now).rows.map pairOf).dedup.length
      ≤ ((l.take 100).map pairOf).length :=
        (List.subperm_of_subset (List.nodup_dedup _) hsub).length_le
    _ ≤ 100 := by
        rw [List.length_map]
        exact List.length_take_le 100 l

/-- **Up to a hundred rows**, one for each pair, are all shown. -/
theorem shows_of_length_le {db : DB T Addr} {now : Int} {zone : Zone}
    (hlength : (db.vActiveCertificates now).rows.length ≤ 100)
    (hpairs : ((db.vActiveCertificates now).rows.map pairOf).Nodup)
    (hyears : ∀ r ∈ db.vActiveCertificates now, FourDigitYear zone r) :
    ShowsEveryExpiry db now zone := by
  apply shows_of_onceAmongFirst
  intro r hr
  refine ⟨hyears r hr, .inl ⟨?_, Nat.le_trans List.countP_le_length hlength⟩⟩
  have hone := List.count_eq_one_of_mem hpairs (List.mem_map_of_mem hr)
  rw [List.count_eq_countP, List.countP_map] at hone
  calc (db.vActiveCertificates now).rows.countP (samePair r)
      = (db.vActiveCertificates now).rows.countP ((fun pair => pair == pairOf r) ∘ pairOf) := by
        refine List.countP_congr fun s _ => ?_
        unfold samePair
        rw [Function.comp_apply, decide_eq_true_eq, beq_iff_eq]
    _ = 1 := hone

/-! ## §7. A wildcard certificate. -/

/-- Host `i`. -/
def host (i : Nat) : Endpoint :=
  ⟨String.ofList (padStart 3 (digits i)), "host", "host", true, none, none, 0⟩

theorem host_id_inj {i j : Nat} (h : (host i).id = (host j).id) : i = j :=
  padStart_digits_inj (String.ofList_injective h)

/-- The wildcard certificate on host `i`. -/
def attached (i : Nat) : Scans.EndpointCert := ⟨i, (host i).id, "wildcard", "tls", true, 0, 0⟩

/-- A wildcard certificate on `n` hosts. -/
def wildcardHosts (n : Nat) (notAfter : Int) : DB plainText String :=
  { inboxOnly Discovery.emptyInbox.inbox with
    endpoints := ⟨(List.range n).map host, by
      rw [List.map_map]
      exact List.nodup_range.map fun _ _ h => host_id_inj h⟩
    certificates := ⟨[⟨"wildcard", "*.example.com", notAfter, 0⟩], List.nodup_singleton _⟩
    endpointCerts := ⟨(List.range n).map attached, by
      rw [List.map_map]
      exact List.nodup_range.map fun _ _ h => host_id_inj (congrArg Prod.fst h)⟩ }

/-- The rows of the view: one for each host. -/
theorem wildcardHosts_rows (n : Nat) (notAfter now : Int) :
    ((wildcardHosts n notAfter).vActiveCertificates now).rows.map pairOf
      = (List.range n).map (fun i => ((host i).id, "wildcard")) := by
  have hrow : ∀ i ∈ List.range n,
      ((wildcardHosts n notAfter).activeCertificate now (attached i)).map pairOf
        = some ((host i).id, "wildcard") := by
    intro i hi
    have hhost : (wildcardHosts n notAfter).endpoints.find? (host i).id = some (host i) :=
      Table.find?_eq_some_iff.mpr ⟨List.mem_map_of_mem hi, rfl⟩
    unfold DB.activeCertificate attached
    simp only [hhost]
    rfl
  show (((List.range n).map attached).filterMap
    ((wildcardHosts n notAfter).activeCertificate now)).map pairOf = _
  rw [List.filterMap_map, List.map_filterMap, ← List.filterMap_eq_map]
  exact List.filterMap_congr hrow

/-- A wildcard certificate on 101 hosts: one of them is not on the calendar. -/
theorem wildcard_not_shown :
    ¬ ∀ (T : Text) (Addr : Type) (db : DB T Addr) (now : Int) (zone : Zone),
      ShowsEveryExpiry db now zone := by
  intro h
  have hle := pairs_le_of_shows (h plainText String (wildcardHosts 101 0) 0 utc)
  have hnodup : ((List.range 101).map (fun i => ((host i).id, "wildcard"))).Nodup :=
    List.nodup_range.map fun _ _ h => host_id_inj (congrArg Prod.fst h)
  rw [wildcardHosts_rows, hnodup.dedup, List.length_map, List.length_range] at hle
  exact absurd hle (by decide)

end TLSentinel.Monitor
