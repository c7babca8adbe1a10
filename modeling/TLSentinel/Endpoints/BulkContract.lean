/-
  TLSentinel.Endpoints.BulkContract
  ─────────────────────────────────
  **WHAT THE IMPORT DIALOG SENDS, AND WHAT BULKIMPORT ANSWERS.**

  The dialog sends the rows that it finds valid.  A port goes through a double and
  through JSON before it is an int again; one that is no int is an error of the whole
  body.  The server looks at every row for itself, inserts it, and reads the endpoint
  back: where that fails, the row has failed and its endpoint is there.

  `bulkContract_iff`: what is sent is taken, exactly if no valid row has a port from 2^63
  on, infinity aside; what is answered accounts for the rows, exactly if every endpoint
  that is inserted can be read.
-/
import TLSentinel.Foundation.Loops
import TLSentinel.Endpoints.HostPorts
import TLSentinel.Endpoints.CSVImport

namespace TLSentinel.Endpoints.BulkContract

open Foundation
open Foundation.Doubles (Integral ofInt shortest roundNat)
open TLSentinel.Endpoints.CSVImport (ParsedRow parseCSV orUndefined leadingInt)

/-! ## §1. From the rows of the dialog to those of the server. -/

/-- An integral number as `JSON.stringify` writes it. -/
inductive NumberText where
  | null
  | digits (n : Int)
  /-- With an exponent, from 10^21 on. -/
  | exponent
  deriving DecidableEq, Repr

/-- `JSON.stringify` of a number. -/
def stringify : Integral → NumberText
  | .infinite _ => .null
  | .finite v =>
      if 10 ^ 21 ≤ v.natAbs then .exponent
      else if v < 0 then .digits (-(shortest v.natAbs : Int))
      else .digits (shortest v.natAbs)

/-- Decode into an int; null leaves the zero value. -/
def decodeInt : NumberText → Option Int
  | .null => some 0
  | .digits n => if -2 ^ 63 ≤ n ∧ n < 2 ^ 63 then some n else none
  | .exponent => none

/-- A row through JSON; what is undefined is left out. -/
def decodeRow (row : CSVImport.BulkImportRow) : Option BulkImportRow :=
  match (row.port.map stringify).elim (some 0) decodeInt with
  | none => none
  | some port => some
      { name := row.name
        type := row.type
        dnsName := row.dnsName.getD ""
        port := port
        ipAddress := row.ipAddress
        url := row.url
        scannerID := none
        notes := row.notes }

/-- `validRows`. -/
def validRows (lower : String → String) (text : String) : List ParsedRow :=
  (parseCSV lower text).filter fun row => decide (row.validationError = none)

/-- The rows of the request that `handleImport` sends, decoded. -/
def decodeRequest (lower : String → String) (text : String) : Option (List BulkImportRow) :=
  ((validRows lower text).map (·.data)).mapM decodeRow

/-- The request is decoded, and no row of it fails its check. -/
def RequestTaken (lower : String → String) (text : String) : Prop :=
  ∃ rows, decodeRequest lower text = some rows ∧
    ∀ row ∈ rows, validateBulkRow row.normalize = none

/-- An integer that comes through as an int. -/
def PortHeld (n : Int) : Prop :=
  n.natAbs < 2 ^ 63 - 512 ∨ 2 ^ 1024 - 2 ^ 970 ≤ n.natAbs

/-- The ports of the valid rows, as far as their texts start with an integer, come through. -/
def PortsHeld (lower : String → String) (text : String) : Prop :=
  ∀ row ∈ validRows lower text, ∀ n,
    (orUndefined (row.raw "port")).bind leadingInt = some n → PortHeld n

/-! ## §2. Ports. -/

theorem roundNat_lt_two_pow_63 {m : Nat} : roundNat m < 2 ^ 63 ↔ m < 2 ^ 63 - 512 := by
  rw [Doubles.roundNat_lt_iff (k := 2 ^ 63 - 513) (by decide +kernel) (by decide +kernel)]
  omega

theorem roundNat_lt_two_pow_1024 {m : Nat} :
    roundNat m < 2 ^ 1024 ↔ m < 2 ^ 1024 - 2 ^ 970 := by
  rw [Doubles.roundNat_lt_iff (k := 2 ^ 1024 - 2 ^ 970 - 1) (by decide +kernel)
    (by decide +kernel)]
  have hpos : 0 < 2 ^ 1024 - 2 ^ 970 := by decide +kernel
  omega

theorem decodeInt_digits_iff {n : Int} :
    (∃ port, decodeInt (.digits n) = some port) ↔ -2 ^ 63 ≤ n ∧ n < 2 ^ 63 := by
  show (∃ port, (if -2 ^ 63 ≤ n ∧ n < 2 ^ 63 then some n else none) = some port) ↔ _
  split
  · next hfits => exact ⟨fun _ => hfits, fun _ => ⟨n, rfl⟩⟩
  · next hfits => exact ⟨fun ⟨_, h⟩ => (by cases h), fun h => absurd h hfits⟩

/-- A double is decoded exactly if it is below 2^63. -/
theorem decodeInt_finite_iff {v : Int} (hv : roundNat v.natAbs = v.natAbs) :
    (∃ port, decodeInt (stringify (.finite v)) = some port) ↔ v.natAbs < 2 ^ 63 := by
  obtain ⟨hle, hlt⟩ := Doubles.shortest_le_iff hv
  by_cases hlarge : 10 ^ 21 ≤ v.natAbs
  · have htext : stringify (.finite v) = .exponent := if_pos hlarge
    rw [htext]
    refine ⟨fun ⟨_, h⟩ => (by cases h), fun h => ?_⟩
    omega
  · by_cases hneg : v < 0
    · have htext : stringify (.finite v) = .digits (-(shortest v.natAbs : Int)) :=
        (if_neg hlarge).trans (if_pos hneg)
      rw [htext, decodeInt_digits_iff, ← hle]
      omega
    · have htext : stringify (.finite v) = .digits (shortest v.natAbs) :=
        (if_neg hlarge).trans (if_neg hneg)
      rw [htext, decodeInt_digits_iff, ← hlt]
      omega

/-- **An integer is decoded again** exactly if it is below 2^63, or infinite, as a double. -/
theorem decodeInt_stringify_iff (n : Int) :
    (∃ port, decodeInt (stringify (ofInt n)) = some port) ↔ PortHeld n := by
  unfold PortHeld
  rw [← roundNat_lt_two_pow_63, ← Nat.not_lt, ← roundNat_lt_two_pow_1024, Nat.not_lt]
  unfold ofInt
  by_cases hinf : 2 ^ 1024 ≤ roundNat n.natAbs
  · rw [if_pos hinf]
    exact ⟨fun _ => Or.inr hinf, fun _ => ⟨0, rfl⟩⟩
  · rw [if_neg hinf, or_iff_left hinf]
    have hround := Doubles.roundNat_roundNat n.natAbs
    by_cases hneg : n < 0
    · rw [if_pos hneg, decodeInt_finite_iff (by rwa [Int.natAbs_neg, Int.natAbs_natCast]),
        Int.natAbs_neg, Int.natAbs_natCast]
    · rw [if_neg hneg, decodeInt_finite_iff (by rwa [Int.natAbs_natCast]), Int.natAbs_natCast]

/-! ## §3. Rows. -/

theorem ne_empty_of_orUndefined {v : Option String} {s : String} (h : orUndefined v = some s) :
    s ≠ "" := by
  unfold orUndefined at h
  split at h
  · split at h
    · cases h
    · next hne => exact Option.some.inj h ▸ hne
  · cases h

/-- A row and its data. -/
theorem data_of_mem {lower : String → String} {text : String} {row : ParsedRow}
    (h : row ∈ parseCSV lower text) :
    row.data = CSVImport.rowData lower row.raw ∧
      row.validationError = CSVImport.validationError row.data := by
  obtain ⟨line, -, headers, i, rfl⟩ := CSVImport.row_of_mem h
  exact ⟨rfl, rfl⟩

/-- The port of a row, if its text starts with an integer. -/
theorem rowData_port (lower : String → String) (raw : CSVImport.Raw) :
    (CSVImport.rowData lower raw).port =
      ((orUndefined (raw "port")).bind leadingInt).bind fun n =>
        if ofInt n = .finite 0 then none else some (ofInt n) := by
  show (if _ = Integral.finite 0 then none else some _) = _
  cases orUndefined (raw "port") with
  | none => rfl
  | some s =>
      cases hint : leadingInt s with
      | none => simp [CSVImport.parseInt, hint]
      | some n => simp [CSVImport.parseInt, hint]

/-- **The port of a row** is decoded exactly if its integer comes through. -/
theorem decode_port_iff (lower : String → String) (raw : CSVImport.Raw) :
    (∃ port,
      ((CSVImport.rowData lower raw).port.map stringify).elim (some 0) decodeInt = some port) ↔
      ∀ n, (orUndefined (raw "port")).bind leadingInt = some n → PortHeld n := by
  rw [rowData_port]
  cases (orUndefined (raw "port")).bind leadingInt with
  | none => exact ⟨fun _ n h => (by cases h), fun _ => ⟨0, rfl⟩⟩
  | some n =>
      simp only [Option.bind_some, Option.some.injEq, forall_eq']
      rw [← decodeInt_stringify_iff]
      split
      · next hzero =>
          rw [hzero]
          exact ⟨fun _ => ⟨0, by decide +kernel⟩, fun _ => ⟨0, rfl⟩⟩
      · rw [Option.map_some, Option.elim_some]

/-- A row is decoded if its port is. -/
theorem decodeRow_isSome_iff (row : CSVImport.BulkImportRow) :
    (∃ r, decodeRow row = some r) ↔
      ∃ port, (row.port.map stringify).elim (some 0) decodeInt = some port := by
  unfold decodeRow
  cases (row.port.map stringify).elim (some 0) decodeInt with
  | none => exact ⟨fun ⟨_, h⟩ => (by cases h), fun ⟨_, h⟩ => (by cases h)⟩
  | some port => exact ⟨fun _ => ⟨port, rfl⟩, fun _ => ⟨_, rfl⟩⟩

/-- What the dialog asks of a row. -/
theorem validationError_eq_none_iff {data : CSVImport.BulkImportRow} :
    CSVImport.validationError data = none ↔
      data.name ≠ "" ∧ data.type ∈ ["host", "saml", "manual"] ∧
        (data.type = "host" → data.dnsName ≠ none) ∧ (data.type = "saml" → data.url ≠ none) := by
  unfold CSVImport.validationError
  by_cases hname : data.name = ""
  · simp [hname]
  · by_cases htype : data.type ∈ ["host", "saml", "manual"]
    · rw [if_neg hname, if_neg (not_not.mpr htype), and_iff_right hname, and_iff_right htype]
      split
      · next hhost => simp [hhost.1, hhost.2]
      · next hhost =>
          split
          · next hsaml => simp [hsaml.1, hsaml.2]
          · next hsaml => exact ⟨fun _ => ⟨fun h h' => hhost ⟨h, h'⟩, fun h h' => hsaml ⟨h, h'⟩⟩,
              fun _ => rfl⟩
    · rw [if_neg hname, if_pos htype]
      exact ⟨fun h => (by cases h), fun h => absurd h.2.1 htype⟩

/-- What the server asks of a row. -/
theorem validateBulkRow_eq_none {row : BulkImportRow} (hname : row.name ≠ "")
    (htype : row.type ∈ ["host", "saml", "manual"])
    (hdns : row.type = "host" → row.dnsName ≠ "")
    (hurl : row.type = "saml" → row.url ≠ none ∧ row.url ≠ some "") :
    validateBulkRow row = none := by
  unfold validateBulkRow
  rw [if_neg hname]
  split
  · next hhost => rw [if_neg (hdns hhost)]
  · next hhost =>
      split
      · next hsaml => rw [if_neg (not_or.mpr (hurl hsaml))]
      · next hsaml =>
          split
          · rfl
          · next hmanual => simp_all

/-- What is checked of a row comes through as it is. -/
theorem decodeRow_fields {data : CSVImport.BulkImportRow} {r : BulkImportRow}
    (h : decodeRow data = some r) :
    r.name = data.name ∧ r.type = data.type ∧ r.dnsName = data.dnsName.getD "" ∧
      r.url = data.url := by
  unfold decodeRow at h
  split at h
  · cases h
  · cases h
    exact ⟨rfl, rfl, rfl, rfl⟩

/-- A type that is there is no default. -/
theorem normalize_type {row : BulkImportRow} (h : row.type ≠ "") : row.normalize.type = row.type :=
  if_neg h

/-- **The server finds no fault** with a row in which the dialog found none. -/
theorem validateBulkRow_of_decodeRow {lower : String → String} {raw : CSVImport.Raw}
    {r : BulkImportRow} (hvalid : CSVImport.validationError (CSVImport.rowData lower raw) = none)
    (hdecode : decodeRow (CSVImport.rowData lower raw) = some r) :
    validateBulkRow r.normalize = none := by
  obtain ⟨hname, htype, hdns, hurl⟩ := validationError_eq_none_iff.mp hvalid
  obtain ⟨hrname, hrtype, hrdns, hrurl⟩ := decodeRow_fields hdecode
  have htext : r.type ≠ "" := by
    intro hempty
    rw [← hrtype, hempty] at htype
    exact absurd htype (by decide)
  have hnormal : r.normalize.type = (CSVImport.rowData lower raw).type :=
    (normalize_type htext).trans hrtype
  refine validateBulkRow_eq_none (hrname ▸ hname) (hnormal ▸ htype) (fun hhost => ?_)
    (fun hsaml => ?_)
  · obtain ⟨s, hs⟩ := Option.ne_none_iff_exists'.mp (hdns (hnormal ▸ hhost))
    show r.dnsName ≠ ""
    rw [hrdns, hs]
    exact ne_empty_of_orUndefined hs
  · obtain ⟨s, hs⟩ := Option.ne_none_iff_exists'.mp (hurl (hnormal ▸ hsaml))
    show r.url ≠ none ∧ r.url ≠ some ""
    rw [hrurl, hs]
    exact ⟨Option.some_ne_none s, fun h => ne_empty_of_orUndefined hs (Option.some.inj h)⟩

/-- **What is sent is taken** exactly if the ports come through. -/
theorem requestTaken_iff (lower : String → String) (text : String) :
    RequestTaken lower text ↔ PortsHeld lower text := by
  have hrow : ∀ row ∈ validRows lower text,
      (∃ r, decodeRow row.data = some r) ↔
        ∀ n, (orUndefined (row.raw "port")).bind leadingInt = some n → PortHeld n := by
    intro row hrow
    obtain ⟨hdata, -⟩ := data_of_mem (List.mem_filter.mp hrow).1
    rw [decodeRow_isSome_iff, hdata, decode_port_iff]
  constructor
  · rintro ⟨rows, hrows, -⟩ row hmem
    rw [← hrow row hmem]
    -- its data was decoded with the others
    have hmap := mapM_eq_some_iff.mp hrows
    have hdecoded : decodeRow row.data ∈ rows.map some := by
      rw [← hmap]
      exact List.mem_map_of_mem (List.mem_map_of_mem hmem)
    obtain ⟨r, -, hr⟩ := List.mem_map.mp hdecoded
    exact ⟨r, hr.symm⟩
  · intro hports
    have hall : ∀ data ∈ (validRows lower text).map (·.data), ∃ r, decodeRow data = some r := by
      intro data hdata
      obtain ⟨row, hmem, rfl⟩ := List.mem_map.mp hdata
      exact (hrow row hmem).mpr (hports row hmem)
    obtain ⟨rows, hrows⟩ := exists_mapM_eq_some hall
    refine ⟨rows, hrows, fun r hr => ?_⟩
    have hdecoded : some r ∈ ((validRows lower text).map (·.data)).map decodeRow := by
      rw [mapM_eq_some_iff.mp hrows]
      exact List.mem_map_of_mem hr
    obtain ⟨data, hdata, hdecode⟩ := List.mem_map.mp hdecoded
    obtain ⟨row, hmem, rfl⟩ := List.mem_map.mp hdata
    obtain ⟨hparsed, hvalid⟩ := List.mem_filter.mp hmem
    obtain ⟨hdata, herror⟩ := data_of_mem hparsed
    rw [herror, hdata] at hvalid
    rw [hdata] at hdecode
    exact validateBulkRow_of_decodeRow (by simpa using hvalid) hdecode

/-! ## §4. The answer. -/

/-- A row of a request, with its number and what the database does for it. -/
structure Entry where
  rowNum : Nat
  row : BulkImportRow
  outcome : Insertion

/-- The rows of a request from the `i`th on. -/
def entries (outcome : Nat → Insertion) : Nat → List BulkImportRow → List Entry
  | _, [] => []
  | i, row :: rows => ⟨i + 1, row, outcome i⟩ :: entries outcome (i + 1) rows

def importEntry (db : DB) (e : Entry) : DB × BulkImportRowResult :=
  importRow db e.rowNum e.row e.outcome

/-- The answer accounts for the rows. -/
structure Accounts (rows : List BulkImportRow) (resp : BulkImportResponse) : Prop where
  numbered : resp.results.map (·.row) = List.range' 1 rows.length
  named : resp.results.map (·.name) = rows.map (·.name)
  /-- Each result has an id or an error. -/
  exclusive : ∀ r ∈ resp.results, r.id = none ↔ r.error ≠ none
  created : resp.created = resp.results.countP (·.id.isSome)
  failed : resp.failed = resp.results.countP (·.error.isSome)
  total : resp.created + resp.failed = rows.length

/-- A row that fails creates no endpoint, and the others go as they would without it. -/
def Harmless (db : DB) (es : List Entry) : Prop :=
  ∀ before e after, es = before ++ e :: after →
    (importEntry (sweep importEntry db before).1 e).2.error ≠ none →
      (importEntry (sweep importEntry db before).1 e).1 = (sweep importEntry db before).1 ∧
        (sweep importEntry db es).1 = (sweep importEntry db (before ++ after)).1 ∧
        (sweep importEntry db es).2.eraseIdx before.length =
          (sweep importEntry db (before ++ after)).2

/-- What BulkImport answers, and leaves in the tables. -/
def Reported (db : DB) (outcome : Nat → Insertion) (rows : List BulkImportRow) : Prop :=
  ∃ db' resp, bulkImport db outcome (some rows) = (db', .ok resp) ∧
    (db', resp.results) = sweep importEntry db (entries outcome 0 rows) ∧
      Accounts rows resp ∧ Harmless db (entries outcome 0 rows)

/-- `gen_random_uuid()` gives ids that no row has, and no two of them the same. -/
def Fresh (db : DB) (es : List Entry) : Prop :=
  (∀ e ∈ es, db.Unused e.outcome.id) ∧ (es.map (·.outcome.id)).Nodup

/-- An endpoint that is inserted is read back. -/
def ReadsBack (db : DB) (es : List Entry) : Prop :=
  ∀ e ∈ es, ∀ rec, importRecord e.row = .ok rec → db.InsertAccepted e.outcome rec →
    e.outcome.readBack = true

/-- The counters and the results after the results of some rows. -/
theorem foldl_add (rs : List BulkImportRowResult) (resp : BulkImportResponse) :
    rs.foldl BulkImportResponse.add resp =
      ⟨resp.created + rs.countP (fun r => r.error.isNone),
        resp.failed + rs.countP (·.error.isSome), resp.results ++ rs⟩ := by
  induction rs generalizing resp with
  | nil =>
      rw [List.append_nil]
      rfl
  | cons r rs ih =>
      rw [List.foldl_cons, ih, List.countP_cons, List.countP_cons]
      unfold BulkImportResponse.add
      cases hr : r.error with
      | none =>
          simp
          omega
      | some e =>
          simp
          omega

/-- **The loop answers each row.** -/
theorem bulkLoop_eq (outcome : Nat → Insertion) (rows : List BulkImportRow) :
    ∀ (i : Nat) (db : DB) (resp : BulkImportResponse),
      bulkLoop outcome i rows (db, resp) =
        ((sweep importEntry db (entries outcome i rows)).1,
          (sweep importEntry db (entries outcome i rows)).2.foldl BulkImportResponse.add resp) := by
  induction rows with
  | nil => exact fun _ _ _ => rfl
  | cons row rows ih =>
      intro i db resp
      rw [bulkLoop, ih]
      rfl

theorem bulkImport_eq (db : DB) (outcome : Nat → Insertion) {rows : List BulkImportRow}
    (hrows : rows ≠ []) :
    bulkImport db outcome (some rows) =
      ((sweep importEntry db (entries outcome 0 rows)).1,
        .ok ((sweep importEntry db (entries outcome 0 rows)).2.foldl BulkImportResponse.add
          ⟨0, 0, []⟩)) := by
  obtain ⟨row, rest, rfl⟩ := List.exists_cons_of_ne_nil hrows
  unfold bulkImport
  simp only [bulkLoop_eq]

/-- The result of a row: its number and name, and an id or an error. -/
theorem importEntry_result (db : DB) (e : Entry) :
    (importEntry db e).2.row = e.rowNum ∧ (importEntry db e).2.name = e.row.name ∧
      ((importEntry db e).2.id = none ↔ (importEntry db e).2.error ≠ none) := by
  unfold importEntry importRow
  cases importRecord e.row with
  | error errMsg => simp
  | ok rec =>
      dsimp only
      split <;> simp

theorem rowNum_entries (outcome : Nat → Insertion) (rows : List BulkImportRow) (i : Nat) :
    (entries outcome i rows).map (·.rowNum) = List.range' (i + 1) rows.length ∧
      (entries outcome i rows).map (·.row) = rows := by
  induction rows generalizing i with
  | nil => exact ⟨rfl, rfl⟩
  | cons row rows ih =>
      obtain ⟨hnum, hrow⟩ := ih (i + 1)
      rw [entries, List.map_cons, List.map_cons, hnum, hrow]
      exact ⟨rfl, rfl⟩

/-- **The answer accounts for the rows**, whatever the database does. -/
theorem accounts_sweep (db : DB) (outcome : Nat → Insertion) (rows : List BulkImportRow) :
    Accounts rows ((sweep importEntry db (entries outcome 0 rows)).2.foldl BulkImportResponse.add
      ⟨0, 0, []⟩) := by
  obtain ⟨hnum, hrow⟩ := rowNum_entries outcome rows 0
  have hlength : (sweep importEntry db (entries outcome 0 rows)).2.length = rows.length := by
    rw [length_sweep, ← List.length_map (fun e : Entry => e.row), hrow]
  have hrows := map_sweep (g := BulkImportRowResult.row) (h := Entry.rowNum)
    (fun u e => (importEntry_result u e).1) (entries outcome 0 rows) db
  have hnames := map_sweep (g := BulkImportRowResult.name) (h := fun e : Entry => e.row.name)
    (fun u e => (importEntry_result u e).2.1) (entries outcome 0 rows) db
  have hexclusive : ∀ r ∈ (sweep importEntry db (entries outcome 0 rows)).2,
      r.id = none ↔ r.error ≠ none := by
    intro r hr
    obtain ⟨e, -, u, rfl⟩ := mem_sweep hr
    exact (importEntry_result u e).2.2
  generalize (sweep importEntry db (entries outcome 0 rows)).2 = rs at *
  -- what has no error has an id
  have hids : rs.countP (fun r => r.error.isNone) = rs.countP (·.id.isSome) := by
    apply List.countP_congr
    intro r hr
    have hone := hexclusive r hr
    cases hid : r.id <;> cases herror : r.error <;> simp_all
  have hsum := List.length_eq_countP_add_countP (fun r : BulkImportRowResult => r.error.isSome)
    (l := rs)
  have hnone : rs.countP (fun r => decide ¬(r.error.isSome = true)) =
      rs.countP (fun r => r.error.isNone) := by
    apply List.countP_congr
    intro r _
    cases r.error <;> simp
  rw [foldl_add]
  refine ⟨?_, ?_, hexclusive, ?_, ?_, ?_⟩
  · exact hrows.trans hnum
  · rw [← hrow, List.map_map]
    exact hnames
  · show 0 + rs.countP (fun r => r.error.isNone) = rs.countP (·.id.isSome)
    omega
  · exact Nat.zero_add _
  · show 0 + rs.countP (fun r => r.error.isNone) + (0 + rs.countP (·.error.isSome)) = rows.length
    omega

/-! ## §5. Failing rows. -/

/-- A row that passes its check is inserted. -/
theorem importEntry_ok {e : Entry} {rec : EndpointRecord} (h : importRecord e.row = .ok rec)
    (db : DB) :
    (importEntry db e).1 = (db.insertRecord e.outcome rec).1 ∧
      ((importEntry db e).2.error = none ↔ ∃ id, (db.insertRecord e.outcome rec).2 = .ok id) := by
  rcases hins : db.insertRecord e.outcome rec with ⟨db', answer⟩
  unfold importEntry importRow
  cases answer with
  | ok id =>
      simp only [h, hins]
      exact ⟨trivial, fun _ => ⟨id, rfl⟩, fun _ => trivial⟩
  | error err =>
      simp only [h, hins]
      exact ⟨trivial, fun herror => (by cases herror), fun ⟨_, hok⟩ => (by cases hok)⟩

/-- An endpoint that is inserted is answered if it is read back. -/
theorem insertRecord_answer {db : DB} {o : Insertion} {rec : EndpointRecord}
    (haccepted : db.InsertAccepted o rec)
    (hinsert : db.insertEndpoint o.id rec = .ok (db.insertRecord o rec).1) :
    (∃ id, (db.insertRecord o rec).2 = .ok id) ↔ o.readBack = true := by
  have hanswer : (db.insertRecord o rec).2 = if o.readBack then .ok o.id else .error .failed := by
    unfold DB.insertRecord
    rw [if_pos ⟨haccepted.commits, haccepted.port⟩, hinsert]
  rw [hanswer]
  cases o.readBack with
  | true => exact ⟨fun _ => rfl, fun _ => ⟨o.id, rfl⟩⟩
  | false => exact ⟨fun ⟨_, h⟩ => (by cases h), fun h => (by cases h)⟩

/-- **A row that fails leaves the tables alone**, exactly if an endpoint that it inserts is
read back. -/
theorem importEntry_harmless_iff {db : DB} {e : Entry} (hid : db.Unused e.outcome.id) :
    ((importEntry db e).2.error ≠ none → (importEntry db e).1 = db) ↔
      ∀ rec, importRecord e.row = .ok rec → db.InsertAccepted e.outcome rec →
        e.outcome.readBack = true := by
  cases hrecord : importRecord e.row with
  | error errMsg =>
      refine ⟨fun _ rec h => (by cases h), fun _ _ => ?_⟩
      unfold importEntry importRow
      rw [hrecord]
  | ok rec =>
      obtain ⟨htables, hanswer⟩ := importEntry_ok hrecord db
      simp only [Except.ok.injEq, forall_eq']
      rw [htables, ne_eq, hanswer]
      obtain ⟨haccepted, hinsert⟩ | ⟨hrefused, hsame⟩ := DB.insertRecord_cases hid rec
      · -- the endpoint is there, which was not
        have hnew : (db.insertRecord e.outcome rec).1 ≠ db := by
          obtain ⟨-, -, hne, hmem, -, -⟩ := DB.insertEndpoint_ok hinsert
          intro heq
          have hthere := (hmem (DB.newEndpoint e.outcome.id rec)).mpr (Or.inr rfl)
          rw [heq] at hthere
          exact hne _ hthere rfl
        rw [insertRecord_answer haccepted hinsert]
        refine ⟨fun h _ => ?_, fun h hfailed => absurd (h haccepted) hfailed⟩
        by_contra hfailed
        exact hnew (h hfailed)
      · exact ⟨fun _ haccepted => absurd haccepted hrefused, fun _ _ => hsame⟩

/-- The rows before one leave its id unused, and the scanners as they are. -/
theorem fresh_sweep {e : Entry} {after : List Entry} (before : List Entry) :
    ∀ {db : DB}, Fresh db (before ++ e :: after) →
      (sweep importEntry db before).1.Unused e.outcome.id ∧
        (sweep importEntry db before).1.scanners = db.scanners := by
  induction before with
  | nil => exact fun h => ⟨h.1 e List.mem_cons_self, rfl⟩
  | cons b before ih =>
      intro db h
      obtain ⟨hunused, hnodup⟩ := h
      have hb : db.Unused b.outcome.id := hunused b List.mem_cons_self
      obtain ⟨-, -, hscanners, hkeep⟩ := HostPorts.allValid_written hb (importRecord b.row)
      rw [← HostPorts.importRow_fst db b.rowNum b.row b.outcome] at hscanners hkeep
      obtain ⟨hne, hrest⟩ := List.nodup_cons.mp hnodup
      have hfresh : Fresh (importEntry db b).1 (before ++ e :: after) := by
        refine ⟨fun e' he' => hkeep _ (fun heq => hne ?_) (hunused e' (List.mem_cons_of_mem b he')),
          hrest⟩
        exact List.mem_map.mpr ⟨e', he', heq⟩
      obtain ⟨hid, hsame⟩ := ih hfresh
      exact ⟨hid, hsame.trans hscanners⟩

/-- **Failing rows are harmless** exactly if every endpoint that is inserted is read back. -/
theorem harmless_iff {db : DB} {es : List Entry} (hfresh : Fresh db es) :
    Harmless db es ↔ ReadsBack db es := by
  constructor
  · intro h e he rec hrec haccepted
    obtain ⟨before, after, hes⟩ := List.append_of_mem he
    obtain ⟨hid, hscanners⟩ := fresh_sweep before (hes ▸ hfresh)
    exact (importEntry_harmless_iff hid).mp (fun herror => (h before e after hes herror).1) rec hrec
      ((HostPorts.insertAccepted_congr hscanners e.outcome rec).mpr haccepted)
  · intro h before e after hes herror
    obtain ⟨hid, hscanners⟩ := fresh_sweep before (hes ▸ hfresh)
    have hsame : (importEntry (sweep importEntry db before).1 e).1 =
        (sweep importEntry db before).1 := by
      refine (importEntry_harmless_iff hid).mpr (fun rec hrec haccepted => ?_) herror
      exact h e (hes ▸ List.mem_append_right before List.mem_cons_self) rec hrec
        ((HostPorts.insertAccepted_congr hscanners e.outcome rec).mp haccepted)
    rw [hes]
    exact ⟨hsame, sweep_skip hsame after⟩

theorem reported_iff {db : DB} {outcome : Nat → Insertion} {rows : List BulkImportRow}
    (hrows : rows ≠ []) (hfresh : Fresh db (entries outcome 0 rows)) :
    Reported db outcome rows ↔ ReadsBack db (entries outcome 0 rows) := by
  rw [← harmless_iff hfresh]
  constructor
  · rintro ⟨db', resp, -, -, -, hharmless⟩
    exact hharmless
  · intro hharmless
    refine ⟨_, _, bulkImport_eq db outcome hrows, ?_, accounts_sweep db outcome rows, hharmless⟩
    rw [foldl_add]
    rfl

/-- **The contract of the import**: what is sent is taken exactly if its ports come through,
and what is answered accounts for it exactly if what is inserted is read back. -/
theorem bulkContract_iff (lower : String → String) :
    (∀ text, RequestTaken lower text ↔ PortsHeld lower text) ∧
      ∀ (db : DB) (outcome : Nat → Insertion) (rows : List BulkImportRow), rows ≠ [] →
        Fresh db (entries outcome 0 rows) →
          (Reported db outcome rows ↔ ReadsBack db (entries outcome 0 rows)) :=
  ⟨requestTaken_iff lower, fun _ _ _ => reported_iff⟩

/-- No endpoints. -/
def noEndpoints : DB where
  endpoints := Table.empty
  hosts := Table.empty
  saml := Table.empty
  scanners := Table.empty

/-- One row. -/
def manualRow : BulkImportRow := ⟨"ca", "manual", "", 0, none, none, none, none⟩

/-- The database inserts it. -/
def inserts (readBack : Bool) (i : Nat) : Insertion := ⟨toString i, true, readBack⟩

theorem fresh_manualRow (readBack : Bool) :
    Fresh noEndpoints (entries (inserts readBack) 0 [manualRow]) :=
  ⟨fun e he => by rw [List.mem_singleton.mp he]; exact ⟨rfl, rfl, rfl⟩, List.nodup_singleton _⟩

/-- **Both halves fail**: for a port of twenty digits, and for an endpoint that is not read back. -/
theorem bulkContract_broken :
    (¬ ∀ (lower : String → String) (text : String), RequestTaken lower text) ∧
      ¬ ∀ (db : DB) (outcome : Nat → Insertion) (rows : List BulkImportRow), rows ≠ [] →
        Fresh db (entries outcome 0 rows) → Reported db outcome rows := by
  constructor
  · intro h
    obtain ⟨rows, hrows, -⟩ :=
      h id "name,dns_name,port\nweb,web.example.com,99999999999999999999\n"
    have hnone : decodeRequest id
        "name,dns_name,port\nweb,web.example.com,99999999999999999999\n" = none := by
      decide +kernel
    rw [hnone] at hrows
    cases hrows
  · intro h
    have hreads := (reported_iff (List.cons_ne_nil _ _) (fresh_manualRow false)).mp
      (h _ _ _ (List.cons_ne_nil _ _) (fresh_manualRow false))
    have hread := hreads _ List.mem_cons_self _ rfl
      ⟨rfl, by decide, fun _ h => (by cases h), fun h => absurd h (by decide)⟩
    cases hread

/-- A row that is stored, one without a host name, one that the database refuses, and one more. -/
def mixedRows : List BulkImportRow :=
  [manualRow, ⟨"web", "host", "", 443, none, none, none, none⟩,
    ⟨"mail", "host", "mail.example.com", 25, none, none, none, none⟩,
    ⟨"shop", "host", "shop.example.com", 443, some "10.0.0.1", none, none, none⟩]

/-- What the database does for them. -/
def refusesThird (i : Nat) : Insertion := ⟨toString i, decide (i ≠ 2), true⟩

/-- Two rows are created and two have failed, and the answer says so. -/
theorem bulkContract_iff_mixedRows :
    Reported noEndpoints refusesThird mixedRows
      ∧ (bulkImport noEndpoints refusesThird (some mixedRows)).2 = .ok ⟨2, 2,
          [⟨1, "ca", some "0", none⟩,
            ⟨2, "web", none, some "dnsName is required for type host"⟩,
            ⟨3, "mail", none, some "failed to create endpoint"⟩, ⟨4, "shop", some "3", none⟩]⟩ := by
  have hids : (entries refusesThird 0 mixedRows).map (·.outcome.id) = ["0", "1", "2", "3"] := by
    decide
  have hfresh : Fresh noEndpoints (entries refusesThird 0 mixedRows) :=
    ⟨fun _ _ => ⟨rfl, rfl, rfl⟩, by rw [hids]; decide⟩
  have hreads : ReadsBack noEndpoints (entries refusesThird 0 mixedRows) := by
    intro e he _ _ _
    simp only [mixedRows, entries, List.mem_cons, List.not_mem_nil, or_false] at he
    rcases he with rfl | rfl | rfl | rfl <;> rfl
  exact ⟨((bulkContract_iff id).2 noEndpoints refusesThird mixedRows (List.cons_ne_nil _ _)
    hfresh).mpr hreads, rfl⟩

end TLSentinel.Endpoints.BulkContract
