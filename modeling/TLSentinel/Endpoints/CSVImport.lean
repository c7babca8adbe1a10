/-
  TLSentinel.Endpoints.CSVImport
  ──────────────────────────────
  **WHAT THE IMPORT DIALOG READS FROM A FILE.**

  `parseCSV` of `web/src/components/BulkImportDialog.tsx`: the lines of a text, their
  fields, and a row of the import for each line below the first.  Lines are cut before
  quotes are looked at, fields are trimmed, and rows are numbered after blank lines are
  left out.

  `parseCSV_decodes`: records that are each on a line of their own, and not a blank one,
  come back in their order, each field trimmed, and numbered by their lines as far as no
  blank line stands before them.  `roundTrips_iff`: a file comes back as it was exactly
  if its records are such, no field has white space around it, and no blank line stands
  before a record.
-/
import Mathlib.Data.List.DropRight
import Mathlib.Data.List.Nodup
import TLSentinel.Base
import TLSentinel.Foundation.CSV
import TLSentinel.Foundation.Doubles

namespace TLSentinel.Endpoints.CSVImport

open Foundation Foundation.CSV
open Foundation.Doubles (Integral)

/-! ## §1. Lines and fields. -/

/-- White space in ECMAScript: what `trim` removes, and `\s` matches. -/
def jsSpace (c : Char) : Bool :=
  c.toNat ∈ [0x09, 0x0A, 0x0B, 0x0C, 0x0D, 0x20, 0xA0, 0x1680, 0x2028, 0x2029, 0x202F, 0x205F,
      0x3000, 0xFEFF]
    || (decide (0x2000 ≤ c.toNat) && decide (c.toNat ≤ 0x200A))

/-- `String.prototype.trim`. -/
def trim (s : List Char) : List Char :=
  (s.dropWhile jsSpace).rdropWhile jsSpace

/-- The loop of `parseLine`: the rest of the line, `inQuotes`, `cur` and `fields`. -/
def parseLoop : List Char → Bool → List Char → List String → List String
  | [], _, cur, fields => fields ++ [String.ofList (trim cur)]
  | '"' :: '"' :: line, true, cur, fields => parseLoop line true (cur ++ ['"']) fields
  | '"' :: line, inQuotes, cur, fields => parseLoop line (!inQuotes) cur fields
  | ',' :: line, false, cur, fields =>
      parseLoop line false [] (fields ++ [String.ofList (trim cur)])
  | ch :: line, inQuotes, cur, fields => parseLoop line inQuotes (cur ++ [ch]) fields

/-- `parseLine`. -/
def parseLine (line : List Char) : List String := parseLoop line false [] []

/-- `replace(/\s+/g, '_')`; `inRun` is whether white space was just replaced. -/
def underscores : Bool → List Char → List Char
  | _, [] => []
  | inRun, c :: cs =>
      if jsSpace c then
        if inRun then underscores true cs else '_' :: underscores true cs
      else c :: underscores false cs

/-- A header, from its field. -/
def headerName (lower : String → String) (h : String) : String :=
  String.ofList (underscores false (lower h).toList)

/-! ## §2. Rows. -/

/-- A row by its headers; `none` is undefined. -/
abbrev Raw := String → Option String

/-- `raw[key] = value`: the prototype of an object takes no text. -/
def assign (raw : Raw) (key value : String) : Raw :=
  if key = "__proto__" then raw else Function.update raw key (some value)

/-- The loop over the headers, with the values from there on. -/
def assignAll (raw : Raw) : List String → List String → Raw
  | [], _ => raw
  | h :: headers, values =>
      assignAll (assign raw h (values.head?.getD "")) headers values.tail

/-- The integer that a text starts with, after white space. -/
def leadingInt (s : String) : Option Int :=
  let magnitude (cs : List Char) : Option Nat :=
    match cs.takeWhile Char.isDigit with
    | [] => none
    | ds => some (ds.foldl (fun n d => 10 * n + (d.toNat - '0'.toNat)) 0)
  match s.toList.dropWhile jsSpace with
  | '-' :: cs => (magnitude cs).map fun n => -(n : Int)
  | '+' :: cs => (magnitude cs).map fun n => (n : Int)
  | cs => (magnitude cs).map fun n => (n : Int)

/-- `parseInt(s, 10)`; `none` is NaN. -/
def parseInt (s : String) : Option Integral := (leadingInt s).map Doubles.ofInt

/-- `v || undefined`. -/
def orUndefined (v : Option String) : Option String :=
  match v with
  | some s => if s = "" then none else some s
  | none => none

/-- `BulkImportRow` of the client, without the scanner, which a file does not name. -/
structure BulkImportRow where
  name : String
  type : String
  dnsName : Option String
  port : Option Integral
  ipAddress : Option String
  url : Option String
  notes : Option String
  deriving DecidableEq, Repr

structure ParsedRow where
  rowNum : Nat
  raw : Raw
  data : BulkImportRow
  validationError : Option String

/-- The data of a row. -/
def rowData (lower : String → String) (raw : Raw) : BulkImportRow :=
  let portRaw : Option Integral :=
    match orUndefined (raw "port") with
    | some s => parseInt s
    | none => some (.finite 0)
  let port := portRaw.getD (.finite 0)
  { name := (raw "name").getD ""
    type := lower ((orUndefined (raw "type")).getD "host")
    dnsName := orUndefined (raw "dns_name")
    port := if port = .finite 0 then none else some port
    ipAddress := orUndefined (raw "ip_address")
    url := orUndefined (raw "url")
    notes := orUndefined (raw "notes") }

/-- `validationError`. -/
def validationError (data : BulkImportRow) : Option String :=
  if data.name = "" then some "name is required"
  else if data.type ∉ ["host", "saml", "manual"] then
    some ("unknown type \"" ++ data.type ++ "\"")
  else if data.type = "host" ∧ data.dnsName = none then some "dns_name is required for host"
  else if data.type = "saml" ∧ data.url = none then some "url is required for saml"
  else none

/-- The row of the `i`th line below the headers. -/
def parseRow (lower : String → String) (headers : List String) (i : Nat) (line : List Char) :
    ParsedRow :=
  let raw := assignAll (fun _ => none) headers (parseLine line)
  let data := rowData lower raw
  ⟨i + 2, raw, data, validationError data⟩

/-- The text without a byte order mark. -/
def stripBOM : List Char → List Char
  | '\uFEFF' :: cs => cs
  | cs => cs

/-- The lines that are not blank. -/
def filledLines (text : List Char) : List (List Char) :=
  (splitLines (stripBOM text)).filter fun l => decide (trim l ≠ [])

/-- `parseCSV`. -/
def parseCSV (lower : String → String) (text : String) : List ParsedRow :=
  match filledLines text.toList with
  | header :: line :: lines =>
      (line :: lines).mapIdx (parseRow lower ((parseLine header).map (headerName lower)))
  | _ => []

example :
    (parseCSV (fun s => s) "name,type\n\"a \"\"b\"\"\", saml \n").map (fun row => row.data.name) =
      ["a \"b\""] := by decide

/-! ## §3. Trimming. -/

theorem trim_eq_nil_iff {s : List Char} : trim s = [] ↔ ∀ c ∈ s, jsSpace c = true := by
  unfold trim
  rw [List.rdropWhile_eq_nil_iff]
  constructor
  · intro h
    apply List.dropWhile_eq_nil_iff.mp
    -- what is left would begin with no white space
    have hhead := List.head?_dropWhile_not jsSpace s
    cases hrest : s.dropWhile jsSpace with
    | nil => rfl
    | cons c cs =>
        rw [hrest] at hhead h
        have hc : jsSpace c = true := h c List.mem_cons_self
        simp [hc] at hhead
  · intro h c hc
    exact h c ((List.dropWhile_sublist _).mem hc)

/-- A text that begins with no white space. -/
theorem dropWhile_of_head? {s : List Char} (h : ∀ c, s.head? = some c → jsSpace c = false) :
    s.dropWhile jsSpace = s := by
  cases s with
  | nil => rfl
  | cons c s => rw [List.dropWhile_cons_of_neg (by simp [h c rfl])]

theorem jsSpace_of_head?_trim {s : List Char} {c : Char} (hc : (trim s).head? = some c) :
    jsSpace c = false := by
  -- it begins as what was left of the text
  obtain ⟨rest, hrest⟩ := List.rdropWhile_prefix jsSpace (s.dropWhile jsSpace)
  have hnot := List.head?_dropWhile_not jsSpace s
  rw [← hrest, List.head?_append, show List.rdropWhile jsSpace _ = trim s from rfl, hc] at hnot
  simpa using hnot

theorem trim_trim (s : List Char) : trim (trim s) = trim s := by
  show ((trim s).dropWhile jsSpace).rdropWhile jsSpace = trim s
  rw [dropWhile_of_head? fun c hc => jsSpace_of_head?_trim hc]
  exact List.rdropWhile_idempotent jsSpace (s.dropWhile jsSpace)

theorem mem_of_mem_trim {s : List Char} {c : Char} (h : c ∈ trim s) : c ∈ s :=
  (List.dropWhile_sublist jsSpace).mem ((List.rdropWhile_prefix jsSpace _).mem h)

theorem trim_of_noSpace {s : List Char} (h : ∀ c ∈ s, jsSpace c = false) : trim s = s := by
  unfold trim
  rw [dropWhile_of_head? fun c hc => h c (List.mem_of_mem_head? hc)]
  rw [List.rdropWhile_eq_self_iff]
  intro hne
  simp [h _ (List.getLast_mem hne)]

/-! ## §4. The fields of a line. -/

/-- A character that is no quote, and no comma outside of quotes. -/
theorem parseLoop_cons {c : Char} {inQuotes : Bool} (hquote : c ≠ '"')
    (hcomma : c = ',' → inQuotes = true) (line cur : List Char) (fields : List String) :
    parseLoop (c :: line) inQuotes cur fields =
      parseLoop line inQuotes (cur ++ [c]) fields := by
  rw [parseLoop]
  · exact hquote
  · exact fun _ _ h _ => hquote h
  · rintro rfl h
    cases hcomma h

/-- A quote that is not doubled. -/
theorem parseLoop_quote {inQuotes : Bool} {line : List Char}
    (hnext : inQuotes = true → line.head? ≠ some '"') (cur : List Char) (fields : List String) :
    parseLoop ('"' :: line) inQuotes cur fields = parseLoop line (!inQuotes) cur fields := by
  rw [parseLoop]
  rintro rest hquotes rfl
  exact hnext hquotes rfl

/-- **In quotes**, up to the quote that ends them. -/
theorem parseLoop_escape {rest : List Char} (hrest : rest.head? ≠ some '"') (v : List Char) :
    ∀ (cur : List Char) (fields : List String),
      parseLoop (escape v ++ '"' :: rest) true cur fields =
        parseLoop rest false (cur ++ v) fields := by
  induction v with
  | nil =>
      intro cur fields
      rw [List.append_nil]
      exact parseLoop_quote (fun _ => hrest) cur fields
  | cons c v ih =>
      intro cur fields
      by_cases hc : c = '"'
      · rw [hc]
        show parseLoop (escape v ++ '"' :: rest) true (cur ++ ['"']) fields = _
        rw [ih, List.append_assoc]
        rfl
      · have hescape : escape (c :: v) = c :: escape v := if_neg hc
        rw [hescape, List.cons_append, parseLoop_cons hc fun _ => rfl, ih, List.append_assoc]
        rfl

/-- Characters that are no commas and no quotes. -/
theorem parseLoop_append {v : List Char} (rest : List Char) (hv : ∀ c ∈ v, c ≠ ',' ∧ c ≠ '"') :
    ∀ (cur : List Char) (fields : List String),
      parseLoop (v ++ rest) false cur fields = parseLoop rest false (cur ++ v) fields := by
  induction v with
  | nil =>
      intro cur fields
      rw [List.append_nil]
      rfl
  | cons c v ih =>
      intro cur fields
      obtain ⟨hcomma, hquote⟩ := hv c List.mem_cons_self
      rw [List.cons_append, parseLoop_cons hquote fun h => absurd h hcomma,
        ih fun d hd => hv d (List.mem_cons_of_mem c hd), List.append_assoc]
      rfl

/-- **A field**, quoted or not. -/
theorem parseLoop_field (f : Field) {rest : List Char} (hrest : rest.head? ≠ some '"')
    (fields : List String) :
    parseLoop (f.text ++ rest) false [] fields = parseLoop rest false f.value fields := by
  unfold Field.text
  split
  · rw [List.cons_append, List.append_assoc]
    show parseLoop ('"' :: (escape f.value ++ '"' :: rest)) false [] fields = _
    rw [parseLoop_quote fun h => (by cases h)]
    exact parseLoop_escape hrest f.value [] fields
  · next hquoted =>
      have hbare := f.bare (by simpa using hquoted)
      exact parseLoop_append rest (fun c hc => ⟨(hbare c hc).1, (hbare c hc).2.1⟩) [] fields

/-- A field as it is read. -/
def readField (f : Field) : String := String.ofList (trim f.value)

theorem head?_othersText (fs : List Field) : (othersText fs).head? ≠ some '"' := by
  cases fs <;> simp [othersText]

/-- The fields after one that is read. -/
theorem parseLoop_others (fs : List Field) :
    ∀ (cur : List Char) (fields : List String),
      parseLoop (othersText fs) false cur fields =
        fields ++ String.ofList (trim cur) :: fs.map readField := by
  induction fs with
  | nil => exact fun _ _ => rfl
  | cons f fs ih =>
      intro cur fields
      calc parseLoop (othersText (f :: fs)) false cur fields
          = parseLoop (f.text ++ othersText fs) false []
              (fields ++ [String.ofList (trim cur)]) := rfl
        _ = parseLoop (othersText fs) false f.value (fields ++ [String.ofList (trim cur)]) :=
            parseLoop_field f (head?_othersText fs) _
        _ = fields ++ String.ofList (trim cur) :: (f :: fs).map readField := by
            rw [ih, List.append_assoc]
            rfl

/-- **The fields of a record** are read from its line, each trimmed. -/
theorem parseLine_record (r : Record) : parseLine r.text = r.fields.map readField := by
  unfold parseLine Record.text
  rw [parseLoop_field r.first (head?_othersText r.others), parseLoop_others]
  rfl

/-! ## §5. The values by their headers. -/

theorem assignAll_of_not_mem {headers : List String} {h : String} (hh : h ∉ headers) :
    ∀ (raw : Raw) (values : List String), assignAll raw headers values h = raw h := by
  induction headers with
  | nil => exact fun _ _ => rfl
  | cons g headers ih =>
      intro raw values
      obtain ⟨hne, hrest⟩ := not_or.mp (mt List.mem_cons.mpr hh)
      rw [assignAll, ih hrest]
      unfold assign
      split
      · rfl
      · exact Function.update_of_ne hne _ raw

/-- **Each header has its value**, unless it is the prototype. -/
theorem assignAll_getElem {headers : List String} (hnodup : headers.Nodup)
    (hproto : "__proto__" ∉ headers) :
    ∀ (raw : Raw) (values : List String) {j : Nat} {h v : String},
      headers[j]? = some h → values[j]? = some v → assignAll raw headers values h = some v := by
  induction headers with
  | nil =>
      intro raw values j h v hj
      cases hj
  | cons g headers ih =>
      intro raw values j h v hj hv
      obtain ⟨hg, hrest⟩ := List.nodup_cons.mp hnodup
      obtain ⟨hne, hproto'⟩ := not_or.mp (mt List.mem_cons.mpr hproto)
      cases values with
      | nil => cases hv
      | cons w values =>
          cases j with
          | zero =>
              cases hj
              cases hv
              rw [assignAll, assignAll_of_not_mem hg, assign, if_neg (Ne.symm hne)]
              exact Function.update_self _ _ raw
          | succ j =>
              rw [assignAll]
              exact ih hrest hproto' _ values hj hv

/-- The prototype never has a value. -/
theorem assignAll_proto (headers : List String) :
    ∀ (raw : Raw) (values : List String), raw "__proto__" = none →
      assignAll raw headers values "__proto__" = none := by
  induction headers with
  | nil => exact fun _ _ h => h
  | cons g headers ih =>
      intro raw values h
      rw [assignAll]
      apply ih
      unfold assign
      split
      · exact h
      · next hne => rw [Function.update_of_ne (Ne.symm hne), h]

/-! ## §6. Files. -/

/-- The text of a field. -/
def fieldName (f : Field) : String := String.ofList f.value

/-- A table: different names in lower case without white space, and below them records as wide
as they are. -/
structure IsTable (lower : String → String) (f : File) : Prop where
  different : (f.header.fields.map Field.value).Nodup
  nonempty : ∀ h ∈ f.header.fields, h.value ≠ []
  lowerCase : ∀ h ∈ f.header.fields, lower (fieldName h) = fieldName h
  noSpace : ∀ h ∈ f.header.fields, ∀ c ∈ h.value, jsSpace c = false
  widths : ∀ p ∈ f.records, p.record.fields.length = f.header.fields.length
  someRecord : f.records ≠ []

/-- Every record is on a line of its own, which is not a blank one. -/
structure OwnLines (f : File) : Prop where
  oneLine : ∀ p ∈ f.records, p.record.OneLine
  filled : ∀ p ∈ f.records, trim p.record.text ≠ []

theorem underscores_of_noSpace {cs : List Char} (h : ∀ c ∈ cs, jsSpace c = false) (inRun : Bool) :
    underscores inRun cs = cs := by
  induction cs generalizing inRun with
  | nil => rfl
  | cons c cs ih =>
      have hc : jsSpace c = false := h c List.mem_cons_self
      rw [underscores, if_neg (by simp [hc]), ih fun d hd => h d (List.mem_cons_of_mem c hd)]

/-- A name of the table is read as it is. -/
theorem headerName_readField {lower : String → String} {h : Field}
    (hlower : lower (fieldName h) = fieldName h) (hspace : ∀ c ∈ h.value, jsSpace c = false) :
    headerName lower (readField h) = fieldName h := by
  have hread : readField h = fieldName h := congrArg String.ofList (trim_of_noSpace hspace)
  unfold headerName
  rw [hread, hlower]
  unfold fieldName
  rw [String.toList_ofList, underscores_of_noSpace hspace]

section

variable {lower : String → String} {f : File}

theorem IsTable.oneLine (ht : IsTable lower f) : f.header.OneLine := by
  intro h hh hlf
  have hspace := ht.noSpace h hh _ hlf
  exact absurd hspace (by decide)

/-- The line of the names is no blank one. -/
theorem IsTable.filled (ht : IsTable lower f) : trim f.header.text ≠ [] := by
  intro hblank
  have hfirst : f.header.first ∈ f.header.fields := List.mem_cons_self
  obtain ⟨c, hc⟩ := List.exists_mem_of_ne_nil _ (ht.nonempty _ hfirst)
  have hspace : jsSpace c = true := trim_eq_nil_iff.mp hblank c
    (List.mem_append_left _ (mem_text_of_mem_value hc))
  rw [ht.noSpace _ hfirst c hc] at hspace
  cases hspace

/-- The names do not begin with a byte order mark, which is white space. -/
theorem IsTable.head?_body (ht : IsTable lower f) : f.body.head? ≠ some '\uFEFF' := by
  have hfirst : f.header.first ∈ f.header.fields := List.mem_cons_self
  obtain ⟨c, cs, hvalue⟩ := List.exists_cons_of_ne_nil (ht.nonempty _ hfirst)
  have hc : jsSpace c = false := ht.noSpace _ hfirst c (by rw [hvalue]; exact List.mem_cons_self)
  unfold File.body Record.text Field.text
  split
  · simp
  · rw [hvalue]
    intro hbom
    have hc' : c = '\uFEFF' := Option.some.inj hbom
    rw [hc'] at hc
    exact absurd hc (by decide)

theorem stripBOM_of_head? {cs : List Char} (h : cs.head? ≠ some '\uFEFF') : stripBOM cs = cs := by
  unfold stripBOM
  split
  · exact absurd rfl h
  · rfl

theorem stripBOM_text (ht : IsTable lower f) : stripBOM f.text = f.body := by
  unfold File.text
  split
  · rfl
  · exact stripBOM_of_head? ht.head?_body

/-- **The lines that are read** are those of the names and of the records, blank ones aside. -/
theorem filledLines_text (ht : IsTable lower f) (hone : ∀ p ∈ f.records, p.record.OneLine) :
    filledLines f.text = f.header.text ::
      (f.records.map fun p => p.record.text).filter fun l => decide (trim l ≠ []) := by
  unfold filledLines
  rw [stripBOM_text ht, File.lines_eq ht.oneLine hone,
    List.filter_cons_of_pos (by simpa using ht.filled)]
  exact congrArg _ (filter_lines (by decide) _ _)

theorem filter_filled (hown : OwnLines f) :
    ((f.records.map fun p => p.record.text).filter fun l => decide (trim l ≠ [])) =
      f.records.map fun p => p.record.text := by
  rw [List.filter_eq_self]
  intro l hl
  obtain ⟨p, hp, rfl⟩ := List.mem_map.mp hl
  simpa using hown.filled p hp

/-- **The rows of a file.** -/
theorem parseCSV_text (ht : IsTable lower f) (hown : OwnLines f) :
    parseCSV lower (String.ofList f.text) =
      (f.records.map fun p => p.record.text).mapIdx
        (parseRow lower (f.header.fields.map fieldName)) := by
  have hnames : (parseLine f.header.text).map (headerName lower) =
      f.header.fields.map fieldName := by
    rw [parseLine_record, List.map_map]
    exact List.map_congr_left fun h hh =>
      headerName_readField (ht.lowerCase h hh) (ht.noSpace h hh)
  unfold parseCSV
  rw [String.toList_ofList, filledLines_text ht hown.oneLine, filter_filled hown, ← hnames]
  cases hrecords : f.records with
  | nil => exact absurd hrecords ht.someRecord
  | cons p records => rfl

/-- The row of a record. -/
theorem row_of_getElem? (ht : IsTable lower f) (hown : OwnLines f) {i : Nat} {row : ParsedRow}
    {p : Placed} (hrow : (parseCSV lower (String.ofList f.text))[i]? = some row)
    (hp : f.records[i]? = some p) :
    row.rowNum = i + 2 ∧ row.raw = assignAll (fun _ => none) (f.header.fields.map fieldName)
      (p.record.fields.map readField) := by
  rw [parseCSV_text ht hown, List.getElem?_mapIdx, List.getElem?_map, hp] at hrow
  cases hrow
  exact ⟨rfl, by rw [← parseLine_record]; rfl⟩

/-- The row has the fields of the record, each under its name. -/
def HasFields (f : File) (read : Field → String) (row : ParsedRow) (p : Placed) : Prop :=
  ∀ (j : Nat) (h v : Field), f.header.fields[j]? = some h → p.record.fields[j]? = some v →
    row.raw (fieldName h) = some (read v)

/-- **Rows and records**, one for one. -/
theorem length_rows (ht : IsTable lower f) (hown : OwnLines f) :
    (parseCSV lower (String.ofList f.text)).length = f.records.length := by
  rw [parseCSV_text ht hown, List.length_mapIdx, List.length_map]

/-- **The row of a record** has its fields, trimmed. -/
theorem hasFields_row (ht : IsTable lower f) (hown : OwnLines f)
    (hproto : ∀ h ∈ f.header.fields, fieldName h ≠ "__proto__") {i : Nat} {row : ParsedRow}
    {p : Placed} (hrow : (parseCSV lower (String.ofList f.text))[i]? = some row)
    (hp : f.records[i]? = some p) : HasFields f readField row p := by
  intro j h v hh hv
  rw [(row_of_getElem? ht hown hrow hp).2]
  have hdifferent : (f.header.fields.map fieldName).Nodup := by
    have hvalues := List.Nodup.map (fun _ _ => String.ofList_injective) ht.different
    rwa [List.map_map] at hvalues
  have hnames : "__proto__" ∉ f.header.fields.map fieldName := by
    intro hmem
    obtain ⟨g, hg, hgname⟩ := List.mem_map.mp hmem
    exact hproto g hg hgname
  have hname : (f.header.fields.map fieldName)[j]? = some (fieldName h) := by
    rw [List.getElem?_map, hh]
    rfl
  have hvalue : (p.record.fields.map readField)[j]? = some (readField v) := by
    rw [List.getElem?_map, hv]
    rfl
  exact assignAll_getElem hdifferent hnames _ _ hname hvalue

/-- **Its number** is that of its line, less the blank ones before it. -/
theorem rowNum_row (ht : IsTable lower f) (hown : OwnLines f) {i : Nat} {row : ParsedRow}
    {p : Placed} (hrow : (parseCSV lower (String.ofList f.text))[i]? = some row)
    (hp : f.records[i]? = some p) : p.line = row.rowNum + p.blanksBefore := by
  rw [(row_of_getElem? ht hown hrow hp).1, File.line_eq ht.oneLine hown.oneLine hp]

/-- **What comes back of a table** whose records are on lines of their own, and which does not
name the prototype: each record in its order, with its fields trimmed; its line is the row's
number if no blank line stands before it. -/
theorem parseCSV_decodes (ht : IsTable lower f) (hown : OwnLines f)
    (hproto : ∀ h ∈ f.header.fields, fieldName h ≠ "__proto__") :
    (parseCSV lower (String.ofList f.text)).length = f.records.length ∧
      ∀ (i : Nat) (row : ParsedRow) (p : Placed),
        (parseCSV lower (String.ofList f.text))[i]? = some row → f.records[i]? = some p →
          HasFields f readField row p ∧ (p.blanksBefore = 0 → row.rowNum = p.line) := by
  refine ⟨length_rows ht hown, fun i row p hrow hp => ?_⟩
  refine ⟨hasFields_row ht hown hproto hrow hp, fun hblanks => ?_⟩
  rw [rowNum_row ht hown hrow hp, hblanks]
  rfl

/-- The file comes back as it was: a row for each record, with its fields and its line. -/
def RoundTrips (lower : String → String) (f : File) : Prop :=
  (parseCSV lower (String.ofList f.text)).length = f.records.length ∧
    ∀ (i : Nat) (row : ParsedRow) (p : Placed),
      (parseCSV lower (String.ofList f.text))[i]? = some row → f.records[i]? = some p →
        HasFields f fieldName row p ∧ row.rowNum = p.line

/-- What a file has to be to come back as it was. -/
structure ComesBack (f : File) : Prop extends OwnLines f where
  proto : ∀ h ∈ f.header.fields, fieldName h ≠ "__proto__"
  trimmed : ∀ p ∈ f.records, ∀ v ∈ p.record.fields, trim v.value = v.value
  noGap : ∀ p ∈ f.records, p.blanksBefore = 0

/-! ## §7. What no row has. -/

/-- A value that is read is trimmed, and was in the line. -/
theorem parseLoop_values (line : List Char) :
    ∀ (inQuotes : Bool) (cur : List Char) (fields : List String),
      ∀ v ∈ parseLoop line inQuotes cur fields, v ∈ fields ∨
        ∃ s, v = String.ofList (trim s) ∧ ∀ c ∈ s, c ∈ cur ∨ c ∈ line := by
  intro inQuotes cur fields v hv
  induction line, inQuotes, cur, fields using parseLoop.induct with
  | case1 inQuotes cur fields =>
      obtain hv | hv := List.mem_append.mp hv
      · exact Or.inl hv
      · exact Or.inr ⟨cur, List.mem_singleton.mp hv, fun c hc => Or.inl hc⟩
  | case2 line cur fields ih =>
      obtain hv | ⟨s, hs, hmem⟩ := ih hv
      · exact Or.inl hv
      · refine Or.inr ⟨s, hs, fun c hc => ?_⟩
        have hc' := hmem c hc
        grind
  | case3 line inQuotes cur fields hnot ih =>
      have hnext : inQuotes = true → line.head? ≠ some '"' := by
        intro hquotes hhead
        obtain ⟨rest, hrest⟩ := List.head?_eq_some_iff.mp hhead
        exact hnot rest hquotes hrest
      rw [parseLoop_quote hnext] at hv
      obtain hv | ⟨s, hs, hmem⟩ := ih hv
      · exact Or.inl hv
      · exact Or.inr ⟨s, hs, fun c hc => (hmem c hc).imp_right (List.mem_cons_of_mem _)⟩
  | case4 line cur fields ih =>
      obtain hv | ⟨s, hs, hmem⟩ := ih hv
      · obtain hv | hv := List.mem_append.mp hv
        · exact Or.inl hv
        · exact Or.inr ⟨cur, List.mem_singleton.mp hv, fun c hc => Or.inl hc⟩
      · refine Or.inr ⟨s, hs, fun c hc => Or.inr (List.mem_cons_of_mem _ ?_)⟩
        exact (hmem c hc).resolve_left List.not_mem_nil
  | case5 ch line inQuotes cur fields _ hquote hcomma ih =>
      have hquotes : ch = ',' → inQuotes = true := fun h => by
        cases inQuotes
        · exact absurd h (hcomma rfl)
        · rfl
      rw [parseLoop_cons hquote hquotes] at hv
      obtain hv | ⟨s, hs, hmem⟩ := ih hv
      · exact Or.inl hv
      · refine Or.inr ⟨s, hs, fun c hc => ?_⟩
        have hc' := hmem c hc
        grind

/-- What the object has is a value, or the empty one. -/
theorem assignAll_eq_some {headers : List String} {h v : String} :
    ∀ {raw : Raw} {values : List String}, assignAll raw headers values h = some v →
      raw h = some v ∨ v = "" ∨ v ∈ values := by
  induction headers with
  | nil => exact fun hv => Or.inl hv
  | cons g headers ih =>
      intro raw values hv
      rw [assignAll] at hv
      obtain hv | rfl | hv := ih hv
      · unfold assign at hv
        split at hv
        · exact Or.inl hv
        · by_cases hg : h = g
          · rw [hg, Function.update_self] at hv
            refine Or.inr ?_
            cases values with
            | nil => exact Or.inl (Option.some.inj hv).symm
            | cons w values => exact Or.inr (Option.some.inj hv ▸ List.mem_cons_self)
          · rw [Function.update_of_ne hg] at hv
            exact Or.inl hv
      · exact Or.inr (Or.inl rfl)
      · exact Or.inr (Or.inr (List.mem_of_mem_tail hv))

/-- Every row was read from a line. -/
theorem row_of_mem {lower : String → String} {text : String} {row : ParsedRow}
    (h : row ∈ parseCSV lower text) :
    ∃ line ∈ splitLines (stripBOM text.toList), ∃ headers i,
      row = parseRow lower headers i line := by
  unfold parseCSV at h
  split at h
  · next header line lines hlines =>
      obtain ⟨i, hi, rfl⟩ := List.mem_mapIdx.mp h
      refine ⟨_, ?_, _, i, rfl⟩
      have hmem : (line :: lines)[i] ∈ filledLines text.toList := by
        rw [hlines]
        exact List.mem_cons_of_mem _ (List.getElem_mem hi)
      exact (List.mem_filter.mp hmem).1
  · cases h

/-- **No value of a row** has a line break or white space around it, or is of the prototype. -/
theorem raw_of_mem {lower : String → String} {text : String} {row : ParsedRow}
    (h : row ∈ parseCSV lower text) {key v : String} (hv : row.raw key = some v) :
    key ≠ "__proto__" ∧ '\n' ∉ v.toList ∧ trim v.toList = v.toList := by
  obtain ⟨line, hline, headers, i, rfl⟩ := row_of_mem h
  have hlf : '\n' ∉ line := not_mem_of_mem_splitLines hline
  refine ⟨?_, ?_⟩
  · rintro rfl
    have hnone : (parseRow lower headers i line).raw "__proto__" = none :=
      assignAll_proto headers _ _ rfl
    rw [hnone] at hv
    cases hv
  · obtain hv | rfl | hv := assignAll_eq_some hv
    · cases hv
    · exact ⟨List.not_mem_nil, rfl⟩
    · obtain hv | ⟨s, rfl, hs⟩ := parseLoop_values line false [] [] v hv
      · cases hv
      · rw [String.toList_ofList]
        refine ⟨fun hmem => ?_, trim_trim s⟩
        obtain hc | hc := hs _ (mem_of_mem_trim hmem)
        · cases hc
        · exact hlf hc

/-! ## §8. When a file comes back. -/

/-- A file that comes back has for each field a row with it. -/
theorem RoundTrips.raw (hround : RoundTrips lower f) (ht : IsTable lower f) {p : Placed}
    (hp : p ∈ f.records) {j : Nat} {v : Field} (hv : p.record.fields[j]? = some v) :
    ∃ row ∈ parseCSV lower (String.ofList f.text), ∃ h, f.header.fields[j]? = some h ∧
      row.raw (fieldName h) = some (fieldName v) := by
  obtain ⟨hlength, hrows⟩ := hround
  obtain ⟨i, hi⟩ := List.mem_iff_getElem?.mp hp
  obtain ⟨hlt, -⟩ := List.getElem?_eq_some_iff.mp hi
  have hrow := List.getElem?_eq_getElem (hlength ▸ hlt)
  have hwidth : j < f.header.fields.length := by
    rw [← ht.widths p hp]
    exact (List.getElem?_eq_some_iff.mp hv).1
  have hh := List.getElem?_eq_getElem hwidth
  exact ⟨_, List.getElem_mem _, _, hh, (hrows i _ p hrow hi).1 j _ v hh hv⟩

/-- Its rows are as many as the records that are written as blank lines leave. -/
theorem length_parseCSV (ht : IsTable lower f) (hone : ∀ p ∈ f.records, p.record.OneLine) :
    (parseCSV lower (String.ofList f.text)).length =
      ((f.records.map fun p => p.record.text).filter fun l => decide (trim l ≠ [])).length := by
  unfold parseCSV
  rw [String.toList_ofList, filledLines_text ht hone]
  cases (f.records.map fun p => p.record.text).filter fun l => decide (trim l ≠ []) with
  | nil => rfl
  | cons line lines => exact List.length_mapIdx

/-- **A table comes back as it was** exactly if no field has a line break or white space around
it, no record is written as a blank line or comes after one, and no name is that of the
prototype. -/
theorem roundTrips_iff (ht : IsTable lower f) : RoundTrips lower f ↔ ComesBack f := by
  constructor
  · intro hround
    have hvalue : ∀ p ∈ f.records, ∀ v ∈ p.record.fields,
        '\n' ∉ v.value ∧ trim v.value = v.value := by
      intro p hp v hv
      obtain ⟨j, hj⟩ := List.mem_iff_getElem?.mp hv
      obtain ⟨row, hrow, h, -, hraw⟩ := hround.raw ht hp hj
      have hread := (raw_of_mem hrow hraw).2
      rwa [fieldName, String.toList_ofList] at hread
    have hone : ∀ p ∈ f.records, p.record.OneLine := fun p hp v hv => (hvalue p hp v hv).1
    have hfilled : ∀ p ∈ f.records, trim p.record.text ≠ [] := by
      intro p hp
      have hlength := length_parseCSV ht hone
      rw [hround.1, ← List.length_map (fun p : Placed => p.record.text)] at hlength
      have hkept := List.length_filter_eq_length_iff.mp hlength.symm p.record.text
        (List.mem_map_of_mem hp)
      simpa using hkept
    have hown : OwnLines f := ⟨hone, hfilled⟩
    refine ⟨hown, fun h hh => ?_, fun p hp v hv => (hvalue p hp v hv).2, fun p hp => ?_⟩
    · -- the first record has a field under each name
      obtain ⟨p, hp⟩ := List.exists_mem_of_ne_nil _ ht.someRecord
      obtain ⟨j, hj⟩ := List.mem_iff_getElem?.mp hh
      have hwidth : j < p.record.fields.length := by
        rw [ht.widths p hp]
        exact (List.getElem?_eq_some_iff.mp hj).1
      obtain ⟨row, hrow, g, hg, hraw⟩ := hround.raw ht hp (List.getElem?_eq_getElem hwidth)
      rw [hj] at hg
      cases hg
      exact (raw_of_mem hrow hraw).1
    · obtain ⟨i, hi⟩ := List.mem_iff_getElem?.mp hp
      obtain ⟨hlt, -⟩ := List.getElem?_eq_some_iff.mp hi
      have hrow := List.getElem?_eq_getElem (hround.1 ▸ hlt)
      have hline := (hround.2 i _ p hrow hi).2
      have hnum := rowNum_row ht hown hrow hi
      omega
  · intro hback
    have hown : OwnLines f := hback.toOwnLines
    refine ⟨length_rows ht hown, fun i row p hrow hp => ⟨fun j h v hh hv => ?_, ?_⟩⟩
    · have hmem : p ∈ f.records := List.mem_of_getElem? hp
      rw [hasFields_row ht hown hback.proto hrow hp j h v hh hv]
      unfold readField fieldName
      rw [hback.trimmed p hmem v (List.mem_of_getElem? hv)]
    · have hline := rowNum_row ht hown hrow hp
      rw [hback.noGap p (List.mem_of_getElem? hp)] at hline
      exact hline.symm

end

/-- A table of one record, with white space before its note, and a blank line. -/
def oneNote : File where
  bom := true
  header := ⟨.plain "name".toList (by decide), [.inQuotes "notes".toList]⟩
  lines := [(.crlf, .record ⟨.plain "api".toList (by decide),
    [.inQuotes " first, \"main\"".toList]⟩), (.lf, .blank)]

theorem isTable_oneNote : IsTable id oneNote where
  different := by decide
  nonempty := by decide
  lowerCase := by decide
  noSpace := by
    have hall : oneNote.header.fields.all
        (fun h => h.value.all fun c => jsSpace c = false) = true := by
      decide
    intro h hh c hc
    exact of_decide_eq_true (List.all_eq_true.mp (List.all_eq_true.mp hall h hh) c hc)
  widths := by decide
  someRecord := by decide

theorem ownLines_oneNote : OwnLines oneNote where
  oneLine := by decide
  filled := by decide

/-- **White space goes.** -/
theorem oneNote_not_roundTrips :
    ¬ ∀ (lower : String → String) (f : File), IsTable lower f → RoundTrips lower f := by
  intro h
  have hback := (roundTrips_iff isTable_oneNote).mp (h id oneNote isTable_oneNote)
  exact absurd hback.trimmed (by decide)

/-- The record has a row with its number and its note. -/
theorem parseCSV_decodes_oneNote :
    ∃ row, (parseCSV id (String.ofList oneNote.text))[0]? = some row ∧
      row.raw "notes" = some "first, \"main\"" ∧ row.rowNum = 2 := by
  obtain ⟨hlength, hrows⟩ := parseCSV_decodes isTable_oneNote ownLines_oneNote (by decide)
  have hlt : 0 < (parseCSV id (String.ofList oneNote.text)).length := by
    rw [hlength]
    decide
  have hrow := List.getElem?_eq_getElem hlt
  obtain ⟨hfields, hline⟩ := hrows 0 _ _ hrow rfl
  exact ⟨_, hrow, hfields 1 _ _ rfl rfl, hline rfl⟩

end TLSentinel.Endpoints.CSVImport
