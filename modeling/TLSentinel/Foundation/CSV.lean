/-
  Foundation.CSV
  ──────────────
  **TABLES AS TEXT: COMMA-SEPARATED VALUES.**

  A field is written as it is, or in quotes with its own quotes doubled; a field with a
  comma, a quote or a line break is quoted.  A record is its fields, at least one, with
  commas between them.  A file is a record of names, then records and blank lines, each
  after a line end, LF or CRLF; there may be a byte order mark in front.  (A line end at
  the very end of a file stands before a last blank line.)

  Main results:
    * `splitLines_lines` — cutting at LF and CRLF finds the lines again, if none has a
      line break of its own;
    * `File.lines_eq`    — so it does for a file whose fields have none;
    * `File.line_eq`     — there the number of a record's line counts the lines.
-/
import Mathlib.Data.List.Basic

namespace Foundation.CSV

/-! ## §1. Files. -/

/-- The characters of a field that is in quotes. -/
def escape : List Char → List Char
  | [] => []
  | c :: cs => if c = '"' then '"' :: '"' :: escape cs else c :: escape cs

/-- A field, and how it is written. -/
structure Field where
  value : List Char
  quoted : Bool
  bare : quoted = false → ∀ c ∈ value, c ≠ ',' ∧ c ≠ '"' ∧ c ≠ '\r' ∧ c ≠ '\n'

/-- A field in quotes. -/
def Field.inQuotes (value : List Char) : Field := ⟨value, true, fun h => nomatch h⟩

/-- A field without any. -/
def Field.plain (value : List Char)
    (h : value.all (fun c => decide (c ∉ [',', '"', '\r', '\n'])) = true) : Field where
  value := value
  quoted := false
  bare := by
    intro _ c hc
    have hnot : c ∉ [',', '"', '\r', '\n'] := of_decide_eq_true (List.all_eq_true.mp h c hc)
    simpa using hnot

/-- The field in the file. -/
def Field.text (f : Field) : List Char :=
  if f.quoted then '"' :: (escape f.value ++ ['"']) else f.value

/-- A record has a field. -/
structure Record where
  first : Field
  others : List Field

def Record.fields (r : Record) : List Field := r.first :: r.others

/-- The fields after the first, each after its comma. -/
def othersText (fields : List Field) : List Char := fields.flatMap fun f => ',' :: f.text

/-- The record in the file. -/
def Record.text (r : Record) : List Char := r.first.text ++ othersText r.others

inductive LineEnd where
  | lf
  | crlf
  deriving DecidableEq, Repr

def LineEnd.text : LineEnd → List Char
  | .lf => ['\n']
  | .crlf => ['\r', '\n']

inductive Line where
  | blank
  | record (r : Record)

def Line.text : Line → List Char
  | .blank => []
  | .record r => r.text

/-- Lines, each after its line end. -/
def linesText (lines : List (LineEnd × Line)) : List Char :=
  lines.flatMap fun l => l.1.text ++ l.2.text

structure File where
  bom : Bool
  header : Record
  lines : List (LineEnd × Line)

/-- The file without its byte order mark. -/
def File.body (f : File) : List Char := f.header.text ++ linesText f.lines

def File.text (f : File) : List Char :=
  if f.bom then '\uFEFF' :: f.body else f.body

/-- A record at its place in a file. -/
structure Placed where
  /-- The number of the line it starts in. -/
  line : Nat
  blanksBefore : Nat
  record : Record

/-- The line after some text. -/
def lineNumber (before : List Char) : Nat := before.count '\n' + 1

/-- The records of some lines, after some text and blank lines. -/
def recordsFrom (before : List Char) (blanks : Nat) : List (LineEnd × Line) → List Placed
  | [] => []
  | (e, .blank) :: rest => recordsFrom (before ++ e.text) (blanks + 1) rest
  | (e, .record r) :: rest =>
      ⟨lineNumber (before ++ e.text), blanks, r⟩ ::
        recordsFrom (before ++ e.text ++ r.text) blanks rest

/-- The records of a file, below its header. -/
def File.records (f : File) : List Placed := recordsFrom f.header.text 0 f.lines

/-! ## §2. Lines. -/

/-- Put a character in front of the first line. -/
def prepend (c : Char) : List (List Char) → List (List Char)
  | [] => [[c]]
  | line :: rest => (c :: line) :: rest

/-- The lines of a text, cut at every LF and CRLF. -/
def splitLines : List Char → List (List Char)
  | [] => [[]]
  | '\r' :: '\n' :: rest => [] :: splitLines rest
  | '\n' :: rest => [] :: splitLines rest
  | c :: rest => prepend c (splitLines rest)

theorem not_mem_of_mem_prepend {c d : Char} {lines : List (List Char)} {l : List Char}
    (hne : d ≠ c) (hlines : ∀ m ∈ lines, d ∉ m) (h : l ∈ prepend c lines) : d ∉ l := by
  cases lines with
  | nil =>
      rw [prepend, List.mem_singleton] at h
      simp [h, hne]
  | cons m lines =>
      obtain rfl | h := List.mem_cons.mp h
      · simp [hne, hlines m List.mem_cons_self]
      · exact hlines l (List.mem_cons_of_mem m h)

/-- A character that begins no line end. -/
theorem splitLines_cons {c : Char} {rest : List Char} (hlf : c ≠ '\n')
    (hcrlf : c = '\r' → rest.head? ≠ some '\n') :
    splitLines (c :: rest) = prepend c (splitLines rest) := by
  rw [splitLines]
  · rintro rest' rfl rfl
    exact hcrlf rfl rfl
  · exact hlf

/-- A text without line ends of its own, before one. -/
theorem splitLines_append {l rest : List Char} (e : LineEnd) (hlf : '\n' ∉ l)
    (hcr : l.getLast? ≠ some '\r') :
    splitLines (l ++ e.text ++ rest) = l :: splitLines rest := by
  induction l with
  | nil => cases e <;> rfl
  | cons c l ih =>
      have hc : c ≠ '\n' := fun h => hlf (h ▸ List.mem_cons_self)
      have hl : '\n' ∉ l := fun h => hlf (List.mem_cons_of_mem c h)
      have hlast : l.getLast? ≠ some '\r' := by
        intro h
        cases l with
        | nil => cases h
        | cons d l => exact hcr (by rw [List.getLast?_cons_cons, h])
      have hnext : c = '\r' → (l ++ e.text ++ rest).head? ≠ some '\n' := by
        rintro rfl
        cases l with
        | nil => exact absurd rfl hcr
        | cons d l =>
            intro h
            exact hl (Option.some.inj h ▸ List.mem_cons_self)
      show splitLines (c :: (l ++ e.text ++ rest)) = _
      rw [splitLines_cons hc hnext, ih hl hlast]
      rfl

theorem splitLines_of_not_mem {l : List Char} (hlf : '\n' ∉ l) : splitLines l = [l] := by
  induction l with
  | nil => rfl
  | cons c l ih =>
      have hc : c ≠ '\n' := fun h => hlf (h ▸ List.mem_cons_self)
      have hl : '\n' ∉ l := fun h => hlf (List.mem_cons_of_mem c h)
      rw [splitLines_cons hc, ih hl]
      · rfl
      · rintro - h
        exact hl (List.mem_of_mem_head? h)

/-- No line has an LF. -/
theorem not_mem_of_mem_splitLines {text l : List Char} (h : l ∈ splitLines text) :
    '\n' ∉ l := by
  induction text using splitLines.induct generalizing l with
  | case1 =>
      rw [splitLines, List.mem_singleton] at h
      exact h ▸ List.not_mem_nil
  | case2 rest ih =>
      rw [splitLines] at h
      obtain rfl | h := List.mem_cons.mp h
      · exact List.not_mem_nil
      · exact ih h
  | case3 rest ih =>
      rw [splitLines] at h
      obtain rfl | h := List.mem_cons.mp h
      · exact List.not_mem_nil
      · exact ih h
  | case4 c rest hcrlf hlf ih =>
      have hnext : c = '\r' → rest.head? ≠ some '\n' := by
        rintro hc hhead
        obtain ⟨rest', hrest⟩ := List.head?_eq_some_iff.mp hhead
        exact hcrlf rest' hc hrest
      rw [splitLines_cons hlf hnext] at h
      exact not_mem_of_mem_prepend (Ne.symm hlf) (fun _ => ih) h

/-- A line that is found again: it has no LF, and does not end in a CR. -/
def Clean (l : List Char) : Prop := '\n' ∉ l ∧ l.getLast? ≠ some '\r'

theorem Clean.append {l m : List Char} (hl : Clean l) (hm : Clean m) : Clean (l ++ m) := by
  refine ⟨fun h => ?_, ?_⟩
  · exact (List.mem_append.mp h).elim hl.1 hm.1
  · rw [List.getLast?_append]
    cases hlast : m.getLast? with
    | none => exact hl.2
    | some c =>
        rw [Option.some_or, ← hlast]
        exact hm.2

/-- **Cutting finds the lines again.** -/
theorem splitLines_lines (lines : List (LineEnd × Line)) :
    ∀ {l : List Char}, Clean l → (∀ p ∈ lines, Clean p.2.text) →
      splitLines (l ++ linesText lines) = l :: lines.map fun p => p.2.text := by
  induction lines with
  | nil =>
      intro l hl _
      rw [linesText, List.flatMap_nil, List.append_nil, splitLines_of_not_mem hl.1]
      rfl
  | cons p lines ih =>
      intro l hl hlines
      have hp : Clean p.2.text := hlines p List.mem_cons_self
      have hrest := ih hp fun q hq => hlines q (List.mem_cons_of_mem p hq)
      calc splitLines (l ++ linesText (p :: lines))
          = splitLines (l ++ p.1.text ++ (p.2.text ++ linesText lines)) := by
            simp [linesText]
        _ = l :: splitLines (p.2.text ++ linesText lines) := splitLines_append p.1 hl.1 hl.2
        _ = l :: (p :: lines).map fun p => p.2.text := by rw [hrest]; rfl

/-! ## §3. Records on one line. -/

/-- No field has a line break. -/
def Record.OneLine (r : Record) : Prop := ∀ f ∈ r.fields, '\n' ∉ f.value

instance (r : Record) : Decidable r.OneLine := inferInstanceAs (Decidable (∀ f ∈ r.fields, _))

theorem mem_escape {c : Char} {v : List Char} : c ∈ escape v ↔ c ∈ v := by
  induction v with
  | nil => rfl
  | cons d v ih =>
      by_cases hd : d = '"'
      · simp [escape, hd, ih]
      · simp [escape, hd, ih]

theorem mem_text_of_mem_value {f : Field} {c : Char} (h : c ∈ f.value) : c ∈ f.text := by
  unfold Field.text
  split
  · exact List.mem_cons_of_mem _ (List.mem_append_left _ (mem_escape.mpr h))
  · exact h

theorem clean_field {f : Field} (h : '\n' ∉ f.value) : Clean f.text := by
  unfold Field.text
  split
  · refine ⟨by simp [mem_escape, h], ?_⟩
    -- it ends in a quote
    rw [List.getLast?_cons, List.getLast?_append]
    simp
  · next hquoted =>
      refine ⟨h, fun hlast => ?_⟩
      have hbare := f.bare (by simpa using hquoted) _ (List.mem_of_getLast? hlast)
      exact hbare.2.2.1 rfl

theorem clean_othersText {fields : List Field} (h : ∀ f ∈ fields, '\n' ∉ f.value) :
    Clean (othersText fields) := by
  induction fields with
  | nil => exact ⟨List.not_mem_nil, by simp [othersText]⟩
  | cons f fields ih =>
      have hcomma : Clean [','] := ⟨by decide, by decide⟩
      have hf : Clean f.text := clean_field (h f List.mem_cons_self)
      have hfields : Clean (othersText fields) := ih fun g hg => h g (List.mem_cons_of_mem f hg)
      exact (hcomma.append hf).append hfields

theorem Record.OneLine.clean {r : Record} (h : r.OneLine) : Clean r.text :=
  (clean_field (h r.first List.mem_cons_self)).append
    (clean_othersText fun f hf => h f (List.mem_cons_of_mem r.first hf))

theorem clean_nil : Clean [] := ⟨List.not_mem_nil, by simp⟩

/-- The lines of records on one line each. -/
theorem clean_lines {lines : List (LineEnd × Line)} :
    ∀ {before : List Char} {blanks : Nat},
      (∀ p ∈ recordsFrom before blanks lines, p.record.OneLine) →
        ∀ l ∈ lines, Clean l.2.text := by
  induction lines with
  | nil => exact fun _ l hl => absurd hl List.not_mem_nil
  | cons l lines ih =>
      intro before blanks h
      obtain ⟨e, line⟩ := l
      cases line with
      | blank => exact List.forall_mem_cons.mpr ⟨clean_nil, ih h⟩
      | record r =>
          obtain ⟨hr, hrest⟩ := List.forall_mem_cons.mp h
          exact List.forall_mem_cons.mpr ⟨hr.clean, ih hrest⟩

/-- **The lines of a file** of records on one line each. -/
theorem File.lines_eq {f : File} (hheader : f.header.OneLine)
    (hrecords : ∀ p ∈ f.records, p.record.OneLine) :
    splitLines f.body = f.header.text :: f.lines.map fun l => l.2.text :=
  splitLines_lines f.lines hheader.clean (clean_lines hrecords)

/-- What is kept of the lines, blank ones not, is kept of the records. -/
theorem filter_lines {keep : List Char → Bool} (hblank : keep [] = false)
    {lines : List (LineEnd × Line)} :
    ∀ (before : List Char) (blanks : Nat),
      (lines.map fun l => l.2.text).filter keep =
        ((recordsFrom before blanks lines).map fun p => p.record.text).filter keep := by
  induction lines with
  | nil => exact fun _ _ => rfl
  | cons l lines ih =>
      intro before blanks
      obtain ⟨e, line⟩ := l
      cases line with
      | blank =>
          rw [List.map_cons, List.filter_cons_of_neg (by simpa [Line.text] using hblank)]
          exact ih _ _
      | record r =>
          show (r.text :: lines.map fun l => l.2.text).filter keep =
            (r.text :: (recordsFrom (before ++ e.text ++ r.text) blanks lines).map
              fun p => p.record.text).filter keep
          rw [List.filter_cons, List.filter_cons, ih]

/-- The line of a record, counted from some text on. -/
theorem line_of_recordsFrom {lines : List (LineEnd × Line)} :
    ∀ {before : List Char} {blanks i : Nat} {p : Placed},
      (∀ q ∈ recordsFrom before blanks lines, q.record.OneLine) →
        (recordsFrom before blanks lines)[i]? = some p →
          p.line + blanks = before.count '\n' + i + 2 + p.blanksBefore := by
  induction lines with
  | nil =>
      intro before blanks i p _ hp
      cases hp
  | cons l lines ih =>
      intro before blanks i p h hp
      obtain ⟨e, line⟩ := l
      have hend : (before ++ e.text).count '\n' = before.count '\n' + 1 := by
        rw [List.count_append]
        cases e <;> rfl
      cases line with
      | blank =>
          have hrest := ih h hp
          omega
      | record r =>
          obtain ⟨hr, hrest⟩ := List.forall_mem_cons.mp h
          cases i with
          | zero =>
              cases hp
              simp only [lineNumber, hend]
          | succ i =>
              have hnone : r.text.count '\n' = 0 := List.count_eq_zero.mpr hr.clean.1
              have hline := ih hrest hp
              rw [List.count_append, hend, hnone] at hline
              omega

/-- **The number of a record's line** in a file of records on one line each. -/
theorem File.line_eq {f : File} (hheader : f.header.OneLine)
    (hrecords : ∀ p ∈ f.records, p.record.OneLine) {i : Nat} {p : Placed}
    (hp : f.records[i]? = some p) : p.line = i + 2 + p.blanksBefore := by
  have hnone : f.header.text.count '\n' = 0 := List.count_eq_zero.mpr hheader.clean.1
  have hline := line_of_recordsFrom hrecords hp
  omega

end Foundation.CSV
