/-
  TLSentinel.Trust.TrustMatrix
  ────────────────────────────
  **WHAT A ROOT-STORE REFRESH DOWNLOADS, AND HOW IT IS READ.**

  `fetchTrustMatrix` and `fetchAllPEMs` of `internal/rootstore/refresh.go`, with the
  helpers of `parse.go`.  CCADB publishes the trust matrix and Microsoft's bundle as
  CSV, Mozilla's bundle as concatenated PEM; `encoding/csv` is written out after its
  documentation, as a machine over the characters.

  A column is looked up by its name in a map, and a name that is missing is read as
  column 0.

  Main results:
    * `readTable_eq_ok_iff`        — which bodies are read, and as what;
    * `cell_eq_iff`                — what the code reads in a column that is there;
    * `fetchTrustMatrix_eq_ok_iff` — the entries of the matrix, in the order of its
                                     rows;
    * `exists_fetchAllPEMs_iff`    — which bundles are read;
    * `fingerprint_of_fetchAllPEMs` — a bundle has a certificate under its own
                                     fingerprint only.
-/
import TLSentinel.Trust.Ingest
import Mathlib.Data.List.Induction
import Mathlib.Data.List.Infix

namespace TLSentinel.Trust

open Foundation TLSentinel.Certs

/-! ## §1. `encoding/csv`. -/

/-- Why a record is not read. -/
inductive CSVError where
  /-- `io.EOF`. -/
  | eof
  /-- `ErrBareQuote`. -/
  | bareQuote
  /-- `ErrQuote`. -/
  | quote
  /-- `ErrFieldCount`. -/
  | fieldCount
  deriving DecidableEq, Repr

/-- Where the reader stands. -/
inductive CSVState where
  /-- At the start of a line; an empty line is no record. -/
  | line
  /-- After a comma. -/
  | field
  | unquoted
  | quoted
  /-- After a quote within a quoted field. -/
  | quoteSeen
  deriving DecidableEq, Repr

/-- The input with its line ends normalised: `\r\n` is `\n`, and a final `\r` is dropped. -/
def normalizeNewlines : List Char → List Char
  | [] => []
  | ['\r'] => []
  | '\r' :: '\n' :: cs => '\n' :: normalizeNewlines cs
  | c :: cs => c :: normalizeNewlines cs

/-- `Reader.Read`, over and over, up to the end of the input or an error; `field`, `record`
and `records` are what was read so far, the last character first. -/
def readRecords : CSVState → List Char → List String → List (List String) → List Char →
    List (List String) × Option CSVError
  | .line, _, _, records, [] => (records.reverse, none)
  | .quoted, _, _, records, [] => (records.reverse, some .quote)
  | _, field, record, records, [] =>
      (((String.ofList field.reverse :: record).reverse :: records).reverse, none)
  | state, field, record, records, c :: cs =>
      let endField := String.ofList field.reverse :: record
      let endRecord := endField.reverse :: records
      match state with
      | .line =>
          if c = '\n' then readRecords .line [] [] records cs
          else if c = '"' then readRecords .quoted [] [] records cs
          else if c = ',' then readRecords .field [] [""] records cs
          else readRecords .unquoted [c] [] records cs
      | .field =>
          if c = '\n' then readRecords .line [] [] endRecord cs
          else if c = '"' then readRecords .quoted [] record records cs
          else if c = ',' then readRecords .field [] endField records cs
          else readRecords .unquoted [c] record records cs
      | .unquoted =>
          if c = '\n' then readRecords .line [] [] endRecord cs
          else if c = '"' then (records.reverse, some .bareQuote)
          else if c = ',' then readRecords .field [] endField records cs
          else readRecords .unquoted (c :: field) record records cs
      | .quoted =>
          if c = '"' then readRecords .quoteSeen field record records cs
          else readRecords .quoted (c :: field) record records cs
      | .quoteSeen =>
          if c = '\n' then readRecords .line [] [] endRecord cs
          else if c = '"' then readRecords .quoted ('"' :: field) record records cs
          else if c = ',' then readRecords .field [] endField records cs
          else (records.reverse, some .quote)

/-- The records of a CSV text, up to the first error. -/
def csvRecords (text : String) : List (List String) × Option CSVError :=
  readRecords .line [] [] [] (normalizeNewlines text.toList)

example : csvRecords "a,\"b \"\"c\"\"\"\r\n\n\"d\ne\",f"
    = ([["a", "b \"c\""], ["d\ne", "f"]], none) := by decide

/-! ## §2. The trust matrix. -/

/-- `normalizeFingerprint`. -/
def normalizeFingerprint (s : String) : String :=
  String.ofList (s.toList.filterMap fun r =>
    if '0' ≤ r ∧ r ≤ '9' then some r
    else if 'a' ≤ r ∧ r ≤ 'f' then some r
    else if 'A' ≤ r ∧ r ≤ 'F' then some (Char.ofNat (r.toNat + ('a'.toNat - 'A'.toNat)))
    else none)

/-- `headerIndex`: the position of a column; of columns with one name the last one counts. -/
def headerIndex (header : List String) (name : String) : Option Nat :=
  header.zipIdx.foldl (fun m p => if p.1 = name then some p.2 else m) none

/-- `row[col[name]]`: a name that is not in the map gives index 0. -/
def cell (header row : List String) (name : String) : String :=
  row.getD ((headerIndex header name).getD 0) ""

/-- One more column. -/
theorem headerIndex_concat (header : List String) (c name : String) :
    headerIndex (header ++ [c]) name
      = if c = name then some header.length else headerIndex header name := by
  unfold headerIndex
  rw [List.zipIdx_append, List.foldl_append]
  simp

/-- What stands where in a list with one more item. -/
theorem getElem?_concat_eq_some_iff {α : Type} {l : List α} {a b : α} {i : Nat} :
    (l ++ [a])[i]? = some b ↔ l[i]? = some b ∨ (i = l.length ∧ a = b) := by
  rcases Nat.lt_trichotomy i l.length with hlt | heq | hgt
  · rw [List.getElem?_append_left hlt]
    have hne : i ≠ l.length := by omega
    simp [hne]
  · subst heq
    simp
  · have hne : i ≠ l.length := by omega
    rw [List.getElem?_eq_none (by simp; omega), List.getElem?_eq_none (by omega)]
    simp [hne]

/-- **The position is that of the last column with the name.** -/
theorem headerIndex_eq_some_iff {header : List String} {name : String} {i : Nat} :
    headerIndex header name = some i ↔
      header[i]? = some name ∧ ∀ j, i < j → header[j]? ≠ some name := by
  -- at the last column
  induction header using List.reverseRecOn with
  | nil => simp [headerIndex]
  | append_singleton header c ih =>
      rw [headerIndex_concat, getElem?_concat_eq_some_iff]
      simp only [ne_eq, getElem?_concat_eq_some_iff]
      split
      · next hname =>
          constructor
          · intro h
            have hi : header.length = i := Option.some.inj h
            refine ⟨.inr ⟨hi.symm, hname⟩, fun j hj hat => ?_⟩
            rcases hat with hat | ⟨hat, _⟩
            · have hlt : j < header.length := (List.getElem?_eq_some_iff.mp hat).1
              omega
            · omega
          · intro h
            obtain ⟨hat, hafter⟩ := h
            rcases hat with hat | ⟨hi, _⟩
            · -- an earlier column with the name is not the last one
              have hlt : i < header.length := (List.getElem?_eq_some_iff.mp hat).1
              exact absurd (.inr ⟨rfl, hname⟩) (hafter header.length hlt)
            · rw [hi]
      · next hname =>
          rw [ih]
          simp [hname]

/-- A column that is there has a position. -/
theorem exists_headerIndex {header : List String} {name : String} (h : name ∈ header) :
    ∃ i, headerIndex header name = some i := by
  induction header using List.reverseRecOn with
  | nil => exact absurd h List.not_mem_nil
  | append_singleton header c ih =>
      rw [headerIndex_concat]
      split
      · exact ⟨_, rfl⟩
      · next hname =>
          rcases List.mem_append.mp h with h | h
          · exact ih h
          · exact absurd (List.mem_singleton.mp h).symm hname

/-- The value of a row in a column, the last one with the name. -/
def HasCell (header row : List String) (name v : String) : Prop :=
  ∃ i : Nat, header[i]? = some name ∧ (∀ j, i < j → header[j]? ≠ some name) ∧ row[i]? = some v

/-- **In a column that is there the code reads the value of the row.** -/
theorem cell_eq_iff {header row : List String} {name v : String} (hname : name ∈ header)
    (hlength : row.length = header.length) :
    cell header row name = v ↔ HasCell header row name v := by
  obtain ⟨i, hi⟩ := exists_headerIndex hname
  have hpos := headerIndex_eq_some_iff.mp hi
  have hlt : i < row.length := by
    rw [hlength]
    exact (List.getElem?_eq_some_iff.mp hpos.1).1
  have hcell : row[i]? = some (cell header row name) := by
    unfold cell
    rw [hi]
    simp [hlt]
  constructor
  · intro h
    exact ⟨i, hpos.1, hpos.2, h ▸ hcell⟩
  · intro h
    obtain ⟨j, hj, hafter, hv⟩ := h
    have hji : headerIndex header name = some j := headerIndex_eq_some_iff.mpr ⟨hj, hafter⟩
    have heq : i = j := Option.some.inj (hi.symm.trans hji)
    subst heq
    exact Option.some.inj (hcell.symm.trans hv)

/-- `strings.Contains`. -/
def contains (s part : String) : Bool := decide (part.toList <:+: s.toList)

/-- The entry of a row. -/
def trustEntry (header row : List String) : TrustEntry where
  fingerprint := normalizeFingerprint (cell header row "SHA-256 Fingerprint")
  inApple := decide (cell header row "Apple Status" = "Included") &&
    contains (cell header row "Apple Trust Bits") "serverAuth"
  inChrome := decide (cell header row "Google Chrome Status" = "Included")
  inMicrosoft := decide (cell header row "Microsoft Status" = "Included") &&
    contains (cell header row "Microsoft EKUs") "Server Authentication"
  inMozilla := decide (cell header row "Mozilla Status" = "Included") &&
    contains (cell header row "Mozilla Trust Bits") "Websites"

/-- Why a download is not used. -/
inductive FetchError where
  /-- The request or the body fails, or the status is no success. -/
  | get
  /-- "read header". -/
  | header (e : CSVError)
  /-- "read row". -/
  | row (e : CSVError)
  /-- "PEM column not found in microsoft bundle". -/
  | pemColumn
  deriving DecidableEq, Repr

/-- The header and the rows of a CSV body; `strict` asks for rows as long as the header. -/
def readTable (strict : Bool) (body : Option String) :
    Except FetchError (List String × List (List String)) :=
  match body with
  | none => .error .get
  | some text =>
      match csvRecords text with
      | ([], e) => .error (.header (e.getD .eof))
      | (header :: rows, e) =>
          -- a short or long row before the first malformed one is noticed first
          if strict && rows.any (fun row => row.length ≠ header.length) then
            .error (.row .fieldCount)
          else
            match e with
            | some e => .error (.row e)
            | none => .ok (header, rows)

/-- The body is CSV with this header and these rows; in a strict reading no row is shorter or
longer than the header. -/
def IsTable (strict : Bool) (body : Option String) (header : List String)
    (rows : List (List String)) : Prop :=
  ∃ text, body = some text ∧ csvRecords text = (header :: rows, none)
    ∧ (strict = true → ∀ row ∈ rows, row.length = header.length)

/-- **Which bodies are read.** -/
theorem readTable_eq_ok_iff {strict : Bool} {body : Option String} {header : List String}
    {rows : List (List String)} :
    readTable strict body = .ok (header, rows) ↔ IsTable strict body header rows := by
  unfold readTable IsTable
  constructor
  · intro h
    split at h
    · exact absurd h (by simp)
    · next text =>
        refine ⟨text, rfl, ?_⟩
        split at h
        · exact absurd h (by simp)
        · next header' rows' e hrecords =>
            split at h
            · exact absurd h (by simp)
            · next hlength =>
                split at h
                · exact absurd h (by simp)
                · injection h with h
                  obtain ⟨rfl, rfl⟩ := Prod.mk.inj h
                  refine ⟨hrecords, ?_⟩
                  simpa using hlength
  · intro h
    obtain ⟨text, rfl, hrecords, hlength⟩ := h
    have hrows : (strict && rows.any (fun row => row.length ≠ header.length)) = false := by
      simpa using hlength
    simp only [hrecords, hrows, Bool.false_eq_true, if_false]

/-- `fetchTrustMatrix`: rows without a fingerprint are skipped. -/
def fetchTrustMatrix (body : Option String) : Except FetchError (List TrustEntry) :=
  match readTable true body with
  | .error e => .error e
  | .ok (header, rows) =>
      .ok ((rows.map (trustEntry header)).filter (fun e => e.fingerprint ≠ ""))

/-- The rows with a fingerprint. -/
def listed (header : List String) (rows : List (List String)) : List (List String) :=
  rows.filter (fun row => normalizeFingerprint (cell header row "SHA-256 Fingerprint") ≠ "")

/-- **The entries of the matrix are those of the rows with a fingerprint, in order.** -/
theorem fetchTrustMatrix_eq_ok_iff {body : Option String} {matrix : List TrustEntry} :
    fetchTrustMatrix body = .ok matrix ↔
      ∃ header rows, IsTable true body header rows
        ∧ matrix = (listed header rows).map (trustEntry header) := by
  have hlisted : ∀ header (rows : List (List String)),
      (rows.map (trustEntry header)).filter (fun e => e.fingerprint ≠ "")
        = (listed header rows).map (trustEntry header) := by
    intro header rows
    rw [List.filter_map]
    rfl
  simp only [← readTable_eq_ok_iff]
  unfold fetchTrustMatrix
  cases readTable true body with
  | error e => simp
  | ok table =>
      obtain ⟨header, rows⟩ := table
      simp only [hlisted, Except.ok.injEq, Prod.mk.injEq]
      constructor
      · intro h
        exact ⟨header, rows, ⟨rfl, rfl⟩, h.symm⟩
      · intro h
        obtain ⟨_, _, ⟨rfl, rfl⟩, h⟩ := h
        exact h.symm

/-! ## §3. The PEM bundles. -/

/-- What `pem.Decode` leaves of its input after a block. -/
structure PEMRest (X : X509) where
  rest : String → String
  /-- A block is not empty. -/
  shorter : ∀ s block, X.pemDecode s = some block → (rest s).length < s.length

variable {X : X509} (P : PEMRest X)

/-- The loop of `parsePEMBlob`; an input of length `n` has at most `n` blocks. -/
def parseBlocks : Nat → String → List X.Cert
  | 0, _ => []
  | n + 1, data =>
      match X.pemDecode data with
      | none => []
      | some (type, bytes) =>
          let certs := parseBlocks n (P.rest data)
          if type = "CERTIFICATE" then
            match X.parseCertificate bytes with
            | none => certs
            | some cert => cert :: certs
          else certs

/-- `parsePEMBlob`: the certificates of a blob, in its order. -/
def parsePEMBlob (data : String) : List X.Cert := parseBlocks P data.length data

/-- The map from fingerprints to certificates; a later certificate replaces an earlier one. -/
def byFingerprint (certs : List X.Cert) (fingerprint : String) : Option X.Cert :=
  (certs.filter (fun cert => X.fingerprint cert = fingerprint)).getLast?

theorem fingerprint_of_byFingerprint {certs : List X.Cert} {fp : String} {cert : X.Cert}
    (h : byFingerprint certs fp = some cert) : X.fingerprint cert = fp := by
  have hmem : cert ∈ certs.filter (fun c => X.fingerprint c = fp) := List.mem_of_getLast? h
  simpa using (List.mem_filter.mp hmem).2

/-- `fetchMozillaPEMs`. -/
def fetchMozillaPEMs (body : Option String) : Except FetchError (List X.Cert) :=
  match body with
  | none => .error .get
  | some text => .ok (parsePEMBlob P text)

/-- `strings.TrimPrefix`, for a one-rune prefix. -/
def trimPrefix (c : Char) (s : String) : String :=
  match s.toList with
  | d :: ds => if d = c then String.ofList ds else s
  | [] => s

/-- `fetchMicrosoftPEMs`: a row too short for the column is skipped. -/
def fetchMicrosoftPEMs (body : Option String) : Except FetchError (List X.Cert) :=
  match readTable false body with
  | .error e => .error e
  | .ok (header, rows) =>
      match headerIndex header "PEM" with
      | none => .error .pemColumn
      | some idx =>
          .ok (rows.flatMap fun row =>
            match row[idx]? with
            | none => []
            | some field => parsePEMBlob P (trimPrefix '\'' field))

/-- `fetchAllPEMs`: a certificate of both bundles is Mozilla's. -/
def fetchAllPEMs (mozilla microsoft : Option String) :
    Except FetchError (String → Option X.Cert) :=
  match fetchMozillaPEMs P mozilla with
  | .error e => .error e
  | .ok mozCerts =>
      match fetchMicrosoftPEMs P microsoft with
      | .error e => .error e
      | .ok msCerts => .ok fun fp => (byFingerprint mozCerts fp).or (byFingerprint msCerts fp)

/-- **Which bundles are read.** -/
theorem exists_fetchAllPEMs_iff {mozilla microsoft : Option String} :
    (∃ pems, fetchAllPEMs P mozilla microsoft = .ok pems) ↔
      (∃ text, mozilla = some text)
        ∧ ∃ header rows, IsTable false microsoft header rows ∧ "PEM" ∈ header := by
  simp only [← readTable_eq_ok_iff]
  unfold fetchAllPEMs fetchMozillaPEMs fetchMicrosoftPEMs
  cases mozilla with
  | none => simp
  | some text =>
      cases readTable false microsoft with
      | error e => simp
      | ok table =>
          obtain ⟨header, rows⟩ := table
          by_cases hpem : "PEM" ∈ header
          · obtain ⟨i, hi⟩ := exists_headerIndex hpem
            simp [hi, hpem]
          · have hnone : headerIndex header "PEM" = none := by
              rw [Option.eq_none_iff_forall_ne_some]
              intro i hi
              exact hpem (List.mem_of_getElem? (headerIndex_eq_some_iff.mp hi).1)
            simp [hnone, hpem]

/-- **A bundle has a certificate under its own fingerprint only.** -/
theorem fingerprint_of_fetchAllPEMs {mozilla microsoft : Option String}
    {pems : String → Option X.Cert} (h : fetchAllPEMs P mozilla microsoft = .ok pems)
    {fp : String} {cert : X.Cert} (hcert : pems fp = some cert) : X.fingerprint cert = fp := by
  unfold fetchAllPEMs at h
  split at h
  · exact absurd h (by simp)
  · split at h
    · exact absurd h (by simp)
    · injection h with h
      subst h
      rcases Option.or_eq_some_iff.mp hcert with hmoz | ⟨_, hms⟩
      · exact fingerprint_of_byFingerprint hmoz
      · exact fingerprint_of_byFingerprint hms

end TLSentinel.Trust
