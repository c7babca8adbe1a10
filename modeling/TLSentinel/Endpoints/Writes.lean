/-
  TLSentinel.Endpoints.Writes
  ───────────────────────────
  **CREATING, REPLACING AND IMPORTING ENDPOINTS.**

  The handlers `Create`, `Update` and `BulkImport` of `internal/endpoints/handler.go`:
  the checks of a request, the record made of it, and its write.  The port column is an
  int4, so the database refuses a record of a host with any other number; between 1 and
  65535 nobody asks for it to be.  The id in a path is a canonical uuid text.

  Main results:
    * `insertRecord_cases` — an insert writes the record or nothing;
    * `replaceRecord_cases` — and so does an update.
-/
import TLSentinel.Endpoints.Store

namespace TLSentinel.Endpoints

open Foundation

/-! ## §1. Writing a record. -/

/-- What the database does in one InsertEndpoint. -/
structure Insertion where
  /-- What `gen_random_uuid()` gives. -/
  id : String
  /-- The transaction goes through, as far as the record lets it. -/
  commits : Bool
  /-- The GetEndpoint after it succeeds. -/
  readBack : Bool
  deriving DecidableEq, Repr

/-- The port of a record that is stored fits its column. -/
def FitsPort (rec : EndpointRecord) : Prop :=
  DB.HostType rec.type → -2147483648 ≤ rec.port ∧ rec.port ≤ 2147483647

instance (rec : EndpointRecord) : Decidable (FitsPort rec) :=
  inferInstanceAs (Decidable (_ → _))

/-- A port number. -/
def ValidPort (p : Int) : Prop := 1 ≤ p ∧ p ≤ 65535

instance (p : Int) : Decidable (ValidPort p) := inferInstanceAs (Decidable (_ ∧ _))

namespace DB

/-- InsertEndpoint with its outcome: the tables, and the id of the endpoint. -/
def insertRecord (db : DB) (o : Insertion) (rec : EndpointRecord) :
    DB × Except StoreError String :=
  if o.commits = true ∧ FitsPort rec then
    match db.insertEndpoint o.id rec with
    | .error e => (db, .error e)
    | .ok db' => (db', if o.readBack then .ok o.id else .error .failed)
  else (db, .error .failed)

/-- UpdateEndpoint, and what its columns refuse. -/
def replaceRecord (db : DB) (id : String) (rec : EndpointRecord) : Except StoreError DB :=
  match db.updateEndpoint id rec with
  | .error e => .error e
  | .ok db' => if FitsPort rec then .ok db' else .error .failed

/-- No row has the id. -/
def Unused (db : DB) (id : String) : Prop :=
  db.endpoints.find? id = none ∧ db.hosts.find? id = none ∧ db.saml.find? id = none

instance (db : DB) (id : String) : Decidable (db.Unused id) :=
  inferInstanceAs (Decidable (_ ∧ _ ∧ _))

/-- When an InsertEndpoint under an unused id is accepted. -/
structure InsertAccepted (db : DB) (o : Insertion) (rec : EndpointRecord) : Prop where
  commits : o.commits = true
  port : FitsPort rec
  scanner : db.ScannerExists rec.scannerID
  url : rec.type = "saml" → rec.url ≠ none

/-- When an UpdateEndpoint is accepted, its columns considered. -/
structure ReplaceAccepted (db : DB) (id : String) (rec : EndpointRecord) : Prop where
  accepted : db.Accepted id rec
  port : FitsPort rec

/-- The type-specific row goes in unless a SAML record has no url. -/
theorem insertTypeRow_isOk_iff {db : DB} {id : String} {rec : EndpointRecord}
    (hhosts : db.hosts.find? id = none) (hsaml : db.saml.find? id = none) :
    (∃ db', db.insertTypeRow id rec = .ok db') ↔ (rec.type = "saml" → rec.url ≠ none) := by
  unfold insertTypeRow
  by_cases hhost : rec.type = "host" ∨ rec.type = ""
  · have htype : rec.type ≠ "saml" := by
      rcases hhost with h | h <;> simp [h]
    obtain ⟨hosts, hins⟩ := Table.insert_of_find?_eq_none
      (t := db.hosts) (r := ⟨id, some rec.dnsName, rec.ipAddress, rec.port⟩) hhosts
    rw [if_pos hhost, hins]
    exact ⟨fun _ h => absurd h htype, fun _ => ⟨_, rfl⟩⟩
  · rw [if_neg hhost]
    by_cases htype : rec.type = "saml"
    · rw [if_pos htype]
      cases hurl : rec.url with
      | none => simp [htype]
      | some url =>
          obtain ⟨saml, hins⟩ := Table.insert_of_find?_eq_none
            (t := db.saml) (r := ⟨id, url⟩) hsaml
          simp [hins]
    · rw [if_neg htype]
      exact ⟨fun _ h => absurd h htype, fun _ => ⟨_, rfl⟩⟩

/-- **An InsertEndpoint under an unused id** is accepted, or leaves the tables alone. -/
theorem insertRecord_cases {db : DB} {o : Insertion} (hid : db.Unused o.id)
    (rec : EndpointRecord) :
    (db.InsertAccepted o rec ∧ db.insertEndpoint o.id rec = .ok (db.insertRecord o rec).1) ∨
      ¬db.InsertAccepted o rec ∧ (db.insertRecord o rec).1 = db := by
  obtain ⟨hend, hhosts, hsaml⟩ := hid
  obtain ⟨endpoints, hins⟩ :=
    Table.insert_of_find?_eq_none (t := db.endpoints) (r := newEndpoint o.id rec) hend
  unfold insertRecord
  by_cases hcolumns : o.commits = true ∧ FitsPort rec
  · rw [if_pos hcolumns]
    by_cases hscanner : db.ScannerExists rec.scannerID
    · have hinsert : db.insertEndpoint o.id rec =
          insertTypeRow { db with endpoints := endpoints } o.id rec := by
        unfold insertEndpoint
        rw [if_pos hscanner, hins]
      have htype : (∃ db', insertTypeRow { db with endpoints := endpoints } o.id rec = .ok db') ↔
          (rec.type = "saml" → rec.url ≠ none) := insertTypeRow_isOk_iff hhosts hsaml
      rw [hinsert]
      cases hrow : insertTypeRow { db with endpoints := endpoints } o.id rec with
      | ok db' =>
          exact Or.inl ⟨⟨hcolumns.1, hcolumns.2, hscanner, htype.mp ⟨db', hrow⟩⟩, rfl⟩
      | error e =>
          refine Or.inr ⟨fun h => ?_, rfl⟩
          obtain ⟨db', hok⟩ := htype.mpr h.url
          rw [hrow] at hok
          cases hok
    · have hinsert : db.insertEndpoint o.id rec = .error .failed := by
        unfold insertEndpoint
        rw [if_neg hscanner]
      rw [hinsert]
      exact Or.inr ⟨fun h => hscanner h.scanner, rfl⟩
  · rw [if_neg hcolumns]
    exact Or.inr ⟨fun h => hcolumns ⟨h.commits, h.port⟩, rfl⟩

/-- **An UpdateEndpoint** is accepted, or fails. -/
theorem replaceRecord_cases (db : DB) (id : String) (rec : EndpointRecord) :
    (db.ReplaceAccepted id rec ∧
        ∃ db', db.replaceRecord id rec = .ok db' ∧ db.updateEndpoint id rec = .ok db') ∨
      ¬db.ReplaceAccepted id rec ∧ ∃ e, db.replaceRecord id rec = .error e := by
  unfold replaceRecord
  cases hupdate : db.updateEndpoint id rec with
  | error e =>
      refine Or.inr ⟨fun h => ?_, e, rfl⟩
      obtain ⟨db', hok⟩ := updateEndpoint_isOk_iff.mpr h.accepted
      rw [hupdate] at hok
      cases hok
  | ok db' =>
      have haccepted : db.Accepted id rec := updateEndpoint_isOk_iff.mp ⟨db', hupdate⟩
      by_cases hport : FitsPort rec
      · exact Or.inl ⟨⟨haccepted, hport⟩, db', if_pos hport, rfl⟩
      · exact Or.inr ⟨fun h => hport h.port, .failed, if_neg hport⟩

end DB

/-! ## §2. Create and Update. -/

/-- `CreateEndpointRequest`. -/
structure CreateEndpointRequest where
  name : String
  type : String
  dnsName : String
  ipAddress : Option String
  port : Int
  url : Option String
  scannerID : Option String
  notes : Option String
  deriving DecidableEq, Repr

/-- `UpdateEndpointRequest`. -/
structure UpdateEndpointRequest extends CreateEndpointRequest where
  enabled : Bool
  scanExempt : Bool
  deriving DecidableEq, Repr

/-- The checks of `Create` and of `Update`, with their defaults: the type and the port. -/
def checkFields (req : CreateEndpointRequest) : Except HttpError (String × Int) :=
  if req.name = "" then .error ⟨400, "name is required"⟩
  else
    let type := if req.type = "" then "host" else req.type
    if type = "host" then
      if req.dnsName = "" then .error ⟨400, "dnsName is required for type host"⟩
      else .ok (type, if req.port = 0 then 443 else req.port)
    else if type = "saml" then
      if req.url = none ∨ req.url = some "" then .error ⟨400, "url is required for type saml"⟩
      else .ok (type, req.port)
    else if type = "manual" then .ok (type, req.port)
    else .error ⟨400, "unknown endpoint type"⟩

/-- The record of a `Create`; `none` is a body that does not decode. -/
def createRecord (body : Option CreateEndpointRequest) : Except HttpError EndpointRecord :=
  match body with
  | none => .error ⟨400, "invalid request body"⟩
  | some req =>
      match checkFields req with
      | .error e => .error e
      | .ok (type, port) => .ok
          { name := req.name
            type := type
            dnsName := req.dnsName
            ipAddress := req.ipAddress
            port := port
            url := req.url
            enabled := true
            scanExempt := false
            scannerID := req.scannerID
            notes := req.notes }

/-- The record of an `Update`. -/
def updateRecord (body : Option UpdateEndpointRequest) : Except HttpError EndpointRecord :=
  match body with
  | none => .error ⟨400, "invalid request body"⟩
  | some req =>
      match checkFields req.toCreateEndpointRequest with
      | .error e => .error e
      | .ok (type, port) => .ok
          { name := req.name
            type := type
            dnsName := req.dnsName
            ipAddress := req.ipAddress
            port := port
            url := req.url
            enabled := req.enabled
            scanExempt := req.scanExempt
            scannerID := req.scannerID
            notes := req.notes }

/-- `Handler.Create`: the tables, and the id that is answered. -/
def create (db : DB) (o : Insertion) (body : Option CreateEndpointRequest) :
    DB × Except HttpError String :=
  match createRecord body with
  | .error e => (db, .error e)
  | .ok rec =>
      match db.insertRecord o rec with
      | (db', .ok id) => (db', .ok id)
      | (db', .error _) => (db', .error ⟨500, "failed to create endpoint"⟩)

/-- `Handler.Update`. -/
def update (db : DB) (endpointID : String) (body : Option UpdateEndpointRequest) :
    Except HttpError DB :=
  match updateRecord body with
  | .error e => .error e
  | .ok rec =>
      match db.replaceRecord endpointID rec with
      | .ok db' => .ok db'
      | .error .notFound => .error ⟨404, "endpoint not found"⟩
      | .error _ => .error ⟨500, "failed to update endpoint"⟩

/-! ## §3. BulkImport. -/

/-- `BulkImportRow`. -/
structure BulkImportRow where
  name : String
  type : String
  dnsName : String
  port : Int
  ipAddress : Option String
  url : Option String
  scannerID : Option String
  notes : Option String
  deriving DecidableEq, Repr

/-- `BulkImportRowResult`. -/
structure BulkImportRowResult where
  row : Nat
  name : String
  id : Option String
  error : Option String
  deriving DecidableEq, Repr

/-- `BulkImportResponse`. -/
structure BulkImportResponse where
  created : Nat
  failed : Nat
  results : List BulkImportRowResult
  deriving DecidableEq, Repr

/-- The defaults of a row. -/
def BulkImportRow.normalize (row : BulkImportRow) : BulkImportRow :=
  let type := if row.type = "" then "host" else row.type
  { row with
    type := type
    port := if type = "host" ∧ row.port = 0 then 443 else row.port }

/-- `validateBulkRow`; `none` is the empty text. -/
def validateBulkRow (row : BulkImportRow) : Option String :=
  if row.name = "" then some "name is required"
  else if row.type = "host" then
    if row.dnsName = "" then some "dnsName is required for type host" else none
  else if row.type = "saml" then
    if row.url = none ∨ row.url = some "" then some "url is required for type saml" else none
  else if row.type = "manual" then none
  else some "unknown type: must be host, saml, or manual"

/-- The record of a row. -/
def BulkImportRow.toRecord (row : BulkImportRow) : EndpointRecord where
  name := row.name
  type := row.type
  dnsName := row.dnsName
  ipAddress := row.ipAddress
  port := row.port
  url := row.url
  enabled := true
  scanExempt := false
  scannerID := row.scannerID
  notes := row.notes

/-- The record that a row is imported as, or what is wrong with it. -/
def importRecord (row : BulkImportRow) : Except String EndpointRecord :=
  match validateBulkRow row.normalize with
  | some errMsg => .error errMsg
  | none => .ok row.normalize.toRecord

/-- One turn of the loop of `BulkImport`. -/
def importRow (db : DB) (rowNum : Nat) (row : BulkImportRow) (o : Insertion) :
    DB × BulkImportRowResult :=
  match importRecord row with
  | .error errMsg => (db, ⟨rowNum, row.name, none, some errMsg⟩)
  | .ok rec =>
      match db.insertRecord o rec with
      | (db', .ok id) => (db', ⟨rowNum, row.name, some id, none⟩)
      | (db', .error _) => (db', ⟨rowNum, row.name, none, some "failed to create endpoint"⟩)

/-- The counters and the list of results, one row further. -/
def BulkImportResponse.add (resp : BulkImportResponse) (result : BulkImportRowResult) :
    BulkImportResponse where
  created := if result.error.isSome then resp.created else resp.created + 1
  failed := if result.error.isSome then resp.failed + 1 else resp.failed
  results := resp.results ++ [result]

/-- The loop of `BulkImport` from row `i` on; the database does `outcome i` for row `i`. -/
def bulkLoop (outcome : Nat → Insertion) :
    Nat → List BulkImportRow → DB × BulkImportResponse → DB × BulkImportResponse
  | _, [], acc => acc
  | i, row :: rows, (db, resp) =>
      let imported := importRow db (i + 1) row (outcome i)
      bulkLoop outcome (i + 1) rows (imported.1, resp.add imported.2)

/-- `Handler.BulkImport`; no rows and no list of rows are the same. -/
def bulkImport (db : DB) (outcome : Nat → Insertion) (body : Option (List BulkImportRow)) :
    DB × Except HttpError BulkImportResponse :=
  match body with
  | none => (db, .error ⟨400, "invalid request body"⟩)
  | some [] => (db, .error ⟨400, "rows must not be empty"⟩)
  | some rows =>
      let (db', resp) := bulkLoop outcome 0 rows (db, ⟨0, 0, []⟩)
      (db', .ok resp)

end TLSentinel.Endpoints
