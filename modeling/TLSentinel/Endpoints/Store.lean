/-
  TLSentinel.Endpoints.Store
  ──────────────────────────
  **ENDPOINTS AND SCANNERS AS THE STORE KEEPS THEM.**

  What a user configures about an endpoint lies in three tables:
  `tlsentinel.endpoints`, and by the endpoint's type `endpoint_hosts` or
  `endpoint_saml`.  GetEndpoint joins the three, UpdateEndpoint writes them in
  one transaction (`internal/db/endpoints_store.go`); the columns that scanners
  own are left out.  `tlsentinel.scanners` comes with the two statements of
  `internal/db/scanners_store.go` that a partial update uses.

  Ids, those of a path too, are canonical uuid texts: two texts are the same uuid
  exactly if they are equal.

  `getEndpoint_updateEndpoint`: what GetEndpoint returns after an accepted
  UpdateEndpoint is the record written, without the fields its type does not
  store.
-/
import TLSentinel.Base
import TLSentinel.Foundation.Tables

namespace TLSentinel.Endpoints

open Foundation

/-! ## §1. Rows. -/

/-- A row of `tlsentinel.endpoints`. -/
structure Endpoint where
  id : String
  name : String
  type : String
  enabled : Bool
  scanExempt : Bool
  scannerID : Option String
  notes : Option String
  deriving DecidableEq, Repr

/-- A row of `tlsentinel.endpoint_hosts`. -/
structure EndpointHost where
  endpointID : String
  dnsName : Option String
  ipAddress : Option String
  port : Int
  deriving DecidableEq, Repr

/-- A row of `tlsentinel.endpoint_saml`. -/
structure EndpointSAML where
  endpointID : String
  url : String
  deriving DecidableEq, Repr

/-- A row of `tlsentinel.scanners`. -/
structure Scanner where
  id : String
  name : String
  scanCronExpression : String
  scanConcurrency : Int
  deriving DecidableEq, Repr

/-- The tables. -/
structure DB where
  endpoints : Table Endpoint.id
  hosts : Table EndpointHost.endpointID
  saml : Table EndpointSAML.endpointID
  scanners : Table Scanner.id

/-- How a store function fails. -/
inductive StoreError where
  /-- `ErrNotFound`. -/
  | notFound
  /-- Any other error, such as a violated constraint. -/
  | failed
  /-- A nil pointer is dereferenced; the transaction is rolled back. -/
  | panicked
  deriving DecidableEq, Repr

/-- `models.EndpointRecord`. -/
structure EndpointRecord where
  name : String
  type : String
  dnsName : String
  ipAddress : Option String
  port : Int
  url : Option String
  enabled : Bool
  scanExempt : Bool
  scannerID : Option String
  notes : Option String
  deriving DecidableEq, Repr

/-! ## §2. Statements. -/

namespace DB

/-- `GetEndpoint`, in the fields of a record.  The joins with the type-specific tables are
LEFT JOINs, and NULL is scanned as the zero value. -/
def getEndpoint (db : DB) (id : String) : Option EndpointRecord :=
  (db.endpoints.find? id).map fun h =>
    let eh := db.hosts.find? id
    let es := db.saml.find? id
    { name := h.name
      type := h.type
      dnsName := (eh.bind (·.dnsName)).getD ""
      ipAddress := eh.bind (·.ipAddress)
      port := (eh.map (·.port)).getD 0
      url := es.map (·.url)
      enabled := h.enabled
      scanExempt := h.scanExempt
      scannerID := h.scannerID
      notes := h.notes }

/-- The type-specific statements of `UpdateEndpoint`: rows of other types are deleted, the
row of the record's own type is upserted. -/
def writeTypeRows (db : DB) (id : String) (rec : EndpointRecord) : Except StoreError DB :=
  let hosts := if rec.type ≠ "host" ∧ rec.type ≠ "" then
      db.hosts.delete (fun eh => eh.endpointID = id) else db.hosts
  let saml := if rec.type ≠ "saml" then
      db.saml.delete (fun es => es.endpointID = id) else db.saml
  if rec.type = "host" ∨ rec.type = "" then
    .ok { db with
      hosts := hosts.upsert ⟨id, some rec.dnsName, rec.ipAddress, rec.port⟩
      saml := saml }
  else if rec.type = "saml" then
    match rec.url with
    | none => .error .panicked
    | some url => .ok { db with hosts := hosts, saml := saml.upsert ⟨id, url⟩ }
  else .ok { db with hosts := hosts, saml := saml }

/-- The row of `tlsentinel.endpoints` that a record is written to. -/
def withRecord (rec : EndpointRecord) (h : Endpoint) : Endpoint :=
  { h with
    name := rec.name
    type := rec.type
    enabled := rec.enabled
    scanExempt := rec.scanExempt
    scannerID := rec.scannerID
    notes := rec.notes }

theorem withRecord_id (rec : EndpointRecord) (h : Endpoint) : (withRecord rec h).id = h.id := rfl

/-- The scanner that a record refers to exists. -/
def ScannerExists (db : DB) (scannerID : Option String) : Prop :=
  ∀ sid, scannerID = some sid → ∃ s ∈ db.scanners, s.id = sid

instance (db : DB) : ∀ scannerID, Decidable (db.ScannerExists scannerID)
  | none => .isTrue (fun _ h => absurd h (by simp))
  | some sid => decidable_of_iff (∃ s ∈ db.scanners, s.id = sid)
      ⟨fun h _ heq => (Option.some.inj heq) ▸ h, fun h => h sid rfl⟩

/-- `UpdateEndpoint`, one transaction. -/
def updateEndpoint (db : DB) (id : String) (rec : EndpointRecord) : Except StoreError DB :=
  if db.endpoints.rowsAffected (fun h => h.id = id) = 0 then .error .notFound
  else if db.ScannerExists rec.scannerID then
    let endpoints := db.endpoints.update (fun h => h.id = id) (withRecord rec) (withRecord_id rec)
    writeTypeRows { db with endpoints := endpoints } id rec
  else .error .failed

/-- `GetScannerToken`. -/
def getScannerToken (db : DB) (id : String) : Option Scanner := db.scanners.find? id

/-- The SET clause of `UpdateScannerToken`. -/
def withSettings (name scanCronExpression : String) (scanConcurrency : Int) (s : Scanner) :
    Scanner :=
  { s with
    name := name
    scanCronExpression := scanCronExpression
    scanConcurrency := scanConcurrency }

theorem withSettings_id (name scanCronExpression : String) (scanConcurrency : Int)
    (s : Scanner) : (withSettings name scanCronExpression scanConcurrency s).id = s.id := rfl

/-- `UpdateScannerToken`; a concurrency that is no int4 is refused by the column. -/
def updateScannerToken (db : DB) (id name scanCronExpression : String)
    (scanConcurrency : Int) : Except StoreError DB :=
  if scanConcurrency < -2147483648 ∨ 2147483647 < scanConcurrency then .error .failed
  else if db.scanners.rowsAffected (fun s => s.id = id) = 0 then .error .notFound
  else
    .ok { db with
      scanners := db.scanners.update (fun s => s.id = id)
        (withSettings name scanCronExpression scanConcurrency)
        (withSettings_id name scanCronExpression scanConcurrency) }

/-! ## §3. What an UpdateEndpoint leaves. -/

/-- The types whose host fields are stored. -/
def HostType (type : String) : Prop := type = "host" ∨ type = ""

instance (type : String) : Decidable (HostType type) :=
  inferInstanceAs (Decidable (type = "host" ∨ type = ""))

/-- A record without the fields that its type does not store. -/
def kept (rec : EndpointRecord) : EndpointRecord :=
  { rec with
    dnsName := if HostType rec.type then rec.dnsName else ""
    ipAddress := if HostType rec.type then rec.ipAddress else none
    port := if HostType rec.type then rec.port else 0
    url := if rec.type = "saml" then rec.url else none }

/-- When an UpdateEndpoint is accepted. -/
structure Accepted (db : DB) (id : String) (rec : EndpointRecord) : Prop where
  row : ∃ h ∈ db.endpoints, h.id = id
  scanner : db.ScannerExists rec.scannerID
  url : rec.type = "saml" → rec.url ≠ none

instance (db : DB) (id : String) (rec : EndpointRecord) : Decidable (db.Accepted id rec) :=
  decidable_of_iff ((∃ h ∈ db.endpoints, h.id = id) ∧ db.ScannerExists rec.scannerID ∧
      (rec.type = "saml" → rec.url ≠ none))
    ⟨fun h => ⟨h.1, h.2.1, h.2.2⟩, fun h => ⟨h.row, h.scanner, h.url⟩⟩

/-- The type-specific rows are written unless a SAML record has no url. -/
theorem writeTypeRows_isOk_iff {db : DB} {id : String} {rec : EndpointRecord} :
    (∃ db', db.writeTypeRows id rec = .ok db') ↔ (rec.type = "saml" → rec.url ≠ none) := by
  unfold writeTypeRows
  by_cases hhost : rec.type = "host" ∨ rec.type = ""
  · have hsaml : rec.type ≠ "saml" := by
      rcases hhost with h | h <;> simp [h]
    simp [hhost, hsaml]
  · by_cases hsaml : rec.type = "saml"
    · cases hurl : rec.url with
      | none => simp [hsaml]
      | some url => simp [hsaml]
    · simp [hhost, hsaml]

/-- **UpdateEndpoint is accepted** for an existing endpoint and scanner, and with a url if
the type is saml. -/
theorem updateEndpoint_isOk_iff {db : DB} {id : String} {rec : EndpointRecord} :
    (∃ db', db.updateEndpoint id rec = .ok db') ↔ db.Accepted id rec := by
  unfold updateEndpoint
  by_cases hrow : db.endpoints.rowsAffected (fun h => h.id = id) = 0
  · rw [if_pos hrow]
    refine ⟨fun ⟨_, h⟩ => absurd h (by simp), fun h => ?_⟩
    exact absurd hrow (Table.rowsAffected_key_ne_zero_iff.mpr h.row)
  · rw [if_neg hrow]
    have hexists : ∃ h ∈ db.endpoints, h.id = id := Table.rowsAffected_key_ne_zero_iff.mp hrow
    by_cases hscanner : db.ScannerExists rec.scannerID
    · rw [if_pos hscanner, writeTypeRows_isOk_iff]
      exact ⟨fun h => ⟨hexists, hscanner, h⟩, fun h => h.url⟩
    · rw [if_neg hscanner]
      exact ⟨fun ⟨_, h⟩ => absurd h (by simp), fun h => absurd h.scanner hscanner⟩

/-- The type-specific rows after they were written: those of the endpoint are the record's,
as far as its type has them, and those of other endpoints are as before. -/
theorem writeTypeRows_ok {db db' : DB} {id : String} {rec : EndpointRecord}
    (h : db.writeTypeRows id rec = .ok db') :
    db'.endpoints = db.endpoints ∧ db'.scanners = db.scanners ∧
      (∀ id', db'.hosts.find? id' =
        if id' = id then
          if HostType rec.type then some ⟨id, some rec.dnsName, rec.ipAddress, rec.port⟩
          else none
        else db.hosts.find? id') ∧
      ∀ id', db'.saml.find? id' =
        if id' = id then
          if rec.type = "saml" then rec.url.map (fun url => ⟨id, url⟩) else none
        else db.saml.find? id' := by
  unfold writeTypeRows at h
  by_cases hhost : rec.type = "host" ∨ rec.type = ""
  · have hsaml : rec.type ≠ "saml" := by
      rcases hhost with h | h <;> simp [h]
    have hkeep : ¬ (rec.type ≠ "host" ∧ rec.type ≠ "") := by
      rcases hhost with h | h <;> simp [h]
    simp only [hkeep, hsaml, hhost, if_true, if_false, ne_eq, not_false_eq_true,
      Except.ok.injEq] at h
    subst h
    refine ⟨rfl, rfl, fun id' => ?_, fun id' => ?_⟩
    · rw [Table.find?_upsert]
      simp [HostType, hhost, eq_comm (a := id)]
    · rw [Table.find?_delete_key]
      simp [hsaml]
  · have hdelete : rec.type ≠ "host" ∧ rec.type ≠ "" := not_or.mp hhost
    by_cases hsaml : rec.type = "saml"
    · cases hurl : rec.url with
      | none => simp [hsaml, hurl] at h
      | some url =>
          simp only [hsaml, hurl] at h
          simp only [ne_eq, String.reduceEq, not_false_eq_true, and_self, if_true, or_self,
            if_false, not_true_eq_false, Except.ok.injEq] at h
          subst h
          refine ⟨rfl, rfl, fun id' => ?_, fun id' => ?_⟩
          · rw [Table.find?_delete_key]
            simp [HostType, hsaml]
          · rw [Table.find?_upsert]
            simp [hsaml, eq_comm (a := id)]
    · simp only [hdelete, hsaml, ne_eq, not_false_eq_true, and_self, or_self, if_true,
        if_false, Except.ok.injEq] at h
      subst h
      refine ⟨rfl, rfl, fun id' => ?_, fun id' => ?_⟩
      · rw [Table.find?_delete_key]
        simp [HostType, hdelete]
      · rw [Table.find?_delete_key]
        simp [hsaml]

/-- An accepted UpdateEndpoint updated the row and wrote the type-specific rows. -/
theorem updateEndpoint_ok {db db' : DB} {id : String} {rec : EndpointRecord}
    (h : db.updateEndpoint id rec = .ok db') :
    db'.endpoints =
        db.endpoints.update (fun h => h.id = id) (withRecord rec) (withRecord_id rec) ∧
      db'.scanners = db.scanners ∧
      (∀ id', db'.hosts.find? id' =
        if id' = id then
          if HostType rec.type then some ⟨id, some rec.dnsName, rec.ipAddress, rec.port⟩
          else none
        else db.hosts.find? id') ∧
      ∀ id', db'.saml.find? id' =
        if id' = id then
          if rec.type = "saml" then rec.url.map (fun url => ⟨id, url⟩) else none
        else db.saml.find? id' := by
  obtain ⟨hrow, hscanner, _⟩ := updateEndpoint_isOk_iff.mp ⟨db', h⟩
  unfold updateEndpoint at h
  rw [if_neg (Table.rowsAffected_key_ne_zero_iff.mpr hrow), if_pos hscanner] at h
  exact writeTypeRows_ok h

/-- **What GetEndpoint returns after an UpdateEndpoint.** -/
theorem getEndpoint_updateEndpoint {db db' : DB} {id : String} {rec : EndpointRecord}
    (h : db.updateEndpoint id rec = .ok db') (id' : String) :
    db'.getEndpoint id' = if id' = id then some (kept rec) else db.getEndpoint id' := by
  obtain ⟨hendpoints, _, hhosts, hsaml⟩ := updateEndpoint_ok h
  obtain ⟨hrow, _, _⟩ := updateEndpoint_isOk_iff.mp ⟨db', h⟩
  unfold getEndpoint
  rw [hendpoints, hhosts, hsaml, Table.find?_update]
  by_cases hid : id' = id
  · subst hid
    obtain ⟨e, he, heid⟩ := hrow
    have hfind : db.endpoints.find? id' = some e := Table.find?_eq_some_iff.mpr ⟨he, heid⟩
    rw [hfind]
    -- the joined rows are those just written, or none
    by_cases hhost : HostType rec.type
    · have htype : rec.type ≠ "saml" := by
        rcases hhost with h | h <;> simp [h]
      simp [kept, withRecord, heid, hhost, htype]
    · by_cases htype : rec.type = "saml"
      · simp [kept, withRecord, heid, htype, HostType, Function.comp_def]
      · simp [kept, withRecord, heid, hhost, htype]
  · cases hfind : db.endpoints.find? id' with
    | none => simp [hid]
    | some e =>
        have heid : e.id = id' := Table.key_of_find? hfind
        simp [heid, hid]

/-! ## §4. What an UpdateScannerToken leaves. -/

/-- When an UpdateScannerToken is accepted. -/
structure ScannerAccepted (db : DB) (id : String) (scanConcurrency : Int) : Prop where
  row : ∃ s ∈ db.scanners, s.id = id
  int4 : -2147483648 ≤ scanConcurrency ∧ scanConcurrency ≤ 2147483647

instance (db : DB) (id : String) (scanConcurrency : Int) :
    Decidable (db.ScannerAccepted id scanConcurrency) :=
  decidable_of_iff ((∃ s ∈ db.scanners, s.id = id) ∧
      -2147483648 ≤ scanConcurrency ∧ scanConcurrency ≤ 2147483647)
    ⟨fun h => ⟨h.1, h.2⟩, fun h => ⟨h.row, h.int4⟩⟩

/-- **UpdateScannerToken is accepted** for an existing scanner and an int4. -/
theorem updateScannerToken_isOk_iff {db : DB} {id name scanCronExpression : String}
    {scanConcurrency : Int} :
    (∃ db', db.updateScannerToken id name scanCronExpression scanConcurrency = .ok db') ↔
      db.ScannerAccepted id scanConcurrency := by
  unfold updateScannerToken
  by_cases hrange : scanConcurrency < -2147483648 ∨ 2147483647 < scanConcurrency
  · rw [if_pos hrange]
    refine ⟨fun ⟨_, h⟩ => absurd h (by simp), fun h => ?_⟩
    obtain ⟨hlow, hhigh⟩ := h.int4
    omega
  · rw [if_neg hrange]
    have hint4 : -2147483648 ≤ scanConcurrency ∧ scanConcurrency ≤ 2147483647 := by omega
    by_cases hrow : db.scanners.rowsAffected (fun s => s.id = id) = 0
    · rw [if_pos hrow]
      refine ⟨fun ⟨_, h⟩ => absurd h (by simp), fun h => ?_⟩
      exact absurd hrow (Table.rowsAffected_key_ne_zero_iff.mpr h.row)
    · rw [if_neg hrow]
      exact ⟨fun _ => ⟨Table.rowsAffected_key_ne_zero_iff.mp hrow, hint4⟩, fun _ => ⟨_, rfl⟩⟩

/-- **What GetScannerToken returns after an UpdateScannerToken**; the endpoints stay. -/
theorem getScannerToken_updateScannerToken {db db' : DB} {id name scanCronExpression : String}
    {scanConcurrency : Int}
    (h : db.updateScannerToken id name scanCronExpression scanConcurrency = .ok db') :
    (∀ id', db'.getScannerToken id' =
      if id' = id then
        (db.getScannerToken id').map (withSettings name scanCronExpression scanConcurrency)
      else db.getScannerToken id') ∧
      ∀ id', db'.getEndpoint id' = db.getEndpoint id' := by
  obtain ⟨hrow, hint4⟩ := updateScannerToken_isOk_iff.mp ⟨db', h⟩
  unfold updateScannerToken at h
  rw [if_neg (by omega), if_neg (Table.rowsAffected_key_ne_zero_iff.mpr hrow)] at h
  injection h with h
  subst h
  refine ⟨fun id' => ?_, fun _ => rfl⟩
  unfold getScannerToken
  rw [Table.find?_update]
  cases hfind : db.scanners.find? id' with
  | none => simp
  | some s =>
      have hs : s.id = id' := Table.key_of_find? hfind
      by_cases hid : id' = id
      · simp [hs, hid, withSettings]
      · simp [hs, hid]

/-! ## §5. InsertEndpoint and DeleteEndpoint. -/

/-- The row of `tlsentinel.endpoints` that a record is inserted as; whether scans leave the
endpoint out is not taken from the record. -/
def newEndpoint (id : String) (rec : EndpointRecord) : Endpoint :=
  ⟨id, rec.name, rec.type, rec.enabled, false, rec.scannerID, rec.notes⟩

/-- The type-specific statement of `InsertEndpoint`. -/
def insertTypeRow (db : DB) (id : String) (rec : EndpointRecord) : Except StoreError DB :=
  if rec.type = "host" ∨ rec.type = "" then
    match db.hosts.insert ⟨id, some rec.dnsName, rec.ipAddress, rec.port⟩ with
    | none => .error .failed
    | some hosts => .ok { db with hosts := hosts }
  else if rec.type = "saml" then
    match rec.url with
    | none => .error .panicked
    | some url =>
        match db.saml.insert ⟨id, url⟩ with
        | none => .error .failed
        | some saml => .ok { db with saml := saml }
  else .ok db

/-- `InsertEndpoint`, one transaction; `id` is what `gen_random_uuid()` gives. -/
def insertEndpoint (db : DB) (id : String) (rec : EndpointRecord) : Except StoreError DB :=
  if db.ScannerExists rec.scannerID then
    match db.endpoints.insert (newEndpoint id rec) with
    | none => .error .failed
    | some endpoints => insertTypeRow { db with endpoints := endpoints } id rec
  else .error .failed

/-- `DeleteEndpoint`; the type-specific rows go with the endpoint (ON DELETE CASCADE). -/
def deleteEndpoint (db : DB) (id : String) : Except StoreError DB :=
  if db.endpoints.rowsAffected (fun h => h.id = id) = 0 then .error .notFound
  else
    .ok { db with
      endpoints := db.endpoints.delete (fun h => h.id = id)
      hosts := db.hosts.delete (fun eh => eh.endpointID = id)
      saml := db.saml.delete (fun es => es.endpointID = id) }

theorem insertTypeRow_ok {db db' : DB} {id : String} {rec : EndpointRecord}
    (h : db.insertTypeRow id rec = .ok db') :
    db'.endpoints = db.endpoints ∧ db'.scanners = db.scanners ∧
      (∀ id', db'.hosts.find? id' =
        if HostType rec.type ∧ id = id' then
          some ⟨id, some rec.dnsName, rec.ipAddress, rec.port⟩
        else db.hosts.find? id') ∧
      ∀ id', db'.saml.find? id' =
        if rec.type = "saml" ∧ id = id' then rec.url.map (fun url => ⟨id, url⟩)
        else db.saml.find? id' := by
  unfold insertTypeRow at h
  by_cases hhost : rec.type = "host" ∨ rec.type = ""
  · have hsaml : rec.type ≠ "saml" := by
      rcases hhost with h | h <;> simp [h]
    rw [if_pos hhost] at h
    split at h
    · exact absurd h (by simp)
    · next hosts hins =>
        injection h with h
        subst h
        refine ⟨rfl, rfl, fun id' => ?_, fun id' => ?_⟩
        · rw [Table.find?_insert hins]
          simp only [HostType, hhost, true_and]
        · simp only [hsaml, false_and, if_false]
  · rw [if_neg hhost] at h
    by_cases hsaml : rec.type = "saml"
    · rw [if_pos hsaml] at h
      split at h
      · exact absurd h (by simp)
      · next url hurl =>
          split at h
          · exact absurd h (by simp)
          · next saml hins =>
              injection h with h
              subst h
              refine ⟨rfl, rfl, fun id' => ?_, fun id' => ?_⟩
              · simp only [HostType, hhost, false_and, if_false]
              · rw [Table.find?_insert hins]
                simp only [hsaml, true_and, hurl, Option.map_some]
    · rw [if_neg hsaml] at h
      injection h with h
      subst h
      simp only [HostType, hhost, hsaml, false_and, if_false, implies_true, and_self]

/-- **An accepted InsertEndpoint** stored a new endpoint, with the row of its type. -/
theorem insertEndpoint_ok {db db' : DB} {id : String} {rec : EndpointRecord}
    (h : db.insertEndpoint id rec = .ok db') :
    db.ScannerExists rec.scannerID ∧ db'.scanners = db.scanners ∧
      (∀ e ∈ db.endpoints, e.id ≠ id) ∧
      (∀ e, e ∈ db'.endpoints ↔ e ∈ db.endpoints ∨ e = newEndpoint id rec) ∧
      (∀ id', db'.hosts.find? id' =
        if HostType rec.type ∧ id = id' then
          some ⟨id, some rec.dnsName, rec.ipAddress, rec.port⟩
        else db.hosts.find? id') ∧
      ∀ id', db'.saml.find? id' =
        if rec.type = "saml" ∧ id = id' then rec.url.map (fun url => ⟨id, url⟩)
        else db.saml.find? id' := by
  unfold insertEndpoint at h
  by_cases hscanner : db.ScannerExists rec.scannerID
  · rw [if_pos hscanner] at h
    split at h
    · exact absurd h (by simp)
    · next endpoints hins =>
        obtain ⟨hend, hscanners, hhosts, hsaml⟩ := insertTypeRow_ok h
        refine ⟨hscanner, hscanners, fun e he => Table.key_ne_of_insert hins he, ?_, hhosts,
          hsaml⟩
        intro e
        rw [hend]
        exact Table.mem_insert hins
  · rw [if_neg hscanner] at h
    exact absurd h (by simp)

/-- An accepted InsertEndpoint of a SAML endpoint had a url. -/
theorem url_of_insertEndpoint {db db' : DB} {id : String} {rec : EndpointRecord}
    (h : db.insertEndpoint id rec = .ok db') : rec.type = "saml" → rec.url ≠ none := by
  intro hsaml hurl
  unfold insertEndpoint at h
  split at h
  · split at h
    · exact absurd h (by simp)
    · unfold insertTypeRow at h
      rw [if_neg (by rw [hsaml]; decide), if_pos hsaml, hurl] at h
      exact absurd h (by simp)
  · exact absurd h (by simp)

/-- What an accepted DeleteEndpoint leaves. -/
theorem deleteEndpoint_ok {db db' : DB} {id : String} (h : db.deleteEndpoint id = .ok db') :
    db'.scanners = db.scanners ∧
      (∀ e, e ∈ db'.endpoints ↔ e ∈ db.endpoints ∧ e.id ≠ id) ∧
      (∀ id', db'.hosts.find? id' = if id' = id then none else db.hosts.find? id') ∧
      ∀ id', db'.saml.find? id' = if id' = id then none else db.saml.find? id' := by
  unfold deleteEndpoint at h
  split at h
  · exact absurd h (by simp)
  · injection h with h
    subst h
    refine ⟨rfl, fun e => ?_, Table.find?_delete_key _ _, Table.find?_delete_key _ _⟩
    simp [Table.mem_delete]

end DB

end TLSentinel.Endpoints
