/-
  TLSentinel.Endpoints.SAMLURLs
  ─────────────────────────────
  **WHICH REQUESTS KEEP THE URL OF EVERY SAML ENDPOINT.**

  UpdateEndpoint and InsertEndpoint dereference the url of a SAML record.  Create,
  Update and BulkImport look at it before, a promotion makes hosts only; Patch lets
  the request set the url to null or to the empty string, and cannot change the type.
  The system is the tables with all requests that write endpoints; a PATCH reads in
  one step and writes in another.

  Main results:
    * `step_spec`            — one step;
    * `samlURLs_always_iff`  — a whole run: the urls stay, and nothing panics, exactly
                               if no PATCH that gets to its write drops a url.
-/
import TLSentinel.Endpoints.HostPorts
import TLSentinel.Discovery.Promotion
import TLSentinel.Scanners.Assignment

namespace TLSentinel.Endpoints.SAMLURLs

open Foundation
open TLSentinel.Discovery (DiscoveryInboxItem PromoteDiscoveryInboxRequest promoteRecord)

/-! ## §1. The urls. -/

/-- Every SAML endpoint has a url. -/
def AllURLs (db : DB) : Prop :=
  ∀ e ∈ db.endpoints, e.type = "saml" →
    ∃ es ∈ db.saml, es.endpointID = e.id ∧ es.url ≠ ""

/-- The record has a url if its type is saml. -/
def WithURL (rec : EndpointRecord) : Prop :=
  rec.type = "saml" → rec.url ≠ none ∧ rec.url ≠ some ""

/-- A SAML record is kept with its url. -/
theorem withURL_kept {rec : EndpointRecord} : WithURL (DB.kept rec) ↔ WithURL rec := by
  apply forall_congr'
  intro htype
  have hsame : (DB.kept rec).url = rec.url := if_pos htype
  rw [hsame]

/-- The urls, as GetEndpoint returns them. -/
theorem allURLs_iff {db : DB} :
    AllURLs db ↔ ∀ id rec, db.getEndpoint id = some rec → WithURL rec := by
  constructor
  · intro h id rec hget htype
    obtain ⟨e, he, rfl⟩ := Option.map_eq_some_iff.mp hget
    obtain ⟨es, hes, hid, hurl⟩ := h e (Table.mem_of_find? he) htype
    have hrow : db.saml.find? id = some es :=
      Table.find?_eq_some_iff.mpr ⟨hes, hid.trans (Table.key_of_find? he)⟩
    simp [hrow, hurl]
  · intro h e he htype
    have hrow : db.endpoints.find? e.id = some e := Table.find?_eq_some_iff.mpr ⟨he, rfl⟩
    have hurl := h e.id _ (Option.map_eq_some_iff.mpr ⟨e, hrow, rfl⟩) htype
    cases hes : db.saml.find? e.id with
    | none => simp [hes] at hurl
    | some es =>
        exact ⟨es, Table.mem_of_find? hes, Table.key_of_find? hes, by simpa [hes] using hurl⟩

/-- Endpoints that were there, with the url they had, still have it. -/
theorem allURLs_of_kept {db db' : DB} (h : AllURLs db)
    (hkept : ∀ e' ∈ db'.endpoints, e'.type = "saml" → ∃ e ∈ db.endpoints, e.id = e'.id ∧
      e.type = "saml" ∧ db'.saml.find? e.id = db.saml.find? e.id) : AllURLs db' := by
  intro e' he' htype'
  obtain ⟨e, he, hid, htype, hrow⟩ := hkept e' he' htype'
  obtain ⟨es, hes, hesid, hurl⟩ := h e he htype
  rw [Table.find?_eq_some_iff.mpr ⟨hes, hesid⟩] at hrow
  exact ⟨es, Table.mem_of_find? hrow, hesid.trans hid, hurl⟩

/-! ## §2. One write. -/

/-- **An insert** of a record with its url keeps the urls. -/
theorem allURLs_insertRecord {db : DB} {o : Insertion} {rec : EndpointRecord} (h : AllURLs db)
    (hrec : WithURL rec) : AllURLs (db.insertRecord o rec).1 := by
  unfold DB.insertRecord
  split
  · cases hinsert : db.insertEndpoint o.id rec with
    | error e => exact h
    | ok db' =>
        obtain ⟨-, -, hne, hmem, -, hsaml⟩ := DB.insertEndpoint_ok hinsert
        intro e he htype
        obtain he | rfl := (hmem e).mp he
        · -- an older endpoint, whose row is still there
          obtain ⟨es, hes, hid, hurl⟩ := h e he htype
          have hrow : db'.saml.find? e.id = some es := by
            rw [hsaml, if_neg fun hnew => hne e he hnew.2.symm]
            exact Table.find?_eq_some_iff.mpr ⟨hes, hid⟩
          exact ⟨es, Table.mem_of_find? hrow, hid, hurl⟩
        · -- the new one
          obtain ⟨hnone, hempty⟩ := hrec htype
          obtain ⟨url, hurl⟩ := Option.ne_none_iff_exists'.mp hnone
          have hrow : db'.saml.find? o.id = some ⟨o.id, url⟩ := by
            rw [hsaml, if_pos ⟨htype, rfl⟩, hurl]
            rfl
          exact ⟨_, Table.mem_of_find? hrow, rfl, fun heq => hempty (heq ▸ hurl)⟩
  · exact h

/-- **An update** keeps the urls exactly if its record has its own. -/
theorem allURLs_updateEndpoint {db db' : DB} {id : String} {rec : EndpointRecord}
    (h : AllURLs db) (hok : db.updateEndpoint id rec = .ok db') :
    AllURLs db' ↔ WithURL rec := by
  rw [allURLs_iff] at h ⊢
  rw [← withURL_kept]
  constructor
  · intro h'
    apply h' id
    rw [DB.getEndpoint_updateEndpoint hok, if_pos rfl]
  · intro hrec id' rec' hget
    rw [DB.getEndpoint_updateEndpoint hok] at hget
    split at hget
    · cases hget
      exact hrec
    · exact h id' rec' hget

/-- **When an UpdateEndpoint panics.** -/
theorem updateEndpoint_panicked_iff {db : DB} {id : String} {rec : EndpointRecord} :
    db.updateEndpoint id rec = .error .panicked ↔
      (∃ h ∈ db.endpoints, h.id = id) ∧ db.ScannerExists rec.scannerID ∧ rec.type = "saml" ∧
        rec.url = none := by
  unfold DB.updateEndpoint
  by_cases hrow : db.endpoints.rowsAffected (fun h => h.id = id) = 0
  · rw [if_pos hrow]
    refine ⟨fun h => (by cases h), fun h => ?_⟩
    exact absurd hrow (Table.rowsAffected_key_ne_zero_iff.mpr h.1)
  · rw [if_neg hrow]
    have hexists : ∃ h ∈ db.endpoints, h.id = id := Table.rowsAffected_key_ne_zero_iff.mp hrow
    by_cases hscanner : db.ScannerExists rec.scannerID
    · rw [if_pos hscanner, and_iff_right hexists, and_iff_right hscanner]
      unfold DB.writeTypeRows
      by_cases hhost : rec.type = "host" ∨ rec.type = ""
      · have hsaml : rec.type ≠ "saml" := by
          rcases hhost with h | h <;> simp [h]
        simp [hhost, hsaml]
      · by_cases hsaml : rec.type = "saml"
        · cases hurl : rec.url <;> simp [hsaml]
        · simp [hhost, hsaml]
    · rw [if_neg hscanner]
      exact ⟨fun h => (by cases h), fun h => absurd h.2.1 hscanner⟩

/-- Nothing else refuses a record of an existing endpoint and scanner. -/
theorem panicked_of_refused {db : DB} {id : String} {rec : EndpointRecord}
    (hrow : ∃ h ∈ db.endpoints, h.id = id) (hscanner : db.ScannerExists rec.scannerID)
    (hrefused : ¬db.Accepted id rec) : db.updateEndpoint id rec = .error .panicked := by
  have hurl : ¬(rec.type = "saml" → rec.url ≠ none) := fun h => hrefused ⟨hrow, hscanner, h⟩
  rw [Classical.not_imp, not_not] at hurl
  exact updateEndpoint_panicked_iff.mpr ⟨hrow, hscanner, hurl⟩

/-- What passes the checks of Create and of Update has a url if its type is saml. -/
theorem url_of_checkFields {req : CreateEndpointRequest} {type : String} {port : Int}
    (h : checkFields req = .ok (type, port)) :
    type = "saml" → req.url ≠ none ∧ req.url ≠ some "" := by
  intro htype
  subst htype
  unfold checkFields at h
  dsimp only at h
  generalize (if req.type = "" then "host" else req.type) = chosen at h
  repeat' split at h
  all_goals simp_all

theorem withURL_createRecord {body : Option CreateEndpointRequest} {rec : EndpointRecord}
    (h : createRecord body = .ok rec) : WithURL rec := by
  unfold createRecord at h
  cases body with
  | none => cases h
  | some req =>
      cases hcheck : checkFields req with
      | error e => simp [hcheck] at h
      | ok typed =>
          simp only [hcheck, Except.ok.injEq] at h
          subst h
          exact url_of_checkFields hcheck

theorem withURL_updateRecord {body : Option UpdateEndpointRequest} {rec : EndpointRecord}
    (h : updateRecord body = .ok rec) : WithURL rec := by
  unfold updateRecord at h
  cases body with
  | none => cases h
  | some req =>
      cases hcheck : checkFields req.toCreateEndpointRequest with
      | error e => simp [hcheck] at h
      | ok typed =>
          simp only [hcheck, Except.ok.injEq] at h
          subst h
          exact url_of_checkFields hcheck

theorem withURL_importRecord {row : BulkImportRow} {rec : EndpointRecord}
    (h : importRecord row = .ok rec) : WithURL rec := by
  unfold importRecord at h
  cases hvalid : validateBulkRow row.normalize with
  | some errMsg => simp [hvalid] at h
  | none =>
      simp only [hvalid, Except.ok.injEq] at h
      subst h
      intro htype
      have htype' : row.normalize.type = "saml" := htype
      show row.normalize.url ≠ none ∧ row.normalize.url ≠ some ""
      unfold validateBulkRow at hvalid
      rw [htype'] at hvalid
      split at hvalid
      · cases hvalid
      · simpa using hvalid

/-- A request for an endpoint keeps the urls if what it asks for has its own. -/
theorem allURLs_written {ε : Type} {db : DB} {o : Insertion} {asked : Except ε EndpointRecord}
    (h : AllURLs db) (hasked : ∀ rec, asked = .ok rec → WithURL rec) :
    AllURLs (HostPorts.written db o asked) := by
  cases asked with
  | error e => exact h
  | ok rec => exact allURLs_insertRecord h (hasked rec rfl)

/-- **A whole import** keeps the urls. -/
theorem allURLs_bulkLoop {outcome : Nat → Insertion} (rows : List BulkImportRow) :
    ∀ (i : Nat) (db : DB) (resp : BulkImportResponse), AllURLs db →
      AllURLs (bulkLoop outcome i rows (db, resp)).1 := by
  induction rows with
  | nil => exact fun i db resp h => h
  | cons row rows ih =>
      intro i db resp h
      apply ih
      rw [HostPorts.importRow_fst]
      exact allURLs_written h fun _ => withURL_importRecord

theorem allURLs_deleteEndpoint {db db' : DB} {id : String} (h : AllURLs db)
    (hok : db.deleteEndpoint id = .ok db') : AllURLs db' := by
  obtain ⟨-, hmem, -, hsaml⟩ := DB.deleteEndpoint_ok hok
  apply allURLs_of_kept h
  intro e he htype
  obtain ⟨he, hne⟩ := (hmem e).mp he
  exact ⟨e, he, rfl, htype, by rw [hsaml, if_neg hne]⟩

/-- The url of a merged record: that of the request, or the one that was read. -/
theorem withURL_mergePatch {current rec : EndpointRecord} {fields : RawFields}
    (h : mergePatch current fields = .ok rec) (hcurrent : WithURL current) :
    WithURL rec ↔
      (rec.type = "saml" → fields "url" ≠ some .null ∧ fields "url" ≠ some (.string "")) := by
  apply forall_congr'
  intro htype
  have hread := hcurrent (mergePatch_type h ▸ htype)
  have hget := mergePatch_get h .url
  simp only [Field.get, Field.named] at hget
  -- every value that is no string and not null is refused, so the url read stays
  cases hurl : fields "url" with
  | none => simp_all
  | some v =>
      cases v with
      | null => simp_all [stringOrNull]
      | string s => simp_all [stringOrNull]
      | bool b => simp_all [stringOrNull]
      | int n => simp_all [stringOrNull]
      | other => simp_all [stringOrNull]

/-! ## §3. The system. -/

section

variable {Addr : Type}

/-- The requests that write endpoints, scanners, or both. -/
inductive Action (Addr : Type) where
  | create (o : Insertion) (body : Option CreateEndpointRequest)
  | update (endpointID : String) (body : Option UpdateEndpointRequest)
  /-- A PATCH reads, or writes. -/
  | patch (a : Endpoints.Action)
  | bulkImport (outcome : Nat → Insertion) (body : Option (List BulkImportRow))
  | promote (o : Insertion) (item : DiscoveryInboxItem Addr) (req : PromoteDiscoveryInboxRequest)
  | deleteEndpoint (endpointID : String)
  | createScanner (scanner : Scanner)
  | deleteScanner (scannerID : String)

/-- A scanner more. -/
def createScanner (db : DB) (scanner : Scanner) : DB :=
  match db.scanners.insert scanner with
  | none => db
  | some scanners => { db with scanners := scanners }

/-- A scanner less; its endpoints stay without one. -/
def deleteScanner (db : DB) (scannerID : String) : DB :=
  { db with
    endpoints := Scanners.unassigned db.endpoints scannerID
    scanners := db.scanners.delete (fun s => decide (s.id = scannerID)) }

/-- The tables after a statement. -/
def after {ε : Type} (db : DB) : Except ε DB → DB
  | .error _ => db
  | .ok db' => db'

/-- The tables after a request that runs in one step. -/
def next (db : DB) : Action Addr → DB
  | .create o body => (create db o body).1
  | .update endpointID body => after db (update db endpointID body)
  | .patch _ => db
  | .bulkImport outcome body => (bulkImport db outcome body).1
  | .promote o item req => (db.insertRecord o (promoteRecord item req)).1
  | .deleteEndpoint endpointID => after db (db.deleteEndpoint endpointID)
  | .createScanner scanner => createScanner db scanner
  | .deleteScanner scannerID => deleteScanner db scannerID

/-- One step. -/
def step (s : Sys) : Action Addr → Option Sys
  | .patch a => Endpoints.step s a
  | a => some { s with db := next s.db a }

/-- An UpdateEndpoint dereferences the url of a record without one. -/
def Panics (s : Sys) : Action Addr → Prop
  | .update endpointID body => ∃ rec, updateRecord body = .ok rec ∧
      s.db.updateEndpoint endpointID rec = .error .panicked
  | .patch (.write req) => ∃ endpointID rec body,
      s.reqs req = .endpointWrite endpointID rec body ∧
        s.db.updateEndpoint endpointID rec = .error .panicked
  | _ => False

/-- A PATCH that writes a SAML endpoint which is still there, with a scanner which is, names no
url that is null or empty. -/
def KeepsURL (s : Sys) : Action Addr → Prop
  | .patch (.write req) => ∀ endpointID rec fields,
      s.reqs req = .endpointWrite endpointID rec (some fields) → rec.type = "saml" →
        (∃ h ∈ s.db.endpoints, h.id = endpointID) → s.db.ScannerExists rec.scannerID →
          fields "url" ≠ some .null ∧ fields "url" ≠ some (.string "")
  | _ => True

/-- What was read for a PATCH in flight had its url. -/
def ReadWithURL : PatchPc → Prop
  | .endpointWrite _ rec body => ∃ fields current,
      body = some fields ∧ mergePatch current fields = .ok rec ∧ WithURL current
  | _ => True

/-- The urls are there, and were when a PATCH in flight read them. -/
structure URLInv (s : Sys) : Prop where
  urls : AllURLs s.db
  read : ∀ req, ReadWithURL (s.reqs req)

/-! ## §4. One step. -/

/-- **A request in one step** keeps the urls. -/
theorem allURLs_next {db : DB} (h : AllURLs db) (a : Action Addr) : AllURLs (next db a) := by
  cases a with
  | create o body =>
      show AllURLs (create db o body).1
      rw [HostPorts.create_fst]
      exact allURLs_written h fun _ => withURL_createRecord
  | update id body =>
      show AllURLs (after db (update db id body))
      obtain ⟨rec, db', hrec, -, hupdate, hok⟩ | ⟨-, e, herror⟩ := HostPorts.update_cases db id body
      · rw [hok]
        exact (allURLs_updateEndpoint h hupdate).mpr (withURL_updateRecord hrec)
      · rw [herror]
        exact h
  | patch a => exact h
  | bulkImport outcome body =>
      show AllURLs (bulkImport db outcome body).1
      rw [HostPorts.bulkImport_fst]
      exact allURLs_bulkLoop _ 0 db _ h
  | promote o item req =>
      apply allURLs_insertRecord h
      intro htype
      exact absurd (show "host" = "saml" from htype) (by decide)
  | deleteEndpoint id =>
      show AllURLs (after db (db.deleteEndpoint id))
      cases hdelete : db.deleteEndpoint id with
      | error e => exact h
      | ok db' => exact allURLs_deleteEndpoint h hdelete
  | createScanner scanner =>
      show AllURLs (createScanner db scanner)
      unfold createScanner
      split <;> exact h
  | deleteScanner id =>
      apply allURLs_of_kept h
      intro e' he' htype
      obtain ⟨e, he, hid, htype'⟩ := Scanners.exists_of_mem_unassigned he'
      exact ⟨e, he, hid, htype'.trans htype, rfl⟩

/-- An Update does not panic. -/
theorem not_panics_update (s : Sys) (id : String) (body : Option UpdateEndpointRequest) :
    ¬Panics s (.update id body : Action Addr) := by
  rintro ⟨rec, hrec, hpanic⟩
  obtain ⟨-, -, htype, hurl⟩ := updateEndpoint_panicked_iff.mp hpanic
  exact (withURL_updateRecord hrec htype).1 hurl

/-- A request that went on. -/
theorem readWithURL_goto {s : Sys} (h : ∀ req, ReadWithURL (s.reqs req)) (req : Nat)
    {pc : PatchPc} (hpc : ReadWithURL pc) (req' : Nat) :
    ReadWithURL ((s.goto req pc).reqs req') := by
  show ReadWithURL (Function.update s.reqs req pc req')
  by_cases heq : req' = req
  · rw [heq, Function.update_self]
    exact hpc
  · rw [Function.update_of_ne heq]
    exact h req'

theorem readWithURL_finish {s : Sys} (h : ∀ req, ReadWithURL (s.reqs req)) (req : Nat)
    (r : Except HttpError DB) (req' : Nat) : ReadWithURL ((s.finish req r).reqs req') := by
  cases r with
  | ok db =>
      have hdone : ReadWithURL (.done (.ok ())) := trivial
      exact readWithURL_goto h req hdone req'
  | error e =>
      have hdone : ReadWithURL (.done (.error e)) := trivial
      exact readWithURL_goto h req hdone req'

/-- A read found a record with its url. -/
theorem readWithURL_of_patchRead {db : DB} {id : String} {body : Option RawFields}
    {rec : EndpointRecord} (h : AllURLs db) (hread : patchRead db id body = .ok rec) :
    ReadWithURL (.endpointWrite id rec body) := by
  unfold patchRead at hread
  cases body with
  | none => cases hread
  | some fields =>
      cases hget : db.getEndpoint id with
      | none => simp [hget] at hread
      | some current =>
          rw [hget] at hread
          exact ⟨fields, current, rfl, hread, allURLs_iff.mp h id current hget⟩

/-- **The write of a PATCH** keeps the urls and does not panic exactly if the record it writes
has its url, where it gets that far. -/
theorem allURLs_patchWrite {s : Sys} {req : Nat} {id : String} {rec : EndpointRecord}
    (h : AllURLs s.db) :
    (AllURLs (s.finish req (patchWrite s.db id rec)).db ∧
        s.db.updateEndpoint id rec ≠ .error .panicked) ↔
      ((∃ e ∈ s.db.endpoints, e.id = id) → s.db.ScannerExists rec.scannerID → WithURL rec) := by
  rw [finish_db]
  unfold patchWrite
  cases hupdate : s.db.updateEndpoint id rec with
  | ok db' =>
      obtain ⟨hrow, hscanner, -⟩ := DB.updateEndpoint_isOk_iff.mp ⟨db', hupdate⟩
      have hurls : AllURLs db' ↔ WithURL rec := allURLs_updateEndpoint h hupdate
      simp [hurls, hrow, hscanner]
  | error err =>
      have hrefused : ¬s.db.Accepted id rec := by
        intro haccepted
        obtain ⟨db', hok⟩ := DB.updateEndpoint_isOk_iff.mpr haccepted
        rw [hupdate] at hok
        cases hok
      by_cases hpanic : s.db.updateEndpoint id rec = .error .panicked
      · obtain ⟨hrow, hscanner, htype, hurl⟩ := updateEndpoint_panicked_iff.mp hpanic
        refine ⟨fun hsafe => absurd (hupdate ▸ hpanic) hsafe.2, fun hcond => ?_⟩
        exact absurd hurl (hcond hrow hscanner htype).1
      · refine ⟨fun _ hrow hscanner => ?_, fun _ => ⟨?_, hupdate ▸ hpanic⟩⟩
        · -- an existing row and scanner are refused only by a panic
          exact absurd (panicked_of_refused hrow hscanner hrefused) hpanic
        · cases err <;> exact h

/-- The write of an endpoint PATCH panics if its UpdateEndpoint does. -/
theorem panics_write_iff {s : Sys} {req : Nat} {id : String} {rec : EndpointRecord}
    {body : Option RawFields} (hpc : s.reqs req = .endpointWrite id rec body) :
    Panics s (.patch (.write req) : Action Addr) ↔
      s.db.updateEndpoint id rec = .error .panicked := by
  constructor
  · rintro ⟨id', rec', body', hpc', hpanic⟩
    rw [hpc] at hpc'
    cases hpc'
    exact hpanic
  · exact fun hpanic => ⟨id, rec, body, hpc, hpanic⟩

/-- It keeps its url if what it merged has one. -/
theorem keepsURL_write_iff {s : Sys} {req : Nat} {id : String} {rec current : EndpointRecord}
    {fields : RawFields} (hpc : s.reqs req = .endpointWrite id rec (some fields))
    (hmerge : mergePatch current fields = .ok rec) (hcurrent : WithURL current) :
    KeepsURL s (.patch (.write req) : Action Addr) ↔
      ((∃ e ∈ s.db.endpoints, e.id = id) → s.db.ScannerExists rec.scannerID → WithURL rec) := by
  rw [withURL_mergePatch hmerge hcurrent]
  constructor
  · exact fun h hrow hscanner htype => h id rec fields hpc htype hrow hscanner
  · intro h id' rec' fields' hpc' htype hrow hscanner
    rw [hpc] at hpc'
    cases hpc'
    exact h hrow hscanner htype

/-- **In flight**: what a PATCH has read had its url. -/
theorem readWithURL_step {s t : Sys} {a : Action Addr} (hinv : URLInv s)
    (h : step s a = some t) : ∀ req, ReadWithURL (t.reqs req) := by
  obtain ⟨hurls, hread⟩ := hinv
  cases a with
  | patch a =>
      cases step_cases h with
      | endpointRead hok => exact readWithURL_goto hread _ (readWithURL_of_patchRead hurls hok)
      | endpointRefused => exact readWithURL_goto hread _ trivial
      | scannerRead => exact readWithURL_goto hread _ trivial
      | scannerRefused => exact readWithURL_goto hread _ trivial
      | endpointWrite => exact readWithURL_finish hread _ _
      | scannerWrite => exact readWithURL_finish hread _ _
  | _ =>
      cases h
      exact hread

/-- **One step** keeps the urls and does not panic exactly if it is no PATCH that drops one. -/
theorem step_spec {s t : Sys} {a : Action Addr} (hinv : URLInv s) (h : step s a = some t) :
    (AllURLs t.db ∧ ¬Panics s a) ↔ KeepsURL s a := by
  obtain ⟨hurls, hread⟩ := hinv
  cases a with
  | patch a =>
      cases step_cases h with
      | endpointRead => exact ⟨fun _ => trivial, fun _ => ⟨hurls, not_false⟩⟩
      | endpointRefused => exact ⟨fun _ => trivial, fun _ => ⟨hurls, not_false⟩⟩
      | scannerRead => exact ⟨fun _ => trivial, fun _ => ⟨hurls, not_false⟩⟩
      | scannerRefused => exact ⟨fun _ => trivial, fun _ => ⟨hurls, not_false⟩⟩
      | @endpointWrite req id rec body hpc =>
          -- the merge of what was read, and of the request
          have hmerged : ReadWithURL (.endpointWrite id rec body) := hpc ▸ hread req
          obtain ⟨fields, current, rfl, hmerge, hcurrent⟩ := hmerged
          rw [panics_write_iff hpc, keepsURL_write_iff hpc hmerge hcurrent]
          exact allURLs_patchWrite hurls
      | @scannerWrite req id merged body hpc =>
          refine ⟨fun _ id' rec fields hpc' => ?_, fun _ => ⟨?_, ?_⟩⟩
          · rw [hpc] at hpc'
            cases hpc'
          · rw [finish_db]
            apply allURLs_iff.mpr
            intro id' rec hget
            rw [getEndpoint_scannerPatchWrite] at hget
            exact allURLs_iff.mp hurls id' rec hget
          · rintro ⟨id', rec, body', hpc', -⟩
            rw [hpc] at hpc'
            cases hpc'
  | update id body =>
      cases h
      exact ⟨fun _ => trivial,
        fun _ => ⟨allURLs_next hurls (.update id body : Action Addr),
          not_panics_update s id body⟩⟩
  | _ =>
      -- none of these is an UpdateEndpoint
      cases h
      exact ⟨fun _ => trivial, fun _ => ⟨allURLs_next hurls _, not_false⟩⟩

/-! ## §5. Runs. -/

/-- **The urls stay and no update panics**, in a run from a state that has them, exactly if no
PATCH drops a url. -/
theorem samlURLs_always_iff {s t : Sys} {tr : List (Sys × Action Addr)} (e : Exec step s tr t)
    (hidle : ∀ req, s.reqs req = .idle) (hs : AllURLs s.db) :
    ((∀ u ∈ visited tr t, AllURLs u.db) ∧ ∀ p ∈ tr, ¬Panics p.1 p.2) ↔
      ∀ p ∈ tr, KeepsURL p.1 p.2 := by
  have hread : ∀ req, ReadWithURL (s.reqs req) := fun req => by rw [hidle req]; trivial
  have hrun := e.always_steps_iff (C := KeepsURL) (J := fun _ => True) (P := URLInv)
    (Q := fun s a _ => ¬Panics s a) (fun _ _ _ _ _ => trivial)
    (fun s a t _ hinv h => by
      rw [← step_spec hinv h]
      exact and_congr_left fun _ => ⟨URLInv.urls, fun hurls => ⟨hurls, readWithURL_step hinv h⟩⟩)
    trivial ⟨hs, hread⟩
  rw [← hrun]
  constructor
  · rintro ⟨hall, hpanics⟩
    -- where all states have their urls, so had those that were read
    have hreads : ∀ u ∈ visited tr t, ∀ req, ReadWithURL (u.reqs req) :=
      e.preserves (C := fun s _ => AllURLs s.db)
        (fun s a t hread hurls h => readWithURL_step ⟨hurls, hread⟩ h) hread
        (fun p hp => hall p.1 (mem_visited hp t))
    exact ⟨fun u hu => ⟨hall u hu, hreads u hu⟩, fun p hp _ _ => hpanics p hp⟩
  · rintro ⟨hall, hpanics⟩
    refine ⟨fun u hu => (hall u hu).urls, fun p hp => ?_⟩
    obtain ⟨u, hstep⟩ := e.enabled hp
    exact hpanics p hp u hstep

end

/-- One SAML endpoint, and no request. -/
def oneSAML : Sys where
  db :=
    { endpoints := ⟨[⟨"sso", "idp", "saml", true, false, none, none⟩], List.nodup_singleton _⟩
      hosts := Table.empty
      saml := ⟨[⟨"sso", "https://idp.example.com/metadata"⟩], List.nodup_singleton _⟩
      scanners := Table.empty }
  reqs := fun _ => .idle

/-- A PATCH of its url. -/
def patchURL (url : RawMessage) : List (Action String) :=
  [.patch (.endpointRead 0 "sso" (some fun key => if key = "url" then some url else none)),
    .patch (.write 0)]

/-- **A PATCH panics**, where the url is null. -/
theorem patchURL_null_panics :
    ¬ ∀ (s t : Sys) (tr : List (Sys × Action String)), Exec step s tr t →
        (∀ req, s.reqs req = .idle) → AllURLs s.db →
          (∀ u ∈ visited tr t, AllURLs u.db) ∧ ∀ p ∈ tr, ¬Panics p.1 p.2 := by
  intro h
  have e : Exec step oneSAML (traceFrom step oneSAML (patchURL .null)) _ := exec_traceFrom rfl
  have hurls : AllURLs oneSAML.db := by unfold AllURLs; decide
  have hpanics := (h _ _ _ e (fun _ => rfl) hurls).2 _ (.tail _ (.head _))
  exact hpanics ⟨"sso", _, _, rfl, rfl⟩

/-- A url that is no empty string stays. -/
theorem samlURLs_always_iff_patchURL :
    ∃ t, run step oneSAML (patchURL (.string "https://sso.example.com")) = some t ∧
      ((∀ u ∈ visited (traceFrom step oneSAML (patchURL (.string "https://sso.example.com"))) t,
          AllURLs u.db) ∧
        ∀ p ∈ traceFrom step oneSAML (patchURL (.string "https://sso.example.com")),
          ¬Panics p.1 p.2) := by
  refine ⟨_, rfl, ?_⟩
  have hurls : AllURLs oneSAML.db := by unfold AllURLs; decide
  refine (samlURLs_always_iff (exec_traceFrom rfl) (fun _ => rfl) hurls).mpr fun p hp => ?_
  obtain rfl | hp := List.mem_cons.mp hp
  · trivial
  · obtain rfl := List.mem_singleton.mp hp
    intro id rec fields hpc _ _ _
    cases hpc
    exact ⟨by decide, by decide⟩

end TLSentinel.Endpoints.SAMLURLs
