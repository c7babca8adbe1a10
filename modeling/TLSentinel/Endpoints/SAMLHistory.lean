/-
  TLSentinel.Endpoints.SAMLHistory
  ────────────────────────────────
  **THE METADATA OF A SAML ENDPOINT, AND ITS HISTORY.**

  `UpsertSAMLMetadata` of `internal/db/endpoints_store.go` writes the document that a scan
  has fetched to the endpoint's row of `endpoint_saml` and appends it to
  `saml_metadata_history`, unless the endpoint has a row there with its hash (UNIQUE
  (endpoint_id, sha256) of migration 000041), in one transaction.

  What the tables hold of an endpoint is a function of the documents submitted for it: the
  last one, and of those with one hash the first.

  Main results:
    * `upserts_tables` — the tables after a sequence of calls;
    * `upserts_kept`   — what they hold of an endpoint.
-/
import TLSentinel.Endpoints.Store
import TLSentinel.Foundation.JoinTables
import TLSentinel.Foundation.References
import TLSentinel.Foundation.Transactions

namespace TLSentinel.Endpoints.SAMLHistory

open Foundation

/-! ## §1. The tables. -/

/-- A row of `tlsentinel.endpoint_saml`, with the columns that scans write. -/
structure EndpointSAMLRow (J : Type) extends EndpointSAML where
  metadata : Option J
  metadataXML : Option String
  metadataXMLSha256 : Option String
  metadataFetchedAt : Option Int
  deriving DecidableEq, Repr

/-- The primary key. -/
def EndpointSAMLRow.key {J : Type} (r : EndpointSAMLRow J) : String := r.endpointID

/-- A row of `tlsentinel.saml_metadata_history`. -/
structure SAMLMetadataHistory (J : Type) where
  endpointID : String
  sha256 : String
  xml : String
  metadata : Option J
  capturedAt : Int
  deriving DecidableEq, Repr

/-- UNIQUE (endpoint_id, sha256). -/
def SAMLMetadataHistory.key {J : Type} (r : SAMLMetadataHistory J) : String × String :=
  (r.endpointID, r.sha256)

theorem key_eq_iff {J : Type} {r : SAMLMetadataHistory J} {id sha256 : String} :
    r.key = (id, sha256) ↔ r.endpointID = id ∧ r.sha256 = sha256 := by
  unfold SAMLMetadataHistory.key
  rw [Prod.mk.injEq]

/-- The endpoints, and the two tables that refer to them. -/
structure SAMLStore (J : Type) where
  endpoints : Table Endpoint.id
  saml : Table (@EndpointSAMLRow.key J)
  history : Table (@SAMLMetadataHistory.key J)
  samlRefs : References endpoints (fun r : EndpointSAMLRow J => some r.endpointID) saml.rows
  historyRefs :
    References endpoints (fun r : SAMLMetadataHistory J => some r.endpointID) history.rows

/-- What the columns take of an argument, and what they store: raw JSON `Raw` becomes a
value `J` of type jsonb, and nil what the database client makes of it in either
statement. -/
structure Columns (Raw J : Type) where
  /-- A text column takes the string, and stores it as it is. -/
  takesText : String → Bool
  /-- `SET metadata = ?`. -/
  setTakes : Option Raw → Bool
  setMetadata : Option Raw → Option J
  /-- The field `Metadata` of the INSERT. -/
  insertTakes : Option Raw → Bool
  insertMetadata : Option Raw → Option J

/-! ## §2. UpsertSAMLMetadata. -/

/-- The two statements and the commit, and how they fail. -/
inductive UpsertError where
  /-- "failed to update endpoint_saml metadata". -/
  | updateSAML
  /-- "failed to append saml_metadata_history". -/
  | appendHistory
  /-- The commit fails. -/
  | commit
  deriving DecidableEq, Repr

/-- Which statements find the database there. -/
structure Up where
  update : Bool
  insert : Bool
  commit : Bool
  deriving DecidableEq, Repr

/-- A call of `UpsertSAMLMetadata`. -/
structure Call (Raw : Type) where
  now : Int
  endpointID : String
  metadataJSON : Option Raw
  xml : String
  sha256 : String
  up : Up
  deriving DecidableEq, Repr

variable {Raw J : Type}

/-- The row of `endpoint_saml` after the UPDATE. -/
def setDocument (X : Columns Raw J) (c : Call Raw) (r : EndpointSAMLRow J) : EndpointSAMLRow J :=
  { r with
    metadata := X.setMetadata c.metadataJSON
    metadataXML := some c.xml
    metadataXMLSha256 := some c.sha256
    metadataFetchedAt := some c.now }

theorem setDocument_key (X : Columns Raw J) (c : Call Raw) (r : EndpointSAMLRow J) :
    (setDocument X c r).key = r.key := rfl

/-- The row of `saml_metadata_history` that the INSERT has. -/
def historyRow (X : Columns Raw J) (c : Call Raw) : SAMLMetadataHistory J :=
  { endpointID := c.endpointID
    sha256 := c.sha256
    xml := c.xml
    metadata := X.insertMetadata c.metadataJSON
    capturedAt := c.now }

/-- The rows of `endpoint_saml` after the UPDATE. -/
def updatedSAML (X : Columns Raw J) (c : Call Raw) (t : Table (@EndpointSAMLRow.key J)) :
    Table (@EndpointSAMLRow.key J) :=
  t.update (fun r => decide (r.endpointID = c.endpointID)) (setDocument X c) (setDocument_key X c)

theorem samlRefs_updatedSAML {endpoints : Table Endpoint.id} {X : Columns Raw J} {c : Call Raw}
    {t : Table (@EndpointSAMLRow.key J)}
    (h : References endpoints (fun r : EndpointSAMLRow J => some r.endpointID) t.rows) :
    References endpoints (fun r : EndpointSAMLRow J => some r.endpointID)
      (updatedSAML X c t).rows := by
  intro r hr id hid
  obtain ⟨s, hs, rfl⟩ := Table.mem_update.mp hr
  refine h s hs id ?_
  rw [← hid]
  split <;> rfl

/-- UPDATE ... SET ... WHERE endpoint_id = ?. -/
def updateSAML (X : Columns Raw J) (c : Call Raw) (db : SAMLStore J) : Option (SAMLStore J) :=
  if X.setTakes c.metadataJSON && X.takesText c.xml && X.takesText c.sha256 then
    some { db with
      saml := updatedSAML X c db.saml
      samlRefs := samlRefs_updatedSAML db.samlRefs }
  else none

/-- INSERT ... ON CONFLICT (endpoint_id, sha256) DO NOTHING. -/
def appendHistory (X : Columns Raw J) (c : Call Raw) (db : SAMLStore J) : Option (SAMLStore J) :=
  if X.insertTakes c.metadataJSON && X.takesText c.xml && X.takesText c.sha256 then
    let history := db.history.insertNew (historyRow X c)
    if h : References db.endpoints (fun r : SAMLMetadataHistory J => some r.endpointID)
        history.rows then
      some { db with history := history, historyRefs := h }
    else none
  else none

/-- The body of the transaction. -/
def upsertBody (X : Columns Raw J) (c : Call Raw) : Tx (SAMLStore J) UpsertError Unit := do
  Tx.write c.up.update .updateSAML (updateSAML X c)
  Tx.write c.up.insert .appendHistory (appendHistory X c)

/-- `UpsertSAMLMetadata`. -/
def upsertSAMLMetadata (X : Columns Raw J) (c : Call Raw) (db : SAMLStore J) :
    Except UpsertError Unit × SAMLStore J :=
  runInTx c.up.commit .commit (upsertBody X c) db

/-! ## §3. One call. -/

variable {X : Columns Raw J} {c : Call Raw} {db db' : SAMLStore J}

/-- The call reaches the database, its arguments fit the columns, and there is such an
endpoint. -/
def Accepted (X : Columns Raw J) (endpoints : Table Endpoint.id) (c : Call Raw) : Prop :=
  (c.up.update = true ∧ c.up.insert = true ∧ c.up.commit = true) ∧
    (X.setTakes c.metadataJSON = true ∧ X.insertTakes c.metadataJSON = true ∧
      X.takesText c.xml = true ∧ X.takesText c.sha256 = true) ∧
    ∃ e ∈ endpoints, e.id = c.endpointID

instance (X : Columns Raw J) (endpoints : Table Endpoint.id) :
    DecidablePred (Accepted X endpoints) :=
  fun _ => inferInstanceAs (Decidable (_ ∧ _ ∧ ∃ e ∈ endpoints, _))

/-- The row can be appended exactly if its endpoint exists. -/
theorem references_insertNew_iff : References db.endpoints
      (fun r : SAMLMetadataHistory J => some r.endpointID)
      (db.history.insertNew (historyRow X c)).rows ↔
    ∃ e ∈ db.endpoints, e.id = c.endpointID := by
  constructor
  · intro h
    -- the row, or an older one with its key, is there
    have hfind := Table.find?_insertNew db.history (historyRow X c) (historyRow X c).key
    rw [if_pos rfl] at hfind
    obtain ⟨r, hr⟩ : ∃ r, (db.history.insertNew (historyRow X c)).find? (historyRow X c).key =
        some r := by
      rw [hfind]
      cases db.history.find? (historyRow X c).key <;> exact ⟨_, rfl⟩
    obtain ⟨hmem, hkey⟩ := Table.find?_eq_some_iff.mp hr
    exact h r hmem c.endpointID (congrArg (some ∘ Prod.fst) hkey)
  · intro h r hr id hid
    obtain hold | rfl := Table.mem_of_mem_insertNew hr
    · exact db.historyRefs r hold id hid
    · injection hid with hid
      exact hid ▸ h

theorem updateSAML_eq_some (h : updateSAML X c db = some db') :
    db'.endpoints = db.endpoints ∧ db'.history = db.history ∧
      db'.saml = updatedSAML X c db.saml := by
  unfold updateSAML at h
  split at h
  · injection h with h
    subst h
    exact ⟨rfl, rfl, rfl⟩
  · cases h

theorem appendHistory_eq_some (h : appendHistory X c db = some db') :
    db'.endpoints = db.endpoints ∧ db'.saml = db.saml ∧
      db'.history = db.history.insertNew (historyRow X c) := by
  unfold appendHistory at h
  split at h
  · simp only at h
    split at h
    · injection h with h
      subst h
      exact ⟨rfl, rfl, rfl⟩
    · cases h
  · cases h

/-- **A call that succeeds** writes both tables. -/
theorem upsertSAMLMetadata_ok (h : upsertSAMLMetadata X c db = (.ok (), db')) :
    db'.endpoints = db.endpoints ∧ db'.saml = updatedSAML X c db.saml ∧
      db'.history = db.history.insertNew (historyRow X c) := by
  unfold upsertSAMLMetadata upsertBody at h
  obtain ⟨-, hbody⟩ := runInTx_ok_iff.mp h
  obtain ⟨mid, hupdate, hinsert⟩ := Tx.exec_seq_ok_iff.mp hbody
  obtain ⟨hendpoints, hhistory, hsaml⟩ := updateSAML_eq_some (Tx.exec_write_ok_iff.mp hupdate).2
  obtain ⟨hendpoints', hsaml', hhistory'⟩ :=
    appendHistory_eq_some (Tx.exec_write_ok_iff.mp hinsert).2
  exact ⟨hendpoints'.trans hendpoints, hsaml'.trans hsaml, hhistory ▸ hhistory'⟩

/-- **One that fails** changes nothing. -/
theorem upsertSAMLMetadata_error {e : UpsertError}
    (h : (upsertSAMLMetadata X c db).1 = .error e) : (upsertSAMLMetadata X c db).2 = db :=
  runInTx_error h

theorem updateSAML_isSome_iff : (∃ db', updateSAML X c db = some db') ↔
    X.setTakes c.metadataJSON = true ∧ X.takesText c.xml = true ∧ X.takesText c.sha256 = true := by
  unfold updateSAML
  split
  · next h => simpa [and_assoc] using h
  · next h => simpa [and_assoc] using h

theorem appendHistory_isSome_iff : (∃ db', appendHistory X c db = some db') ↔
    (X.insertTakes c.metadataJSON = true ∧ X.takesText c.xml = true ∧
      X.takesText c.sha256 = true) ∧ ∃ e ∈ db.endpoints, e.id = c.endpointID := by
  unfold appendHistory
  rw [← @references_insertNew_iff Raw J X c db]
  split
  · next h =>
      simp only
      split
      · next hrefs => simpa [and_assoc, hrefs] using h
      · next hrefs => simp [hrefs]
  · next h =>
      simp only [Bool.and_eq_true, and_assoc] at h
      simp [h]

/-- **When a call succeeds.** -/
theorem upsertSAMLMetadata_isOk_iff :
    (upsertSAMLMetadata X c db).1 = .ok () ↔ Accepted X db.endpoints c := by
  unfold upsertSAMLMetadata upsertBody
  rw [runInTx_isOk_iff]
  simp only [Tx.exec_seq_ok_iff, Tx.exec_write_ok_iff]
  constructor
  · rintro ⟨hcommit, db', mid, ⟨hup, hupdate⟩, hup', hinsert⟩
    obtain ⟨hset, -⟩ := updateSAML_isSome_iff.mp ⟨mid, hupdate⟩
    obtain ⟨⟨hins, hxml, hsha⟩, hendpoint⟩ := appendHistory_isSome_iff.mp ⟨db', hinsert⟩
    rw [(updateSAML_eq_some hupdate).1] at hendpoint
    exact ⟨⟨hup, hup', hcommit⟩, ⟨hset, hins, hxml, hsha⟩, hendpoint⟩
  · rintro ⟨⟨hup, hup', hcommit⟩, ⟨hset, hins, hxml, hsha⟩, hendpoint⟩
    obtain ⟨mid, hupdate⟩ := (@updateSAML_isSome_iff Raw J X c db).mpr ⟨hset, hxml, hsha⟩
    rw [← (updateSAML_eq_some hupdate).1] at hendpoint
    obtain ⟨db', hinsert⟩ := appendHistory_isSome_iff.mpr ⟨⟨hins, hxml, hsha⟩, hendpoint⟩
    exact ⟨hcommit, db', mid, ⟨hup, hupdate⟩, hup', hinsert⟩

/-! ## §4. Sequences of calls. -/

/-- The tables after calls, one after the other. -/
def upserts (X : Columns Raw J) (calls : List (Call Raw)) (db : SAMLStore J) : SAMLStore J :=
  calls.foldl (fun db c => (upsertSAMLMetadata X c db).2) db

/-- The calls that succeed. -/
def accepted (X : Columns Raw J) (endpoints : Table Endpoint.id) (calls : List (Call Raw)) :
    List (Call Raw) :=
  calls.filter fun c => decide (Accepted X endpoints c)

/-- **The step**: a call that succeeds writes its document, any other nothing. -/
theorem upsert_cases (X : Columns Raw J) (c : Call Raw) (db : SAMLStore J) :
    (Accepted X db.endpoints c ∧
        (upsertSAMLMetadata X c db).2.endpoints = db.endpoints ∧
        (upsertSAMLMetadata X c db).2.saml = updatedSAML X c db.saml ∧
        (upsertSAMLMetadata X c db).2.history = db.history.insertNew (historyRow X c)) ∨
      ¬ Accepted X db.endpoints c ∧ (upsertSAMLMetadata X c db).2 = db := by
  have hok := @upsertSAMLMetadata_isOk_iff Raw J X c db
  rcases hrun : upsertSAMLMetadata X c db with ⟨e | ⟨⟨⟩⟩, db'⟩
  · rw [hrun] at hok
    refine Or.inr ⟨fun h => (nomatch hok.mpr h), ?_⟩
    have := upsertSAMLMetadata_error (congrArg Prod.fst hrun)
    rwa [hrun] at this
  · exact Or.inl ⟨hok.mp (congrArg Prod.fst hrun), upsertSAMLMetadata_ok hrun⟩

/-- **The run**: the tables are written by the calls that succeed, in order. -/
theorem upserts_tables (X : Columns Raw J) (calls : List (Call Raw)) :
    ∀ db : SAMLStore J, (upserts X calls db).endpoints = db.endpoints ∧
      (upserts X calls db).saml =
        (accepted X db.endpoints calls).foldl (fun t c => updatedSAML X c t) db.saml ∧
      (upserts X calls db).history =
        db.history.insertNewAll ((accepted X db.endpoints calls).map (historyRow X)) := by
  induction calls with
  | nil =>
      intro db
      exact ⟨rfl, rfl, rfl⟩
  | cons c calls ih =>
      intro db
      obtain ⟨hendpoints, hsaml, hhistory⟩ := ih (upsertSAMLMetadata X c db).2
      show (upserts X calls (upsertSAMLMetadata X c db).2).endpoints = _ ∧ _ ∧ _
      obtain ⟨hacc, he, hs, hh⟩ | ⟨hnot, hsame⟩ := upsert_cases X c db
      · have hlist : accepted X db.endpoints (c :: calls) =
            c :: accepted X db.endpoints calls := List.filter_cons_of_pos (by simpa using hacc)
        rw [hlist]
        rw [he] at hendpoints hsaml hhistory
        refine ⟨hendpoints, ?_, ?_⟩
        · show (upserts X calls _).saml = _
          rw [hsaml, hs]
          rfl
        · show (upserts X calls _).history = _
          rw [hhistory, hh]
          rfl
      · have hlist : accepted X db.endpoints (c :: calls) = accepted X db.endpoints calls :=
          List.filter_cons_of_neg (by simpa using hnot)
        rw [hlist]
        rw [hsame] at hendpoints hsaml hhistory ⊢
        refine ⟨hendpoints, ?_, ?_⟩
        · show (upserts X calls (upsertSAMLMetadata X c db).2).saml = _
          rw [hsame, hsaml]
        · show (upserts X calls (upsertSAMLMetadata X c db).2).history = _
          rw [hsame, hhistory]

/-- The documents submitted for the endpoint, in order. -/
def submitted (X : Columns Raw J) (endpoints : Table Endpoint.id) (id : String)
    (calls : List (Call Raw)) : List (Call Raw) :=
  (accepted X endpoints calls).filter fun c => decide (c.endpointID = id)

/-- The endpoint's row as it is to be after some documents: it has metadata, XML and hash of the
last one, and the time when it was fetched. -/
def withLast (X : Columns Raw J) (docs : List (Call Raw)) (r : EndpointSAMLRow J) :
    EndpointSAMLRow J :=
  match docs.getLast? with
  | none => r
  | some last =>
      { endpointID := r.endpointID
        url := r.url
        metadata := X.setMetadata last.metadataJSON
        metadataXML := some last.xml
        metadataXMLSha256 := some last.sha256
        metadataFetchedAt := some last.now }

/-- An UPDATE about the endpoint, and the documents after it. -/
theorem withLast_setDocument (X : Columns Raw J) (c : Call Raw) (docs : List (Call Raw))
    (r : EndpointSAMLRow J) : withLast X docs (setDocument X c r) = withLast X (c :: docs) r := by
  unfold withLast
  rw [List.getLast?_cons]
  cases docs.getLast? with
  | none => rfl
  | some d => rfl

/-- The url is not a column that scans write. -/
theorem withLast_url (X : Columns Raw J) (docs : List (Call Raw)) (r : EndpointSAMLRow J) :
    (withLast X docs r).url = r.url := by
  unfold withLast
  split <;> rfl

/-- A row after a sequence of UPDATEs: the last one about its endpoint counts. -/
theorem find?_foldl_updatedSAML (X : Columns Raw J) (id : String) (docs : List (Call Raw)) :
    ∀ t : Table (@EndpointSAMLRow.key J),
      (docs.foldl (fun t c => updatedSAML X c t) t).find? id =
        (t.find? id).map (withLast X (docs.filter fun c => decide (c.endpointID = id))) := by
  induction docs with
  | nil =>
      intro t
      show t.find? id = (t.find? id).map fun r => r
      rw [Option.map_id']
  | cons c docs ih =>
      intro t
      rw [List.foldl_cons, ih]
      unfold updatedSAML
      rw [Table.find?_update, Option.map_map]
      -- the row found is the endpoint's, so the UPDATE is about it or it is not
      refine Option.map_congr fun r hr => ?_
      have hrow : r.endpointID = id := (Table.find?_eq_some_iff.mp hr).2
      by_cases hc : c.endpointID = id
      · rw [List.filter_cons_of_pos (by simpa using hc), Function.comp_apply,
          if_pos (decide_eq_true (hrow.trans hc.symm)), withLast_setDocument]
      · rw [List.filter_cons_of_neg (by simpa using hc), Function.comp_apply,
          if_neg (by simpa [hrow] using Ne.symm hc)]

/-- The history has a row of the endpoint and the hash. -/
def HasHash (db : SAMLStore J) (id sha256 : String) : Prop :=
  ∃ r ∈ db.history, r.endpointID = id ∧ r.sha256 = sha256

theorem hasHash_iff {id sha256 : String} :
    HasHash db id sha256 ↔ (db.history.find? (id, sha256)).isSome = true := by
  unfold HasHash
  rw [Option.isSome_iff_exists]
  refine exists_congr fun r => ?_
  rw [Table.find?_eq_some_iff, key_eq_iff]

/-- What the tables hold of an endpoint after some calls: the last document in its row of
`endpoint_saml`, with the url that it had, and in the history the rows that it had and for
each new hash one row, with the document first submitted. -/
structure Kept (X : Columns Raw J) (db db' : SAMLStore J) (id : String)
    (docs : List (Call Raw)) : Prop where
  current : db'.saml.find? id = (db.saml.find? id).map (withLast X docs)
  url : (db'.saml.find? id).map (fun r => r.url) = (db.saml.find? id).map (fun r => r.url)
  history : ∀ sha256, db'.history.find? (id, sha256) =
    (db.history.find? (id, sha256)).or
      ((docs.find? fun c => decide (c.sha256 = sha256)).map fun first =>
        { endpointID := id
          sha256 := sha256
          xml := first.xml
          metadata := X.insertMetadata first.metadataJSON
          capturedAt := first.now })
  hashes : ∀ sha256, HasHash db' id sha256 ↔
    HasHash db id sha256 ∨ ∃ c ∈ docs, c.sha256 = sha256
  unique : ∀ r ∈ db'.history, ∀ s ∈ db'.history, r.endpointID = s.endpointID →
    r.sha256 = s.sha256 → r = s

/-- **The metadata of an endpoint, and its history**, are those of the documents submitted
for it, and a call that fails changes nothing. -/
theorem upserts_kept (X : Columns Raw J) (db : SAMLStore J) :
    (∀ calls id, Kept X db (upserts X calls db) id (submitted X db.endpoints id calls)) ∧
      ∀ c e, (upsertSAMLMetadata X c db).1 = .error e → (upsertSAMLMetadata X c db).2 = db := by
  refine ⟨fun calls id => ?_, fun c e => upsertSAMLMetadata_error⟩
  obtain ⟨-, hsaml, hhistory⟩ := upserts_tables X calls db
  have hrows : ∀ sha256, (upserts X calls db).history.find? (id, sha256) =
      (db.history.find? (id, sha256)).or (((submitted X db.endpoints id calls).find?
        fun c => decide (c.sha256 = sha256)).map (historyRow X)) := by
    intro sha256
    rw [hhistory, Table.find?_insertNewAll, List.find?_map]
    unfold submitted
    rw [List.find?_filter]
    congr 3
    funext c
    simp only [Function.comp_apply, decide_eq_true_eq]
    exact decide_eq_decide.mpr key_eq_iff
  -- the first document with the hash is one of the endpoint's
  have hfind : ∀ sha256, (upserts X calls db).history.find? (id, sha256) =
      (db.history.find? (id, sha256)).or (((submitted X db.endpoints id calls).find?
        fun c => decide (c.sha256 = sha256)).map fun first =>
          ⟨id, sha256, first.xml, X.insertMetadata first.metadataJSON, first.now⟩) := by
    intro sha256
    rw [hrows]
    congr 1
    refine Option.map_congr fun c hc => ?_
    have hid : c.endpointID = id := by
      simpa using (List.mem_filter.mp (List.mem_of_find?_eq_some hc)).2
    have hsha : c.sha256 = sha256 := by simpa using List.find?_some hc
    rw [historyRow, hid, hsha]
  have hcurrent : (upserts X calls db).saml.find? id =
      (db.saml.find? id).map (withLast X (submitted X db.endpoints id calls)) := by
    rw [hsaml, find?_foldl_updatedSAML]
    rfl
  refine ⟨hcurrent, ?_, hfind, fun sha256 => ?_, fun r hr s hs hid hsha => ?_⟩
  · rw [hcurrent, Option.map_map]
    exact congrArg (Option.map · _) (funext fun r => withLast_url X _ r)
  · rw [hasHash_iff, hasHash_iff, hfind, Option.isSome_or, Bool.or_eq_true, Option.isSome_map,
      List.find?_isSome]
    simp only [decide_eq_true_eq]
  · exact Table.eq_of_key hr hs (Prod.ext hid hsha)

/-- Columns that take every text, and JSON as it is. -/
def plainColumns : Columns String String := ⟨fun _ => true, fun _ => true, id, fun _ => true, id⟩

/-- An endpoint with a url, to which no document was submitted yet. -/
def newStore : SAMLStore String where
  endpoints := ⟨[⟨"e1", "idp", "saml", true, false, some "s1", none⟩], by decide⟩
  saml := ⟨[⟨⟨"e1", "https://idp.example"⟩, none, none, none, none⟩], by decide⟩
  history := Table.empty
  samlRefs := by
    intro r hr id hid
    simp only [List.mem_singleton] at hr
    subst hr
    exact ⟨_, List.mem_singleton_self _, Option.some.inj hid⟩
  historyRefs := fun r hr => absurd hr List.not_mem_nil

/-- The document of an identity provider that changes, and changes back. -/
def thereAndBack : List (Call String) :=
  [⟨1, "e1", some "A", "<a/>", "hash of a", ⟨true, true, true⟩⟩,
    ⟨2, "e1", some "B", "<b/>", "hash of b", ⟨true, true, true⟩⟩,
    ⟨3, "e1", some "A", "<a/>", "hash of a", ⟨true, true, true⟩⟩]

/-- The row has the first document again, fetched last, and the history has it once. -/
theorem upserts_kept_thereAndBack :
    (upserts plainColumns thereAndBack newStore).saml.find? "e1" =
        some ⟨⟨"e1", "https://idp.example"⟩, some "A", some "<a/>", some "hash of a", some 3⟩ ∧
      (upserts plainColumns thereAndBack newStore).history.find? ("e1", "hash of a") =
        some ⟨"e1", "hash of a", "<a/>", some "A", 1⟩ ∧
      (upserts plainColumns thereAndBack newStore).history.find? ("e1", "hash of b") =
        some ⟨"e1", "hash of b", "<b/>", some "B", 2⟩ ∧
      (upserts plainColumns thereAndBack newStore).history.rows.length = 2 := by
  have hkept := (upserts_kept plainColumns newStore).1 thereAndBack "e1"
  exact ⟨hkept.current.trans (by decide), (hkept.history "hash of a").trans (by decide),
    (hkept.history "hash of b").trans (by decide), by decide⟩

end TLSentinel.Endpoints.SAMLHistory
