/-
  TLSentinel.Scanners.Assignment
  ──────────────────────────────
  **WHICH SCANNER AN ENDPOINT IS HANDED OUT TO.**

  InsertScannerToken, SetDefaultScannerToken and DeleteScannerToken of
  `internal/db/scanners_store.go`; GetScannerHostEndpoints and
  GetScannerSAMLEndpoints of `endpoints_store.go`; the constraints of migration
  000001 on both tables.  The endpoints are those of `TLSentinel.Endpoints.Store`.

  A database value carries the partial unique index on `is_default` and the
  foreign key of `scanner_id`, so each statement that could break one of them has
  to refuse or to repair it: SetDefaultScannerToken fails on the index, and
  deleting a scanner sets the `scanner_id` of its endpoints to NULL.

  Requests run one transaction each.  SetDefaultScannerToken clears the default
  before it sets the new one, so that it is a transaction of `Foundation`: where a
  statement fails after that, the old default comes back with the rollback.  Between
  its statements others may commit: what its first two statements saw is an argument
  (`Snapshot`), and so is which statements are lost (`Up`).

  Main results:
    * `setDefaultScannerToken_ok_iff` — when the default is set;
    * `assignment_exclusive`          — whom an endpoint is handed out to.
-/
import TLSentinel.Foundation.Runs
import TLSentinel.Foundation.Transactions
import TLSentinel.Endpoints.Store

namespace TLSentinel.Scanners

open Foundation
open TLSentinel.Endpoints (Endpoint EndpointHost EndpointSAML EndpointRecord StoreError)

/-! ## §1. Rows. -/

/-- A row of `tlsentinel.scanners`. -/
structure Scanner extends Endpoints.Scanner where
  tokenHash : String
  isDefault : Bool
  deriving DecidableEq, Repr

/-- The id of a row. -/
def Scanner.key (s : Scanner) : String := s.id

abbrev ScannerTable := Table Scanner.key

/-- The index `scanners_one_default_idx`. -/
def OneDefault (t : ScannerTable) : Prop :=
  ∀ s ∈ t, ∀ r ∈ t, s.isDefault = true → r.isDefault = true → s = r

instance (t : ScannerTable) : Decidable (OneDefault t) :=
  inferInstanceAs (Decidable (∀ s ∈ t, ∀ r ∈ t, s.isDefault = true → r.isDefault = true → s = r))

/-- The id is that of a stored scanner. -/
def HasScanner (t : ScannerTable) (id : String) : Prop := ∃ s ∈ t, s.id = id

/-- The foreign key of `endpoints.scanner_id`. -/
def ScannerRefs (t : ScannerTable) (endpoints : Table Endpoint.id) : Prop :=
  ∀ e ∈ endpoints, ∀ sid, e.scannerID = some sid → HasScanner t sid

/-- The tables. -/
structure DB where
  scanners : ScannerTable
  endpoints : Table Endpoint.id
  hosts : Table EndpointHost.endpointID
  saml : Table EndpointSAML.endpointID
  oneDefault : OneDefault scanners
  scannerRefs : ScannerRefs scanners endpoints

/-- The empty database. -/
def DB.empty : DB where
  scanners := Table.empty
  endpoints := Table.empty
  hosts := Table.empty
  saml := Table.empty
  oneDefault := fun _ h => absurd h (Table.not_mem_empty _)
  scannerRefs := fun _ h => absurd h (Table.not_mem_empty _)

/-! ## §2. Scanners. -/

/-- The row that a scanner is inserted as; `is_default` is left to the database. -/
def newScanner (id name tokenHash scanCronExpression : String) (scanConcurrency : Int) :
    Scanner :=
  ⟨⟨id, name, scanCronExpression, scanConcurrency⟩, tokenHash, false⟩

theorem oneDefault_insert {t u : ScannerTable} {s : Scanner} (h : t.insert s = some u)
    (hs : s.isDefault = false) (ht : OneDefault t) : OneDefault u := by
  intro a ha b hb hda hdb
  -- the new row is not a default one
  rcases (Table.mem_insert h).mp ha with ha | ha
  · rcases (Table.mem_insert h).mp hb with hb | hb
    · exact ht a ha b hb hda hdb
    · rw [hb, hs] at hdb
      exact absurd hdb (by decide)
  · rw [ha, hs] at hda
    exact absurd hda (by decide)

theorem scannerRefs_insert {t u : ScannerTable} {s : Scanner} (h : t.insert s = some u)
    {endpoints : Table Endpoint.id} (ht : ScannerRefs t endpoints) : ScannerRefs u endpoints := by
  intro e he sid hsid
  obtain ⟨r, hr, hid⟩ := ht e he sid hsid
  exact ⟨r, (Table.mem_insert h).mpr (.inl hr), hid⟩

/-- `InsertScannerToken`; `id` is what `gen_random_uuid()` gives, and `token_hash` is
unique. -/
def DB.insertScannerToken (db : DB) (id name tokenHash scanCronExpression : String)
    (scanConcurrency : Int) : Except StoreError DB :=
  if ∃ s ∈ db.scanners, s.tokenHash = tokenHash then .error .failed
  else
    match h : db.scanners.insert
        (newScanner id name tokenHash scanCronExpression scanConcurrency) with
    | none => .error .failed
    | some scanners =>
        .ok { db with
          scanners := scanners
          oneDefault := oneDefault_insert h rfl db.oneDefault
          scannerRefs := scannerRefs_insert h db.scannerRefs }

/-- An endpoint without a scanner. -/
def withoutScanner (e : Endpoint) : Endpoint := { e with scannerID := none }

theorem withoutScanner_id (e : Endpoint) : (withoutScanner e).id = e.id := rfl

/-- The endpoints after their scanner is gone (ON DELETE SET NULL). -/
def unassigned (endpoints : Table Endpoint.id) (id : String) : Table Endpoint.id :=
  endpoints.update (fun e => decide (e.scannerID = some id)) withoutScanner withoutScanner_id

theorem exists_of_mem_unassigned {endpoints : Table Endpoint.id} {id : String} {e : Endpoint}
    (h : e ∈ unassigned endpoints id) : ∃ e₀ ∈ endpoints, e₀.id = e.id ∧ e₀.type = e.type := by
  obtain ⟨e₀, he₀, rfl⟩ := Table.mem_update.mp h
  refine ⟨e₀, he₀, ?_⟩
  split
  · exact ⟨rfl, rfl⟩
  · exact ⟨rfl, rfl⟩

theorem oneDefault_delete {t : ScannerTable} {p : Scanner → Bool} (ht : OneDefault t) :
    OneDefault (t.delete p) :=
  fun a ha b hb => ht a (Table.mem_delete.mp ha).1 b (Table.mem_delete.mp hb).1

/-- No endpoint refers to a scanner that is gone. -/
theorem scannerRefs_delete {t : ScannerTable} {endpoints : Table Endpoint.id} {id : String}
    (ht : ScannerRefs t endpoints) :
    ScannerRefs (t.delete (fun s => decide (s.id = id))) (unassigned endpoints id) := by
  intro e he sid hsid
  obtain ⟨e₀, he₀, rfl⟩ := Table.mem_update.mp he
  by_cases hgone : e₀.scannerID = some id
  · -- its reference was set to NULL
    simp [hgone, withoutScanner] at hsid
  · simp only [hgone, decide_false, Bool.false_eq_true, if_false] at hsid
    obtain ⟨s, hs, hs'⟩ := ht e₀ he₀ sid hsid
    have hne : s.id ≠ id := fun heq => hgone (hsid.trans (congrArg some (hs'.symm.trans heq)))
    exact ⟨s, Table.mem_delete.mpr ⟨hs, by simp [hne]⟩, hs'⟩

/-- `DeleteScannerToken`. -/
def DB.deleteScannerToken (db : DB) (id : String) : Except StoreError DB :=
  if db.scanners.rowsAffected (fun s => s.id = id) = 0 then .error .notFound
  else
    .ok { db with
      scanners := db.scanners.delete (fun s => decide (s.id = id))
      endpoints := unassigned db.endpoints id
      oneDefault := oneDefault_delete db.oneDefault
      scannerRefs := scannerRefs_delete db.scannerRefs }

/-- What the first two statements of a SetDefaultScannerToken saw. -/
structure Snapshot where
  /-- The count found the scanner. -/
  counted : Bool
  /-- The scanners among whose rows the UPDATE found the defaults. -/
  seen : String → Bool

/-- Which statements of it find the database there. -/
structure Up where
  count : Bool
  clear : Bool
  set : Bool
  commit : Bool
  deriving DecidableEq, Repr

/-- No statement is lost. -/
def Up.all : Up := ⟨true, true, true, true⟩

/-- The assignment `is_default = v`. -/
def Scanner.withDefault (v : Bool) (s : Scanner) : Scanner := { s with isDefault := v }

theorem Scanner.withDefault_key (v : Bool) (s : Scanner) : (s.withDefault v).key = s.key := rfl

/-- That assignment, on the rows that meet a condition. -/
def setIsDefault (t : ScannerTable) (p : Scanner → Bool) (v : Bool) : ScannerTable :=
  t.update p (Scanner.withDefault v) (Scanner.withDefault_key v)

theorem hasScanner_setIsDefault {t : ScannerTable} {p : Scanner → Bool} {v : Bool}
    {id : String} : HasScanner (setIsDefault t p v) id ↔ HasScanner t id := by
  unfold HasScanner setIsDefault
  rw [Table.exists_mem_update]
  have hid : ∀ s : Scanner, (if p s = true then s.withDefault v else s).id = s.id := by
    intro s
    split <;> rfl
  simp only [hid]

theorem oneDefault_clear {t : ScannerTable} {p : Scanner → Bool} (ht : OneDefault t) :
    OneDefault (setIsDefault t p false) := by
  have hsame : ∀ s ∈ setIsDefault t p false, s.isDefault = true → s ∈ t := by
    intro s hs hd
    obtain ⟨r, hr, rfl⟩ := Table.mem_update.mp hs
    split at hd
    · exact absurd hd (by simp [Scanner.withDefault])
    · next hp => rwa [if_neg hp]
  intro a ha b hb hda hdb
  exact ht a (hsame a ha hda) b (hsame b hb hdb) hda hdb

theorem scannerRefs_setIsDefault {t : ScannerTable} {endpoints : Table Endpoint.id}
    {p : Scanner → Bool} {v : Bool} (ht : ScannerRefs t endpoints) :
    ScannerRefs (setIsDefault t p v) endpoints :=
  fun e he sid hsid => hasScanner_setIsDefault.mpr (ht e he sid hsid)

/-- Step 2: the flags of the defaults that it saw are cleared. -/
def DB.clearDefault (seen : String → Bool) (db : DB) : DB :=
  { db with
    scanners := setIsDefault db.scanners (fun s => s.isDefault && seen s.id) false
    oneDefault := oneDefault_clear db.oneDefault
    scannerRefs := scannerRefs_setIsDefault db.scannerRefs }

/-- Step 3: the flag of the scanner is set, with the number of rows.  It fails on the index if
another default was committed since step 2. -/
def DB.setDefault (id : String) (db : DB) : Option (Nat × DB) :=
  let scanners := setIsDefault db.scanners (fun s => decide (s.id = id)) true
  if h : OneDefault scanners then
    some (db.scanners.rowsAffected (fun s => s.id = id),
      { db with
        scanners := scanners
        oneDefault := h
        scannerRefs := scannerRefs_setIsDefault db.scannerRefs })
  else none

/-- The body of the transaction. -/
def setDefaultBody (up : Up) (snap : Snapshot) (id : String) : Tx DB StoreError Unit := do
  -- step 1: verify the target scanner exists
  let counted ← Tx.query up.count .failed fun _ => snap.counted
  Tx.when (counted = false) (Tx.fail .notFound)
  Tx.write up.clear .failed fun db => some (db.clearDefault snap.seen)
  let n ← Tx.statement up.set .failed (DB.setDefault id)
  -- the scanner may have been deleted since step 1
  Tx.when (n = 0) (Tx.fail .notFound)

/-- `SetDefaultScannerToken`. -/
def DB.setDefaultScannerToken (up : Up) (snap : Snapshot) (id : String) (db : DB) :
    Except StoreError Unit × DB :=
  runInTx up.commit .failed (setDefaultBody up snap id) db

/-- **When the default is set**: no statement was lost, the scanner was counted and is still
there, and the index lets it be. -/
theorem setDefaultScannerToken_ok_iff {up : Up} {snap : Snapshot} {id : String} {db db' : DB} :
    db.setDefaultScannerToken up snap id = (.ok (), db') ↔
      up = Up.all ∧ snap.counted = true ∧
        ∃ n, n ≠ 0 ∧ (db.clearDefault snap.seen).setDefault id = some (n, db') := by
  obtain ⟨count, clear, set, commit⟩ := up
  unfold DB.setDefaultScannerToken
  rw [runInTx_ok_iff, Up.all, Up.mk.injEq]
  constructor
  · rintro ⟨hcommit, hbody⟩
    -- the statements in turn; the two that write are the clearing and the setting
    obtain ⟨counted, db₁, hquery, hafter⟩ := Tx.exec_bind_ok_iff.mp hbody
    obtain ⟨hcount, rfl, rfl⟩ := Tx.exec_query_ok_iff.mp hquery
    obtain ⟨db₂, hcheck, hupdates⟩ := Tx.exec_seq_ok_iff.mp hafter
    obtain ⟨hcounted, rfl⟩ := Tx.exec_check_ok_iff.mp hcheck
    obtain ⟨db₃, hwrite, hstep3⟩ := Tx.exec_seq_ok_iff.mp hupdates
    obtain ⟨hclear, hcleared⟩ := Tx.exec_write_ok_iff.mp hwrite
    injection hcleared with hcleared
    subst hcleared
    obtain ⟨n, db₄, hstatement, hlast⟩ := Tx.exec_bind_ok_iff.mp hstep3
    obtain ⟨hup, hset⟩ := Tx.exec_statement_ok_iff.mp hstatement
    obtain ⟨hn, rfl⟩ := Tx.exec_check_ok_iff.mp hlast
    exact ⟨⟨hcount, hclear, hup, hcommit⟩, by simpa using hcounted, n, hn, hset⟩
  · rintro ⟨⟨rfl, rfl, rfl, rfl⟩, hcounted, n, hn, hset⟩
    have hcheck : ¬ snap.counted = false := by simp [hcounted]
    refine ⟨rfl, Tx.exec_bind_ok_iff.mpr ⟨_, db, Tx.exec_query_ok_iff.mpr ⟨rfl, rfl, rfl⟩, ?_⟩⟩
    refine Tx.exec_seq_ok_iff.mpr ⟨db, Tx.exec_check_ok_iff.mpr ⟨hcheck, rfl⟩, ?_⟩
    refine Tx.exec_seq_ok_iff.mpr ⟨_, Tx.exec_write_ok_iff.mpr ⟨rfl, rfl⟩, ?_⟩
    refine Tx.exec_bind_ok_iff.mpr ⟨n, db', Tx.exec_statement_ok_iff.mpr ⟨rfl, hset⟩, ?_⟩
    exact Tx.exec_check_ok_iff.mpr ⟨hn, rfl⟩

/-- It writes the scanners only. -/
theorem setDefault_frame {db db' : DB} {id : String} {n : Nat}
    (h : db.setDefault id = some (n, db')) :
    n = db.scanners.rowsAffected (fun s => s.id = id)
      ∧ db'.scanners = setIsDefault db.scanners (fun s => decide (s.id = id)) true
      ∧ db'.endpoints = db.endpoints ∧ db'.hosts = db.hosts ∧ db'.saml = db.saml := by
  unfold DB.setDefault at h
  simp only at h
  split at h
  · simp only [Option.some.injEq, Prod.mk.injEq] at h
    obtain ⟨rfl, rfl⟩ := h
    exact ⟨rfl, rfl, rfl, rfl, rfl⟩
  · cases h

/-- The scanners after both updates, where nothing commits in between. -/
def defaultSet (t : ScannerTable) (id : String) : ScannerTable :=
  setIsDefault (setIsDefault t (fun s => s.isDefault && true) false)
    (fun s => decide (s.id = id)) true

/-- The row a scanner becomes. -/
theorem mem_defaultSet {t : ScannerTable} {id : String} {s : Scanner} :
    s ∈ defaultSet t id ↔ ∃ r ∈ t, r.withDefault (decide (r.id = id)) = s := by
  have hrow : ∀ r : Scanner,
      (if decide ((if r.isDefault && true then r.withDefault false else r).id = id) = true then
        (if r.isDefault && true then r.withDefault false else r).withDefault true
      else if r.isDefault && true then r.withDefault false else r)
        = r.withDefault (decide (r.id = id)) := by
    -- the second update tests the row that the first one left
    intro r
    obtain ⟨r, hash, isDefault⟩ := r
    cases isDefault <;> by_cases hid : r.id = id <;> simp [Scanner.withDefault, hid]
  unfold defaultSet setIsDefault
  simp only [Table.mem_update, exists_exists_and_eq_and, hrow]

theorem oneDefault_defaultSet {t : ScannerTable} {id : String} :
    OneDefault (defaultSet t id) := by
  intro a ha b hb hda hdb
  obtain ⟨r, hr, rfl⟩ := mem_defaultSet.mp ha
  obtain ⟨s, hs, rfl⟩ := mem_defaultSet.mp hb
  have hrid : r.id = id := of_decide_eq_true hda
  have hsid : s.id = id := of_decide_eq_true hdb
  rw [Table.eq_of_key hr hs (hrid.trans hsid.symm)]

/-- **SetDefaultScannerToken, when nothing commits in between**, marks the given scanner as
the default and clears the flag on all others. -/
theorem setDefaultScannerToken_ok {db : DB} {id : String} (h : HasScanner db.scanners id) :
    ∃ db', db.setDefaultScannerToken Up.all ⟨true, fun _ => true⟩ id = (.ok (), db') ∧
      ∀ s ∈ db'.scanners, s.isDefault = true ↔ s.id = id := by
  have hrow : (db.clearDefault fun _ => true).scanners.rowsAffected (fun s => s.id = id) ≠ 0 :=
    Table.rowsAffected_key_ne_zero_iff.mpr (hasScanner_setIsDefault.mpr h)
  have hset : ∃ db', (db.clearDefault fun _ => true).setDefault id =
      some ((db.clearDefault fun _ => true).scanners.rowsAffected (fun s => s.id = id), db') :=
    ⟨_, dif_pos (oneDefault_defaultSet (t := db.scanners))⟩
  obtain ⟨db', hset⟩ := hset
  refine ⟨db', setDefaultScannerToken_ok_iff.mpr ⟨rfl, rfl, _, hrow, hset⟩, fun s hs => ?_⟩
  rw [(setDefault_frame hset).2.1] at hs
  obtain ⟨r, hr, rfl⟩ := mem_defaultSet.mp hs
  exact decide_eq_true_iff

/-! ## §3. Endpoints. -/

theorem Scanner.toScanner_id (s : Scanner) : s.toScanner.id = s.key := rfl

/-- The tables as the endpoint statements see them. -/
def DB.store (db : DB) : Endpoints.DB where
  endpoints := db.endpoints
  hosts := db.hosts
  saml := db.saml
  scanners := db.scanners.project Scanner.toScanner Scanner.toScanner_id

theorem mem_store_scanners {db : DB} {s : Endpoints.Scanner} :
    s ∈ db.store.scanners ↔ ∃ r ∈ db.scanners, r.toScanner = s :=
  @Table.mem_project _ _ _ _ _ _ _ Scanner.toScanner_id _

theorem hasScanner_of_scannerExists {db : DB} {scannerID : Option String}
    (h : db.store.ScannerExists scannerID) :
    ∀ sid, scannerID = some sid → HasScanner db.scanners sid := by
  intro sid hsid
  obtain ⟨s, hs, hid⟩ := h sid hsid
  obtain ⟨r, hr, rfl⟩ := mem_store_scanners.mp hs
  exact ⟨r, hr, hid⟩

theorem scannerRefs_insertEndpoint {db : DB} {id : String} {rec : EndpointRecord}
    {d : Endpoints.DB} (h : db.store.insertEndpoint id rec = .ok d) :
    ScannerRefs db.scanners d.endpoints := by
  obtain ⟨hscanner, _, _, hend, _, _⟩ := Endpoints.DB.insertEndpoint_ok h
  intro e he sid hsid
  -- a stored endpoint keeps its reference; the new one's was checked
  rcases (hend e).mp he with he | he
  · exact db.scannerRefs e he sid hsid
  · subst he
    exact hasScanner_of_scannerExists hscanner sid hsid

theorem scannerRefs_updateEndpoint {db : DB} {id : String} {rec : EndpointRecord}
    {d : Endpoints.DB} (h : db.store.updateEndpoint id rec = .ok d) :
    ScannerRefs db.scanners d.endpoints := by
  obtain ⟨_, hscanner, _⟩ := Endpoints.DB.updateEndpoint_isOk_iff.mp ⟨d, h⟩
  rw [(Endpoints.DB.updateEndpoint_ok h).1]
  intro e he sid hsid
  obtain ⟨e₀, he₀, rfl⟩ := Table.mem_update.mp he
  split at hsid
  · exact hasScanner_of_scannerExists hscanner sid hsid
  · exact db.scannerRefs e₀ he₀ sid hsid

theorem scannerRefs_deleteEndpoint {db : DB} {id : String} {d : Endpoints.DB}
    (h : db.store.deleteEndpoint id = .ok d) : ScannerRefs db.scanners d.endpoints := by
  obtain ⟨_, hend, _, _⟩ := Endpoints.DB.deleteEndpoint_ok h
  intro e he
  exact db.scannerRefs e ((hend e).mp he).1

/-- What an endpoint statement leaves. -/
def DB.withStore (db : DB) (d : Endpoints.DB) (h : ScannerRefs db.scanners d.endpoints) : DB :=
  { db with endpoints := d.endpoints, hosts := d.hosts, saml := d.saml, scannerRefs := h }

/-- `InsertEndpoint`. -/
def DB.insertEndpoint (db : DB) (id : String) (rec : EndpointRecord) : Except StoreError DB :=
  match h : db.store.insertEndpoint id rec with
  | .ok d => .ok (db.withStore d (scannerRefs_insertEndpoint h))
  | .error e => .error e

/-- `UpdateEndpoint`. -/
def DB.updateEndpoint (db : DB) (id : String) (rec : EndpointRecord) : Except StoreError DB :=
  match h : db.store.updateEndpoint id rec with
  | .ok d => .ok (db.withStore d (scannerRefs_updateEndpoint h))
  | .error e => .error e

/-- `DeleteEndpoint`. -/
def DB.deleteEndpoint (db : DB) (id : String) : Except StoreError DB :=
  match h : db.store.deleteEndpoint id with
  | .ok d => .ok (db.withStore d (scannerRefs_deleteEndpoint h))
  | .error e => .error e

/-! ## §4. What a scanner is given. -/

/-- `models.ScannerHost`. -/
structure ScannerHost where
  id : String
  dnsName : String
  ipAddress : Option String
  port : Int
  deriving DecidableEq, Repr

/-- `models.ScannerSAMLEndpoint`. -/
structure ScannerSAMLEndpoint where
  id : String
  url : String
  deriving DecidableEq, Repr

namespace DB

/-- The scanner is stored and the default. -/
def isDefault (db : DB) (scannerID : String) : Bool :=
  decide (∃ s ∈ db.scanners, s.id = scannerID ∧ s.isDefault = true)

/-- The WHERE clause of both queries, for one type of endpoint. -/
def claims (db : DB) (scannerID type : String) (h : Endpoint) : Bool :=
  h.enabled && !h.scanExempt && decide (h.type = type) &&
    (decide (h.scannerID = some scannerID) ||
      (h.scannerID.isNone && db.isDefault scannerID))

/-- `GetScannerHostEndpoints`, in storage order. -/
def getScannerHostEndpoints (db : DB) (scannerID : String) : List ScannerHost :=
  (db.endpoints.rows.filter (db.claims scannerID "host")).filterMap fun h =>
    (db.hosts.find? h.id).map fun eh => ⟨h.id, eh.dnsName.getD "", eh.ipAddress, eh.port⟩

/-- `GetScannerSAMLEndpoints`, in storage order. -/
def getScannerSAMLEndpoints (db : DB) (scannerID : String) : List ScannerSAMLEndpoint :=
  (db.endpoints.rows.filter (db.claims scannerID "saml")).filterMap fun e =>
    (db.saml.find? e.id).map fun es => ⟨e.id, es.url⟩

/-- The scanner is given the endpoint. -/
def HandedOut (db : DB) (scannerID endpointID : String) : Prop :=
  (∃ h ∈ db.getScannerHostEndpoints scannerID, h.id = endpointID) ∨
    ∃ e ∈ db.getScannerSAMLEndpoints scannerID, e.id = endpointID

instance (db : DB) (scannerID endpointID : String) :
    Decidable (db.HandedOut scannerID endpointID) :=
  inferInstanceAs (Decidable (_ ∨ _))

/-- Every endpoint has the row of its type. -/
structure TypeRows (db : DB) : Prop where
  host : ∀ e ∈ db.endpoints, e.type = "host" → db.hosts.find? e.id ≠ none
  saml : ∀ e ∈ db.endpoints, e.type = "saml" → db.saml.find? e.id ≠ none

theorem mem_getScannerHostEndpoints {db : DB} {scannerID endpointID : String} :
    (∃ h ∈ db.getScannerHostEndpoints scannerID, h.id = endpointID) ↔
      ∃ e ∈ db.endpoints, e.id = endpointID ∧ db.claims scannerID "host" e = true ∧
        db.hosts.find? e.id ≠ none := by
  unfold getScannerHostEndpoints
  constructor
  · intro h
    obtain ⟨sh, hsh, hid⟩ := h
    obtain ⟨e, he, hrow⟩ := List.mem_filterMap.mp hsh
    obtain ⟨he, hclaims⟩ := List.mem_filter.mp he
    obtain ⟨eh, heh, rfl⟩ := Option.map_eq_some_iff.mp hrow
    exact ⟨e, he, hid, hclaims, by simp [heh]⟩
  · intro h
    obtain ⟨e, he, hid, hclaims, hrow⟩ := h
    obtain ⟨eh, heh⟩ := Option.ne_none_iff_exists'.mp hrow
    exact ⟨⟨e.id, eh.dnsName.getD "", eh.ipAddress, eh.port⟩, List.mem_filterMap.mpr
      ⟨e, List.mem_filter.mpr ⟨he, hclaims⟩, by rw [heh, Option.map_some]⟩, hid⟩

theorem mem_getScannerSAMLEndpoints {db : DB} {scannerID endpointID : String} :
    (∃ s ∈ db.getScannerSAMLEndpoints scannerID, s.id = endpointID) ↔
      ∃ e ∈ db.endpoints, e.id = endpointID ∧ db.claims scannerID "saml" e = true ∧
        db.saml.find? e.id ≠ none := by
  unfold getScannerSAMLEndpoints
  constructor
  · intro h
    obtain ⟨s, hs, hid⟩ := h
    obtain ⟨e, he, hrow⟩ := List.mem_filterMap.mp hs
    obtain ⟨he, hclaims⟩ := List.mem_filter.mp he
    obtain ⟨es, hes, rfl⟩ := Option.map_eq_some_iff.mp hrow
    exact ⟨e, he, hid, hclaims, by simp [hes]⟩
  · intro h
    obtain ⟨e, he, hid, hclaims, hrow⟩ := h
    obtain ⟨es, hes⟩ := Option.ne_none_iff_exists'.mp hrow
    exact ⟨⟨e.id, es.url⟩, List.mem_filterMap.mpr
      ⟨e, List.mem_filter.mpr ⟨he, hclaims⟩, by rw [hes, Option.map_some]⟩, hid⟩

/-- The endpoint goes to the scanner it names, or to a default one if it names none. -/
def AssignedTo (db : DB) (e : Endpoint) (scannerID : String) : Prop :=
  e.scannerID = some scannerID ∨ (e.scannerID = none ∧ db.isDefault scannerID = true)

/-- Scans reach the endpoint at all. -/
def Scannable (e : Endpoint) : Prop :=
  e.enabled = true ∧ e.scanExempt = false ∧ (e.type = "host" ∨ e.type = "saml")

theorem claims_iff {db : DB} {scannerID type : String} {e : Endpoint} :
    db.claims scannerID type e = true ↔
      e.enabled = true ∧ e.scanExempt = false ∧ e.type = type ∧ db.AssignedTo e scannerID := by
  unfold claims AssignedTo
  simp only [Bool.and_eq_true, Bool.or_eq_true, Bool.not_eq_true', decide_eq_true_eq,
    Option.isNone_iff_eq_none, and_assoc]

/-- **Both queries together**: an endpoint is handed out to the scanners it is assigned to,
if scans reach it. -/
theorem handedOut_iff {db : DB} (hrows : db.TypeRows) {e : Endpoint} (he : e ∈ db.endpoints)
    {scannerID : String} :
    db.HandedOut scannerID e.id ↔ Scannable e ∧ db.AssignedTo e scannerID := by
  unfold HandedOut
  rw [mem_getScannerHostEndpoints, mem_getScannerSAMLEndpoints]
  constructor
  · intro h
    rcases h with ⟨e', he', hid, hclaims, _⟩ | ⟨e', he', hid, hclaims, _⟩
    · -- the id is a key: the row that was found is this one
      have heq : e' = e := Table.eq_of_key he' he hid
      subst heq
      obtain ⟨hen, hex, htype, hassigned⟩ := claims_iff.mp hclaims
      exact ⟨⟨hen, hex, .inl htype⟩, hassigned⟩
    · have heq : e' = e := Table.eq_of_key he' he hid
      subst heq
      obtain ⟨hen, hex, htype, hassigned⟩ := claims_iff.mp hclaims
      exact ⟨⟨hen, hex, .inr htype⟩, hassigned⟩
  · intro h
    obtain ⟨⟨hen, hex, htype⟩, hassigned⟩ := h
    rcases htype with htype | htype
    · exact .inl ⟨e, he, rfl, claims_iff.mpr ⟨hen, hex, htype, hassigned⟩,
        hrows.host e he htype⟩
    · exact .inr ⟨e, he, rfl, claims_iff.mpr ⟨hen, hex, htype, hassigned⟩,
        hrows.saml e he htype⟩

theorem isDefault_iff {db : DB} {scannerID : String} :
    db.isDefault scannerID = true ↔ ∃ s ∈ db.scanners, s.id = scannerID ∧ s.isDefault = true :=
  decide_eq_true_iff

/-- No two scanners are assigned one endpoint. -/
theorem assignedTo_unique {db : DB} {e : Endpoint} {a b : String} (ha : db.AssignedTo e a)
    (hb : db.AssignedTo e b) : a = b := by
  -- by its own reference, or as the default while it has none: not both
  rcases ha with ha | ⟨hnone, ha⟩
  · rcases hb with hb | ⟨hnone, _⟩
    · exact Option.some.inj (ha.symm.trans hb)
    · exact absurd (ha.symm.trans hnone) (by simp)
  · rcases hb with hb | ⟨_, hb⟩
    · exact absurd (hb.symm.trans hnone) (by simp)
    · -- both are the default, of which the index allows one
      obtain ⟨s, hs, hsa, hsd⟩ := isDefault_iff.mp ha
      obtain ⟨r, hr, hrb, hrd⟩ := isDefault_iff.mp hb
      rw [← hsa, ← hrb, db.oneDefault s hs r hr hsd hrd]

/-- An endpoint with a scanner, or while there is a default one, is assigned to a stored
scanner. -/
theorem exists_assignedTo {db : DB} {e : Endpoint} (he : e ∈ db.endpoints)
    (h : e.scannerID ≠ none ∨ ∃ s ∈ db.scanners, s.isDefault = true) :
    ∃ s ∈ db.scanners, db.AssignedTo e s.id := by
  cases hsid : e.scannerID with
  | some sid =>
      obtain ⟨s, hs, hid⟩ := db.scannerRefs e he sid hsid
      exact ⟨s, hs, .inl (hsid.trans (congrArg some hid.symm))⟩
  | none =>
      rcases h with h | ⟨s, hs, hdefault⟩
      · exact absurd hsid h
      · exact ⟨s, hs, .inr ⟨hsid, isDefault_iff.mpr ⟨s, hs, rfl, hdefault⟩⟩⟩

/-! ## §5. Runs. -/

end DB

/-- The requests. -/
inductive Action where
  | insertScannerToken (id name tokenHash scanCronExpression : String) (scanConcurrency : Int)
  | deleteScannerToken (id : String)
  | setDefaultScannerToken (up : Up) (snap : Snapshot) (id : String)
  | insertEndpoint (id : String) (rec : EndpointRecord)
  | updateEndpoint (id : String) (rec : EndpointRecord)
  | deleteEndpoint (id : String)

/-- What a request that is refused, or stored at once, returns and leaves. -/
def stored (db : DB) : Except StoreError DB → Except StoreError Unit × DB
  | .ok db' => (.ok (), db')
  | .error e => (.error e, db)

/-- What a request returns, and the tables it leaves. -/
def handle (db : DB) : Action → Except StoreError Unit × DB
  | .insertScannerToken id name tokenHash scanCronExpression scanConcurrency =>
      stored db (db.insertScannerToken id name tokenHash scanCronExpression scanConcurrency)
  | .deleteScannerToken id => stored db (db.deleteScannerToken id)
  | .setDefaultScannerToken up snap id => db.setDefaultScannerToken up snap id
  | .insertEndpoint id rec => stored db (db.insertEndpoint id rec)
  | .updateEndpoint id rec => stored db (db.updateEndpoint id rec)
  | .deleteEndpoint id => stored db (db.deleteEndpoint id)

/-- A request. -/
def step (db : DB) (a : Action) : Option DB := some (handle db a).2

/-- What a request makes of the endpoints and of the rows of their types. -/
inductive Effect (db : DB) : Action → DB → Prop
  | failed {a : Action} : Effect db a db
  | inserted {id : String} {rec : EndpointRecord} {d : Endpoints.DB} {db' : DB} :
      db.store.insertEndpoint id rec = .ok d → db'.endpoints = d.endpoints →
      db'.hosts = d.hosts → db'.saml = d.saml → Effect db (.insertEndpoint id rec) db'
  | updated {id : String} {rec : EndpointRecord} {d : Endpoints.DB} {db' : DB} :
      db.store.updateEndpoint id rec = .ok d → db'.endpoints = d.endpoints →
      db'.hosts = d.hosts → db'.saml = d.saml → Effect db (.updateEndpoint id rec) db'
  | deleted {id : String} {d : Endpoints.DB} {db' : DB} :
      db.store.deleteEndpoint id = .ok d → db'.endpoints = d.endpoints →
      db'.hosts = d.hosts → db'.saml = d.saml → Effect db (.deleteEndpoint id) db'
  | unassigned {id : String} {db' : DB} :
      db'.endpoints = unassigned db.endpoints id → db'.hosts = db.hosts → db'.saml = db.saml →
      Effect db (.deleteScannerToken id) db'
  | scanners {a : Action} {db' : DB} :
      db'.endpoints = db.endpoints → db'.hosts = db.hosts → db'.saml = db.saml →
      Effect db a db'

theorem stored_cases (db : DB) (r : Except StoreError DB) :
    (stored db r).2 = db ∨ ∃ db', r = .ok db' ∧ (stored db r).2 = db' := by
  cases r with
  | ok db' => exact .inr ⟨db', rfl, rfl⟩
  | error e => exact .inl rfl

/-- **A request has one of these effects.** -/
theorem step_cases {db db' : DB} {a : Action} (h : step db a = some db') : Effect db a db' := by
  injection h with h
  subst h
  cases a with
  | insertScannerToken id name tokenHash scanCronExpression scanConcurrency =>
      simp only [handle]
      rcases stored_cases db (db.insertScannerToken id name tokenHash scanCronExpression
        scanConcurrency) with heq | ⟨db', hok, heq⟩ <;> rw [heq]
      · exact .failed
      · unfold DB.insertScannerToken at hok
        split at hok
        · exact absurd hok (by simp)
        · split at hok
          · exact absurd hok (by simp)
          · injection hok with hok
            subst hok
            exact .scanners rfl rfl rfl
  | deleteScannerToken id =>
      simp only [handle]
      rcases stored_cases db (db.deleteScannerToken id) with heq | ⟨db', hok, heq⟩ <;> rw [heq]
      · exact .failed
      · unfold DB.deleteScannerToken at hok
        split at hok
        · exact absurd hok (by simp)
        · injection hok with hok
          subst hok
          exact .unassigned rfl rfl rfl
  | setDefaultScannerToken up snap id =>
      simp only [handle]
      rcases hrun : db.setDefaultScannerToken up snap id with ⟨_ | _, db'⟩
      · -- rolled back
        rw [runInTx_eq_error hrun]
        exact .failed
      · -- committed: the clearing and the setting both write the scanners only
        obtain ⟨-, -, n, -, hset⟩ := setDefaultScannerToken_ok_iff.mp hrun
        obtain ⟨-, -, hend, hhosts, hsaml⟩ := setDefault_frame hset
        exact .scanners hend hhosts hsaml
  | insertEndpoint id rec =>
      simp only [handle]
      rcases stored_cases db (db.insertEndpoint id rec) with heq | ⟨db', hok, heq⟩ <;> rw [heq]
      · exact .failed
      · unfold DB.insertEndpoint at hok
        split at hok
        · next d hd =>
            injection hok with hok
            subst hok
            exact .inserted hd rfl rfl rfl
        · exact absurd hok (by simp)
  | updateEndpoint id rec =>
      simp only [handle]
      rcases stored_cases db (db.updateEndpoint id rec) with heq | ⟨db', hok, heq⟩ <;> rw [heq]
      · exact .failed
      · unfold DB.updateEndpoint at hok
        split at hok
        · next d hd =>
            injection hok with hok
            subst hok
            exact .updated hd rfl rfl rfl
        · exact absurd hok (by simp)
  | deleteEndpoint id =>
      simp only [handle]
      rcases stored_cases db (db.deleteEndpoint id) with heq | ⟨db', hok, heq⟩ <;> rw [heq]
      · exact .failed
      · unfold DB.deleteEndpoint at hok
        split at hok
        · next d hd =>
            injection hok with hok
            subst hok
            exact .deleted hd rfl rfl rfl
        · exact absurd hok (by simp)

/-- The row of a new endpoint's type is stored with it. -/
theorem typeRows_inserted {db db' : DB} {id : String} {rec : EndpointRecord} {d : Endpoints.DB}
    (hrows : db.TypeRows) (h : db.store.insertEndpoint id rec = .ok d)
    (hend : db'.endpoints = d.endpoints) (hhosts : db'.hosts = d.hosts)
    (hsaml : db'.saml = d.saml) : db'.TypeRows := by
  obtain ⟨_, _, hfresh, hmem, hfindh, hfinds⟩ := Endpoints.DB.insertEndpoint_ok h
  have hurl := Endpoints.DB.url_of_insertEndpoint h
  constructor
  · intro e he htype
    rw [hend] at he
    rw [hhosts, hfindh]
    rcases (hmem e).mp he with he | he
    · -- the id was free, so the rows of other endpoints are untouched
      rw [if_neg (fun hc => hfresh e he hc.2.symm)]
      exact hrows.host e he htype
    · subst he
      rw [if_pos ⟨.inl htype, rfl⟩]
      simp
  · intro e he htype
    rw [hend] at he
    rw [hsaml, hfinds]
    rcases (hmem e).mp he with he | he
    · rw [if_neg (fun hc => hfresh e he hc.2.symm)]
      exact hrows.saml e he htype
    · subst he
      rw [if_pos ⟨htype, rfl⟩, ne_eq, Option.map_eq_none_iff]
      exact hurl htype

/-- UpdateEndpoint writes the row of the new type. -/
theorem typeRows_updated {db db' : DB} {id : String} {rec : EndpointRecord} {d : Endpoints.DB}
    (hrows : db.TypeRows) (h : db.store.updateEndpoint id rec = .ok d)
    (hend : db'.endpoints = d.endpoints) (hhosts : db'.hosts = d.hosts)
    (hsaml : db'.saml = d.saml) : db'.TypeRows := by
  obtain ⟨hendd, _, hfindh, hfinds⟩ := Endpoints.DB.updateEndpoint_ok h
  obtain ⟨_, _, hurl⟩ := Endpoints.DB.updateEndpoint_isOk_iff.mp ⟨d, h⟩
  constructor
  · intro e he htype
    rw [hend, hendd] at he
    obtain ⟨e₀, he₀, rfl⟩ := Table.mem_update.mp he
    rw [hhosts, hfindh]
    by_cases hid : e₀.id = id
    · -- the updated endpoint has the type of the record
      simp only [hid, decide_true, if_true] at htype ⊢
      rw [if_pos (Endpoints.DB.withRecord_id rec e₀ ▸ hid), if_pos (.inl htype)]
      simp
    · simp only [hid, decide_false, Bool.false_eq_true, if_false] at htype ⊢
      exact hrows.host e₀ he₀ htype
  · intro e he htype
    rw [hend, hendd] at he
    obtain ⟨e₀, he₀, rfl⟩ := Table.mem_update.mp he
    rw [hsaml, hfinds]
    by_cases hid : e₀.id = id
    · simp only [hid, decide_true, if_true] at htype ⊢
      rw [if_pos (Endpoints.DB.withRecord_id rec e₀ ▸ hid),
        if_pos (show rec.type = "saml" from htype), ne_eq, Option.map_eq_none_iff]
      exact hurl htype
    · simp only [hid, decide_false, Bool.false_eq_true, if_false] at htype ⊢
      exact hrows.saml e₀ he₀ htype

theorem typeRows_deleted {db db' : DB} {id : String} {d : Endpoints.DB} (hrows : db.TypeRows)
    (h : db.store.deleteEndpoint id = .ok d) (hend : db'.endpoints = d.endpoints)
    (hhosts : db'.hosts = d.hosts) (hsaml : db'.saml = d.saml) : db'.TypeRows := by
  obtain ⟨_, hmem, hfindh, hfinds⟩ := Endpoints.DB.deleteEndpoint_ok h
  constructor
  · intro e he htype
    rw [hend] at he
    obtain ⟨he, hne⟩ := (hmem e).mp he
    rw [hhosts, hfindh, if_neg hne]
    exact hrows.host e he htype
  · intro e he htype
    rw [hend] at he
    obtain ⟨he, hne⟩ := (hmem e).mp he
    rw [hsaml, hfinds, if_neg hne]
    exact hrows.saml e he htype

/-- **The step lemma.** -/
theorem typeRows_step {db db' : DB} {a : Action} (hrows : db.TypeRows)
    (h : step db a = some db') : db'.TypeRows := by
  cases step_cases h with
  | failed => exact hrows
  | inserted hd hend hhosts hsaml => exact typeRows_inserted hrows hd hend hhosts hsaml
  | updated hd hend hhosts hsaml => exact typeRows_updated hrows hd hend hhosts hsaml
  | deleted hd hend hhosts hsaml => exact typeRows_deleted hrows hd hend hhosts hsaml
  | unassigned hend hhosts hsaml =>
      -- ids and types stay
      constructor
      · intro e he htype
        obtain ⟨e₀, he₀, hid, hsame⟩ := exists_of_mem_unassigned (hend ▸ he)
        rw [hhosts, ← hid]
        exact hrows.host e₀ he₀ (hsame.trans htype)
      · intro e he htype
        obtain ⟨e₀, he₀, hid, hsame⟩ := exists_of_mem_unassigned (hend ▸ he)
        rw [hsaml, ← hid]
        exact hrows.saml e₀ he₀ (hsame.trans htype)
  | scanners hend hhosts hsaml =>
      constructor
      · rw [hend, hhosts]
        exact hrows.host
      · rw [hend, hsaml]
        exact hrows.saml

/-- **The run lemma.** -/
theorem typeRows_of_exec {t : DB} {tr : List (DB × Action)} (e : Exec step DB.empty tr t) :
    t.TypeRows := by
  have hempty : DB.empty.TypeRows :=
    ⟨fun _ h => absurd h (Table.not_mem_empty _), fun _ h => absurd h (Table.not_mem_empty _)⟩
  exact e.preserves (C := fun _ _ => True) (fun _ _ _ hs _ h => typeRows_step hs h) hempty
    (fun _ _ => trivial) t (last_mem_visited tr t)

/-- **Scanner assignment is exclusive.**  In every state that requests lead to, whatever the
statements of a SetDefaultScannerToken saw, and whichever of them were lost: at most one scanner
is the default; an endpoint that scans reach is handed out to at most one scanner, and to one
that is stored if it names a scanner or there is a default one; a disabled, exempt or manual
endpoint is handed out to none; and a SetDefaultScannerToken that returns an error leaves
everything as it was. -/
theorem assignment_exclusive {t : DB} {tr : List (DB × Action)} (e : Exec step DB.empty tr t) :
    (∀ s ∈ t.scanners, ∀ r ∈ t.scanners, s.isDefault = true → r.isDefault = true → s = r) ∧
    (∀ ep ∈ t.endpoints, ep.enabled = true → ep.scanExempt = false →
      (ep.type = "host" ∨ ep.type = "saml") →
      (∀ a b, t.HandedOut a ep.id → t.HandedOut b ep.id → a = b) ∧
      ((ep.scannerID ≠ none ∨ ∃ s ∈ t.scanners, s.isDefault = true) →
        ∃ s ∈ t.scanners, t.HandedOut s.id ep.id)) ∧
    (∀ ep ∈ t.endpoints, (ep.enabled = false ∨ ep.scanExempt = true ∨ ep.type = "manual") →
      ∀ a, ¬ t.HandedOut a ep.id) ∧
    ∀ up snap id err, (handle t (.setDefaultScannerToken up snap id)).1 = .error err →
      step t (.setDefaultScannerToken up snap id) = some t := by
  have hrows := typeRows_of_exec e
  -- the first part is the index itself
  refine ⟨t.oneDefault, ?_, ?_, ?_⟩
  · intro ep hep hen hex htype
    constructor
    · intro a b ha hb
      exact DB.assignedTo_unique ((DB.handedOut_iff hrows hep).mp ha).2
        ((DB.handedOut_iff hrows hep).mp hb).2
    · intro h
      obtain ⟨s, hs, hassigned⟩ := DB.exists_assignedTo hep h
      exact ⟨s, hs, (DB.handedOut_iff hrows hep).mpr ⟨⟨hen, hex, htype⟩, hassigned⟩⟩
  · intro ep hep hnot a ha
    obtain ⟨hen, hex, htype⟩ := ((DB.handedOut_iff hrows hep).mp ha).1
    rcases hnot with h | h | h
    · exact absurd (hen.symm.trans h) (by decide)
    · exact absurd (hex.symm.trans h) (by decide)
    · rw [h] at htype
      exact absurd htype (by decide)
  · intro up snap id err herr
    exact congrArg some (runInTx_error herr)

/-- A record of an enabled endpoint without a scanner. -/
def unassignedHost (name : String) : EndpointRecord :=
  ⟨name, "host", name, none, 443, none, true, false, none, none⟩

/-- The default changes hands, and the scanner of an endpoint is deleted. -/
def scannerGone : List Action :=
  [.insertScannerToken "s1" "dmz" "h1" "0 * * * *" 5,
    .insertScannerToken "s2" "lan" "h2" "0 * * * *" 5,
    .setDefaultScannerToken Up.all ⟨true, fun _ => true⟩ "s2",
    .insertEndpoint "e1" { unassignedHost "www" with scannerID := some "s2" },
    .setDefaultScannerToken Up.all ⟨true, fun _ => true⟩ "s1",
    -- a request that overlapped the last one and did not see its default
    .setDefaultScannerToken Up.all ⟨true, fun id => id = "s2"⟩ "s2",
    -- one that has cleared the default when the connection is lost
    .setDefaultScannerToken ⟨true, true, false, true⟩ ⟨true, fun _ => true⟩ "s2",
    .deleteScannerToken "s2"]

/-- The endpoint goes to the default scanner, and to no other. -/
theorem assignment_exclusive_scannerGone :
    ∃ t, run step DB.empty scannerGone = some t ∧ t.HandedOut "s1" "e1" ∧
      ∀ a b, t.HandedOut a "e1" → t.HandedOut b "e1" → a = b := by
  refine ⟨_, rfl, by decide, ?_⟩
  have e : Exec step DB.empty (traceFrom step DB.empty scannerGone) _ := exec_traceFrom rfl
  exact ((assignment_exclusive e).2.1 ⟨"e1", "www", "host", true, false, none, none⟩ (by decide)
    rfl rfl (.inl rfl)).1

end TLSentinel.Scanners
