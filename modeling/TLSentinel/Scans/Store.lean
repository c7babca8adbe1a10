/-
  TLSentinel.Scans.Store
  ──────────────────────
  **SCAN RESULTS AND THE TABLES THEY END UP IN.**

  RecordScanResult and UpsertEndpointCert of `internal/db/endpoints_store.go`,
  PurgeScanHistory of `maintenance_store.go`, over the scan columns of
  `endpoints`, `endpoint_hosts`, `endpoint_scan_history` and `endpoint_certs`
  (migrations 000001, 000025, 000049).

  Each call is one transaction: `none` means that a constraint failed and all of
  it was rolled back.  `NOW()` is the transaction's time, an argument; times are
  in microseconds.  A database value carries its foreign keys.
-/
import TLSentinel.Foundation.Runs
import TLSentinel.Foundation.Tables
import TLSentinel.Foundation.ChangeLog

namespace TLSentinel.Scans

open Foundation

/-! ## §1. Rows. -/

/-- `models.ScanResultRequest`, without the PEMs: those are ingested before. -/
structure ScanResultRequest where
  activeFingerprint : Option String
  resolvedIP : Option String
  tlsVersion : Option String
  error : Option String
  deriving DecidableEq, Repr

/-- The scan state of a row of `tlsentinel.endpoints`. -/
structure Endpoint where
  id : String
  lastScannedAt : Option Int
  lastScanError : Option String
  errorSince : Option Int
  updatedAt : Int
  deriving DecidableEq, Repr

/-- The id of a row. -/
def Endpoint.key (e : Endpoint) : String := e.id

/-- The scan state of a row of `tlsentinel.endpoint_hosts`. -/
structure EndpointHost where
  endpointID : String
  lastResolvedIP : Option String
  deriving DecidableEq, Repr

/-- The endpoint a row belongs to. -/
def EndpointHost.key (h : EndpointHost) : String := h.endpointID

/-- The columns of `tlsentinel.endpoint_scan_history` that a scan fills. -/
structure ScanRecord where
  endpointID : String
  scannedAt : Int
  fingerprint : Option String
  resolvedIP : Option String
  tlsVersion : Option String
  scanError : Option String
  deriving DecidableEq, Repr

/-- A row of `tlsentinel.endpoint_scan_history`. -/
structure HistoryRow extends ScanRecord where
  id : Nat
  deriving DecidableEq, Repr

/-- The id of a row. -/
def HistoryRow.key (r : HistoryRow) : Nat := r.id

/-- A row of `tlsentinel.endpoint_certs`. -/
structure EndpointCert where
  id : Nat
  endpointID : String
  fingerprint : String
  certUse : String
  isCurrent : Bool
  firstSeenAt : Int
  lastSeenAt : Int
  deriving DecidableEq, Repr

/-- The columns of the constraint `endpoint_certs_unique`. -/
def EndpointCert.key (c : EndpointCert) : String × String × String :=
  (c.endpointID, c.fingerprint, c.certUse)

theorem EndpointCert.key_eq_iff {c : EndpointCert} {endpointID fingerprint certUse : String} :
    c.key = (endpointID, fingerprint, certUse) ↔
      c.endpointID = endpointID ∧ c.fingerprint = fingerprint ∧ c.certUse = certUse := by
  unfold EndpointCert.key
  rw [Prod.mk.injEq, Prod.mk.injEq]

/-- The uses that `endpoint_certs_cert_use_check` admits. -/
def certUses : List String := ["tls", "signing", "encryption", "manual"]

/-- `gen_random_uuid()`: an id that no stored row has. -/
def freshID {ρ : Type} (id : ρ → Nat) (rows : List ρ) : Nat := (rows.map id).foldr max 0 + 1

theorem freshID_ne {ρ : Type} {id : ρ → Nat} {rows : List ρ} {r : ρ} (hr : r ∈ rows) :
    id r ≠ freshID id rows := by
  have hle : id r ≤ (rows.map id).foldr max 0 :=
    List.le_max_of_le' 0 (List.mem_map_of_mem hr) (Nat.le_refl _)
  unfold freshID
  omega

/-! ## §2. The current certificate of an endpoint. -/

/-- The rows of `tlsentinel.endpoint_certs`. -/
abbrev EndpointCertTable := Table EndpointCert.key

/-- The rows that a new certificate of the endpoint and use replaces. -/
def replacedBy (endpointID fingerprint certUse : String) (c : EndpointCert) : Bool :=
  decide (c.endpointID = endpointID) && decide (c.certUse = certUse) && c.isCurrent
    && decide (c.fingerprint ≠ fingerprint)

/-- A row that is not current any more. -/
def EndpointCert.rolledOver (now : Int) (c : EndpointCert) : EndpointCert :=
  { c with isCurrent := false, lastSeenAt := now }

/-- A row that was seen again. -/
def EndpointCert.seenAgain (now : Int) (c : EndpointCert) : EndpointCert :=
  { c with isCurrent := true, lastSeenAt := now }

theorem EndpointCert.rolledOver_key (now : Int) (c : EndpointCert) :
    (c.rolledOver now).key = c.key := rfl

theorem EndpointCert.seenAgain_key (now : Int) (c : EndpointCert) :
    (c.seenAgain now).key = c.key := rfl

/-- The first statement of `upsertEndpointCert`: roll over a current certificate with
another fingerprint. -/
def rollOver (t : EndpointCertTable) (now : Int) (endpointID fingerprint certUse : String) :
    EndpointCertTable :=
  t.update (replacedBy endpointID fingerprint certUse) (EndpointCert.rolledOver now)
    (EndpointCert.rolledOver_key now)

/-- The row for a certificate not seen on the endpoint before. -/
def newCert (t : EndpointCertTable) (now : Int) (endpointID fingerprint certUse : String) :
    EndpointCert :=
  ⟨freshID EndpointCert.id t.rows, endpointID, fingerprint, certUse, true, now, now⟩

/-- `upsertEndpointCert`; `refs` says whether the endpoint and the certificate that a new
row refers to are stored. -/
def upsertEndpointCert (t : EndpointCertTable) (refs : Bool) (now : Int)
    (endpointID fingerprint certUse : String) : Option EndpointCertTable :=
  let rolled := rollOver t now endpointID fingerprint certUse
  -- the CHECK comes first; the foreign keys are checked only for a row that is inserted
  if certUse ∉ certUses then none
  else
    match rolled.find? (endpointID, fingerprint, certUse) with
    | some _ =>
        some (rolled.update (fun c => decide (c.key = (endpointID, fingerprint, certUse)))
          (EndpointCert.seenAgain now) (EndpointCert.seenAgain_key now))
    | none =>
        if refs then rolled.insert (newCert t now endpointID fingerprint certUse) else none

/-- What rolling over makes of a stored row. -/
def EndpointCert.afterRollOver (now : Int) (endpointID fingerprint certUse : String)
    (c : EndpointCert) : EndpointCert :=
  if replacedBy endpointID fingerprint certUse c then c.rolledOver now else c

/-- What an upsert of `(endpointID, fingerprint, certUse)` makes of a stored row. -/
def EndpointCert.upserted (now : Int) (endpointID fingerprint certUse : String)
    (c : EndpointCert) : EndpointCert :=
  if c.key = (endpointID, fingerprint, certUse) then c.seenAgain now
  else c.afterRollOver now endpointID fingerprint certUse

section Upsert

variable {t u : EndpointCertTable} {refs : Bool} {now : Int}
  {endpointID fingerprint certUse : String}

@[simp] theorem EndpointCert.afterRollOver_key (c : EndpointCert) :
    (c.afterRollOver now endpointID fingerprint certUse).key = c.key := by
  unfold EndpointCert.afterRollOver
  split <;> rfl

@[simp] theorem EndpointCert.upserted_key (c : EndpointCert) :
    (c.upserted now endpointID fingerprint certUse).key = c.key := by
  unfold EndpointCert.upserted
  split
  · rfl
  · exact c.afterRollOver_key

/-- The row of the certificate itself is not rolled over. -/
theorem EndpointCert.afterRollOver_of_key {c : EndpointCert}
    (h : c.key = (endpointID, fingerprint, certUse)) :
    c.afterRollOver now endpointID fingerprint certUse = c := by
  have hf : c.fingerprint = fingerprint := (EndpointCert.key_eq_iff.mp h).2.1
  simp [EndpointCert.afterRollOver, replacedBy, hf]

/-- The two statements together, on one row. -/
theorem EndpointCert.seenAgain_afterRollOver (c : EndpointCert) :
    (if (c.afterRollOver now endpointID fingerprint certUse).key
        = (endpointID, fingerprint, certUse)
      then (c.afterRollOver now endpointID fingerprint certUse).seenAgain now
      else c.afterRollOver now endpointID fingerprint certUse)
      = c.upserted now endpointID fingerprint certUse := by
  unfold EndpointCert.upserted
  rw [EndpointCert.afterRollOver_key]
  by_cases hk : c.key = (endpointID, fingerprint, certUse)
  · rw [if_pos hk, if_pos hk, EndpointCert.afterRollOver_of_key hk]
  · rw [if_neg hk, if_neg hk]

theorem mem_rollOver {c : EndpointCert} :
    c ∈ rollOver t now endpointID fingerprint certUse ↔
      ∃ s ∈ t, s.afterRollOver now endpointID fingerprint certUse = c :=
  Table.mem_update

/-- Rolling over leaves the keys alone. -/
theorem exists_key_rollOver {k : String × String × String} :
    (∃ c ∈ rollOver t now endpointID fingerprint certUse, c.key = k) ↔ ∃ c ∈ t, c.key = k := by
  constructor
  · intro h
    obtain ⟨c, hc, hk⟩ := h
    obtain ⟨s, hs, rfl⟩ := mem_rollOver.mp hc
    exact ⟨s, hs, EndpointCert.afterRollOver_key s ▸ hk⟩
  · intro h
    obtain ⟨s, hs, hk⟩ := h
    exact ⟨_, mem_rollOver.mpr ⟨s, hs, rfl⟩, (EndpointCert.afterRollOver_key s).trans hk⟩

/-- **The rows after an upsert**: every stored row, touched where the statements touch it,
and a new row when the certificate was not seen with this endpoint and use before. -/
theorem mem_upsertEndpointCert
    (h : upsertEndpointCert t refs now endpointID fingerprint certUse = some u)
    {c : EndpointCert} :
    c ∈ u ↔ (∃ s ∈ t, s.upserted now endpointID fingerprint certUse = c) ∨
      ((∀ s ∈ t, s.key ≠ (endpointID, fingerprint, certUse)) ∧
        c = newCert t now endpointID fingerprint certUse) := by
  unfold upsertEndpointCert at h
  simp only at h
  split at h
  · exact absurd h (by simp)
  cases hfind : (rollOver t now endpointID fingerprint certUse).find?
      (endpointID, fingerprint, certUse) with
  | some r =>
      -- the certificate is known: its row is seen again
      rw [hfind] at h
      injection h with h
      subst h
      obtain ⟨s, hs, hsk⟩ := exists_key_rollOver.mp
        ⟨r, Table.mem_of_find? hfind, Table.key_of_find? hfind⟩
      have hknown : ¬ ∀ s ∈ t, s.key ≠ (endpointID, fingerprint, certUse) :=
        fun hno => hno s hs hsk
      simp only [Table.mem_update, mem_rollOver, hknown, false_and, or_false,
        decide_eq_true_eq, exists_exists_and_eq_and, EndpointCert.seenAgain_afterRollOver]
  | none =>
      rw [hfind] at h
      simp only at h
      have hno : ∀ s ∈ t, s.key ≠ (endpointID, fingerprint, certUse) := by
        intro s hs hsk
        obtain ⟨c, hc, hck⟩ := exists_key_rollOver.mpr ⟨s, hs, hsk⟩
        exact Table.find?_eq_none_iff.mp hfind c hc hck
      have hold : ∀ s ∈ t, s.afterRollOver now endpointID fingerprint certUse
          = s.upserted now endpointID fingerprint certUse :=
        fun s hs => (if_neg (hno s hs)).symm
      split at h
      · rw [Table.mem_insert h, mem_rollOver, and_iff_right hno]
        apply or_congr_left
        exact exists_congr fun s => and_congr_right fun hs => by rw [hold s hs]
      · exact absurd h (by simp)

/-- **When an upsert is accepted.** -/
theorem upsertEndpointCert_isSome_iff :
    (upsertEndpointCert t refs now endpointID fingerprint certUse).isSome ↔
      certUse ∈ certUses ∧
        ((∃ c ∈ t, c.key = (endpointID, fingerprint, certUse)) ∨ refs = true) := by
  have hkey : (∃ c ∈ rollOver t now endpointID fingerprint certUse,
      c.key = (endpointID, fingerprint, certUse)) ↔
      ∃ c ∈ t, c.key = (endpointID, fingerprint, certUse) := exists_key_rollOver
  unfold upsertEndpointCert
  rw [← hkey]
  by_cases huse : certUse ∈ certUses
  · simp only [huse, not_true_eq_false, if_false, true_and]
    cases hfind : (rollOver t now endpointID fingerprint certUse).find?
        (endpointID, fingerprint, certUse) with
    | some r =>
        have hr := Table.find?_eq_some_iff.mp hfind
        simp only [Option.isSome_some, true_iff]
        exact .inl ⟨r, hr⟩
    | none =>
        have hno := Table.find?_eq_none_iff.mp hfind
        have hins : (Table.insert (rollOver t now endpointID fingerprint certUse)
            (newCert t now endpointID fingerprint certUse)).isSome = true := by
          rw [Option.isSome_iff_ne_none]
          intro hn
          obtain ⟨s, hs, hsk⟩ := Table.insert_eq_none_iff.mp hn
          exact hno s hs hsk
        cases refs with
        | true => simp [hins]
        | false => simpa using hno
  · simp [huse]

/-- A certificate that is new to the endpoint and use had its foreign keys checked. -/
theorem refs_of_upsertEndpointCert
    (h : upsertEndpointCert t refs now endpointID fingerprint certUse = some u)
    (hno : ∀ s ∈ t, s.key ≠ (endpointID, fingerprint, certUse)) : refs = true := by
  have hok := upsertEndpointCert_isSome_iff.mp (Option.isSome_of_eq_some h)
  rcases hok.2 with hknown | hrefs
  · obtain ⟨s, hs, hsk⟩ := hknown
    exact absurd hsk (hno s hs)
  · exact hrefs

end Upsert

/-! ## §3. The database. -/

abbrev EndpointTable := Table Endpoint.key
abbrev EndpointHostTable := Table EndpointHost.key
abbrev HistoryTable := Table HistoryRow.key

/-- The id is that of a stored endpoint. -/
def HasEndpoint (t : EndpointTable) (id : String) : Prop := ∃ e ∈ t, e.id = id

instance (t : EndpointTable) (id : String) : Decidable (HasEndpoint t id) :=
  inferInstanceAs (Decidable (∃ e ∈ t, e.id = id))

/-- The constraints on what refers to endpoints and certificates. -/
structure ForeignKeys (endpoints : EndpointTable) (certificates : List String)
    (history : HistoryTable) (certs : EndpointCertTable) : Prop where
  history : ∀ r ∈ history, HasEndpoint endpoints r.endpointID ∧
    ∀ f, r.fingerprint = some f → f ∈ certificates
  endpointCerts : ∀ c ∈ certs, HasEndpoint endpoints c.endpointID ∧
    c.fingerprint ∈ certificates

/-- The tables a scan reads and writes; of the certificates only the fingerprints matter. -/
structure DB where
  endpoints : EndpointTable
  endpointHosts : EndpointHostTable
  certificates : List String
  scanHistory : HistoryTable
  endpointCerts : EndpointCertTable
  fks : ForeignKeys endpoints certificates scanHistory endpointCerts

/-! ## §4. What changed since the last recorded scan. -/

/-- What two scans are compared by. -/
structure Observation where
  fingerprint : Option String
  tlsVersion : Option String
  resolvedIP : Option String
  failed : Bool
  deriving DecidableEq, Repr

/-- What a row of the history shows. -/
def ScanRecord.observation (r : ScanRecord) : Observation :=
  ⟨r.fingerprint, r.tlsVersion, r.resolvedIP, r.scanError.isSome⟩

/-- What a result shows. -/
def ScanResultRequest.observation (req : ScanResultRequest) : Observation :=
  ⟨req.activeFingerprint, req.tlsVersion, req.resolvedIP, req.error.isSome⟩

def ptrStrEq (a b : Option String) : Bool :=
  if a.isNone && b.isNone then true
  else
    match a, b with
    | some a, some b => decide (a = b)
    | _, _ => false

@[simp] theorem ptrStrEq_iff {a b : Option String} : ptrStrEq a b = true ↔ a = b := by
  cases a <;> cases b <;> simp [ptrStrEq]

def scanResultChanged (last : Option ScanRecord) (req : ScanResultRequest) : Bool :=
  match last with
  | none => true
  | some last =>
      if !ptrStrEq last.fingerprint req.activeFingerprint then true
      else if !ptrStrEq last.tlsVersion req.tlsVersion then true
      else if !ptrStrEq last.resolvedIP req.resolvedIP then true
      -- only the nil ↔ non-nil transition matters for errors, not the message text
      else if last.scanError.isNone != req.error.isNone then true
      else false

/-- **A result is written when it shows something else than the last row.** -/
theorem scanResultChanged_iff {last : Option ScanRecord} {req : ScanResultRequest} :
    scanResultChanged last req = true ↔
      last.map ScanRecord.observation ≠ some req.observation := by
  cases last with
  | none => simp [scanResultChanged]
  | some last =>
      simp only [scanResultChanged, Bool.not_eq_true', ite_eq_left_iff, Option.map_some,
        ScanRecord.observation, ScanResultRequest.observation, ne_eq, Option.some.injEq,
        Observation.mk.injEq]
      rw [← Bool.not_eq_true, ← Bool.not_eq_true, ← Bool.not_eq_true, ptrStrEq_iff,
        ptrStrEq_iff, ptrStrEq_iff]
      cases last.scanError <;> cases req.error <;> simp

/-- The row that a result is written as. -/
def ScanResultRequest.toRecord (req : ScanResultRequest) (hostID : String) (now : Int) :
    ScanRecord :=
  ⟨hostID, now, req.activeFingerprint, req.resolvedIP, req.tlsVersion, req.error⟩

@[simp] theorem ScanResultRequest.toRecord_observation (req : ScanResultRequest)
    (hostID : String) (now : Int) : (req.toRecord hostID now).observation = req.observation :=
  rfl

namespace DB

/-- The history of one endpoint. -/
def history (db : DB) (hostID : String) : List HistoryRow :=
  db.scanHistory.rows.filter (fun r => decide (r.endpointID = hostID))

/-- `WHERE endpoint_id = ? ORDER BY scanned_at DESC LIMIT 1`. -/
def lastHistory (db : DB) (hostID : String) : Option HistoryRow :=
  ChangeLog.newest (fun r => r.scannedAt) (db.history hostID)

theorem mem_history {db : DB} {hostID : String} {r : HistoryRow} :
    r ∈ db.history hostID ↔ r ∈ db.scanHistory ∧ r.endpointID = hostID := by
  simp [history, Table.mem_def]

/-! ## §5. RecordScanResult. -/

end DB

/-- The new value of `error_since`, from the row before the update. -/
def nextErrorSince (now : Int) (error : Option String) (old : Endpoint) : Option Int :=
  if error.isSome ∧ old.lastScanError = none then some now
  else if error = none then none
  else old.errorSince

/-- The assignments of the first statement. -/
def Endpoint.scanned (now : Int) (error : Option String) (e : Endpoint) : Endpoint :=
  { e with lastScannedAt := some now, lastScanError := error,
           errorSince := nextErrorSince now error e, updatedAt := now }

theorem Endpoint.scanned_key (now : Int) (error : Option String) (e : Endpoint) :
    (e.scanned now error).key = e.key := rfl

namespace DB

/-- The endpoints after the first statement. -/
def scanState (db : DB) (now : Int) (hostID : String) (error : Option String) :
    EndpointTable :=
  db.endpoints.update (fun e => decide (e.id = hostID)) (Endpoint.scanned now error)
    (Endpoint.scanned_key now error)

theorem hasEndpoint_scanState {db : DB} {now : Int} {hostID : String} {error : Option String}
    {id : String} : HasEndpoint (db.scanState now hostID error) id ↔
      HasEndpoint db.endpoints id := by
  unfold HasEndpoint scanState
  rw [Table.exists_mem_update]
  have hid : ∀ e : Endpoint, (if decide (e.id = hostID) = true then e.scanned now error
      else e).id = e.id := by
    intro e
    split <;> rfl
  simp only [hid]

/-- The endpoint's live scan state. -/
def updateScanState (db : DB) (now : Int) (hostID : String) (error : Option String) : DB :=
  { db with
    endpoints := db.scanState now hostID error
    fks :=
      { history := fun r hr =>
          ⟨hasEndpoint_scanState.mpr (db.fks.history r hr).1, (db.fks.history r hr).2⟩
        endpointCerts := fun c hc =>
          ⟨hasEndpoint_scanState.mpr (db.fks.endpointCerts c hc).1,
            (db.fks.endpointCerts c hc).2⟩ } }

/-- The host's `last_resolved_ip`. -/
def setLastResolvedIP (db : DB) (hostID ip : String) : DB :=
  { db with
    endpointHosts := db.endpointHosts.update (fun h => decide (h.endpointID = hostID))
      (fun h => { h with lastResolvedIP := some ip }) (fun _ => rfl) }

/-- The foreign keys of a new history row. -/
def HistoryRefs (db : DB) (r : ScanRecord) : Prop :=
  HasEndpoint db.endpoints r.endpointID ∧ ∀ f ∈ r.fingerprint, f ∈ db.certificates

instance (db : DB) (r : ScanRecord) : Decidable (db.HistoryRefs r) :=
  inferInstanceAs (Decidable (_ ∧ _))

/-- The row that an insert into the history adds. -/
def newHistoryRow (db : DB) (r : ScanRecord) : HistoryRow :=
  ⟨r, freshID HistoryRow.id db.scanHistory.rows⟩

/-- The history with one more row; the id is new, so the insert meets no conflict. -/
def withHistoryRow (db : DB) (r : ScanRecord) : HistoryTable :=
  ⟨db.scanHistory.rows ++ [db.newHistoryRow r], by
    rw [List.map_append, List.nodup_append]
    refine ⟨db.scanHistory.nodup, by simp, ?_⟩
    intro a ha b hb
    obtain ⟨s, hs, rfl⟩ := List.mem_map.mp ha
    rw [List.map_singleton, List.mem_singleton] at hb
    subst hb
    exact freshID_ne hs⟩

theorem mem_withHistoryRow {db : DB} {r : ScanRecord} {s : HistoryRow} :
    s ∈ db.withHistoryRow r ↔ s ∈ db.scanHistory ∨ s = db.newHistoryRow r := by
  simp [withHistoryRow, Table.mem_def]

/-- `INSERT INTO endpoint_scan_history`. -/
def insertScanHistory (db : DB) (r : ScanRecord) : Option DB :=
  if h : db.HistoryRefs r then
    some { db with
      scanHistory := db.withHistoryRow r
      fks :=
        { history := by
            intro s hs
            rcases mem_withHistoryRow.mp hs with hs | hs
            · exact db.fks.history s hs
            · subst hs
              exact h
          endpointCerts := db.fks.endpointCerts } }
  else none

end DB

/-- Whether the foreign keys of a new `endpoint_certs` row hold. -/
def DB.certRefs (db : DB) (endpointID fingerprint : String) : Bool :=
  decide (HasEndpoint db.endpoints endpointID) && decide (fingerprint ∈ db.certificates)

theorem DB.fks_upsertEndpointCert {db : DB} {t : EndpointCertTable} {now : Int}
    {endpointID fingerprint certUse : String}
    (h : Scans.upsertEndpointCert db.endpointCerts (db.certRefs endpointID fingerprint) now
      endpointID fingerprint certUse = some t) :
    ForeignKeys db.endpoints db.certificates db.scanHistory t := by
  refine ⟨db.fks.history, ?_⟩
  intro c hc
  rcases (mem_upsertEndpointCert h).mp hc with ⟨s, hs, hsc⟩ | ⟨hno, hc⟩
  · -- the key of a stored row does not change
    have hkey : c.key = s.key := hsc ▸ s.upserted_key
    obtain ⟨he, hf, _⟩ := EndpointCert.key_eq_iff.mp hkey
    rw [he, hf]
    exact db.fks.endpointCerts s hs
  · have hrefs := refs_of_upsertEndpointCert h hno
    simp only [DB.certRefs, Bool.and_eq_true, decide_eq_true_eq] at hrefs
    rw [hc]
    exact hrefs

/-- UpsertEndpointCert, and the call inside RecordScanResult. -/
def DB.upsertEndpointCert (db : DB) (now : Int) (endpointID fingerprint certUse : String) :
    Option DB :=
  match h : Scans.upsertEndpointCert db.endpointCerts (db.certRefs endpointID fingerprint) now
      endpointID fingerprint certUse with
  | some t => some { db with endpointCerts := t, fks := DB.fks_upsertEndpointCert h }
  | none => none

/-- RecordScanResult. -/
def DB.recordScanResult (db : DB) (now : Int) (hostID : String) (req : ScanResultRequest) :
    Option DB :=
  -- always update the endpoint's live scan state
  let db := db.updateScanState now hostID req.error
  let db :=
    match req.resolvedIP with
    | some ip => db.setLastResolvedIP hostID ip
    | none => db
  let last := (db.lastHistory hostID).map HistoryRow.toScanRecord
  -- only write a history row when something meaningful changed
  let written :=
    if scanResultChanged last req then db.insertScanHistory (req.toRecord hostID now)
    else some db
  match written with
  | none => none
  | some db =>
      match req.activeFingerprint with
      | some fingerprint => db.upsertEndpointCert now hostID fingerprint "tls"
      | none => some db

/-! ## §6. What a recorded result leaves behind. -/

theorem DB.upsertEndpointCert_eq_some {db db' : DB} {now : Int}
    {endpointID fingerprint certUse : String}
    (h : db.upsertEndpointCert now endpointID fingerprint certUse = some db') :
    ∃ t, Scans.upsertEndpointCert db.endpointCerts (db.certRefs endpointID fingerprint) now
        endpointID fingerprint certUse = some t ∧
      db'.endpointCerts = t ∧ db'.endpoints = db.endpoints ∧
      db'.certificates = db.certificates ∧ db'.scanHistory = db.scanHistory := by
  unfold DB.upsertEndpointCert at h
  split at h
  · next t ht =>
      injection h with h
      subst h
      exact ⟨t, ht, rfl, rfl, rfl, rfl⟩
  · exact absurd h (by simp)

theorem DB.upsertEndpointCert_isSome_iff {db : DB} {now : Int}
    {endpointID fingerprint certUse : String} :
    (db.upsertEndpointCert now endpointID fingerprint certUse).isSome ↔
      certUse ∈ certUses ∧ HasEndpoint db.endpoints endpointID ∧
        fingerprint ∈ db.certificates := by
  have hcall : (db.upsertEndpointCert now endpointID fingerprint certUse).isSome =
      (Scans.upsertEndpointCert db.endpointCerts (db.certRefs endpointID fingerprint) now
        endpointID fingerprint certUse).isSome := by
    unfold DB.upsertEndpointCert
    split
    · next t ht => simp [ht]
    · next hn => simp [hn]
  rw [hcall, Scans.upsertEndpointCert_isSome_iff]
  apply and_congr_right
  intro _
  simp only [DB.certRefs, Bool.and_eq_true, decide_eq_true_eq]
  constructor
  · intro hok
    rcases hok with ⟨c, hc, hk⟩ | hrefs
    · -- a stored row's foreign keys hold already
      obtain ⟨he, hf, _⟩ := EndpointCert.key_eq_iff.mp hk
      have hold := db.fks.endpointCerts c hc
      rw [he, hf] at hold
      exact hold
    · exact hrefs
  · exact .inr

/-- What a committed RecordScanResult did, table by table. -/
structure Recorded (db : DB) (now : Int) (hostID : String) (req : ScanResultRequest)
    (db' : DB) : Prop where
  endpoints : db'.endpoints = db.scanState now hostID req.error
  certificates : db'.certificates = db.certificates
  scanHistory : db'.scanHistory.rows =
    if scanResultChanged ((db.lastHistory hostID).map HistoryRow.toScanRecord) req then
      db.scanHistory.rows ++ [db.newHistoryRow (req.toRecord hostID now)]
    else db.scanHistory.rows
  endpointCerts : match req.activeFingerprint with
    | none => db'.endpointCerts = db.endpointCerts
    | some fingerprint => upsertEndpointCert db.endpointCerts
        (db.certRefs hostID fingerprint) now hostID fingerprint "tls"
          = some db'.endpointCerts

namespace DB

/-- The database before the history is written. -/
def afterScanState (db : DB) (now : Int) (hostID : String) (req : ScanResultRequest) : DB :=
  match req.resolvedIP with
  | some ip => (db.updateScanState now hostID req.error).setLastResolvedIP hostID ip
  | none => db.updateScanState now hostID req.error

section AfterScanState

variable (db : DB) (now : Int) (hostID : String) (req : ScanResultRequest)

@[simp] theorem afterScanState_endpoints :
    (db.afterScanState now hostID req).endpoints = db.scanState now hostID req.error := by
  unfold afterScanState
  cases req.resolvedIP <;> rfl

@[simp] theorem afterScanState_certificates :
    (db.afterScanState now hostID req).certificates = db.certificates := by
  unfold afterScanState
  cases req.resolvedIP <;> rfl

@[simp] theorem afterScanState_scanHistory :
    (db.afterScanState now hostID req).scanHistory = db.scanHistory := by
  unfold afterScanState
  cases req.resolvedIP <;> rfl

@[simp] theorem afterScanState_endpointCerts :
    (db.afterScanState now hostID req).endpointCerts = db.endpointCerts := by
  unfold afterScanState
  cases req.resolvedIP <;> rfl

@[simp] theorem afterScanState_certRefs (endpointID fingerprint : String) :
    (db.afterScanState now hostID req).certRefs endpointID fingerprint
      = db.certRefs endpointID fingerprint := by
  unfold certRefs
  rw [afterScanState_endpoints, afterScanState_certificates]
  simp only [hasEndpoint_scanState]

theorem afterScanState_lastHistory :
    (db.afterScanState now hostID req).lastHistory hostID = db.lastHistory hostID := by
  unfold lastHistory history
  rw [afterScanState_scanHistory]

theorem afterScanState_newHistoryRow (r : ScanRecord) :
    (db.afterScanState now hostID req).newHistoryRow r = db.newHistoryRow r := by
  unfold newHistoryRow
  rw [afterScanState_scanHistory]

/-- RecordScanResult, with its first two statements under one name. -/
theorem recordScanResult_eq : db.recordScanResult now hostID req =
    (if scanResultChanged ((db.lastHistory hostID).map HistoryRow.toScanRecord) req then
        (db.afterScanState now hostID req).insertScanHistory (req.toRecord hostID now)
      else some (db.afterScanState now hostID req)).bind fun db =>
        match req.activeFingerprint with
        | some fingerprint => db.upsertEndpointCert now hostID fingerprint "tls"
        | none => some db := by
  rw [← db.afterScanState_lastHistory now hostID req]
  unfold recordScanResult afterScanState
  cases req.resolvedIP <;> simp only <;> split <;> next h => rw [h]; rfl

end AfterScanState

theorem insertScanHistory_eq_some {db db' : DB} {r : ScanRecord}
    (h : db.insertScanHistory r = some db') :
    db.HistoryRefs r ∧ db'.endpoints = db.endpoints ∧ db'.certificates = db.certificates ∧
      db'.endpointCerts = db.endpointCerts ∧
      db'.scanHistory.rows = db.scanHistory.rows ++ [db.newHistoryRow r] := by
  unfold insertScanHistory at h
  split at h
  · next hrefs =>
      injection h with h
      subst h
      exact ⟨hrefs, rfl, rfl, rfl, rfl⟩
  · exact absurd h (by simp)

/-- The state in which the last statement of RecordScanResult runs. -/
theorem recordScanResult_written {db db₁ : DB} {now : Int} {hostID : String}
    {req : ScanResultRequest}
    (h : (if scanResultChanged ((db.lastHistory hostID).map HistoryRow.toScanRecord) req then
        (db.afterScanState now hostID req).insertScanHistory (req.toRecord hostID now)
      else some (db.afterScanState now hostID req)) = some db₁) :
    db₁.endpoints = db.scanState now hostID req.error ∧
      db₁.certificates = db.certificates ∧ db₁.endpointCerts = db.endpointCerts ∧
      db₁.scanHistory.rows =
        if scanResultChanged ((db.lastHistory hostID).map HistoryRow.toScanRecord) req then
          db.scanHistory.rows ++ [db.newHistoryRow (req.toRecord hostID now)]
        else db.scanHistory.rows := by
  split at h
  · next hchanged =>
      obtain ⟨_, hend, hcert, hec, hrows⟩ := insertScanHistory_eq_some h
      rw [if_pos hchanged, hend, hcert, hec, hrows, afterScanState_newHistoryRow]
      simp
  · next hsame =>
      injection h with h
      rw [if_neg hsame, ← h]
      simp

/-- **What a committed call did.** -/
theorem recordScanResult_eq_some {db db' : DB} {now : Int} {hostID : String}
    {req : ScanResultRequest} (h : db.recordScanResult now hostID req = some db') :
    Recorded db now hostID req db' := by
  rw [recordScanResult_eq, Option.bind_eq_some_iff] at h
  obtain ⟨db₁, hwritten, h⟩ := h
  obtain ⟨hend, hcert, hec, hrows⟩ := recordScanResult_written hwritten
  cases hfp : req.activeFingerprint with
  | none =>
      rw [hfp] at h
      injection h with h
      subst h
      exact ⟨hend, hcert, hrows, by rw [hfp]; exact hec⟩
  | some fingerprint =>
      rw [hfp] at h
      obtain ⟨t, ht, hct, hend', hcert', hhist'⟩ := upsertEndpointCert_eq_some h
      refine ⟨hend'.trans hend, hcert'.trans hcert, by rw [hhist', hrows], ?_⟩
      rw [hfp, hct, ← ht]
      -- neither earlier statement changes what the foreign keys are checked against
      unfold certRefs
      rw [hend, hcert, hec]
      simp only [hasEndpoint_scanState]

theorem historyRefs_toRecord {db : DB} {now : Int} {hostID : String}
    {req : ScanResultRequest} :
    (db.afterScanState now hostID req).HistoryRefs (req.toRecord hostID now) ↔
      HasEndpoint db.endpoints hostID ∧ ∀ f ∈ req.activeFingerprint, f ∈ db.certificates := by
  unfold HistoryRefs
  rw [afterScanState_endpoints, afterScanState_certificates]
  simp only [hasEndpoint_scanState, ScanResultRequest.toRecord]

/-- A row like the result refers to what the result refers to. -/
theorem refs_of_unchanged {db : DB} {hostID : String} {req : ScanResultRequest}
    (h : ¬ scanResultChanged ((db.lastHistory hostID).map HistoryRow.toScanRecord) req = true) :
    HasEndpoint db.endpoints hostID ∧ ∀ f ∈ req.activeFingerprint, f ∈ db.certificates := by
  rw [scanResultChanged_iff, ne_eq, not_not, Option.map_map, Option.map_eq_some_iff] at h
  obtain ⟨last, hlast, hobs⟩ := h
  obtain ⟨hmem, hhost⟩ := mem_history.mp (ChangeLog.newest_mem hlast)
  have hfp : last.fingerprint = req.activeFingerprint := congrArg Observation.fingerprint hobs
  have hold := db.fks.history last hmem
  rw [hhost, hfp] at hold
  exact hold

theorem insertScanHistory_isSome_iff {db : DB} {r : ScanRecord} :
    (db.insertScanHistory r).isSome ↔ db.HistoryRefs r := by
  unfold insertScanHistory
  split <;> simp_all

/-- **When a call commits**: the endpoint and the certificate it names are stored.  What
the history holds plays no part. -/
theorem recordScanResult_isSome_iff {db : DB} {now : Int} {hostID : String}
    {req : ScanResultRequest} :
    (db.recordScanResult now hostID req).isSome ↔
      HasEndpoint db.endpoints hostID ∧ ∀ f ∈ req.activeFingerprint, f ∈ db.certificates := by
  rw [recordScanResult_eq]
  constructor
  · intro h
    have hwritten := Option.isSome_of_isSome_bind h
    split at hwritten
    · exact historyRefs_toRecord.mp (insertScanHistory_isSome_iff.mp hwritten)
    · next hsame => exact refs_of_unchanged hsame
  · intro hrefs
    obtain ⟨db₁, hwritten⟩ : ∃ db₁, (if scanResultChanged
        ((db.lastHistory hostID).map HistoryRow.toScanRecord) req = true then
        (db.afterScanState now hostID req).insertScanHistory (req.toRecord hostID now)
        else some (db.afterScanState now hostID req)) = some db₁ := by
      apply Option.isSome_iff_exists.mp
      split
      · exact insertScanHistory_isSome_iff.mpr (historyRefs_toRecord.mpr hrefs)
      · rfl
    obtain ⟨hend, hcert, _, _⟩ := recordScanResult_written hwritten
    rw [hwritten, Option.bind_some]
    cases hfp : req.activeFingerprint with
    | none => rfl
    | some fingerprint =>
        simp only
        rw [upsertEndpointCert_isSome_iff, hend, hcert, hasEndpoint_scanState]
        exact ⟨by decide, hrefs.1, hrefs.2 fingerprint hfp⟩

end DB

/-! ## §7. PurgeScanHistory. -/

/-- Microseconds in `INTERVAL '1 day'`. -/
def day : Int := 86400000000

namespace DB

/-- `SELECT DISTINCT ON (endpoint_id) id ... ORDER BY endpoint_id, scanned_at DESC`. -/
def newestIDs (db : DB) : List Nat :=
  db.scanHistory.rows.filterMap (fun r => (db.lastHistory r.endpointID).map HistoryRow.id)

/-- The WHERE clause of the DELETE. -/
def expired (db : DB) (cutoff : Int) (r : HistoryRow) : Bool :=
  decide (r.scannedAt < cutoff) && decide (r.id ∉ db.newestIDs)

/-- PurgeScanHistory, and the number of rows it deleted. -/
def purgeScanHistory (db : DB) (now days : Int) : DB × Nat :=
  let cutoff := now - days * day
  ({ db with
      scanHistory := db.scanHistory.delete (db.expired cutoff)
      fks :=
        { history := fun r hr => db.fks.history r (Table.mem_delete.mp hr).1
          endpointCerts := db.fks.endpointCerts } },
    db.scanHistory.rowsAffected (db.expired cutoff))

/-- The purge exempts the newest row of each endpoint, and no other. -/
theorem mem_newestIDs {db : DB} {r : HistoryRow} (hr : r ∈ db.scanHistory) :
    r.id ∈ db.newestIDs ↔ db.lastHistory r.endpointID = some r := by
  unfold newestIDs
  rw [List.mem_filterMap]
  constructor
  · intro h
    obtain ⟨s, _, hs⟩ := h
    obtain ⟨last, hlast, hid⟩ := Option.map_eq_some_iff.mp hs
    obtain ⟨hmem, hhost⟩ := mem_history.mp (ChangeLog.newest_mem hlast)
    -- the id identifies the row
    have heq : last = r := Table.eq_of_key hmem hr hid
    subst heq
    rw [hhost]
    exact hlast
  · intro h
    exact ⟨r, hr, by rw [h, Option.map_some]⟩

/-- **On the history of one endpoint the purge is the pruning of a change log.** -/
theorem history_purgeScanHistory (db : DB) (now days : Int) (hostID : String) :
    (db.purgeScanHistory now days).1.history hostID
      = ChangeLog.prune (fun r => r.scannedAt) (now - days * day) (db.history hostID) := by
  unfold history purgeScanHistory ChangeLog.prune Table.delete
  simp only [List.filter_filter]
  apply List.filter_congr
  intro r hr
  by_cases hhost : r.endpointID = hostID
  · have hlast : r.id ∈ db.newestIDs ↔ _ := mem_newestIDs hr
    rw [hhost] at hlast
    unfold lastHistory history at hlast
    simp only [expired, hlast, hhost]
    by_cases hold : r.scannedAt < now - days * day
    · have hexpired : ¬ now - days * day ≤ r.scannedAt := not_le.mpr hold
      simp only [hold, hexpired, decide_true, decide_false, Bool.true_and, Bool.false_or,
        Bool.and_true, decide_not, Bool.not_not]
    · have hkept : now - days * day ≤ r.scannedAt := not_lt.mp hold
      simp only [hold, hkept, decide_true, decide_false, Bool.false_and, Bool.not_false,
        Bool.true_or, Bool.and_true]
  · simp [hhost]

end DB

/-! ## §8. Runs. -/

/-- The transactions on these tables.  Certificates are ingested before the result that
names them. -/
inductive Action where
  | recordScanResult (now : Int) (hostID : String) (req : ScanResultRequest)
  | upsertEndpointCert (now : Int) (endpointID fingerprint certUse : String)
  | purgeScanHistory (now days : Int)
  | insertCertificate (fingerprint : String)
  deriving DecidableEq, Repr

/-- A certificate more. -/
def DB.insertCertificate (db : DB) (fingerprint : String) : DB :=
  { db with
    certificates := fingerprint :: db.certificates
    fks :=
      { history := fun r hr => ⟨(db.fks.history r hr).1,
          fun f hf => List.mem_cons_of_mem _ ((db.fks.history r hr).2 f hf)⟩
        endpointCerts := fun c hc => ⟨(db.fks.endpointCerts c hc).1,
          List.mem_cons_of_mem _ (db.fks.endpointCerts c hc).2⟩ } }

/-- One transaction; a failed one is rolled back. -/
def step (db : DB) : Action → Option DB
  | .recordScanResult now hostID req => some ((db.recordScanResult now hostID req).getD db)
  | .upsertEndpointCert now endpointID fingerprint certUse =>
      some ((db.upsertEndpointCert now endpointID fingerprint certUse).getD db)
  | .purgeScanHistory now days => some (db.purgeScanHistory now days).1
  | .insertCertificate fingerprint => some (db.insertCertificate fingerprint)

/-- Everything a transaction can do. -/
inductive Effect (db : DB) : Action → DB → Prop
  | call {now : Int} {hostID : String} {req : ScanResultRequest} {db' : DB} :
      db.recordScanResult now hostID req = some db' →
      Effect db (.recordScanResult now hostID req) db'
  | callFails {now : Int} {hostID : String} {req : ScanResultRequest} :
      db.recordScanResult now hostID req = none → Effect db (.recordScanResult now hostID req) db
  | cert {now : Int} {endpointID fingerprint certUse : String} {db' : DB} :
      db.upsertEndpointCert now endpointID fingerprint certUse = some db' →
      Effect db (.upsertEndpointCert now endpointID fingerprint certUse) db'
  | certFails {now : Int} {endpointID fingerprint certUse : String} :
      db.upsertEndpointCert now endpointID fingerprint certUse = none →
      Effect db (.upsertEndpointCert now endpointID fingerprint certUse) db
  | purge {now days : Int} :
      Effect db (.purgeScanHistory now days) (db.purgeScanHistory now days).1
  | ingest {fingerprint : String} :
      Effect db (.insertCertificate fingerprint) (db.insertCertificate fingerprint)

/-- **A step has one of these effects.** -/
theorem step_cases {db db' : DB} {a : Action} (h : step db a = some db') : Effect db a db' := by
  cases a with
  | recordScanResult now hostID req =>
      injection h with h
      subst h
      cases hcall : db.recordScanResult now hostID req with
      | none => exact .callFails hcall
      | some db' => exact .call hcall
  | upsertEndpointCert now endpointID fingerprint certUse =>
      injection h with h
      subst h
      cases hcall : db.upsertEndpointCert now endpointID fingerprint certUse with
      | none => exact .certFails hcall
      | some db' => exact .cert hcall
  | purgeScanHistory now days => exact Option.some.inj h ▸ .purge
  | insertCertificate fingerprint => exact Option.some.inj h ▸ .ingest

/-- One endpoint, never scanned, and two certificates. -/
def newEndpoint : DB where
  endpoints := ⟨[⟨"web", none, none, none, 0⟩], by decide⟩
  endpointHosts := ⟨[⟨"web", none⟩], by decide⟩
  certificates := ["A", "B"]
  scanHistory := Table.empty
  endpointCerts := Table.empty
  fks := ⟨Table.forall_mem_empty, Table.forall_mem_empty⟩

/-- A scan that found a certificate. -/
def sawCert (fingerprint : String) : ScanResultRequest :=
  ⟨some fingerprint, some "192.0.2.1", some "TLS 1.3", none⟩

/-- A scan that failed. -/
def sawError (error : String) : ScanResultRequest := ⟨none, none, none, some error⟩

end TLSentinel.Scans
