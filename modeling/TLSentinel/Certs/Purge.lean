/-
  TLSentinel.Certs.Purge
  ──────────────────────
  **PURGING A CERTIFICATE, STATEMENT BY STATEMENT.**

  `PurgeCertificate` of `internal/db/certificates_store.go` counts what the certificate
  has issued, deletes its scan history and its endpoint attachments and then the
  certificate itself, in one transaction.  Of the foreign keys that point to a
  certificate, those of issuers, of the scan history and of `endpoint_certs` are NO
  ACTION; those of anchors, verdicts and alerts cascade.  The fingerprint of an item in
  the discovery inbox is none since migration 000037.

  `TLSentinel.Certs.Store` has the transaction as one function; `purgeCertificate_refines`
  says that it is this one.

  Main results:
    * `purgeBody_cases`        — what the body of the transaction comes to;
    * `purgeCertificate_exact` — the answers, and what each leaves behind.
-/
import TLSentinel.Foundation.References
import TLSentinel.Foundation.Transactions
import TLSentinel.Notifications.Store
import TLSentinel.Trust.AnchorSets

namespace TLSentinel.Certs.Purge

open Foundation TLSentinel.Scans TLSentinel.Trust TLSentinel.Trust.AnchorSets
open TLSentinel.Notifications (CertificateExpiryAlert)

/-! ## §1. The tables. -/

/-- The foreign keys that point to certificates. -/
structure Refs (certificates : CertTable) (history : Table HistoryRow.key)
    (endpointCerts : EndpointCertTable) (anchors : Table anchorKey)
    (trust : Table CertificateTrust.key) (alerts : Table CertificateExpiryAlert.alert) :
    Prop where
  issuers : References certificates (fun c : Certificate => c.issuerFingerprint) certificates.rows
  history : References certificates (fun r : HistoryRow => r.fingerprint) history.rows
  endpointCerts : References certificates (fun e : Scans.EndpointCert => some e.fingerprint)
    endpointCerts.rows
  anchors : References certificates (fun a : RootStoreAnchor => some a.fingerprint) anchors.rows
  trust : References certificates (fun t : CertificateTrust => some t.fingerprint) trust.rows
  alerts : References certificates (fun r : CertificateExpiryAlert => some r.alert.fingerprint)
    alerts.rows

/-- The certificates and the tables that name them. -/
structure PurgeDB where
  certificates : CertTable
  endpointScanHistory : Table HistoryRow.key
  endpointCerts : EndpointCertTable
  rootStoreAnchors : Table anchorKey
  certificateTrust : Table CertificateTrust.key
  expiryAlerts : Table CertificateExpiryAlert.alert
  discoveryInbox : List DiscoveryInboxItem
  refs : Refs certificates endpointScanHistory endpointCerts rootStoreAnchors certificateTrust
    expiryAlerts

/-! ## §2. The transaction. -/

/-- How `PurgeCertificate` fails. -/
inductive PurgeFailure where
  /-- "count issued". -/
  | countIssued
  /-- `ErrCertIsIssuer`. -/
  | certIsIssuer (count : Nat)
  /-- "delete scan history". -/
  | deleteScanHistory
  /-- "delete endpoint attachments". -/
  | deleteEndpointCerts
  /-- "delete certificate". -/
  | deleteCertificate
  /-- `ErrNotFound`. -/
  | notFound
  /-- The commit fails. -/
  | commit
  deriving DecidableEq, Repr

/-- Which statements find the database there. -/
structure Up where
  count : Bool
  history : Bool
  endpointCerts : Bool
  certificate : Bool
  commit : Bool
  deriving DecidableEq, Repr

/-- No statement is lost. -/
def Up.all : Up := ⟨true, true, true, true, true⟩

/-- How many certificates the certificate has issued. -/
def countIssued (f : String) (db : PurgeDB) : Nat :=
  db.certificates.rowsAffected (Certs.DB.issuerIs f)

/-- DELETE of its scan history. -/
def deleteScanHistory (f : String) (db : PurgeDB) : PurgeDB :=
  { db with
    endpointScanHistory := db.endpointScanHistory.cascade (fun r => r.fingerprint) f
    refs := { db.refs with
      history := db.refs.history.of_subset fun _ hr => (Table.mem_cascade.mp hr).1 } }

/-- DELETE of its attachments to endpoints. -/
def deleteEndpointCerts (f : String) (db : PurgeDB) : PurgeDB :=
  { db with
    endpointCerts := db.endpointCerts.cascade (fun e => some e.fingerprint) f
    refs := { db.refs with
      endpointCerts := db.refs.endpointCerts.of_subset fun _ hr => (Table.mem_cascade.mp hr).1 } }

/-- What the NO ACTION keys ask of the certificates that a DELETE leaves. -/
def NoActionHolds (certificates : CertTable) (db : PurgeDB) : Prop :=
  References certificates (fun c : Certificate => c.issuerFingerprint) certificates.rows ∧
    References certificates (fun r : HistoryRow => r.fingerprint) db.endpointScanHistory.rows ∧
    References certificates (fun e : Scans.EndpointCert => some e.fingerprint)
      db.endpointCerts.rows

instance (certificates : CertTable) (db : PurgeDB) : Decidable (NoActionHolds certificates db) :=
  inferInstanceAs (Decidable (_ ∧ _ ∧ _))

/-- DELETE of the certificate, with the number of rows; what cascades goes with it, and the
NO ACTION keys are checked at the end. -/
def deleteCertificate (f : String) (db : PurgeDB) : Option (Nat × PurgeDB) :=
  let certificates := db.certificates.deleteKey f
  if h : NoActionHolds certificates db then
    some (db.certificates.rowsAffected (fun c => decide (c.fingerprint = f)),
      { db with
        certificates := certificates
        rootStoreAnchors := db.rootStoreAnchors.cascade (fun a => some a.fingerprint) f
        certificateTrust := db.certificateTrust.cascade (fun t => some t.fingerprint) f
        expiryAlerts := db.expiryAlerts.cascade (fun r => some r.alert.fingerprint) f
        refs :=
          { issuers := h.1
            history := h.2.1
            endpointCerts := h.2.2
            anchors := db.refs.anchors.cascade f
            trust := db.refs.trust.cascade f
            alerts := db.refs.alerts.cascade f } })
  else none

/-- The three DELETEs; a certificate that was already gone is an error. -/
def deleteAll (up : Up) (f : String) : Tx PurgeDB PurgeFailure Unit := do
  Tx.write up.history .deleteScanHistory fun db => some (deleteScanHistory f db)
  Tx.write up.endpointCerts .deleteEndpointCerts fun db => some (deleteEndpointCerts f db)
  let n ← Tx.statement up.certificate .deleteCertificate (deleteCertificate f)
  if n = 0 then Tx.fail .notFound else pure ()

/-- The body of the transaction: an issuer is refused up front. -/
def purgeBody (up : Up) (f : String) : Tx PurgeDB PurgeFailure Unit := do
  let issuedCerts ← Tx.query up.count .countIssued (countIssued f)
  if issuedCerts > 0 then Tx.fail (.certIsIssuer issuedCerts) else deleteAll up f

/-- `PurgeCertificate`. -/
def purgeCertificate (up : Up) (f : String) (db : PurgeDB) : Except PurgeFailure Unit × PurgeDB :=
  runInTx up.commit .commit (purgeBody up f) db

/-! ## §3. What the DELETEs do. -/

variable {up : Up} {f : String} {db db' : PurgeDB} {n : Nat}

/-- The certificate has issued another, or itself. -/
def IsIssuer (db : PurgeDB) (f : String) : Prop :=
  ∃ c ∈ db.certificates, c.issuerFingerprint = some f

instance (db : PurgeDB) (f : String) : Decidable (IsIssuer db f) :=
  inferInstanceAs (Decidable (∃ c ∈ db.certificates, c.issuerFingerprint = some f))

theorem countIssued_eq_zero_iff : countIssued f db = 0 ↔ ¬ IsIssuer db f := by
  unfold countIssued IsIssuer
  rw [Table.rowsAffected_eq_zero_iff]
  push Not
  exact forall₂_congr fun c _ => decide_eq_false_iff_not

/-- The last DELETE affects a row exactly if the certificate is there. -/
theorem rowsAffected_eq_zero_iff {certificates : CertTable} :
    certificates.rowsAffected (fun c => decide (c.fingerprint = f)) = 0 ↔
      ¬ HasCert certificates f := by
  rw [Table.rowsAffected_eq_zero_iff]
  unfold HasCert
  push Not
  exact forall₂_congr fun c _ => decide_eq_false_iff_not

/-- What a purge leaves: the rows that did not refer to the certificate, as they were. -/
structure Purged (f : String) (db db' : PurgeDB) : Prop where
  certificates : ∀ c, c ∈ db'.certificates ↔ c ∈ db.certificates ∧ c.fingerprint ≠ f
  issuers : ∀ c ∈ db'.certificates, c.issuerFingerprint ≠ some f
  history : ∀ r, r ∈ db'.endpointScanHistory ↔
    r ∈ db.endpointScanHistory ∧ r.fingerprint ≠ some f
  endpointCerts : ∀ e, e ∈ db'.endpointCerts ↔ e ∈ db.endpointCerts ∧ e.fingerprint ≠ f
  anchors : ∀ a, a ∈ db'.rootStoreAnchors ↔ a ∈ db.rootStoreAnchors ∧ a.fingerprint ≠ f
  trust : ∀ t, t ∈ db'.certificateTrust ↔ t ∈ db.certificateTrust ∧ t.fingerprint ≠ f
  alerts : ∀ r, r ∈ db'.expiryAlerts ↔ r ∈ db.expiryAlerts ∧ r.alert.fingerprint ≠ f
  discoveryInbox : db'.discoveryInbox = db.discoveryInbox

/-- The tables before the certificate is deleted. -/
def cleared (f : String) (db : PurgeDB) : PurgeDB := deleteEndpointCerts f (deleteScanHistory f db)

/-- A column that is not NULL points elsewhere. -/
theorem mem_cascade_some {ρ κ : Type} {key : ρ → κ} {t : Table key} {col : ρ → String} {r : ρ} :
    r ∈ t.cascade (fun r => some (col r)) f ↔ r ∈ t ∧ col r ≠ f := by
  rw [Table.mem_cascade, ne_eq, Option.some.injEq]

/-- **No NO ACTION key stands in the way** of a certificate that has issued none. -/
theorem noActionHolds_cleared (h : ¬ IsIssuer db f) :
    NoActionHolds (db.certificates.deleteKey f) (cleared f db) := by
  have hissuers : References db.certificates (fun c : Certificate => c.issuerFingerprint)
      (db.certificates.deleteKey f).rows :=
    db.refs.issuers.of_subset fun c hc => (Table.mem_deleteKey.mp hc).1
  refine ⟨?_, ?_, ?_⟩
  · refine (references_deleteKey_iff hissuers).mpr fun c hc hf => ?_
    exact h ⟨c, (Table.mem_deleteKey.mp hc).1, hf⟩
  · exact db.refs.history.cascade f
  · exact db.refs.endpointCerts.cascade f

/-- The DELETE of the certificate after those of what refers to it. -/
theorem deleteCertificate_cleared (h : deleteCertificate f (cleared f db) = some (n, db')) :
    n = db.certificates.rowsAffected (fun c => decide (c.fingerprint = f)) ∧ Purged f db db' := by
  unfold deleteCertificate at h
  simp only at h
  split at h
  · next hrefs =>
      obtain ⟨rfl, rfl⟩ := Prod.mk.inj (Option.some.inj h)
      refine ⟨rfl, ?_⟩
      exact
        { certificates := fun c => Table.mem_deleteKey
          issuers := hrefs.1.not_refersTo
          history := fun r => Table.mem_cascade
          endpointCerts := fun e => mem_cascade_some
          anchors := fun a => mem_cascade_some
          trust := fun t => mem_cascade_some
          alerts := fun r => mem_cascade_some
          discoveryInbox := rfl }
  · cases h

/-- It is accepted where nothing was issued. -/
theorem exists_deleteCertificate (h : ¬ IsIssuer db f) :
    ∃ p, deleteCertificate f (cleared f db) = some p := by
  unfold deleteCertificate
  exact ⟨_, dif_pos (noActionHolds_cleared h)⟩

/-! ## §4. What the transaction answers. -/

/-- Every statement of the body finds the database there. -/
def Up.Runs (up : Up) : Prop :=
  up.count = true ∧ up.history = true ∧ up.endpointCerts = true ∧ up.certificate = true

theorem purgeBody_of_issuer (hup : up.count = true) (h : IsIssuer db f) :
    (purgeBody up f).exec db = (.error (.certIsIssuer (countIssued f db)), db) := by
  have hpos : countIssued f db > 0 := Nat.pos_of_ne_zero fun h0 => countIssued_eq_zero_iff.mp h0 h
  unfold purgeBody
  rw [Tx.exec_bind_of_ok (Tx.exec_query_ok_iff.mpr ⟨hup, rfl, rfl⟩), if_pos hpos, Tx.exec_fail]

theorem purgeBody_of_leaf (hup : up.count = true) (h : ¬ IsIssuer db f) :
    (purgeBody up f).exec db = (deleteAll up f).exec db := by
  have hzero : ¬ countIssued f db > 0 := by
    rw [countIssued_eq_zero_iff.mpr h]
    exact Nat.lt_irrefl 0
  unfold purgeBody
  rw [Tx.exec_bind_of_ok (Tx.exec_query_ok_iff.mpr ⟨hup, rfl, rfl⟩), if_neg hzero]

theorem purgeBody_of_lost (hup : up.count = false) :
    (purgeBody up f).exec db = (.error .countIssued, db) := by
  unfold purgeBody
  exact Tx.exec_bind_of_error (Tx.exec_query_error_iff.mpr ⟨hup, rfl, rfl⟩)

/-- The first two DELETEs are never refused. -/
theorem exec_deleteScanHistory (hup : up.history = true) :
    (Tx.write up.history PurgeFailure.deleteScanHistory
      fun db => some (deleteScanHistory f db)).exec db = (.ok (), deleteScanHistory f db) :=
  Tx.exec_write_ok_iff.mpr ⟨hup, rfl⟩

theorem exec_deleteEndpointCerts (hup : up.endpointCerts = true) :
    (Tx.write up.endpointCerts PurgeFailure.deleteEndpointCerts
      fun db => some (deleteEndpointCerts f db)).exec db = (.ok (), deleteEndpointCerts f db) :=
  Tx.exec_write_ok_iff.mpr ⟨hup, rfl⟩

/-- What the DELETEs come to when none is lost and none refused. -/
theorem deleteAll_exec (hup : up.Runs) (h : deleteCertificate f (cleared f db) = some (n, db')) :
    (deleteAll up f).exec db = (if n = 0 then .error .notFound else .ok (), db') := by
  obtain ⟨-, hhistory, hcerts, hcertificate⟩ := hup
  have hdelete : (Tx.statement up.certificate PurgeFailure.deleteCertificate
      (deleteCertificate f)).exec (deleteEndpointCerts f (deleteScanHistory f db)) =
        (.ok n, db') := Tx.exec_statement_ok_iff.mpr ⟨hcertificate, h⟩
  unfold deleteAll
  rw [Tx.exec_bind_of_ok (exec_deleteScanHistory hhistory),
    Tx.exec_bind_of_ok (exec_deleteEndpointCerts hcerts), Tx.exec_bind_of_ok hdelete]
  split <;> rfl

/-- The failures of a DELETE that is lost. -/
def PurgeFailure.IsLostDelete : PurgeFailure → Prop
  | .deleteScanHistory | .deleteEndpointCerts | .deleteCertificate => True
  | _ => False

theorem deleteAll_lost (hcount : up.count = true) (hup : ¬ up.Runs) :
    ∃ e s, PurgeFailure.IsLostDelete e ∧ (deleteAll up f).exec db = (.error e, s) := by
  unfold deleteAll
  cases hhistory : up.history with
  | false =>
      exact ⟨.deleteScanHistory, _, trivial, Tx.exec_bind_of_error
        (Tx.exec_write_error_iff.mpr ⟨Or.inl rfl, rfl, rfl⟩)⟩
  | true =>
      rw [← hhistory, Tx.exec_bind_of_ok (exec_deleteScanHistory hhistory)]
      cases hcerts : up.endpointCerts with
      | false =>
          exact ⟨.deleteEndpointCerts, _, trivial, Tx.exec_bind_of_error
            (Tx.exec_write_error_iff.mpr ⟨Or.inl rfl, rfl, rfl⟩)⟩
      | true =>
          rw [← hcerts, Tx.exec_bind_of_ok (exec_deleteEndpointCerts hcerts)]
          cases hcertificate : up.certificate with
          | false =>
              exact ⟨.deleteCertificate, _, trivial, Tx.exec_bind_of_error
                (Tx.exec_statement_error_iff.mpr ⟨Or.inl rfl, rfl, rfl⟩)⟩
          | true => exact absurd ⟨hcount, hhistory, hcerts, hcertificate⟩ hup

/-- **The body**: its first statement is lost, an issuer is refused, a DELETE is lost, or the
rows are deleted, with an error if the certificate was not there. -/
theorem purgeBody_cases (up : Up) (f : String) (db : PurgeDB) :
    (up.count = false ∧ (purgeBody up f).exec db = (.error .countIssued, db)) ∨
    (up.count = true ∧ IsIssuer db f ∧
      (purgeBody up f).exec db = (.error (.certIsIssuer (countIssued f db)), db)) ∨
    (up.count = true ∧ ¬ IsIssuer db f ∧ ¬ up.Runs ∧ ∃ e s, PurgeFailure.IsLostDelete e ∧
      (purgeBody up f).exec db = (.error e, s)) ∨
    (up.Runs ∧ ¬ IsIssuer db f ∧ ∃ db', Purged f db db' ∧ (purgeBody up f).exec db =
      (if HasCert db.certificates f then .ok () else .error .notFound, db')) := by
  cases hcount : up.count with
  | false => exact Or.inl ⟨rfl, purgeBody_of_lost hcount⟩
  | true =>
      by_cases hissuer : IsIssuer db f
      · exact Or.inr (Or.inl ⟨rfl, hissuer, purgeBody_of_issuer hcount hissuer⟩)
      · rw [purgeBody_of_leaf hcount hissuer]
        by_cases hup : up.Runs
        · obtain ⟨⟨n, db'⟩, hdelete⟩ := exists_deleteCertificate hissuer
          obtain ⟨hn, hpurged⟩ := deleteCertificate_cleared hdelete
          have hzero : n = 0 ↔ ¬ HasCert db.certificates f := hn ▸ rowsAffected_eq_zero_iff
          refine Or.inr (Or.inr (Or.inr ⟨hup, hissuer, db', hpurged, ?_⟩))
          rw [deleteAll_exec hup hdelete]
          by_cases hcert : HasCert db.certificates f
          · rw [if_pos hcert, if_neg (fun h0 => hzero.mp h0 hcert)]
          · rw [if_neg hcert, if_pos (hzero.mpr hcert)]
        · exact Or.inr (Or.inr (Or.inl ⟨rfl, hissuer, hup, deleteAll_lost hcount hup⟩))

/-- **PurgeCertificate**: a purge that fails changes nothing; an issuer is refused with the
number of certificates it has issued, and a certificate that is not there is not found; one
that succeeds leaves no reference to the certificate but in the inbox, and every other row as
it was. -/
theorem purgeCertificate_exact (up : Up) (f : String) (db : PurgeDB) :
    (∀ e, (purgeCertificate up f db).1 = .error e → (purgeCertificate up f db).2 = db) ∧
      (∀ n, (purgeCertificate up f db).1 = .error (.certIsIssuer n) ↔
        up.count = true ∧ IsIssuer db f ∧ n = countIssued f db) ∧
      ((purgeCertificate up f db).1 = .error .notFound ↔
        up.Runs ∧ ¬ IsIssuer db f ∧ ¬ HasCert db.certificates f) ∧
      ((purgeCertificate up f db).1 = .ok () ↔
        up.Runs ∧ up.commit = true ∧ ¬ IsIssuer db f ∧ HasCert db.certificates f) ∧
      ((purgeCertificate up f db).1 = .ok () → Purged f db (purgeCertificate up f db).2) := by
  refine ⟨fun e => runInTx_error, ?_⟩
  unfold purgeCertificate runInTx
  obtain ⟨hcount, hbody⟩ | ⟨hcount, hissuer, hbody⟩ | ⟨hcount, hissuer, hup, e, s, he, hbody⟩ |
    ⟨hup, hissuer, db', hpurged, hbody⟩ := purgeBody_cases up f db
  · simp [hbody, Up.Runs, hcount]
  · simp only [hbody, hcount, hissuer, true_and, Except.error.injEq,
      PurgeFailure.certIsIssuer.injEq]
    exact ⟨fun n => eq_comm, by simp, by simp, by simp⟩
  · rw [hbody]
    cases e <;> first | exact he.elim | simp [hup, hissuer]
  · by_cases hcert : HasCert db.certificates f
    · rw [hbody, if_pos hcert]
      cases up.commit with
      | false => simp [hissuer, hcert]
      | true => simp [hup, hissuer, hcert, hpurged]
    · rw [hbody, if_neg hcert]
      simp [hup, hissuer, hcert]

/-- A certificate that a discovery scan has seen. -/
def discovered : PurgeDB where
  certificates := ⟨[⟨⟨"A", "pem", "www", [], 0, "a", none, "a", "r"⟩, none, false⟩], by decide⟩
  endpointScanHistory := Table.empty
  endpointCerts := Table.empty
  rootStoreAnchors := Table.empty
  certificateTrust := Table.empty
  expiryAlerts := Table.empty
  discoveryInbox := [⟨"10.0.0.1", 443, some "A"⟩]
  refs := ⟨by decide, by decide, by decide, by decide, by decide, by decide⟩

/-- Its item in the inbox keeps the fingerprint. -/
theorem inbox_keeps_fingerprint :
    ¬ ∀ (up : Up) (f : String) (db : PurgeDB), (purgeCertificate up f db).1 = .ok () →
      ∀ r ∈ (purgeCertificate up f db).2.discoveryInbox, r.fingerprint ≠ some f := by
  intro h
  exact h Up.all "A" discovered (by decide) ⟨"10.0.0.1", 443, some "A"⟩ (by decide) rfl

/-! ## §5. The transaction as one function. -/

/-- The tables of `TLSentinel.Certs.Store`. -/
def PurgeDB.forget (db : PurgeDB) : Certs.DB where
  certificates := db.certificates
  rootStoreAnchors := db.rootStoreAnchors.rows
  endpointCerts := db.endpointCerts.rows.map fun e => ⟨e.endpointID, e.fingerprint⟩
  endpointScanHistory := db.endpointScanHistory.rows.map fun r => ⟨r.endpointID, r.fingerprint⟩
  discoveryInbox := db.discoveryInbox
  fks :=
    { issuers := db.refs.issuers
      anchors := fun a ha => db.refs.anchors a ha _ rfl
      endpointCerts := by
        intro _ hmap
        obtain ⟨e, he, rfl⟩ := List.mem_map.mp hmap
        exact db.refs.endpointCerts e he _ rfl
      history := by
        intro _ hmap f hf
        obtain ⟨r, hr, rfl⟩ := List.mem_map.mp hmap
        exact db.refs.history r hr f hf }

theorem forget_isIssuer_iff :
    db.forget.certificates.rowsAffected (Certs.DB.issuerIs f) = 0 ↔ ¬ IsIssuer db f :=
  countIssued_eq_zero_iff

/-- The tables after the DELETEs. -/
theorem forget_deleteCertificate (hleaf : ¬ IsIssuer db f) (hcert : HasCert db.certificates f)
    (h : deleteCertificate f (cleared f db) = some (n, db')) :
    db.forget.purgeCertificate f = .ok db'.forget := by
  have hfound : db.forget.certificates.rowsAffected (fun c => decide (c.fingerprint = f)) ≠ 0 :=
    fun h0 => rowsAffected_eq_zero_iff.mp h0 hcert
  unfold Certs.DB.purgeCertificate
  rw [dif_pos (forget_isIssuer_iff.mpr hleaf), if_neg hfound]
  unfold deleteCertificate at h
  simp only at h
  split at h
  · obtain ⟨-, rfl⟩ := Prod.mk.inj (Option.some.inj h)
    refine congrArg Except.ok (Certs.DB.ext rfl ?_ ?_ ?_ rfl)
    · refine List.filter_congr fun a _ => ?_
      simp [refersTo]
    · show List.filter _ (List.map _ _) = List.map _ (List.filter _ _)
      rw [List.filter_map]
      refine congrArg _ (List.filter_congr fun e _ => ?_)
      simp [refersTo]
    · show List.filter _ (List.map _ _) = List.map _ (List.filter _ _)
      rw [List.filter_map]
      refine congrArg _ (List.filter_congr fun r _ => ?_)
      simp [refersTo]
  · cases h

/-- **PurgeCertificate of `TLSentinel.Certs.Store` is this transaction**, where no statement
is lost. -/
theorem purgeCertificate_refines (f : String) (db : PurgeDB) :
    match db.forget.purgeCertificate f, purgeCertificate Up.all f db with
    | .ok d, (.ok _, db') => db'.forget = d
    | .error (.certIsIssuer n), (.error e, db') => e = .certIsIssuer n ∧ db' = db
    | .error .notFound, (.error e, db') => e = .notFound ∧ db' = db
    | _, _ => False := by
  by_cases hissuer : IsIssuer db f
  · have hcount : ¬ db.forget.certificates.rowsAffected (Certs.DB.issuerIs f) = 0 :=
      fun h0 => forget_isIssuer_iff.mp h0 hissuer
    unfold Certs.DB.purgeCertificate purgeCertificate runInTx
    rw [dif_neg hcount, purgeBody_of_issuer rfl hissuer]
    exact ⟨rfl, rfl⟩
  · obtain ⟨⟨n, db'⟩, hdelete⟩ := exists_deleteCertificate hissuer
    have hn := (deleteCertificate_cleared hdelete).1
    have hruns : Up.all.Runs := ⟨rfl, rfl, rfl, rfl⟩
    have hbody := deleteAll_exec hruns hdelete
    unfold purgeCertificate runInTx
    rw [purgeBody_of_leaf rfl hissuer, hbody]
    by_cases hcert : HasCert db.certificates f
    · have hne : n ≠ 0 := fun h0 => rowsAffected_eq_zero_iff.mp (hn ▸ h0) hcert
      rw [forget_deleteCertificate hissuer hcert hdelete, if_neg hne]
      rfl
    · have hzero := rowsAffected_eq_zero_iff.mpr hcert
      have hmissing : db.forget.purgeCertificate f = .error .notFound := by
        unfold Certs.DB.purgeCertificate
        rw [dif_pos (forget_isIssuer_iff.mpr hissuer)]
        exact if_pos hzero
      rw [hmissing, if_pos (hn.trans hzero)]
      exact ⟨rfl, rfl⟩

end TLSentinel.Certs.Purge
