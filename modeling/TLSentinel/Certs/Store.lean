/-
  TLSentinel.Certs.Store
  ──────────────────────
  **CERTIFICATES, WHAT REFERS TO THEM, AND HOW THEY COME AND GO.**

  The table `tlsentinel.certificates` with the tables that refer to it, and the
  statements of `internal/db/certificates_store.go` and `maintenance_store.go`:
  the insert with its `backfill_issuer_fingerprint` trigger (migration 000001),
  ReconcileCertificateChains, PurgeCertificate and PurgeUnreferencedCerts.

  A database value carries its foreign keys.  `discovery_inbox` has none since
  migration 000037: its fingerprints may dangle.  `certificate_expiry_alerts` and
  `certificate_trust` only ever cascade and are left out here.
-/
import TLSentinel.Foundation.Tables

namespace TLSentinel.Certs

open Foundation

/-! ## §1. Rows. -/

/-- `models.CertificateRecord`: what an ingest stores. -/
structure CertificateRecord where
  fingerprint : String
  pem : String
  commonName : String
  sans : List String
  notAfter : Int
  subjectKeyID : String
  authorityKeyID : Option String
  subjectDNHash : String
  issuerDNHash : String
  deriving DecidableEq, Repr

/-- A row of `tlsentinel.certificates`. -/
structure Certificate extends CertificateRecord where
  issuerFingerprint : Option String
  trustAnchor : Bool
  deriving DecidableEq, Repr

/-- The fingerprint of a row. -/
def Certificate.key (c : Certificate) : String := c.fingerprint

@[simp] theorem Certificate.key_eq (c : Certificate) : c.key = c.fingerprint := rfl

/-- The row `InsertCertificate` writes. -/
def CertificateRecord.toRow (rec : CertificateRecord) : Certificate := ⟨rec, none, false⟩

/-- `c` names `p` as its issuer: key ids and DN hashes match, and they are two
different certificates. -/
def Certificate.issuedBy (c p : Certificate) : Bool :=
  decide (c.authorityKeyID = some p.subjectKeyID)
    && decide (c.issuerDNHash = p.subjectDNHash) && decide (c.fingerprint ≠ p.fingerprint)

/-- The certificates, by fingerprint. -/
abbrev CertTable := Table Certificate.key

/-- The fingerprint is that of a stored certificate. -/
def HasCert (t : CertTable) (f : String) : Prop := ∃ c ∈ t, c.fingerprint = f

instance (t : CertTable) (f : String) : Decidable (HasCert t f) :=
  inferInstanceAs (Decidable (∃ c ∈ t, c.fingerprint = f))

theorem fingerprint_of_find? {t : CertTable} {f : String} {c : Certificate}
    (h : t.find? f = some c) : c.fingerprint = f :=
  (Table.find?_eq_some_iff.mp h).2

theorem find?_eq_none_of_not_hasCert {t : CertTable} {f : String} (h : ¬ HasCert t f) :
    t.find? f = none :=
  Table.find?_eq_none_iff.mpr fun c hc hcf => h ⟨c, hc, hcf⟩

/-- A row of `tlsentinel.root_store_anchors`. -/
structure RootStoreAnchor where
  rootStoreID : String
  fingerprint : String
  deriving DecidableEq, Repr

/-- A row of `tlsentinel.endpoint_certs`. -/
structure EndpointCert where
  endpointID : String
  fingerprint : String
  deriving DecidableEq, Repr

/-- A row of `tlsentinel.endpoint_scan_history`; a failed scan has no certificate. -/
structure EndpointScanHistory where
  endpointID : String
  fingerprint : Option String
  deriving DecidableEq, Repr

/-- A row of `tlsentinel.discovery_inbox`. -/
structure DiscoveryInboxItem where
  ip : String
  port : Nat
  fingerprint : Option String
  deriving DecidableEq, Repr

/-! ## §2. The database. -/

/-- The foreign keys that point to certificates. -/
structure ForeignKeys (certs : CertTable) (anchors : List RootStoreAnchor)
    (endpointCerts : List EndpointCert) (history : List EndpointScanHistory) : Prop where
  issuers : ∀ c ∈ certs, ∀ f, c.issuerFingerprint = some f → HasCert certs f
  anchors : ∀ a ∈ anchors, HasCert certs a.fingerprint
  endpointCerts : ∀ e ∈ endpointCerts, HasCert certs e.fingerprint
  history : ∀ h ∈ history, ∀ f, h.fingerprint = some f → HasCert certs f

/-- The certificates and the tables that refer to them. -/
@[ext] structure DB where
  certificates : CertTable
  rootStoreAnchors : List RootStoreAnchor
  endpointCerts : List EndpointCert
  endpointScanHistory : List EndpointScanHistory
  discoveryInbox : List DiscoveryInboxItem
  fks : ForeignKeys certificates rootStoreAnchors endpointCerts endpointScanHistory

/-! ## §3. Inserting, and the trigger. -/

/-- The certificates that the certificate names as its issuer. -/
def candidates (t : CertTable) (c : Certificate) : List Certificate :=
  t.rows.filter (fun i => c.issuedBy i)

/-- The answer of the trigger's subquery: of the candidates one with the latest
`not_after` (which one, among several, is the database's choice), or NULL. -/
def LatestCandidate (t : CertTable) (c : Certificate) : Option String → Prop
  | none => candidates t c = []
  | some f => ∃ i ∈ candidates t c, i.fingerprint = f
      ∧ ∀ j ∈ candidates t c, j.notAfter ≤ i.notAfter

instance (t : CertTable) (c : Certificate) : (f : Option String) →
    Decidable (LatestCandidate t c f)
  | none => inferInstanceAs (Decidable (candidates t c = []))
  | some f => inferInstanceAs (Decidable (∃ i ∈ candidates t c, i.fingerprint = f
      ∧ ∀ j ∈ candidates t c, j.notAfter ≤ i.notAfter))

/-- Set the issuer of a row. -/
def Certificate.setIssuer (f : Option String) (c : Certificate) : Certificate :=
  { c with issuerFingerprint := f }

theorem Certificate.setIssuer_key (f : Option String) (c : Certificate) :
    (c.setIssuer f).key = c.key := rfl

/-- The two UPDATEs of `backfill_issuer_fingerprint`: the new row goes under the
answer of the subquery, and the rows without an issuer that name the new one as
theirs go under it. -/
def backfill (t : CertTable) (new : Certificate) (issuer : Option String) : CertTable :=
  (t.update
      (fun c => decide (c.fingerprint = new.fingerprint) && c.issuerFingerprint.isNone
        && new.authorityKeyID.isSome)
      (Certificate.setIssuer issuer) (Certificate.setIssuer_key issuer)).update
    (fun c => c.issuedBy new && c.issuerFingerprint.isNone)
    (Certificate.setIssuer (some new.fingerprint))
    (Certificate.setIssuer_key (some new.fingerprint))

/-- Updates that keep the fingerprints keep what is stored under them. -/
theorem hasCert_update {t : CertTable} {p : Certificate → Bool}
    {g : Certificate → Certificate} {hg : ∀ c, (g c).key = c.key} {f : String} :
    HasCert (t.update p g hg) f ↔ HasCert t f := by
  unfold HasCert
  rw [Table.exists_mem_update]
  apply exists_congr
  intro c
  have hkey : (g c).fingerprint = c.fingerprint := hg c
  by_cases hp : p c <;> simp [hp, hkey]

/-- The trigger keeps what is stored under each fingerprint. -/
theorem hasCert_backfill {t : CertTable} {new : Certificate} {issuer : Option String}
    {f : String} : HasCert (backfill t new issuer) f ↔ HasCert t f := by
  unfold backfill
  rw [hasCert_update, hasCert_update]

/-- What the trigger makes of a row. -/
def backfillRow (new : Certificate) (issuer : Option String) (c : Certificate) : Certificate :=
  if decide (c.fingerprint = new.fingerprint) && c.issuerFingerprint.isNone
      && new.authorityKeyID.isSome then
    c.setIssuer issuer
  else if c.issuedBy new && c.issuerFingerprint.isNone then
    c.setIssuer (some new.fingerprint)
  else c

/-- The second UPDATE never touches the row that the first one did. -/
theorem backfillRow_eq (new : Certificate) (issuer : Option String) (c : Certificate) :
    (fun d : Certificate => if d.issuedBy new && d.issuerFingerprint.isNone then
        d.setIssuer (some new.fingerprint) else d)
      (if decide (c.fingerprint = new.fingerprint) && c.issuerFingerprint.isNone
          && new.authorityKeyID.isSome then c.setIssuer issuer else c)
      = backfillRow new issuer c := by
  unfold backfillRow
  -- the row of the first UPDATE is the new one, which does not name itself
  by_cases h : (decide (c.fingerprint = new.fingerprint) && c.issuerFingerprint.isNone
      && new.authorityKeyID.isSome) = true
  · have hself : (c.setIssuer issuer).issuedBy new = false := by
      simp only [Bool.and_eq_true, decide_eq_true_eq] at h
      simp [Certificate.issuedBy, Certificate.setIssuer, h.1.1]
    simp [h, hself]
  · simp only [h, Bool.false_eq_true, if_false]

/-- The rows after the trigger. -/
theorem mem_backfill {t : CertTable} {new : Certificate} {issuer : Option String}
    {c : Certificate} :
    c ∈ backfill t new issuer ↔ ∃ d ∈ t, backfillRow new issuer d = c := by
  unfold backfill
  rw [Table.mem_update]
  constructor
  · intro h
    obtain ⟨e, he, rfl⟩ := h
    obtain ⟨d, hd, rfl⟩ := Table.mem_update.mp he
    exact ⟨d, hd, (backfillRow_eq new issuer d).symm⟩
  · intro h
    obtain ⟨d, hd, rfl⟩ := h
    exact ⟨_, Table.update_mem hd, backfillRow_eq new issuer d⟩

/-- A lookup after the trigger. -/
theorem find?_backfill (t : CertTable) (new : Certificate) (issuer : Option String)
    (f : String) :
    (backfill t new issuer).find? f = (t.find? f).map (backfillRow new issuer) := by
  unfold backfill
  rw [Table.find?_update, Table.find?_update, Option.map_map]
  congr 1
  funext c
  exact backfillRow_eq new issuer c

/-- The trigger writes no other column. -/
@[simp] theorem backfillRow_toRecord (new : Certificate) (issuer : Option String)
    (c : Certificate) :
    (backfillRow new issuer c).toCertificateRecord = c.toCertificateRecord := by
  unfold backfillRow
  split
  · rfl
  · split <;> rfl

@[simp] theorem backfillRow_trustAnchor (new : Certificate) (issuer : Option String)
    (c : Certificate) : (backfillRow new issuer c).trustAnchor = c.trustAnchor := by
  unfold backfillRow
  split
  · rfl
  · split <;> rfl

namespace DB

/-- The foreign keys survive the insert and its trigger. -/
theorem fks_insert {db : DB} {u : CertTable} {rec : CertificateRecord} {issuer : Option String}
    (hu : db.certificates.insert rec.toRow = some u)
    (hissuer : LatestCandidate u rec.toRow issuer) :
    ForeignKeys (backfill u rec.toRow issuer) db.rootStoreAnchors db.endpointCerts
      db.endpointScanHistory := by
  -- inserts and updates take no certificate away, so only new issuers matter
  have hold : ∀ f, HasCert db.certificates f → HasCert (backfill u rec.toRow issuer) f := by
    intro f h
    obtain ⟨c, hc, hf⟩ := h
    exact hasCert_backfill.mpr ⟨c, (Table.mem_insert hu).mpr (.inl hc), hf⟩
  refine ⟨?_, fun a ha => hold _ (db.fks.anchors a ha),
    fun e he => hold _ (db.fks.endpointCerts e he),
    fun h hh f hf => hold _ (db.fks.history h hh f hf)⟩
  intro c hc f hf
  obtain ⟨d, hd, rfl⟩ := mem_backfill.mp hc
  unfold backfillRow at hf
  split at hf
  · -- the subquery answers with a stored certificate
    have hsome : issuer = some f := hf
    subst hsome
    obtain ⟨i, hi, hif, _⟩ := hissuer
    exact hasCert_backfill.mpr ⟨i, (List.mem_filter.mp hi).1, hif⟩
  · split at hf
    · have hnew : rec.fingerprint = f := Option.some.inj hf
      exact hasCert_backfill.mpr
        ⟨rec.toRow, (Table.mem_insert hu).mpr (.inr rfl), hnew⟩
    · rcases (Table.mem_insert hu).mp hd with hd | rfl
      · exact hold _ (db.fks.issuers d hd f hf)
      · exact absurd hf (by simp [CertificateRecord.toRow])

/-- `InsertCertificate`: a stored fingerprint is left alone (ON CONFLICT DO
NOTHING).  `issuer` is the answer of the trigger's subquery; there is no step for
an answer it cannot give. -/
def insertCertificate (db : DB) (rec : CertificateRecord) (issuer : Option String) :
    Option (DB × Bool) :=
  match hu : db.certificates.insert rec.toRow with
  | none => some (db, false)
  | some u =>
      if h : LatestCandidate u rec.toRow issuer then
        some ({ db with certificates := backfill u rec.toRow issuer, fks := fks_insert hu h },
          true)
      else none

/-- Everything `InsertCertificate` can do. -/
theorem insertCertificate_cases {db db' : DB} {rec : CertificateRecord} {issuer : Option String}
    {created : Bool} (h : db.insertCertificate rec issuer = some (db', created)) :
    (HasCert db.certificates rec.fingerprint ∧ db' = db)
      ∨ (¬ HasCert db.certificates rec.fingerprint
        ∧ db'.rootStoreAnchors = db.rootStoreAnchors
        ∧ ∃ u, db.certificates.insert rec.toRow = some u
          ∧ LatestCandidate u rec.toRow issuer
          ∧ db'.certificates = backfill u rec.toRow issuer) := by
  unfold insertCertificate at h
  split at h
  · next hnone =>
      left
      obtain ⟨rfl, rfl⟩ := Prod.mk.inj (Option.some.inj h)
      exact ⟨Table.insert_eq_none_iff.mp hnone, rfl⟩
  · next u hu =>
      right
      split at h
      · next hlatest =>
          obtain ⟨rfl, rfl⟩ := Prod.mk.inj (Option.some.inj h)
          refine ⟨?_, rfl, u, hu, hlatest, rfl⟩
          intro h
          obtain ⟨c, hc, hcf⟩ := h
          exact Table.key_ne_of_insert hu hc hcf
      · exact absurd h (by simp)

/-! ## §4. Reconciling. -/

/-- An answer the UPDATE ... FROM of `ReconcileCertificateChains` can use for a row:
one of its candidates, if it has any and no issuer yet. -/
def matchesRow (t : CertTable) (c : Certificate) (answer : Option String) : Bool :=
  c.issuerFingerprint.isSome ||
    match answer with
    | none => decide (candidates t c = [])
    | some f => (candidates t c).any (fun i => decide (i.fingerprint = f))

/-- The join gives each row without an issuer one of its candidates. -/
def Reconciles (t : CertTable) (choice : String → Option String) : Prop :=
  ∀ c ∈ t.rows, matchesRow t c (choice c.fingerprint) = true

instance (t : CertTable) (choice : String → Option String) : Decidable (Reconciles t choice) :=
  inferInstanceAs (Decidable (∀ c ∈ t.rows, matchesRow t c (choice c.fingerprint) = true))

/-- The rows the UPDATE touches. -/
def reconciled (choice : String → Option String) (c : Certificate) : Bool :=
  c.issuerFingerprint.isNone && (choice c.fingerprint).isSome

/-- The UPDATE of `ReconcileCertificateChains`. -/
def reconcileRows (t : CertTable) (choice : String → Option String) : CertTable :=
  t.update (reconciled choice) (fun c => c.setIssuer (choice c.fingerprint))
    (fun c => c.setIssuer_key _)

/-- A reconciled row has the candidate it was given. -/
theorem exists_candidate_of_reconciles {t : CertTable} {choice : String → Option String}
    (h : Reconciles t choice) {c : Certificate} (hc : c ∈ t) (hnone : c.issuerFingerprint = none)
    {f : String} (hf : choice c.fingerprint = some f) :
    ∃ i ∈ candidates t c, i.fingerprint = f := by
  have hrow := h c hc
  simp only [matchesRow, hnone, hf, Option.isSome_none, Bool.false_or, List.any_eq_true,
    decide_eq_true_eq] at hrow
  exact hrow

/-- The foreign keys survive reconciling. -/
theorem fks_reconcile {db : DB} {choice : String → Option String}
    (h : Reconciles db.certificates choice) :
    ForeignKeys (reconcileRows db.certificates choice) db.rootStoreAnchors db.endpointCerts
      db.endpointScanHistory := by
  have hold : ∀ f, HasCert db.certificates f → HasCert (reconcileRows db.certificates choice) f :=
    fun f hf => hasCert_update.mpr hf
  refine ⟨?_, fun a ha => hold _ (db.fks.anchors a ha),
    fun e he => hold _ (db.fks.endpointCerts e he),
    fun h hh f hf => hold _ (db.fks.history h hh f hf)⟩
  intro c hc f hf
  obtain ⟨d, hd, rfl⟩ := Table.mem_update.mp hc
  by_cases hsel : reconciled choice d = true
  · simp only [hsel, if_true] at hf
    simp only [reconciled, Bool.and_eq_true, Option.isNone_iff_eq_none] at hsel
    obtain ⟨i, hi, hif⟩ := exists_candidate_of_reconciles h hd hsel.1 hf
    exact hold _ ⟨i, (List.mem_filter.mp hi).1, hif⟩
  · simp only [hsel, Bool.false_eq_true, if_false] at hf
    exact hold _ (db.fks.issuers d hd f hf)

/-- `ReconcileCertificateChains`: the database, and the number of rows updated. -/
def reconcileCertificateChains (db : DB) (choice : String → Option String) :
    Option (DB × Nat) :=
  if h : Reconciles db.certificates choice then
    some ({ db with
        certificates := reconcileRows db.certificates choice
        fks := fks_reconcile h },
      db.certificates.rowsAffected (reconciled choice))
  else none

/-! ## §5. Deleting. -/

/-- `PurgeCertificate`'s error: the certificate is an issuer of others, or is not
there. -/
inductive PurgeError where
  | certIsIssuer (count : Nat)
  | notFound
  deriving DecidableEq, Repr

/-- The certificate is the issuer of `c`. -/
def issuerIs (f : String) (c : Certificate) : Bool := decide (c.issuerFingerprint = some f)

/-- The foreign keys survive deleting a certificate that is nobody's issuer, after
the references to it are gone. -/
theorem fks_purge {db : DB} {f : String}
    (h : db.certificates.rowsAffected (issuerIs f) = 0) :
    ForeignKeys (db.certificates.delete (fun c => decide (c.fingerprint = f)))
      (db.rootStoreAnchors.filter (fun a => decide (a.fingerprint ≠ f)))
      (db.endpointCerts.filter (fun e => decide (e.fingerprint ≠ f)))
      (db.endpointScanHistory.filter (fun r => decide (r.fingerprint ≠ some f))) := by
  have hkept : ∀ g, g ≠ f → HasCert db.certificates g →
      HasCert (db.certificates.delete (fun c => decide (c.fingerprint = f))) g := by
    intro g hg h
    obtain ⟨c, hc, rfl⟩ := h
    exact ⟨c, Table.mem_delete.mpr ⟨hc, by simpa using hg⟩, rfl⟩
  refine ⟨?_, ?_, ?_, ?_⟩
  · intro c hc g hg
    obtain ⟨hstored, _⟩ := Table.mem_delete.mp hc
    have hnot : c.issuerFingerprint ≠ some f :=
      of_decide_eq_false (Table.rowsAffected_eq_zero_iff.mp h c hstored)
    refine hkept g ?_ (db.fks.issuers c hstored g hg)
    intro heq
    subst heq
    exact hnot hg
  · intro a ha
    obtain ⟨ha, hne⟩ := List.mem_filter.mp ha
    exact hkept _ (by simpa using hne) (db.fks.anchors a ha)
  · intro e he
    obtain ⟨he, hne⟩ := List.mem_filter.mp he
    exact hkept _ (by simpa using hne) (db.fks.endpointCerts e he)
  · intro r hr g hg
    obtain ⟨hr, hne⟩ := List.mem_filter.mp hr
    refine hkept g ?_ (db.fks.history r hr g hg)
    intro heq
    subst heq
    simp [hg] at hne

/-- `PurgeCertificate`, one transaction: an issuer is refused; otherwise its scan
history, its endpoint attachments and the certificate go, and its anchors with it. -/
def purgeCertificate (db : DB) (f : String) : Except PurgeError DB :=
  if h : db.certificates.rowsAffected (issuerIs f) = 0 then
    if db.certificates.rowsAffected (fun c => decide (c.fingerprint = f)) = 0 then
      .error .notFound
    else
      .ok { db with
        certificates := db.certificates.delete (fun c => decide (c.fingerprint = f))
        rootStoreAnchors := db.rootStoreAnchors.filter (fun a => decide (a.fingerprint ≠ f))
        endpointCerts := db.endpointCerts.filter (fun e => decide (e.fingerprint ≠ f))
        endpointScanHistory :=
          db.endpointScanHistory.filter (fun r => decide (r.fingerprint ≠ some f))
        fks := fks_purge h }
  else .error (.certIsIssuer (db.certificates.rowsAffected (issuerIs f)))

/-- The five kinds of reference that keep a certificate, besides being an issuer. -/
def referenced (db : DB) (c : Certificate) : Bool :=
  c.trustAnchor
    || db.rootStoreAnchors.any (fun a => decide (a.fingerprint = c.fingerprint))
    || db.endpointCerts.any (fun e => decide (e.fingerprint = c.fingerprint))
    || db.endpointScanHistory.any (fun r => decide (r.fingerprint = some c.fingerprint))
    || db.discoveryInbox.any (fun d => decide (d.fingerprint = some c.fingerprint))

/-- The WHERE clause of `PurgeUnreferencedCerts`. -/
def unreferenced (db : DB) (c : Certificate) : Bool :=
  !referenced db c && !db.certificates.rows.any (issuerIs c.fingerprint)

/-- What `PurgeUnreferencedCerts` reports of a deleted certificate. -/
structure PurgedCert where
  fingerprint : String
  commonName : String
  sans : List String
  notAfter : Int
  deriving DecidableEq, Repr

/-- The foreign keys survive the retention pass: what it deletes, nothing refers
to. -/
theorem fks_purgeUnreferenced (db : DB) :
    ForeignKeys (db.certificates.delete (unreferenced db)) db.rootStoreAnchors db.endpointCerts
      db.endpointScanHistory := by
  have hkept : ∀ f, HasCert db.certificates f →
      (∀ c ∈ db.certificates, c.fingerprint = f → unreferenced db c = false) →
      HasCert (db.certificates.delete (unreferenced db)) f := by
    intro f h hun
    obtain ⟨c, hc, rfl⟩ := h
    exact ⟨c, Table.mem_delete.mpr ⟨hc, hun c hc rfl⟩, rfl⟩
  refine ⟨?_, ?_, ?_, ?_⟩
  · intro c hc f hf
    obtain ⟨hc, _⟩ := Table.mem_delete.mp hc
    refine hkept f (db.fks.issuers c hc f hf) (fun d _ hd => ?_)
    have hissuer : db.certificates.rows.any (issuerIs d.fingerprint) = true :=
      List.any_eq_true.mpr ⟨c, hc, by simp [issuerIs, hf, hd]⟩
    simp [unreferenced, hissuer]
  · intro a ha
    refine hkept _ (db.fks.anchors a ha) (fun d _ hd => ?_)
    have hany : db.rootStoreAnchors.any (fun b => decide (b.fingerprint = d.fingerprint)) = true :=
      List.any_eq_true.mpr ⟨a, ha, by simp [hd]⟩
    simp [unreferenced, referenced, hany]
  · intro e he
    refine hkept _ (db.fks.endpointCerts e he) (fun d _ hd => ?_)
    have hany : db.endpointCerts.any (fun b => decide (b.fingerprint = d.fingerprint)) = true :=
      List.any_eq_true.mpr ⟨e, he, by simp [hd]⟩
    simp [unreferenced, referenced, hany]
  · intro r hr f hf
    refine hkept f (db.fks.history r hr f hf) (fun d _ hd => ?_)
    have hany : db.endpointScanHistory.any
        (fun b => decide (b.fingerprint = some d.fingerprint)) = true :=
      List.any_eq_true.mpr ⟨r, hr, by simp [hf, hd]⟩
    simp [unreferenced, referenced, hany]

/-- `PurgeUnreferencedCerts`: one pass, one statement. -/
def purgeUnreferencedCerts (db : DB) : DB × List PurgedCert :=
  ({ db with
      certificates := db.certificates.delete (unreferenced db)
      fks := fks_purgeUnreferenced db },
    (db.certificates.rows.filter (unreferenced db)).map
      (fun c => ⟨c.fingerprint, c.commonName, c.sans, c.notAfter⟩))

end DB

end TLSentinel.Certs
