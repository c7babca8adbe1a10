/-
  TLSentinel.Trust.Store
  ──────────────────────
  **WHAT THE TRUST CODE READS FROM AND WRITES TO THE DATABASE.**

  The certificates and anchors of `TLSentinel.Certs.Store` with the table
  `certificate_trust`, and the statements of `internal/db/trust_store.go` and
  `root_stores_store.go` that the evaluator, the probe handler and the root-store
  refresh run.  A statement is one atomic function.

  A database value carries its foreign keys, and the fact that the fingerprint of a
  row is that of the certificate in its `pem` column: every writer stores an
  extracted record.  A `pem` that does not parse any more is allowed.  The table
  `root_stores` is left out: nothing here deletes a store.

  Main results:
    * `DB.row?_insertCertificate` — what an insert leaves in the columns the
                              evaluator reads;
    * `DB.mem_upsertCertificateTrust` — the rows after a verdict map is written;
    * `DB.loadable_insertCertificate` — what an insert adds to the intermediates that
                              LoadPools would take.
-/
import TLSentinel.Trust.Evaluator
import Mathlib.Data.List.Dedup

namespace TLSentinel.Trust

open Foundation TLSentinel.Certs

/-! ## §1. The tables. -/

/-- A row of `tlsentinel.certificate_trust`. -/
structure CertificateTrust where
  fingerprint : String
  rootStoreID : String
  trusted : Bool
  reason : String
  deriving DecidableEq, Repr

/-- The primary key of a verdict row. -/
def CertificateTrust.key (t : CertificateTrust) : String × String :=
  (t.fingerprint, t.rootStoreID)

/-- What a row's `pem` parses to is the certificate of its fingerprint. -/
def FingerprintsMatch (X : X509) (t : CertTable) : Prop :=
  ∀ r ∈ t, ∀ c, X.parsePEM r.pem = some c → X.fingerprint c = r.fingerprint

/-- The tables the trust code works on. -/
structure DB (X : X509) extends Certs.DB where
  certificateTrust : Table CertificateTrust.key
  fingerprints : FingerprintsMatch X certificates
  trustFks : ∀ row ∈ certificateTrust, HasCert certificates row.fingerprint

/-- Updates that keep the records keep the match. -/
theorem fingerprintsMatch_update {X : X509} {t : CertTable} {p : Certificate → Bool}
    {g : Certificate → Certificate} {hg : ∀ c, (g c).key = c.key}
    (hrec : ∀ c, (g c).toCertificateRecord = c.toCertificateRecord)
    (h : FingerprintsMatch X t) : FingerprintsMatch X (t.update p g hg) := by
  intro r hr c hc
  obtain ⟨s, hs, rfl⟩ := Table.mem_update.mp hr
  have hsame : (if p s then g s else s).toCertificateRecord = s.toCertificateRecord := by
    split
    · exact hrec s
    · rfl
  rw [hsame] at hc ⊢
  exact h s hs c hc

namespace DB

variable {X : X509}

/-! ## §2. Inserting certificates. -/

theorem fingerprints_insert {db : DB X} {cert : X.Cert} {issuer : Option String} {d : Certs.DB}
    {created : Bool}
    (h : db.toDB.insertCertificate (X.extractCertificateRecord cert) issuer = some (d, created)) :
    FingerprintsMatch X d.certificates := by
  rcases Certs.DB.insertCertificate_cases h with ⟨_, rfl⟩ | ⟨_, _, u, hu, _, hd⟩
  · exact db.fingerprints
  · rw [hd]
    intro r hr c hc
    obtain ⟨s, hs, rfl⟩ := mem_backfill.mp hr
    rw [backfillRow_toRecord] at hc ⊢
    rcases (Table.mem_insert hu).mp hs with hs | rfl
    · exact db.fingerprints s hs c hc
    · -- the new row holds the PEM of the certificate it was extracted from
      have hcert : X.parsePEM (X.extractCertificateRecord cert).pem = some c := hc
      rw [X509.parsePEM_extract] at hcert
      have hcc : cert = c := Option.some.inj hcert
      subst hcc
      rfl

/-- Inserts keep what is stored. -/
theorem hasCert_insert {db : Certs.DB} {rec : CertificateRecord} {issuer : Option String}
    {d : Certs.DB} {created : Bool} (h : db.insertCertificate rec issuer = some (d, created))
    {f : String} (hf : HasCert db.certificates f) : HasCert d.certificates f := by
  rcases Certs.DB.insertCertificate_cases h with ⟨_, rfl⟩ | ⟨_, _, u, hu, _, hd⟩
  · exact hf
  · rw [hd, hasCert_backfill]
    obtain ⟨c, hc, hcf⟩ := hf
    exact ⟨c, (Table.mem_insert hu).mpr (.inl hc), hcf⟩

/-- `InsertCertificate` of the record extracted from a parsed certificate. -/
def insertCertificate (db : DB X) (cert : X.Cert) (issuer : Option String) :
    Option (DB X × Bool) :=
  match h : db.toDB.insertCertificate (X.extractCertificateRecord cert) issuer with
  | none => none
  | some (d, created) =>
      some ({ toDB := d
              certificateTrust := db.certificateTrust
              fingerprints := fingerprints_insert h
              trustFks := fun row hrow => hasCert_insert h (db.trustFks row hrow) }, created)

/-! ## §3. Anchors and their flag. -/

/-- `UPDATE certificates SET trust_anchor = v WHERE p`. -/
def setFlag (t : CertTable) (p v : Certificate → Bool) : CertTable :=
  t.update p (fun c => { c with trustAnchor := v c }) (fun _ => rfl)

theorem fks_setFlag (db : DB X) (p v : Certificate → Bool) :
    ForeignKeys (setFlag db.certificates p v) db.rootStoreAnchors db.endpointCerts
      db.endpointScanHistory := by
  have hold : ∀ f, HasCert db.certificates f → HasCert (setFlag db.certificates p v) f :=
    fun f hf => hasCert_update.mpr hf
  refine ⟨?_, fun a ha => hold _ (db.fks.anchors a ha),
    fun e he => hold _ (db.fks.endpointCerts e he),
    fun h hh f hf => hold _ (db.fks.history h hh f hf)⟩
  intro c hc f hf
  obtain ⟨s, hs, rfl⟩ := Table.mem_update.mp hc
  have hissuer : s.issuerFingerprint = some f := by
    split at hf <;> exact hf
  exact hold _ (db.fks.issuers s hs f hissuer)

/-- The database after that UPDATE. -/
def setTrustAnchor (db : DB X) (p v : Certificate → Bool) : DB X :=
  { db with
    certificates := setFlag db.certificates p v
    fks := db.fks_setFlag p v
    fingerprints := fingerprintsMatch_update (fun _ => rfl) db.fingerprints
    trustFks := fun row hrow => hasCert_update.mpr (db.trustFks row hrow) }

/-- `MarkTrustAnchor`: the flag, and whether a row was there. -/
def markTrustAnchor (db : DB X) (fingerprint : String) : DB X × Bool :=
  (db.setTrustAnchor (fun c => decide (c.fingerprint = fingerprint)) (fun _ => true),
    decide (0 < db.certificates.rowsAffected (fun c => decide (c.fingerprint = fingerprint))))

/-- `UpsertTrustAnchor`: the row is inserted unless it is there, and flagged. -/
def upsertTrustAnchor (db : DB X) (cert : X.Cert) (issuer : Option String) : Option (DB X) :=
  match db.insertCertificate cert issuer with
  | none => none
  | some (d, _) => some (d.markTrustAnchor (X.fingerprint cert)).1

/-- The EXISTS clause of `ReconcileTrustAnchorFlags`: an anchor has the subject of
the row, and the same key id unless one of the two is empty. -/
def matchesAnchor (db : DB X) (c : Certificate) : Bool :=
  db.rootStoreAnchors.any (fun rsa => db.certificates.rows.any (fun a =>
    decide (a.fingerprint = rsa.fingerprint) && decide (a.subjectDNHash = c.subjectDNHash)
      && (decide (c.subjectKeyID = "") || decide (a.subjectKeyID = "")
        || decide (a.subjectKeyID = c.subjectKeyID))))

/-- `ReconcileTrustAnchorFlags`: the database, and how many flags changed. -/
def reconcileTrustAnchorFlags (db : DB X) : DB X × Nat :=
  (db.setTrustAnchor (fun c => decide (c.trustAnchor ≠ db.matchesAnchor c)) db.matchesAnchor,
    db.certificates.rowsAffected (fun c => decide (c.trustAnchor ≠ db.matchesAnchor c)))

/-- The rows of `root_store_anchors` after `ReplaceRootStoreAnchors`. -/
def replacedAnchors (anchors : List RootStoreAnchor) (storeID : String)
    (fingerprints : List String) : List RootStoreAnchor :=
  let new := (fingerprints.dedup.map (fun f => RootStoreAnchor.mk storeID f)).filter
    (fun a => decide (a ∉ anchors))
  (anchors ++ new).filter
    (fun a => decide (a.rootStoreID ≠ storeID) || decide (a.fingerprint ∈ fingerprints))

theorem fks_replaceRootStoreAnchors {db : DB X} {storeID : String} {fingerprints : List String}
    (h : ∀ f ∈ fingerprints, HasCert db.certificates f) :
    ForeignKeys db.certificates (replacedAnchors db.rootStoreAnchors storeID fingerprints)
      db.endpointCerts db.endpointScanHistory := by
  refine ⟨db.fks.issuers, ?_, db.fks.endpointCerts, db.fks.history⟩
  intro a ha
  obtain ⟨ha, _⟩ := List.mem_filter.mp ha
  rcases List.mem_append.mp ha with ha | ha
  · exact db.fks.anchors a ha
  · obtain ⟨ha, _⟩ := List.mem_filter.mp ha
    obtain ⟨f, hf, rfl⟩ := List.mem_map.mp ha
    exact h f (List.mem_dedup.mp hf)

/-- `ReplaceRootStoreAnchors`, one transaction; a fingerprint that is not stored
breaks the foreign key and the transaction fails. -/
def replaceRootStoreAnchors (db : DB X) (storeID : String) (fingerprints : List String) :
    Option (DB X) :=
  if h : ∀ f ∈ fingerprints, HasCert db.certificates f then
    some { db with
      rootStoreAnchors := replacedAnchors db.rootStoreAnchors storeID fingerprints
      fks := fks_replaceRootStoreAnchors h }
  else none

/-! ## §4. The queries of the evaluator, and the verdicts. -/

/-- Collect the values of each key. -/
def group (rows : List (String × String)) : List (String × List String) :=
  (rows.map Prod.fst).dedup.map
    (fun k => (k, (rows.filter (fun r => decide (r.1 = k))).map Prod.snd))

/-- `ListAnchorPEMsByStore`: a store without anchors has no entry. -/
def listAnchorPEMsByStore (db : DB X) : List (String × List String) :=
  group (db.rootStoreAnchors.filterMap (fun rsa =>
    (db.certificates.find? rsa.fingerprint).map (fun c => (rsa.rootStoreID, c.pem))))

/-- `ListNonAnchorCertPEMs`. -/
def listNonAnchorCertPEMs (db : DB X) : List (String × String) :=
  (db.certificates.rows.filter (fun c => !c.trustAnchor)).map (fun c => (c.fingerprint, c.pem))

/-- The rows `ForEachCert` iterates. -/
def forEachCert (db : DB X) : List (String × String) :=
  db.certificates.rows.map (fun c => (c.fingerprint, c.pem))

/-- The row of one verdict. -/
def trustRow (fingerprint : String) (v : String × Result) : CertificateTrust :=
  ⟨fingerprint, v.1, v.2.trusted, v.2.reason⟩

/-- Write the verdicts one after the other. -/
def writeVerdicts (t : Table CertificateTrust.key) (fingerprint : String)
    (verdicts : List (String × Result)) : Table CertificateTrust.key :=
  verdicts.foldl (fun t v => t.upsert (trustRow fingerprint v)) t

/-- What is written, and what is left. -/
theorem mem_writeVerdicts {fp : String} {row : CertificateTrust} (v : List (String × Result))
    (t : Table CertificateTrust.key) (h : row ∈ writeVerdicts t fp v) :
    (row ∈ t ∧ (row.fingerprint = fp → row.rootStoreID ∉ v.map Prod.fst))
      ∨ ∃ w ∈ v, row = trustRow fp w := by
  -- on the verdicts still to be written
  induction v generalizing t with
  | nil => exact .inl ⟨h, by simp⟩
  | cons w v ih =>
      rcases ih (t.upsert (trustRow fp w)) h with ⟨hmem, hnot⟩ | ⟨x, hx, hrow⟩
      · rcases Table.mem_upsert.mp hmem with ⟨hold, hkey⟩ | hrow
        · refine .inl ⟨hold, fun hf => ?_⟩
          rw [List.map_cons, List.mem_cons, not_or]
          refine ⟨fun hst => hkey ?_, hnot hf⟩
          show (row.fingerprint, row.rootStoreID) = (fp, w.1)
          rw [hf, hst]
        · exact .inr ⟨w, List.mem_cons_self, hrow⟩
      · exact .inr ⟨x, List.mem_cons_of_mem _ hx, hrow⟩

theorem trustFks_writeVerdicts {db : DB X} {fp : String} (hfp : HasCert db.certificates fp)
    (v : List (String × Result)) :
    ∀ row ∈ writeVerdicts db.certificateTrust fp v, HasCert db.certificates row.fingerprint := by
  intro row hrow
  rcases mem_writeVerdicts v _ hrow with ⟨hold, _⟩ | ⟨w, _, rfl⟩
  · exact db.trustFks row hold
  · exact hfp

/-- `UpsertCertificateTrust`: stores that the map does not name keep their row.  The
statement fails for a certificate that is not stored; its callers log that and go
on. -/
def upsertCertificateTrust (db : DB X) (fingerprint : String)
    (verdicts : List (String × Result)) : DB X :=
  if h : HasCert db.certificates fingerprint then
    { db with
      certificateTrust := writeVerdicts db.certificateTrust fingerprint verdicts
      trustFks := trustFks_writeVerdicts h verdicts }
  else db

/-! ## §5. What the evaluator sees of a row. -/

/-- Record and flag of a stored row. -/
def row? (db : DB X) (f : String) : Option (CertificateRecord × Bool) :=
  (db.certificates.find? f).map (fun r => (r.toCertificateRecord, r.trustAnchor))

theorem row?_eq_some_iff {db : DB X} {f : String} {rec : CertificateRecord} {flag : Bool} :
    db.row? f = some (rec, flag) ↔ ∃ r ∈ db.certificates, r.fingerprint = f
      ∧ r.toCertificateRecord = rec ∧ r.trustAnchor = flag := by
  unfold row?
  constructor
  · intro h
    obtain ⟨r, hr, heq⟩ := Option.map_eq_some_iff.mp h
    obtain ⟨hrec, hflag⟩ := Prod.mk.inj heq
    obtain ⟨hmem, hkey⟩ := Table.find?_eq_some_iff.mp hr
    exact ⟨r, hmem, hkey, hrec, hflag⟩
  · intro h
    obtain ⟨r, hr, hkey, rfl, rfl⟩ := h
    rw [Table.find?_eq_some_iff.mpr ⟨hr, hkey⟩]
    rfl

/-- **What a row's PEM parses to is the certificate of its fingerprint.** -/
theorem fingerprint_of_row? {db : DB X} {f : String} {rec : CertificateRecord} {flag : Bool}
    (h : db.row? f = some (rec, flag)) {c : X.Cert} (hc : X.parsePEM rec.pem = some c) :
    X.fingerprint c = f := by
  obtain ⟨r, hr, rfl, rfl, _⟩ := row?_eq_some_iff.mp h
  exact db.fingerprints r hr c hc

theorem mem_listNonAnchorCertPEMs {db : DB X} {f p : String} :
    (f, p) ∈ db.listNonAnchorCertPEMs ↔ ∃ rec, db.row? f = some (rec, false) ∧ rec.pem = p := by
  simp only [listNonAnchorCertPEMs, List.mem_map, List.mem_filter, row?_eq_some_iff]
  constructor
  · intro h
    obtain ⟨r, ⟨hr, hflag⟩, heq⟩ := h
    obtain ⟨hf, hp⟩ := Prod.mk.inj heq
    exact ⟨_, ⟨r, hr, hf, rfl, by simpa using hflag⟩, hp⟩
  · intro h
    obtain ⟨_, ⟨r, hr, hf, rfl, hflag⟩, hp⟩ := h
    exact ⟨r, ⟨hr, by simp [hflag]⟩, by rw [hf, hp]⟩

theorem mem_forEachCert {db : DB X} {f p : String} :
    (f, p) ∈ db.forEachCert ↔ ∃ rec flag, db.row? f = some (rec, flag) ∧ rec.pem = p := by
  simp only [forEachCert, List.mem_map, row?_eq_some_iff]
  constructor
  · intro h
    obtain ⟨r, hr, heq⟩ := h
    obtain ⟨hf, hp⟩ := Prod.mk.inj heq
    exact ⟨_, _, ⟨r, hr, hf, rfl, rfl⟩, hp⟩
  · intro h
    obtain ⟨_, _, ⟨r, hr, hf, rfl, _⟩, hp⟩ := h
    exact ⟨r, hr, by rw [hf, hp]⟩

/-- The anchors' PEMs depend on the anchors and on the records of their rows. -/
theorem listAnchorPEMsByStore_congr {db db' : DB X}
    (hanchors : db'.rootStoreAnchors = db.rootStoreAnchors)
    (hrows : ∀ a ∈ db.rootStoreAnchors,
      (db'.row? a.fingerprint).map Prod.fst = (db.row? a.fingerprint).map Prod.fst) :
    db'.listAnchorPEMsByStore = db.listAnchorPEMsByStore := by
  unfold listAnchorPEMsByStore
  rw [hanchors]
  congr 1
  apply List.filterMap_congr
  intro a ha
  have h := congrArg (Option.map (fun rec : CertificateRecord => (a.rootStoreID, rec.pem)))
    (hrows a ha)
  simp only [row?, Option.map_map] at h
  exact h

/-- The keys of a grouping. -/
theorem mem_keys_group {rows : List (String × String)} {k : String} :
    k ∈ (group rows).map Prod.fst ↔ ∃ r ∈ rows, r.1 = k := by
  simp [group]

/-- A store that is listed has an anchor. -/
theorem exists_anchor_of_listed {db : DB X} {storeID : String}
    (h : storeID ∈ db.listAnchorPEMsByStore.map Prod.fst) :
    ∃ a ∈ db.rootStoreAnchors, a.rootStoreID = storeID := by
  obtain ⟨r, hr, rfl⟩ := mem_keys_group.mp h
  obtain ⟨a, ha, hfind⟩ := List.mem_filterMap.mp hr
  obtain ⟨c, _, rfl⟩ := Option.map_eq_some_iff.mp hfind
  exact ⟨a, ha, rfl⟩

/-- A verdict row is about a stored certificate. -/
theorem exists_row?_of_trust {db : DB X} {row : CertificateTrust}
    (h : row ∈ db.certificateTrust) : ∃ r, db.row? row.fingerprint = some r := by
  obtain ⟨c, hc, hcf⟩ := db.trustFks row h
  exact ⟨_, row?_eq_some_iff.mpr ⟨c, hc, hcf, rfl, rfl⟩⟩

/-! ## §6. What the statements leave. -/

section Insert

variable {db db' : DB X} {cert : X.Cert} {issuer : Option String} {created : Bool}

/-- The parts of an insert. -/
theorem insertCertificate_parts (h : db.insertCertificate cert issuer = some (db', created)) :
    db.toDB.insertCertificate (X.extractCertificateRecord cert) issuer = some (db'.toDB, created)
      ∧ db'.certificateTrust = db.certificateTrust := by
  unfold insertCertificate at h
  split at h
  · exact absurd h (by simp)
  · next d c hd =>
      obtain ⟨rfl, rfl⟩ := Prod.mk.inj (Option.some.inj h)
      exact ⟨hd, rfl⟩

/-- **An insert adds an unflagged row unless the fingerprint is stored, and changes
no other row.** -/
theorem row?_insertCertificate (h : db.insertCertificate cert issuer = some (db', created))
    (f : String) :
    db'.row? f = (db.row? f).or
      (if f = X.fingerprint cert then some (X.extractCertificateRecord cert, false) else none) := by
  rcases Certs.DB.insertCertificate_cases (insertCertificate_parts h).1 with
    ⟨⟨c, hc, hcf⟩, hdb⟩ | ⟨hnew, _, u, hu, _, hd⟩
  · -- ON CONFLICT DO NOTHING
    have hsame : db'.row? f = db.row? f := by
      unfold row?
      rw [hdb]
    rw [hsame]
    split
    · next hf =>
        have hrow : db.row? f = some (c.toCertificateRecord, c.trustAnchor) :=
          row?_eq_some_iff.mpr ⟨c, hc, hcf.trans hf.symm, rfl, rfl⟩
        rw [hrow]
        rfl
    · rw [Option.or_none]
  · -- a new row, and the trigger
    -- the trigger writes issuers only, which `row?` does not show
    have hview : (fun r : Certificate => (r.toCertificateRecord, r.trustAnchor))
        ∘ backfillRow (X.extractCertificateRecord cert).toRow issuer
        = (fun r : Certificate => (r.toCertificateRecord, r.trustAnchor)) := by
      funext r
      simp
    have hkey : (X.extractCertificateRecord cert).toRow.key = X.fingerprint cert := rfl
    unfold row?
    rw [hd, find?_backfill, Option.map_map, hview, Table.find?_insert hu, hkey]
    by_cases hf : f = X.fingerprint cert
    · have hnone : db.certificates.find? f = none :=
        find?_eq_none_of_not_hasCert (by rw [hf]; exact hnew)
      rw [if_pos hf.symm, if_pos hf, hnone]
      rfl
    · rw [if_neg (fun he => hf he.symm), if_neg hf, Option.or_none]

/-- A stored row keeps its record and its flag. -/
theorem row?_of_insertCertificate (h : db.insertCertificate cert issuer = some (db', created))
    {f : String} {r : CertificateRecord × Bool} (hr : db.row? f = some r) :
    db'.row? f = some r := by
  rw [row?_insertCertificate h, hr]
  rfl

/-- The inserted certificate is stored afterwards. -/
theorem exists_row?_of_insertCertificate
    (h : db.insertCertificate cert issuer = some (db', created)) :
    ∃ r, db'.row? (X.fingerprint cert) = some r := by
  rw [row?_insertCertificate h, if_pos rfl]
  cases db.row? (X.fingerprint cert) with
  | none => exact ⟨_, rfl⟩
  | some r => exact ⟨r, rfl⟩

/-- Inserts leave the anchors and their PEMs alone. -/
theorem listAnchorPEMsByStore_insertCertificate
    (h : db.insertCertificate cert issuer = some (db', created)) :
    db'.listAnchorPEMsByStore = db.listAnchorPEMsByStore := by
  have hanchors : db'.rootStoreAnchors = db.rootStoreAnchors := by
    rcases Certs.DB.insertCertificate_cases (insertCertificate_parts h).1 with
      ⟨_, hdb⟩ | ⟨_, hanchors, _⟩
    · rw [hdb]
    · exact hanchors
  apply listAnchorPEMsByStore_congr hanchors
  intro a ha
  obtain ⟨c, hc, hcf⟩ := db.fks.anchors a ha
  have hrow : db.row? a.fingerprint = some (c.toCertificateRecord, c.trustAnchor) :=
    row?_eq_some_iff.mpr ⟨c, hc, hcf, rfl, rfl⟩
  rw [row?_of_insertCertificate h hrow, hrow]

end Insert

/-- Writing verdicts leaves the certificates and the anchors alone. -/
theorem upsertCertificateTrust_certs (db : DB X) (fp : String) (v : List (String × Result)) :
    (db.upsertCertificateTrust fp v).toDB = db.toDB := by
  unfold upsertCertificateTrust
  split <;> rfl

@[simp] theorem upsertCertificateTrust_row? (db : DB X) (fp : String)
    (v : List (String × Result)) (f : String) :
    (db.upsertCertificateTrust fp v).row? f = db.row? f := by
  unfold row?
  rw [upsertCertificateTrust_certs]

@[simp] theorem upsertCertificateTrust_listAnchorPEMsByStore (db : DB X) (fp : String)
    (v : List (String × Result)) :
    (db.upsertCertificateTrust fp v).listAnchorPEMsByStore = db.listAnchorPEMsByStore := by
  unfold listAnchorPEMsByStore
  rw [upsertCertificateTrust_certs]

@[simp] theorem upsertCertificateTrust_listNonAnchorCertPEMs (db : DB X) (fp : String)
    (v : List (String × Result)) :
    (db.upsertCertificateTrust fp v).listNonAnchorCertPEMs = db.listNonAnchorCertPEMs := by
  unfold listNonAnchorCertPEMs
  rw [upsertCertificateTrust_certs]

/-- **The rows after a verdict map is written**: those of the map, and the old ones
that the map does not replace. -/
theorem mem_upsertCertificateTrust {db : DB X} {fp : String} {v : List (String × Result)}
    {row : CertificateTrust} (h : row ∈ (db.upsertCertificateTrust fp v).certificateTrust) :
    (row ∈ db.certificateTrust ∧ (row.fingerprint = fp → row.rootStoreID ∉ v.map Prod.fst))
      ∨ ∃ w ∈ v, row = trustRow fp w := by
  unfold upsertCertificateTrust at h
  split at h
  · exact mem_writeVerdicts v _ h
  · next hnot =>
      refine .inl ⟨h, fun hf => absurd ?_ hnot⟩
      exact hf ▸ db.trustFks row h

/-! ## §7. What LoadPools takes as intermediates. -/

/-- `LoadPools` would take the certificate as an intermediate. -/
def Loadable (db : DB X) (c : X.Cert) : Prop := c ∈ newIntermediates X db.listNonAnchorCertPEMs

theorem loadable_iff {db : DB X} {c : X.Cert} :
    Loadable db c ↔ X.isCA c = true
      ∧ ∃ rec, db.row? (X.fingerprint c) = some (rec, false) ∧ X.parsePEM rec.pem = some c := by
  unfold Loadable
  rw [mem_newIntermediates]
  apply and_congr_right
  intro _
  constructor
  · intro h
    obtain ⟨f, p, hmem, hparse⟩ := h
    obtain ⟨rec, hrow, rfl⟩ := mem_listNonAnchorCertPEMs.mp hmem
    have hf : X.fingerprint c = f := fingerprint_of_row? hrow hparse
    exact ⟨rec, hf ▸ hrow, hparse⟩
  · intro h
    obtain ⟨rec, hrow, hparse⟩ := h
    exact ⟨_, _, mem_listNonAnchorCertPEMs.mpr ⟨rec, hrow, rfl⟩, hparse⟩

/-- **An insert makes its certificate loadable, if it is a new CA, and no other.** -/
theorem loadable_insertCertificate {db db' : DB X} {cert : X.Cert} {issuer : Option String}
    {created : Bool} (h : db.insertCertificate cert issuer = some (db', created)) (c : X.Cert) :
    Loadable db' c
      ↔ Loadable db c
        ∨ (c = cert ∧ X.isCA cert = true ∧ db.row? (X.fingerprint cert) = none) := by
  rw [loadable_iff, loadable_iff, row?_insertCertificate h]
  by_cases hc : c = cert
  · subst hc
    rw [if_pos rfl]
    cases hrow : db.row? (X.fingerprint c) with
    | none => simp
    | some r => simp
  · have hf : X.fingerprint c ≠ X.fingerprint cert := fun hf => hc (X509.eq_of_fingerprint hf)
    rw [if_neg hf, Option.or_none]
    simp [hc]

end DB

/-! ## §8. A small PKI. -/

/-- Two roots, a copy of the first one signed by the second, an intermediate signed
with the first root's key, and a leaf. -/
inductive SampleCert where
  | root
  | other
  | cross
  | inter
  | leaf
  deriving DecidableEq, Repr

namespace SampleCert

/-- The bytes of a certificate. -/
def raw : SampleCert → String
  | root => "root"
  | other => "other"
  | cross => "cross"
  | inter => "inter"
  | leaf => "leaf"

/-- Parsing them. -/
def parse : String → Option SampleCert
  | "root" => some root
  | "other" => some other
  | "cross" => some cross
  | "inter" => some inter
  | "leaf" => some leaf
  | _ => none

/-- Subject, and key: the copy has those of the root. -/
def subject : SampleCert → String
  | root => "R"
  | other => "O"
  | cross => "R"
  | inter => "I"
  | leaf => "L"

/-- Issuer, and its key. -/
def issuer : SampleCert → String
  | root => "R"
  | other => "O"
  | cross => "O"
  | inter => "R"
  | leaf => "I"

/-- Roots have no authority key id. -/
def authorityKeyId : SampleCert → String
  | root => ""
  | other => ""
  | c => c.issuer

end SampleCert

/-- That PKI, with PEM blocks that are their bytes. -/
def samplePKI : X509 where
  Cert := SampleCert
  decEq := inferInstance
  pemDecode p := if p = "" then none else some ("CERTIFICATE", p)
  pemEncode _ b := b
  parseCertificate := SampleCert.parse
  raw := SampleCert.raw
  rawSubject := SampleCert.subject
  rawIssuer := SampleCert.issuer
  commonName := SampleCert.raw
  dnsNames _ := []
  notAfter _ := 0
  subjectKeyId := SampleCert.subject
  authorityKeyId := SampleCert.authorityKeyId
  isCA c := decide (c ≠ .leaf)
  signedBy c p := decide (p ≠ .leaf) && decide (c.issuer = p.subject)
  sha256 := id
  hexEncode := id
  decode_encode c := by cases c <;> rfl
  parse_raw c := by cases c <;> rfl
  fingerprint_inj c d := by cases c <;> cases d <;> simp [SampleCert.raw]

/-- Nothing refers to certificates before anything is stored. -/
theorem foreignKeys_empty : ForeignKeys Table.empty [] [] [] :=
  ⟨Table.forall_mem_empty, fun _ h => absurd h List.not_mem_nil,
    fun _ h => absurd h List.not_mem_nil, fun _ h => absurd h List.not_mem_nil⟩

/-- The database before anything is stored. -/
def emptyDB (X : X509) : DB X where
  certificates := Table.empty
  rootStoreAnchors := []
  endpointCerts := []
  endpointScanHistory := []
  discoveryInbox := []
  fks := foreignKeys_empty
  certificateTrust := Table.empty
  fingerprints := Table.forall_mem_empty
  trustFks := Table.forall_mem_empty

end TLSentinel.Trust
