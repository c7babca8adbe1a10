/-
  TLSentinel.Certs.IssuerGraph
  ────────────────────────────
  **WHEN THE ISSUER GRAPH STAYS ACYCLIC.**

  The trigger draws edges both ways: the new certificate goes under one that it
  names as its issuer, and every certificate without an issuer that names the new
  one goes under it.  Each edge alone is never a loop, but nothing looks along the
  chain: when the chain above the chosen issuer ends in a certificate that names
  the new one as ITS issuer, the second UPDATE closes a cycle — a renewed
  self-signed root with the same key, or two cross-signed CAs.

  Main results:
    * `reconcile_noop`        — after any inserts, ReconcileCertificateChains
                                finds nothing to do;
    * `purgeable_of_acyclic`  — an acyclic graph can be purged completely, in the
                                order in which nobody is an issuer any more;
    * `issuer_graph_acyclic_iff` — a run keeps the graph acyclic exactly if no
                                insert meets the situation above.
-/
import TLSentinel.Foundation.Runs
import TLSentinel.Certs.Retention

namespace TLSentinel.Certs.IssuerGraph

open Foundation Relation

/-! ## §1. The system. -/

/-- An insert, with the answer of the trigger's subquery, or a reconciliation, with
the rows its join picked. -/
inductive Action where
  | insert (rec : CertificateRecord) (issuer : Option String)
  | reconcile (choice : String → Option String)

/-- One step. -/
def step (db : DB) : Action → Option DB
  | .insert rec issuer => (db.insertCertificate rec issuer).map Prod.fst
  | .reconcile choice => (db.reconcileCertificateChains choice).map Prod.fst

/-- Purge the certificates in the given order. -/
def purgeAll (db : DB) : List String → Except DB.PurgeError DB
  | [] => .ok db
  | f :: order =>
      match db.purgeCertificate f with
      | .error e => .error e
      | .ok db => purgeAll db order

/-! ## §2. The property and the condition. -/

/-- Every certificate can be purged, in some order. -/
def Purgeable (db : DB) : Prop :=
  ∃ order db', purgeAll db order = .ok db' ∧ db'.certificates.rows = []

/-- **The property**: no cycle, so that everything can be purged. -/
def Sound (db : DB) : Prop := IssuersAcyclic db ∧ Purgeable db

/-- **The condition on a step**: the chain above the issuer that a new certificate
goes under does not end in a certificate that names the new one as its issuer. -/
def ClosesNoCycle (db : DB) : Action → Prop
  | .insert rec issuer =>
      ¬ HasCert db.certificates rec.fingerprint → ∀ i, issuer = some i →
        ∀ r ∈ db.certificates, ReflTransGen (Edge (issuerOf db.certificates)) i r.fingerprint →
          r.issuerFingerprint = none → r.issuedBy rec.toRow = false
  | .reconcile _ => True

/-! ## §3. Purging an acyclic graph. -/

/-- Purging succeeds on a stored certificate that is nobody's issuer, and removes
exactly that one. -/
theorem purgeCertificate_of_leaf {db : DB} {f : String} (hf : HasCert db.certificates f)
    (hleaf : ∀ c ∈ db.certificates, c.issuerFingerprint ≠ some f) :
    ∃ db', db.purgeCertificate f = .ok db'
      ∧ db'.certificates = db.certificates.delete (fun c => decide (c.fingerprint = f)) := by
  have h0 : db.certificates.rowsAffected (DB.issuerIs f) = 0 :=
    Table.rowsAffected_eq_zero_iff.mpr fun c hc => decide_eq_false (hleaf c hc)
  have h1 : db.certificates.rowsAffected (fun c => decide (c.fingerprint = f)) ≠ 0 :=
    Table.rowsAffected_key_ne_zero_iff.mpr hf
  exact ⟨_, by rw [DB.purgeCertificate, dif_pos h0, if_neg h1], rfl⟩

/-- **A peeling order purges everything.** -/
theorem purgeAll_of_peeling (order : List String) :
    ∀ db : DB, order.Perm (db.certificates.rows.map Certificate.key) →
      (∀ c ∈ db.certificates, c.issuerFingerprint ≠ some c.fingerprint) →
      order.Pairwise (fun a b => ¬ Edge (issuerOf db.certificates) b a) →
      ∃ db', purgeAll db order = .ok db' ∧ db'.certificates.rows = [] := by
  induction order with
  | nil =>
      intro db hperm _ _
      have hnil : db.certificates.rows.map Certificate.key = [] := hperm.nil_eq.symm
      exact ⟨db, rfl, List.map_eq_nil_iff.mp hnil⟩
  | cons f order ih =>
      intro db hperm hirrefl hpeel
      obtain ⟨hfirst, hrest⟩ := List.pairwise_cons.mp hpeel
      have hnodup : (f :: order).Nodup := hperm.nodup_iff.mpr db.certificates.nodup
      have hmemf : f ∈ db.certificates.rows.map Certificate.key :=
        hperm.mem_iff.mp List.mem_cons_self
      obtain ⟨cf, hcf, hkey⟩ := List.mem_map.mp hmemf
      -- nobody that is still there has `f` as its issuer
      have hleaf : ∀ c ∈ db.certificates, c.issuerFingerprint ≠ some f := by
        intro c hc hissuer
        have hcmem : c.fingerprint ∈ f :: order :=
          hperm.mem_iff.mpr (List.mem_map.mpr ⟨c, hc, rfl⟩)
        rcases List.mem_cons.mp hcmem with hcf | hcorder
        · exact hirrefl c hc (hcf ▸ hissuer)
        · exact hfirst _ hcorder (edge_iff.mpr ⟨c, hc, rfl, hissuer⟩)
      obtain ⟨db', hpurge, hcerts⟩ := purgeCertificate_of_leaf ⟨cf, hcf, hkey⟩ hleaf
      have hsub : ∀ c ∈ db'.certificates, c ∈ db.certificates := by
        intro c hc
        rw [hcerts] at hc
        exact (Table.mem_delete.mp hc).1
      -- the rest of the order lists what is left
      have hperm' : order.Perm (db'.certificates.rows.map Certificate.key) := by
        rw [List.perm_ext_iff_of_nodup (List.nodup_cons.mp hnodup).2 db'.certificates.nodup]
        intro g
        constructor
        · intro hg
          have hgf : g ≠ f := by
            intro heq
            subst heq
            exact (List.nodup_cons.mp hnodup).1 hg
          obtain ⟨c, hc, hcg⟩ := List.mem_map.mp (hperm.mem_iff.mp (List.mem_cons_of_mem f hg))
          refine List.mem_map.mpr ⟨c, ?_, hcg⟩
          show c ∈ db'.certificates
          rw [hcerts, Table.mem_delete]
          have hcg' : c.fingerprint = g := hcg
          exact ⟨hc, by simpa [hcg'] using hgf⟩
        · intro hg
          obtain ⟨c, hc, hcg⟩ := List.mem_map.mp hg
          have hc' : c ∈ db.certificates.delete (fun c => decide (c.fingerprint = f)) :=
            hcerts ▸ hc
          obtain ⟨hcdb, hne⟩ := Table.mem_delete.mp hc'
          have hmem : g ∈ f :: order := hperm.mem_iff.mpr (List.mem_map.mpr ⟨c, hcdb, hcg⟩)
          rcases List.mem_cons.mp hmem with rfl | hmem
          · exact absurd hcg (by simpa using hne)
          · exact hmem
      have hpeel' : order.Pairwise (fun a b => ¬ Edge (issuerOf db'.certificates) b a) := by
        refine hrest.imp fun {a b} hab hedge => hab ?_
        obtain ⟨c, hc, hca, hcb⟩ := edge_iff.mp hedge
        exact edge_iff.mpr ⟨c, hsub c hc, hca, hcb⟩
      obtain ⟨db'', hall, hempty⟩ :=
        ih db' hperm' (fun c hc => hirrefl c (hsub c hc)) hpeel'
      exact ⟨db'', by rw [purgeAll, hpurge]; exact hall, hempty⟩

/-- **An acyclic issuer graph can be purged completely.** -/
theorem purgeable_of_acyclic {db : DB} (h : IssuersAcyclic db) : Purgeable db := by
  obtain ⟨order, hperm, hpeel⟩ := exists_peeling h (db.certificates.rows.map Certificate.key)
  obtain ⟨db', hall, hempty⟩ := purgeAll_of_peeling order db hperm
    (fun c hc hissuer => h.irrefl c.fingerprint (edge_iff.mpr ⟨c, hc, rfl, hissuer⟩)) hpeel
  exact ⟨order, db', hall, hempty⟩

/-! ## §4. What the steps do to the graph. -/

/-- The background invariant: a certificate without an issuer names none that is
stored. -/
def Linked (db : DB) : Prop :=
  ∀ c ∈ db.certificates, c.issuerFingerprint = none →
    ∀ i ∈ db.certificates, c.issuedBy i = false

/-- Everything an insert can do. -/
theorem insert_cases {db db' : DB} {rec : CertificateRecord} {issuer : Option String}
    (h : step db (.insert rec issuer) = some db') :
    (HasCert db.certificates rec.fingerprint ∧ db' = db)
      ∨ (¬ HasCert db.certificates rec.fingerprint
        ∧ ∃ u, db.certificates.insert rec.toRow = some u
          ∧ LatestCandidate u rec.toRow issuer
          ∧ db'.certificates = backfill u rec.toRow issuer) := by
  obtain ⟨⟨db', created⟩, hr, rfl⟩ := Option.map_eq_some_iff.mp h
  rcases DB.insertCertificate_cases hr with hold | ⟨hnew, -, hrow⟩
  · exact .inl hold
  · exact .inr ⟨hnew, hrow⟩

/-- The issuer a certificate names does not depend on what the trigger writes. -/
@[simp] theorem issuedBy_backfillRow (new c p : Certificate) (issuer issuer' : Option String) :
    (backfillRow new issuer c).issuedBy (backfillRow new issuer' p) = c.issuedBy p := by
  simp [Certificate.issuedBy]

/-- What the subquery answers is stored under another fingerprint. -/
theorem latestCandidate_some {t : CertTable} {new : Certificate} {f : String}
    (h : LatestCandidate t new (some f)) :
    ∃ i ∈ t, i.fingerprint = f ∧ new.issuedBy i = true ∧ new.fingerprint ≠ f := by
  obtain ⟨i, hi, rfl, _⟩ := h
  obtain ⟨hmem, hissued⟩ := List.mem_filter.mp hi
  refine ⟨i, hmem, rfl, hissued, ?_⟩
  simp only [Certificate.issuedBy, Bool.and_eq_true, decide_eq_true_eq] at hissued
  exact hissued.2

/-- An answer of NULL means that there is no candidate. -/
theorem latestCandidate_none {t : CertTable} {new : Certificate}
    (h : LatestCandidate t new none) {i : Certificate} (hi : i ∈ t) :
    new.issuedBy i = false := by
  have hnil : candidates t new = [] := h
  have := List.filter_eq_nil_iff.mp hnil i hi
  simpa using this

/-- A certificate without an authority key id names nobody. -/
theorem issuedBy_of_no_authority {c : Certificate} (h : c.authorityKeyID = none)
    (p : Certificate) : c.issuedBy p = false := by
  simp [Certificate.issuedBy, h]

/-- The certificates that the second UPDATE of the trigger puts under the new one. -/
def adopted (t : CertTable) (new : Certificate) (f : String) : Bool :=
  match t.find? f with
  | some c => c.issuedBy new && c.issuerFingerprint.isNone
  | none => false

/-- **The trigger grafts the new certificate into the issuer graph.** -/
theorem issuerOf_backfill {t u : CertTable} {new : Certificate} {issuer : Option String}
    (hnew : new.issuerFingerprint = none) (hu : t.insert new = some u)
    (hissuer : LatestCandidate u new issuer) :
    issuerOf (backfill u new issuer)
      = graft (issuerOf t) new.fingerprint issuer (adopted t new) := by
  funext f
  unfold issuerOf
  rw [find?_backfill, Table.find?_insert hu]
  by_cases hf : f = new.fingerprint
  · subst hf
    rw [if_pos new.key_eq, graft_self]
    show (backfillRow new issuer new).issuerFingerprint = issuer
    unfold backfillRow
    cases hauth : new.authorityKeyID with
    | some k => simp [hnew, Certificate.setIssuer]
    | none =>
        -- no authority key id: no candidate either
        have hnone : issuer = none := by
          cases issuer with
          | none => rfl
          | some g =>
              obtain ⟨i, _, _, hi, _⟩ := latestCandidate_some hissuer
              rw [issuedBy_of_no_authority hauth] at hi
              exact absurd hi (by simp)
        simp [issuedBy_of_no_authority hauth, hnew, hnone]
  · have hne : ¬ new.key = f := fun h => hf h.symm
    rw [if_neg hne]
    cases hfind : t.find? f with
    | none =>
        have hS : adopted t new f = false := by simp [adopted, hfind]
        rw [graft_of_not_mem hf hS]
        simp [hfind]
    | some c =>
        have hcf : c.fingerprint = f := fingerprint_of_find? hfind
        have hcne : ¬ c.fingerprint = new.fingerprint := fun h => hf (hcf.symm.trans h)
        show (backfillRow new issuer c).issuerFingerprint = _
        unfold backfillRow
        cases hS : (c.issuedBy new && c.issuerFingerprint.isNone) with
        | true =>
            have hadopted : adopted t new f = true := by simpa [adopted, hfind] using hS
            rw [graft_of_mem hf hadopted]
            simp [hcne, Certificate.setIssuer]
        | false =>
            have hadopted : adopted t new f = false := by simpa [adopted, hfind] using hS
            rw [graft_of_not_mem hf hadopted]
            simp [hcne, hfind]

/-- The invariant, after an insert: the trigger links what can be linked. -/
theorem linked_insert {db db' : DB} {rec : CertificateRecord} {issuer : Option String}
    {u : CertTable} (hdb : Linked db) (hu : db.certificates.insert rec.toRow = some u)
    (hissuer : LatestCandidate u rec.toRow issuer)
    (hdb' : db'.certificates = backfill u rec.toRow issuer) : Linked db' := by
  intro c hc hnone i hi
  rw [hdb'] at hc hi
  obtain ⟨d, hd, rfl⟩ := mem_backfill.mp hc
  obtain ⟨e, he, rfl⟩ := mem_backfill.mp hi
  rw [issuedBy_backfillRow]
  unfold backfillRow at hnone
  split at hnone
  · next h1 =>
      -- the new row, left without an issuer: it had no candidate
      have hinone : issuer = none := hnone
      subst hinone
      simp only [Bool.and_eq_true, decide_eq_true_eq] at h1
      have hdn : d = rec.toRow :=
        Table.eq_of_key hd ((Table.mem_insert hu).mpr (.inr rfl)) h1.1.1
      rw [hdn]
      exact latestCandidate_none hissuer he
  · next h1 =>
      split at hnone
      · exact absurd hnone (by simp [Certificate.setIssuer])
      · next h2 =>
          have hnotnew : d.issuedBy rec.toRow = false := by
            simpa [hnone] using h2
          rcases (Table.mem_insert hu).mp he with he | rfl
          · rcases (Table.mem_insert hu).mp hd with hd | rfl
            · exact hdb d hd hnone e he
            · -- the new row: the first UPDATE skipped it, so it has no authority key id
              apply issuedBy_of_no_authority
              simpa [hnone] using h1
          · exact hnotnew

/-- **On linked certificates ReconcileCertificateChains finds nothing to do.** -/
theorem reconcile_noop {db db' : DB} {choice : String → Option String} (hdb : Linked db)
    (h : step db (.reconcile choice) = some db') : db' = db := by
  obtain ⟨r, hr, rfl⟩ := Option.map_eq_some_iff.mp h
  unfold DB.reconcileCertificateChains at hr
  split at hr
  · next hok =>
      injection hr with hr
      subst hr
      -- a row without an issuer has no candidate that the join could give it
      have hnone : ∀ c ∈ db.certificates, DB.reconciled choice c = false := by
        intro c hc
        cases hc' : c.issuerFingerprint with
        | some f => simp [DB.reconciled, hc']
        | none =>
            cases hch : choice c.fingerprint with
            | none => simp [DB.reconciled, hch]
            | some f =>
                obtain ⟨i, hi, _⟩ := DB.exists_candidate_of_reconciles hok hc hc' hch
                obtain ⟨himem, hissued⟩ := List.mem_filter.mp hi
                rw [hdb c hc hc' i himem] at hissued
                exact absurd hissued (by simp)
      apply DB.ext
      · exact Table.update_eq_self (fun c => c.setIssuer_key _) hnone
      · rfl
      · rfl
      · rfl
      · rfl
  · exact absurd hr (by simp)

/-! ## §5. One step, and runs. -/

theorem linked_step {db db' : DB} {a : Action} (hdb : Linked db) (h : step db a = some db') :
    Linked db' := by
  cases a with
  | insert rec issuer =>
      rcases insert_cases h with ⟨_, rfl⟩ | ⟨_, u, hu, hissuer, hdb'⟩
      · exact hdb
      · exact linked_insert hdb hu hissuer hdb'
  | reconcile choice =>
      rw [reconcile_noop hdb h]
      exact hdb

/-- The certificates that go under the new one, in terms of the rows. -/
theorem adopted_eq_false_iff {t : CertTable} {new : Certificate} {i : String} :
    (∀ r, ReflTransGen (Edge (issuerOf t)) i r → adopted t new r = false)
      ↔ ∀ r ∈ t, ReflTransGen (Edge (issuerOf t)) i r.fingerprint →
          r.issuerFingerprint = none → r.issuedBy new = false := by
  constructor
  · intro h r hr hpath hnone
    have hfind : t.find? r.fingerprint = some r := Table.find?_eq_some_iff.mpr ⟨hr, rfl⟩
    simpa [adopted, hfind, hnone] using h r.fingerprint hpath
  · intro h r hpath
    unfold adopted
    split
    · next c hfind =>
        obtain ⟨hc, rfl⟩ := Table.find?_eq_some_iff.mp hfind
        cases hnone : c.issuerFingerprint with
        | some f => simp
        | none => simp [h c hc hpath hnone]
    · rfl

/-- **One step, exactly**: a step keeps the issuer graph acyclic if and only if it
closes no cycle. -/
theorem sound_step_iff {db db' : DB} {a : Action} (hdb : Linked db) (hs : Sound db)
    (h : step db a = some db') : Sound db' ↔ ClosesNoCycle db a := by
  have hsound : Sound db' ↔ IssuersAcyclic db' :=
    ⟨fun h => h.1, fun h => ⟨h, purgeable_of_acyclic h⟩⟩
  cases a with
  | reconcile choice =>
      rw [reconcile_noop hdb h]
      exact ⟨fun _ => trivial, fun _ => hs⟩
  | insert rec issuer =>
      rcases insert_cases h with ⟨hpresent, rfl⟩ | ⟨habsent, u, hu, hissuer, hdb'⟩
      · exact ⟨fun _ hn => absurd hpresent hn, fun _ => hs⟩
      · rw [hsound]
        unfold IssuersAcyclic
        rw [hdb', issuerOf_backfill rfl hu hissuer]
        -- to the old graph the new certificate is a vertex without edges
        have hfind : db.certificates.find? rec.toRow.fingerprint = none :=
          find?_eq_none_of_not_hasCert habsent
        have hnone : issuerOf db.certificates rec.toRow.fingerprint = none := by
          simp [issuerOf, hfind]
        have hfresh : ∀ f, issuerOf db.certificates f ≠ some rec.toRow.fingerprint := by
          intro f hf
          obtain ⟨c, hc, _, hissued⟩ := edge_iff.mp hf
          exact habsent (db.fks.issuers c hc _ hissued)
        have ho : issuer ≠ some rec.toRow.fingerprint := by
          intro heq
          subst heq
          obtain ⟨_, _, _, _, hne⟩ := latestCandidate_some hissuer
          exact hne rfl
        have hSn : adopted db.certificates rec.toRow rec.toRow.fingerprint = false := by
          simp [adopted, hfind]
        have hS : ∀ f, adopted db.certificates rec.toRow f = true →
            issuerOf db.certificates f = none := by
          intro f hf
          unfold adopted at hf
          split at hf
          · next c hfind =>
              simp only [Bool.and_eq_true, Option.isNone_iff_eq_none] at hf
              simp [issuerOf, hfind, hf.2]
          · exact absurd hf (by simp)
        rw [acyclic_graft_iff hs.1 hnone hfresh ho hSn hS]
        constructor
        · intro hclimb _ i hi
          exact adopted_eq_false_iff.mp (hclimb i hi)
        · intro hcond i hi
          exact adopted_eq_false_iff.mpr (hcond habsent i hi)

/-- **WHEN THE ISSUER GRAPH STAYS ACYCLIC.**  Start from an empty certificates
table.  After any inserts and reconciliations the issuer graph has no cycle, and
every certificate can be purged in some order, if and only if no insert put a new
certificate under one whose chain ends in a certificate that names the new one as
its issuer. -/
theorem issuer_graph_acyclic_iff {db db' : DB} {tr : List (DB × Action)}
    (hempty : db.certificates.rows = []) (r : Exec step db tr db') :
    (∀ u ∈ visited tr db', Sound u) ↔ ∀ p ∈ tr, ClosesNoCycle p.1 p.2 := by
  have hno : ∀ c, c ∉ db.certificates := by
    intro c hc
    rw [Table.mem_def, hempty] at hc
    exact absurd hc List.not_mem_nil
  have hacyc : IssuersAcyclic db := by
    refine acyclic_of_rank (fun _ => 0) (fun a b hab => ?_)
    obtain ⟨c, hc, _⟩ := edge_iff.mp hab
    exact absurd hc (hno c)
  exact r.always_iff (fun _ _ _ hs h => linked_step hs h)
    (fun _ _ _ hl hs h => sound_step_iff hl hs h)
    (fun c hc => absurd hc (hno c)) ⟨hacyc, purgeable_of_acyclic hacyc⟩

/-- An empty database. -/
def emptyDB : DB where
  certificates := Table.empty
  rootStoreAnchors := []
  endpointCerts := []
  endpointScanHistory := []
  discoveryInbox := []
  fks := ⟨by decide, by decide, by decide, by decide⟩

/-- A self-signed root with subject `D` and key `K`. -/
def selfSignedRoot (fingerprint : String) (notAfter : Int) : CertificateRecord where
  fingerprint := fingerprint
  pem := fingerprint
  commonName := "D"
  sans := []
  notAfter := notAfter
  subjectKeyID := "K"
  authorityKeyID := some "K"
  subjectDNHash := "D"
  issuerDNHash := "D"

/-- A root, and its renewal with the same key. -/
def renewedRoot : List Action :=
  [.insert (selfSignedRoot "r1" 100) none, .insert (selfSignedRoot "r2" 200) (some "r1")]

/-- **A renewed root and its predecessor become each other's issuer.** -/
theorem renewed_root_closes_cycle :
    ¬ ∀ (db' : DB) (tr : List (DB × Action)),
        Exec step emptyDB tr db' → ∀ u ∈ visited tr db', Sound u := by
  intro hall
  have hrun : ∃ t, run step emptyDB renewedRoot = some t
      ∧ Edge (issuerOf t.certificates) "r1" "r2" ∧ Edge (issuerOf t.certificates) "r2" "r1" :=
    ⟨_, rfl, rfl, rfl⟩
  obtain ⟨t, hrun, h12, h21⟩ := hrun
  have hsound := hall t _ (exec_traceFrom hrun) t (last_mem_visited _ _)
  exact hsound.1 "r1" (TransGen.tail (TransGen.single h12) h21)

/-- The exact condition on that run. -/
theorem issuer_graph_acyclic_iff_renewed :
    ∃ t, run step emptyDB renewedRoot = some t
      ∧ ((∀ u ∈ visited (traceFrom step emptyDB renewedRoot) t, Sound u)
          ↔ ∀ p ∈ traceFrom step emptyDB renewedRoot, ClosesNoCycle p.1 p.2) := by
  refine ⟨_, rfl, ?_⟩
  exact issuer_graph_acyclic_iff rfl (exec_traceFrom rfl)

end TLSentinel.Certs.IssuerGraph
