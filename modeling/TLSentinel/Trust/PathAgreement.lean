/-
  TLSentinel.Trust.PathAgreement
  ──────────────────────────────
  **THE GROWN EVALUATOR AGAINST A FRESHLY LOADED ONE.**

  The server keeps one evaluator: root-store refreshes reload it, probe results
  grow its intermediates.  `fresh` is what LoadPools would make of the database at
  that moment.  The two sources of intermediates differ in two places: SAMLResult
  stores CA certificates without AddIntermediate, and AddIntermediate takes CA
  certificates whose `trust_anchor` flag keeps them out of ListNonAnchorCertPEMs
  (the cross-signed copies that ReconcileTrustAnchorFlags flags).

  Each ingest and each refresh is one step here; how their parts interleave is the
  subject of `Trust.PoolRace` and `Trust.Freshness`.

  Main results:
    * `pools_agree_iff`     — the pools agree throughout a run, up to certificates
                              signed by nothing but themselves, exactly when every
                              step meets `Pooled`;
    * `verdicts_agree`      — the verdicts do, in a run whose steps all meet it;
    * `verdicts_differ`     — one run for each of the two places.
-/
import TLSentinel.Trust.Ingest

namespace TLSentinel.Trust.PathAgreement

open Foundation TLSentinel.Certs

variable {X : X509}

/-! ## §1. The system. -/

/-- The database and the server's evaluator. -/
structure State (X : X509) where
  db : DB X
  ev : Evaluator X

/-- `LoadPools` of a new evaluator. -/
def fresh (db : DB X) : Evaluator X :=
  (Evaluator.new X).loadPools (some db.listAnchorPEMsByStore) (some db.listNonAnchorCertPEMs)

/-- The server after its start. -/
def boot (db : DB X) : State X := ⟨db, fresh db⟩

/-- What happens, with what the environment decides. -/
inductive Action (X : X509) where
  | probe (pemStr : String) (insertOK : Bool) (issuer : Option String)
  | saml (use pemStr : String) (insertOK : Bool) (issuer : Option String)
  | refresh (f : Fetched X)

/-- One step. -/
def step (s : State X) : Action X → Option (State X)
  | .probe pemStr insertOK issuer =>
      match resultCert s.db s.ev pemStr insertOK issuer with
      | none => none
      | some (db, ev) => some ⟨db, ev⟩
  | .saml use pemStr insertOK issuer =>
      match samlResultCert s.db use pemStr insertOK issuer with
      | none => none
      | some db => some { s with db := db }
  | .refresh f =>
      match refresh f s.db with
      | none => none
      | some db =>
          some ⟨db, s.ev.loadPools (some db.listAnchorPEMsByStore)
            (some db.listNonAnchorCertPEMs)⟩

/-! ## §2. Agreement of the pools, and when a step keeps it. -/

/-- The evaluator has the roots of a fresh one, and its intermediates up to
certificates signed by nothing but themselves. -/
structure PoolsAgree (s : State X) : Prop where
  roots : s.ev.rootPools = newRoots X s.db.listAnchorPEMsByStore
  intermediates : ∀ c, ¬ SelfSignedOnly X.Signs c →
    (c ∈ s.ev.intermediates ↔ s.db.Loadable c)

/-- The condition on a step.  A CA certificate that something else signed
* comes in a probe result only if its row, where it has one, is not flagged as an
  anchor and its PEM still parses;
* comes in a SAML result only if it is stored already. -/
def Pooled (s : State X) : Action X → Prop
  | .probe pemStr insertOK _ =>
      insertOK = true → ∀ c, X.parsePEM pemStr = some c → X.isCA c = true →
        ¬ SelfSignedOnly X.Signs c →
          ∀ rec flag, s.db.row? (X.fingerprint c) = some (rec, flag) →
            flag = false ∧ X.parsePEM rec.pem = some c
  | .saml use pemStr insertOK _ =>
      validUse use = true → insertOK = true → ∀ c, X.parsePEM pemStr = some c →
        X.isCA c = true → ¬ SelfSignedOnly X.Signs c →
          ∃ r, s.db.row? (X.fingerprint c) = some r
  | .refresh _ => True

/-- A verdict written at ingest changes nothing that the evaluator loads. -/
theorem evaluateAndPersist_lists (db : DB X) (ev : Evaluator X) (cert : X.Cert) :
    (evaluateAndPersist db ev cert).listAnchorPEMsByStore = db.listAnchorPEMsByStore
      ∧ (evaluateAndPersist db ev cert).listNonAnchorCertPEMs = db.listNonAnchorCertPEMs := by
  simp only [evaluateAndPersist]
  split
  · exact ⟨rfl, rfl⟩
  · exact ⟨DB.upsertCertificateTrust_listAnchorPEMsByStore _ _ _,
      DB.upsertCertificateTrust_listNonAnchorCertPEMs _ _ _⟩

/-- What a step leaves of the lists and the pools. -/
theorem agree_congr {s t : State X}
    (hanchors : t.db.listAnchorPEMsByStore = s.db.listAnchorPEMsByStore)
    (hlist : t.db.listNonAnchorCertPEMs = s.db.listNonAnchorCertPEMs) (hev : t.ev = s.ev)
    (h : PoolsAgree s) : PoolsAgree t := by
  refine ⟨by rw [hev, hanchors, h.roots], fun c hc => ?_⟩
  rw [hev]
  unfold DB.Loadable
  rw [hlist]
  exact h.intermediates c hc

/-- **What an insert does to the agreement**, when the evaluator is told (`told`) and
when it is not: a certificate that something else signed must come to both pools or
to neither. -/
theorem agree_insert_iff (told : Prop) {s : State X} (t : State X) (hs : PoolsAgree s)
    {cert : X.Cert} {issuer : Option String} {db : DB X} {created : Bool}
    (hins : s.db.insertCertificate cert issuer = some (db, created))
    (hanchors : t.db.listAnchorPEMsByStore = db.listAnchorPEMsByStore)
    (hlist : t.db.listNonAnchorCertPEMs = db.listNonAnchorCertPEMs)
    (hroots : t.ev.rootPools = s.ev.rootPools)
    (hinter : ∀ c, c ∈ t.ev.intermediates
      ↔ c ∈ s.ev.intermediates ∨ (c = cert ∧ X.isCA cert = true ∧ told)) :
    PoolsAgree t ↔ (X.isCA cert = true → ¬ SelfSignedOnly X.Signs cert →
      (s.db.Loadable cert ∨ told
        ↔ s.db.Loadable cert ∨ s.db.row? (X.fingerprint cert) = none)) := by
  have hload : ∀ c, t.db.Loadable c ↔ s.db.Loadable c
      ∨ (c = cert ∧ X.isCA cert = true ∧ s.db.row? (X.fingerprint cert) = none) := by
    intro c
    unfold DB.Loadable
    rw [hlist]
    exact DB.loadable_insertCertificate hins c
  constructor
  · intro hagree hca hself
    have h := hagree.intermediates cert hself
    rw [hinter, hload, hs.intermediates cert hself] at h
    simpa [hca] using h
  · intro hcond
    refine ⟨?_, fun c hself => ?_⟩
    · rw [hroots, hanchors, DB.listAnchorPEMsByStore_insertCertificate hins]
      exact hs.roots
    · rw [hinter, hload, hs.intermediates c hself]
      -- only the inserted certificate can come in
      by_cases hc : c = cert ∧ X.isCA cert = true
      · obtain ⟨rfl, hca⟩ := hc
        simpa [hca] using hcond hca hself
      · have hno : ∀ P : Prop, ¬ (c = cert ∧ X.isCA cert = true ∧ P) :=
          fun _ h => hc ⟨h.1, h.2.1⟩
        rw [or_iff_left (hno _), or_iff_left (hno _)]

/-- A probe result keeps the agreement exactly if it meets the condition. -/
theorem agree_probe_iff {s t : State X} {pemStr : String} {insertOK : Bool}
    {issuer : Option String} (hs : PoolsAgree s)
    (h : step s (.probe pemStr insertOK issuer) = some t) :
    PoolsAgree t ↔ Pooled s (.probe pemStr insertOK issuer) := by
  simp only [step, resultCert] at h
  cases hparse : X.parsePEM pemStr with
  | none =>
      simp only [hparse, Option.some.injEq] at h
      subst h
      exact ⟨fun _ _ c hc => absurd hc (by simp [hparse]), fun _ => agree_congr rfl rfl rfl hs⟩
  | some cert =>
      cases insertOK with
      | false =>
          simp only [hparse, Bool.false_eq_true, if_false, Option.some.injEq] at h
          subst h
          exact ⟨fun _ hok => absurd hok (by simp), fun _ => agree_congr rfl rfl rfl hs⟩
      | true =>
          cases hins : s.db.insertCertificate cert issuer with
          | none => simp [hparse, hins] at h
          | some r =>
              obtain ⟨db, created⟩ := r
              simp only [hparse, if_true, hins, Option.some.injEq] at h
              subst h
              obtain ⟨hanchors, hlist⟩ :=
                evaluateAndPersist_lists db (s.ev.addIntermediate cert) cert
              rw [agree_insert_iff True
                ⟨evaluateAndPersist db (s.ev.addIntermediate cert) cert, s.ev.addIntermediate cert⟩
                hs hins hanchors hlist
                (Evaluator.addIntermediate_rootPools s.ev cert)
                (fun c => by rw [Evaluator.mem_addIntermediate, and_true])]
              constructor
              · intro hboth _ c hc hca hself rec flag hrow
                have hcc : cert = c := Option.some.inj (hparse.symm.trans hc)
                subst hcc
                rcases (hboth hca hself).mp (.inr trivial) with hold | hnone
                · -- its row is one of those that LoadPools takes
                  obtain ⟨_, rec', hrow', hparse'⟩ := DB.loadable_iff.mp hold
                  obtain ⟨rfl, rfl⟩ := Prod.mk.inj (Option.some.inj (hrow.symm.trans hrow'))
                  exact ⟨rfl, hparse'⟩
                · exact absurd (hnone.symm.trans hrow) (by simp)
              · intro hcond hca hself
                refine ⟨fun _ => ?_, fun _ => .inr trivial⟩
                cases hrow : s.db.row? (X.fingerprint cert) with
                | none => exact .inr rfl
                | some r =>
                    obtain ⟨rec, flag⟩ := r
                    obtain ⟨rfl, hp⟩ := hcond rfl cert hparse hca hself rec flag hrow
                    exact .inl (DB.loadable_iff.mpr ⟨hca, rec, hrow, hp⟩)

/-- A SAML result keeps the agreement exactly if it meets the condition. -/
theorem agree_saml_iff {s t : State X} {use pemStr : String} {insertOK : Bool}
    {issuer : Option String} (hs : PoolsAgree s)
    (h : step s (.saml use pemStr insertOK issuer) = some t) :
    PoolsAgree t ↔ Pooled s (.saml use pemStr insertOK issuer) := by
  simp only [step, samlResultCert] at h
  cases huse : validUse use with
  | false =>
      simp only [huse, Bool.false_eq_true, if_false, Option.some.injEq] at h
      subst h
      exact ⟨fun _ hu => absurd (huse.symm.trans hu) (by simp), fun _ => agree_congr rfl rfl rfl hs⟩
  | true =>
      cases hparse : X.parsePEM pemStr with
      | none =>
          simp only [huse, if_true, hparse, Option.some.injEq] at h
          subst h
          exact ⟨fun _ _ _ c hc => absurd hc (by simp [hparse]),
            fun _ => agree_congr rfl rfl rfl hs⟩
      | some cert =>
          cases insertOK with
          | false =>
              simp only [huse, if_true, hparse, Bool.false_eq_true, if_false,
                Option.some.injEq] at h
              subst h
              exact ⟨fun _ _ hok => absurd hok (by simp), fun _ => agree_congr rfl rfl rfl hs⟩
          | true =>
              cases hins : s.db.insertCertificate cert issuer with
              | none => simp [huse, hparse, hins] at h
              | some r =>
                  obtain ⟨db, created⟩ := r
                  simp only [huse, if_true, hparse, hins, Option.map_some,
                    Option.some.injEq] at h
                  subst h
                  rw [agree_insert_iff False ⟨db, s.ev⟩ hs hins rfl rfl rfl (fun c => by simp)]
                  constructor
                  · intro hboth _ _ c hc hca hself
                    have hcc : cert = c := Option.some.inj (hparse.symm.trans hc)
                    subst hcc
                    cases hrow : s.db.row? (X.fingerprint cert) with
                    | some r => exact ⟨r, rfl⟩
                    | none =>
                        -- a loadable certificate has a row
                        rcases (hboth hca hself).mpr (.inr hrow) with hold | hfalse
                        · obtain ⟨_, _, hrow', _⟩ := DB.loadable_iff.mp hold
                          exact absurd (hrow.symm.trans hrow') (by simp)
                        · exact hfalse.elim
                  · intro hcond hca hself
                    obtain ⟨r, hr⟩ := hcond huse rfl cert hparse hca hself
                    simp [hr]

/-- A refresh makes the pools agree, whatever they were. -/
theorem agree_refresh {s t : State X} {f : Fetched X} (h : step s (.refresh f) = some t) :
    PoolsAgree t := by
  simp only [step] at h
  split at h
  · exact absurd h (by simp)
  · injection h with h
    subst h
    exact ⟨rfl, fun _ _ => Iff.rfl⟩

/-- **A step keeps the agreement exactly if it meets the condition.** -/
theorem agree_step_iff {s t : State X} {a : Action X} (hs : PoolsAgree s)
    (h : step s a = some t) : PoolsAgree t ↔ Pooled s a := by
  cases a with
  | probe pemStr insertOK issuer => exact agree_probe_iff hs h
  | saml use pemStr insertOK issuer => exact agree_saml_iff hs h
  | refresh f => exact ⟨fun _ => trivial, fun _ => agree_refresh h⟩

/-! ## §3. Runs. -/

theorem agree_boot (db : DB X) : PoolsAgree (boot db) := ⟨rfl, fun _ _ => Iff.rfl⟩

/-- **The pools agree throughout a run exactly when its steps all meet the
condition.** -/
theorem pools_agree_iff (db : DB X) {tr : List (State X × Action X)} {t : State X}
    (e : Exec step (boot db) tr t) :
    (∀ u ∈ visited tr t, PoolsAgree u) ↔ ∀ p ∈ tr, Pooled p.1 p.2 :=
  e.always_iff (J := fun _ => True) (fun _ _ _ _ _ => trivial)
    (fun _ _ _ _ hs h => agree_step_iff hs h) trivial (agree_boot db)

/-- Evaluators with agreeing pools give the same verdicts. -/
theorem PoolsAgree.evaluate_eq {s : State X} (h : PoolsAgree s) (c : X.Cert) :
    s.ev.evaluate c = (fresh s.db).evaluate c :=
  Evaluator.evaluate_eq_of_agree h.roots h.intermediates c

/-- **THE VERDICTS AGREE.**  In a run from the server's start whose steps all meet
the condition, the server's evaluator and a freshly loaded one give every
certificate the same verdict for every root store, in every state. -/
theorem verdicts_agree (db : DB X) {tr : List (State X × Action X)} {t : State X}
    (e : Exec step (boot db) tr t) (hcond : ∀ p ∈ tr, Pooled p.1 p.2) :
    ∀ u ∈ visited tr t, ∀ c, u.ev.evaluate c = (fresh u.db).evaluate c :=
  fun u hu c => ((pools_agree_iff db e).mpr hcond u hu).evaluate_eq c

/-! ## §4. The two places where they differ. -/

/-- A refresh that anchors the first root at Mozilla and the second one at Apple. -/
def sampleRefresh : Fetched samplePKI where
  matrix := [⟨"root", false, false, false, true⟩, ⟨"other", true, false, false, false⟩]
  pems f := SampleCert.parse f
  issuers _ := none
  entryFails _ := false
  replaceFails _ := false
  reconcileFails := false

/-- The theorem at a run that refreshes and then takes the intermediate from a probe
result. -/
theorem verdicts_agree_probe :
    ∃ tr t, Exec step (boot (emptyDB samplePKI)) tr t ∧ tr.length = 2
      ∧ ∀ u ∈ visited tr t, ∀ c, u.ev.evaluate c = (fresh u.db).evaluate c := by
  have hrun : ∃ s t, step (boot (emptyDB samplePKI)) (.refresh sampleRefresh) = some s
      ∧ step s (.probe "inter" true (some "root")) = some t
      ∧ s.db.row? "inter" = none := ⟨_, _, rfl, rfl, rfl⟩
  obtain ⟨s, t, hrefresh, hprobe, hnew⟩ := hrun
  have e := Exec.cons hrefresh (Exec.cons hprobe (Exec.refl t))
  refine ⟨_, t, e, rfl, verdicts_agree (emptyDB samplePKI) e ?_⟩
  intro p hp
  rcases List.mem_cons.mp hp with rfl | hp
  · trivial
  · have hp : p = (s, .probe "inter" true (some "root")) := by simpa using hp
    subst hp
    intro _ c hc _ _ rec flag hrow
    have hinter : c = SampleCert.inter := (Option.some.inj hc).symm
    subst hinter
    exact absurd (hnew.symm.trans hrow) (by simp)

/-- After the refresh the intermediate comes in SAML metadata. -/
def samlRun : List (Action samplePKI) :=
  [.refresh sampleRefresh, .saml "signing" "inter" true (some "root")]

/-- The copy of the first root comes in a probe result before the refresh, which
flags it, and again after it. -/
def crossRun : List (Action samplePKI) :=
  [.probe "cross" true none, .refresh sampleRefresh, .probe "cross" true none]

/-- **The verdicts differ**: after the SAML result only the fresh evaluator trusts
the leaf for Mozilla; after the flagged copy has come again only the server's trusts
the intermediate for Apple. -/
theorem verdicts_differ :
    (∃ tr t, Exec step (boot (emptyDB samplePKI)) tr t
      ∧ ∃ u ∈ visited tr t, u.ev.evaluate .leaf ≠ (fresh u.db).evaluate .leaf)
    ∧ ∃ tr t, Exec step (boot (emptyDB samplePKI)) tr t
      ∧ ∃ u ∈ visited tr t, u.ev.evaluate .inter ≠ (fresh u.db).evaluate .inter := by
  constructor
  · have hrun : ∃ t, run step (boot (emptyDB samplePKI)) samlRun = some t
        ∧ t.ev.evaluate .leaf ≠ (fresh t.db).evaluate .leaf := ⟨_, rfl, by decide⟩
    obtain ⟨t, ht, hne⟩ := hrun
    exact ⟨_, t, exec_traceFrom ht, t, last_mem_visited _ t, hne⟩
  · have hrun : ∃ t, run step (boot (emptyDB samplePKI)) crossRun = some t
        ∧ t.ev.evaluate .inter ≠ (fresh t.db).evaluate .inter := ⟨_, rfl, by decide⟩
    obtain ⟨t, ht, hne⟩ := hrun
    exact ⟨_, t, exec_traceFrom ht, t, last_mem_visited _ t, hne⟩

end TLSentinel.Trust.PathAgreement
