/-
  TLSentinel.Trust.Ingest
  ───────────────────────
  **WHERE CERTIFICATES COME FROM: PROBE RESULTS, SAML RESULTS, ROOT STORES.**

  The loops of `Result` and `SAMLResult` in `internal/probe/handler.go`, and
  `Refresh` of `internal/rootstore/refresh.go`.

  One certificate's way through the loop of `Result` is a thread of atomic steps
  (`Ingest.step`): the insert, `AddIntermediate`, `Evaluate`,
  `UpsertCertificateTrust`.  `resultCert` is the same loop body run without a
  break.  The certificates of one request come one after the other; taking each as
  a thread of its own allows these orders and more.

  The endpoint's own state (`RecordScanResult`, `UpsertEndpointCert`, the SAML
  metadata) is left out: the evaluator reads none of it.

  Main results:
    * `Ingest.step_cases`   — everything a step of an ingest can do;
    * `Ingest.exists_run_resultCert` — the loop body is a run of its steps.
-/
import TLSentinel.Foundation.Runs
import TLSentinel.Trust.Store

namespace TLSentinel.Trust

open Foundation TLSentinel.Certs

variable {X : X509}

/-! ## §1. The loop of `Result`. -/

/-- `evaluateAndPersist`. -/
def evaluateAndPersist (db : DB X) (ev : Evaluator X) (cert : X.Cert) : DB X :=
  let verdicts := ev.evaluate cert
  if verdicts.isEmpty then db
  else db.upsertCertificateTrust (X.fingerprint cert) verdicts

/-- One round of the loop of `Result`.  `insertOK` says whether the database takes
the insert; `issuer` is the answer of the trigger's subquery. -/
def resultCert (db : DB X) (ev : Evaluator X) (pemStr : String) (insertOK : Bool)
    (issuer : Option String) : Option (DB X × Evaluator X) :=
  match X.parsePEM pemStr with
  | none => some (db, ev)
  | some cert =>
      if insertOK then
        match db.insertCertificate cert issuer with
        | none => none
        | some (db, _) =>
            let ev := ev.addIntermediate cert
            some (evaluateAndPersist db ev cert, ev)
      else some (db, ev)

/-- How far a certificate has come in that round. -/
inductive Ingest (X : X509) where
  | idle
  | inserted (cert : X.Cert)
  | added (cert : X.Cert)
  | evaluated (cert : X.Cert) (verdicts : List (String × Result))
  | done (cert : X.Cert)
  | skipped

namespace Ingest

/-- The certificate whose `AddIntermediate` has returned. -/
def addedCert : Ingest X → Option X.Cert
  | added cert => some cert
  | evaluated cert _ => some cert
  | done cert => some cert
  | _ => none

/-- Nothing left to do. -/
def finished : Ingest X → Bool
  | idle => true
  | done _ => true
  | skipped => true
  | _ => false

/-- The steps, with what the environment decides. -/
inductive Action where
  | insert (pemStr : String) (insertOK : Bool) (issuer : Option String)
  | addIntermediate
  | evaluate
  | upsert (upsertOK : Bool)
  deriving DecidableEq, Repr

/-- An ingest with what it shares with the others. -/
structure State (X : X509) where
  db : DB X
  ev : Evaluator X
  ingest : Ingest X

/-- One step of an ingest. -/
def step (s : State X) : Action → Option (State X)
  | .insert pemStr insertOK issuer =>
      match s.ingest with
      | idle =>
          match X.parsePEM pemStr with
          | none => some { s with ingest := skipped }
          | some cert =>
              if insertOK then
                match s.db.insertCertificate cert issuer with
                | none => none
                -- created or not, the certificate goes on
                | some (db, _) => some { s with db := db, ingest := inserted cert }
              else some { s with ingest := skipped }
      | _ => none
  | .addIntermediate =>
      match s.ingest with
      | inserted cert =>
          some { s with ev := s.ev.addIntermediate cert, ingest := added cert }
      | _ => none
  | .evaluate =>
      match s.ingest with
      | added cert =>
          let verdicts := s.ev.evaluate cert
          -- no pools, no verdicts: there is nothing to persist
          if verdicts.isEmpty then some { s with ingest := done cert }
          else some { s with ingest := evaluated cert verdicts }
      | _ => none
  | .upsert upsertOK =>
      match s.ingest with
      | evaluated cert verdicts =>
          if upsertOK then
            some { s with
              db := s.db.upsertCertificateTrust (X.fingerprint cert) verdicts
              ingest := done cert }
          else some { s with ingest := done cert }
      | _ => none

/-- Everything a step can do. -/
inductive Effect (s : State X) : Action → State X → Prop
  | skip {pemStr : String} {insertOK : Bool} {issuer : Option String} : s.ingest = idle →
      Effect s (.insert pemStr insertOK issuer) { s with ingest := skipped }
  | insert {pemStr : String} {cert : X.Cert} {issuer : Option String} {db : DB X}
      {created : Bool} :
      s.ingest = idle → s.db.insertCertificate cert issuer = some (db, created) →
      Effect s (.insert pemStr true issuer) { s with db := db, ingest := inserted cert }
  | add {cert : X.Cert} : s.ingest = inserted cert →
      Effect s .addIntermediate
        { s with ev := s.ev.addIntermediate cert, ingest := added cert }
  | noVerdict {cert : X.Cert} : s.ingest = added cert →
      Effect s .evaluate { s with ingest := done cert }
  | evaluate {cert : X.Cert} : s.ingest = added cert →
      Effect s .evaluate { s with ingest := evaluated cert (s.ev.evaluate cert) }
  | upsert {cert : X.Cert} {verdicts : List (String × Result)} :
      s.ingest = evaluated cert verdicts →
      Effect s (.upsert true) { s with
        db := s.db.upsertCertificateTrust (X.fingerprint cert) verdicts
        ingest := done cert }
  | upsertFails {cert : X.Cert} {verdicts : List (String × Result)} :
      s.ingest = evaluated cert verdicts →
      Effect s (.upsert false) { s with ingest := done cert }

/-- **A step has one of these effects.** -/
theorem step_cases {s t : State X} {a : Action} (h : step s a = some t) : Effect s a t := by
  cases a with
  | insert pemStr insertOK issuer =>
      simp only [step] at h
      split at h
      · next hidle =>
          split at h
          · injection h with h
            exact h ▸ Effect.skip hidle
          · next cert hcert =>
              split at h
              · next hok =>
                  split at h
                  · exact absurd h (by simp)
                  · next db created hdb =>
                      injection h with h
                      subst hok
                      exact h ▸ Effect.insert hidle hdb
              · injection h with h
                exact h ▸ Effect.skip hidle
      · exact absurd h (by simp)
  | addIntermediate =>
      simp only [step] at h
      split at h
      · next cert hcert =>
          injection h with h
          exact h ▸ Effect.add hcert
      · exact absurd h (by simp)
  | evaluate =>
      simp only [step] at h
      split at h
      · next cert hcert =>
          split at h
          · injection h with h
            exact h ▸ Effect.noVerdict hcert
          · injection h with h
            exact h ▸ Effect.evaluate hcert
      · exact absurd h (by simp)
  | upsert upsertOK =>
      simp only [step] at h
      split at h
      · next cert verdicts hcert =>
          cases upsertOK with
          | true =>
              injection h with h
              exact h ▸ Effect.upsert hcert
          | false =>
              injection h with h
              exact h ▸ Effect.upsertFails hcert
      · exact absurd h (by simp)

/-- The certificate whose insert has returned. -/
def storedCert : Ingest X → Option X.Cert
  | inserted cert => some cert
  | i => i.addedCert

/-- A stored row keeps its record and its flag. -/
theorem Effect.row? {s t : State X} {a : Action} (h : Effect s a t) {f : String}
    {r : CertificateRecord × Bool} (hr : s.db.row? f = some r) : t.db.row? f = some r := by
  cases h with
  | insert _ hins => exact DB.row?_of_insertCertificate hins hr
  | upsert _ => exact (DB.upsertCertificateTrust_row? _ _ _ _).trans hr
  | _ => exact hr

/-- The anchors and their PEMs stay. -/
theorem Effect.listAnchorPEMsByStore {s t : State X} {a : Action} (h : Effect s a t) :
    t.db.listAnchorPEMsByStore = s.db.listAnchorPEMsByStore := by
  cases h with
  | insert _ hins => exact DB.listAnchorPEMsByStore_insertCertificate hins
  | upsert _ => exact DB.upsertCertificateTrust_listAnchorPEMsByStore _ _ _
  | _ => rfl

/-- The root pools stay. -/
theorem Effect.rootPools {s t : State X} {a : Action} (h : Effect s a t) :
    t.ev.rootPools = s.ev.rootPools := by
  cases h with
  | add _ => exact Evaluator.addIntermediate_rootPools _ _
  | _ => rfl

/-- The intermediates grow. -/
theorem Effect.intermediates {s t : State X} {a : Action} (h : Effect s a t) {c : X.Cert}
    (hc : c ∈ s.ev.intermediates) : c ∈ t.ev.intermediates := by
  cases h with
  | add _ => exact Evaluator.mem_addIntermediate.mpr (.inl hc)
  | _ => exact hc

/-- What becomes loadable was not stored before. -/
theorem Effect.loadable {s t : State X} {a : Action} (h : Effect s a t) {c : X.Cert}
    (hc : t.db.Loadable c) :
    s.db.Loadable c ∨ s.db.row? (X.fingerprint c) = none := by
  cases h with
  | insert _ hins =>
      rcases (DB.loadable_insertCertificate hins c).mp hc with hold | ⟨rfl, _, hnone⟩
      · exact .inl hold
      · exact .inr hnone
  | upsert _ => exact .inl (by simpa [DB.Loadable] using hc)
  | _ => exact .inl hc

/-- The certificate of an ingest is stored, if it was. -/
theorem Effect.stored {s t : State X} {a : Action} (h : Effect s a t)
    (hs : ∀ c, s.ingest.storedCert = some c → ∃ r, s.db.row? (X.fingerprint c) = some r) :
    ∀ c, t.ingest.storedCert = some c → ∃ r, t.db.row? (X.fingerprint c) = some r := by
  intro c hc
  cases h with
  | skip _ => exact absurd hc (by simp [storedCert, addedCert])
  | insert _ hins =>
      have heq := Option.some.inj hc
      subst heq
      exact DB.exists_row?_of_insertCertificate hins
  | add h => exact hs c (by rw [h]; exact hc)
  | noVerdict h => exact hs c (by rw [h]; exact hc)
  | evaluate h => exact hs c (by rw [h]; exact hc)
  | upsert h =>
      obtain ⟨r, hr⟩ := hs c (by rw [h]; exact hc)
      exact ⟨r, (DB.upsertCertificateTrust_row? _ _ _ _).trans hr⟩
  | upsertFails h => exact hs c (by rw [h]; exact hc)

/-- An ingest whose `AddIntermediate` has returned had it return before, or adds its
certificate in this step. -/
theorem Effect.addedCert {s t : State X} {a : Action} (h : Effect s a t) {c : X.Cert}
    (hc : t.ingest.addedCert = some c) :
    s.ingest.addedCert = some c ∨ (X.isCA c = true → c ∈ t.ev.intermediates) := by
  cases h with
  | skip _ => exact absurd hc (by simp [Ingest.addedCert])
  | insert _ _ => exact absurd hc (by simp [Ingest.addedCert])
  | add h =>
      have heq := Option.some.inj hc
      subst heq
      exact .inr fun hca => Evaluator.mem_addIntermediate.mpr (.inr ⟨rfl, hca⟩)
  | noVerdict h => exact .inl (by rw [h]; exact hc)
  | evaluate h => exact .inl (by rw [h]; exact hc)
  | upsert h => exact .inl (by rw [h]; exact hc)
  | upsertFails h => exact .inl (by rw [h]; exact hc)

/-- Verdicts that wait to be written were just computed. -/
theorem Effect.waiting_verdicts {s t : State X} {a : Action} (h : Effect s a t) {c : X.Cert}
    {v : List (String × Result)} (hc : t.ingest = evaluated c v) :
    t.ev = s.ev ∧ v = s.ev.evaluate c := by
  cases h with
  | evaluate _ =>
      injection hc with hcert hv
      subst hcert
      exact ⟨rfl, hv.symm⟩
  | _ => exact absurd hc (by simp)

/-- A verdict row is an old one, or one of those that waited. -/
theorem Effect.certificateTrust {s t : State X} {a : Action} (h : Effect s a t)
    {row : CertificateTrust} (hrow : row ∈ t.db.certificateTrust) :
    row ∈ s.db.certificateTrust
      ∨ ∃ c v, a = .upsert true ∧ s.ingest = evaluated c v
          ∧ ∃ w ∈ v, row = DB.trustRow (X.fingerprint c) w := by
  cases h with
  | insert _ hins =>
      rw [(DB.insertCertificate_parts hins).2] at hrow
      exact .inl hrow
  | @upsert cert v h =>
      rcases DB.mem_upsertCertificateTrust hrow with ⟨hold, _⟩ | hw
      · exact .inl hold
      · exact .inr ⟨cert, v, rfl, h, hw⟩
  | _ => exact .inl hrow

/-- **The loop body is a run of its steps**, one after the other. -/
theorem exists_run_resultCert {db db' : DB X} {ev ev' : Evaluator X} {pemStr : String}
    {insertOK : Bool} {issuer : Option String}
    (h : resultCert db ev pemStr insertOK issuer = some (db', ev')) :
    ∃ as i, run step ⟨db, ev, idle⟩ as = some ⟨db', ev', i⟩ ∧ i.finished = true := by
  unfold resultCert at h
  cases hparse : X.parsePEM pemStr with
  | none =>
      simp only [hparse, Option.some.injEq, Prod.mk.injEq] at h
      obtain ⟨rfl, rfl⟩ := h
      exact ⟨[.insert pemStr insertOK issuer], skipped, by simp [run, step, hparse], rfl⟩
  | some cert =>
      simp only [hparse] at h
      cases insertOK with
      | false =>
          simp only [Bool.false_eq_true, if_false, Option.some.injEq, Prod.mk.injEq] at h
          obtain ⟨rfl, rfl⟩ := h
          exact ⟨[.insert pemStr false issuer], skipped, by simp [run, step, hparse], rfl⟩
      | true =>
          simp only [if_true] at h
          cases hins : db.insertCertificate cert issuer with
          | none => simp [hins] at h
          | some r =>
              simp only [hins, Option.some.injEq, Prod.mk.injEq] at h
              obtain ⟨rfl, rfl⟩ := h
              by_cases hempty : ((ev.addIntermediate cert).evaluate cert).isEmpty = true
              · refine ⟨[.insert pemStr true issuer, .addIntermediate, .evaluate], done cert,
                  ?_, rfl⟩
                simp [run, step, hparse, hins, evaluateAndPersist, hempty]
              · refine ⟨[.insert pemStr true issuer, .addIntermediate, .evaluate, .upsert true],
                  done cert, ?_, rfl⟩
                simp [run, step, hparse, hins, evaluateAndPersist, hempty]

end Ingest

/-! ## §2. The loop of `SAMLResult`. -/

/-- The uses `SAMLResult` accepts. -/
def validUse (use : String) : Bool := decide (use = "signing") || decide (use = "encryption")

/-- One round of the loop of `SAMLResult`: the certificate is stored; the evaluator
is not told. -/
def samlResultCert (db : DB X) (use pemStr : String) (insertOK : Bool)
    (issuer : Option String) : Option (DB X) :=
  if validUse use then
    match X.parsePEM pemStr with
    | none => some db
    | some cert =>
        if insertOK then (db.insertCertificate cert issuer).map Prod.fst else some db
  else some db

/-! ## §3. `rootstore.Refresh`. -/

/-- `trustEntry`: a row of the CCADB trust matrix. -/
structure TrustEntry where
  fingerprint : String
  inApple : Bool
  inChrome : Bool
  inMicrosoft : Bool
  inMozilla : Bool
  deriving DecidableEq, Repr

/-- What a refresh has fetched, and what the database does to its statements. -/
structure Fetched (X : X509) where
  matrix : List TrustEntry
  /-- The parsed PEM bundles, by fingerprint. -/
  pems : String → Option X.Cert
  /-- The answers of the trigger's subquery. -/
  issuers : String → Option String
  /-- The entries whose statement fails. -/
  entryFails : String → Bool
  /-- The stores whose anchors cannot be replaced. -/
  replaceFails : String → Bool
  reconcileFails : Bool

/-- One row of the matrix: its certificate is upserted or, without a PEM, an existing
one is marked; what is stored then goes into the per-store lists. -/
def processEntry (pems : String → Option X.Cert) (issuer : Option String) (db : DB X)
    (accepted : List TrustEntry) (e : TrustEntry) : Option (DB X × List TrustEntry) :=
  match pems e.fingerprint with
  | some cert => (db.upsertTrustAnchor cert issuer).map (fun db => (db, accepted ++ [e]))
  | none =>
      let (db, existed) := db.markTrustAnchor e.fingerprint
      some (db, if existed then accepted ++ [e] else accepted)

/-- `perStore`: the fingerprints of each builtin store.  The code ranges over them
in no fixed order; each replacement touches its own store only. -/
def perStore (accepted : List TrustEntry) : List (String × List String) :=
  [("apple", (accepted.filter TrustEntry.inApple).map TrustEntry.fingerprint),
   ("chrome", (accepted.filter TrustEntry.inChrome).map TrustEntry.fingerprint),
   ("microsoft", (accepted.filter TrustEntry.inMicrosoft).map TrustEntry.fingerprint),
   ("mozilla", (accepted.filter TrustEntry.inMozilla).map TrustEntry.fingerprint)]

/-- `Refresh`, after the downloads: a failed statement is logged and passed over. -/
def refresh (f : Fetched X) (db : DB X) : Option (DB X) :=
  match f.matrix.foldlM (fun (p : DB X × List TrustEntry) e =>
      if f.entryFails e.fingerprint then some p
      else processEntry f.pems (f.issuers e.fingerprint) p.1 p.2 e) (db, []) with
  | none => none
  | some (db, accepted) =>
      let db := (perStore accepted).foldl (fun db p =>
        if f.replaceFails p.1 then db
        else (db.replaceRootStoreAnchors p.1 p.2).getD db) db
      if f.reconcileFails then some db else some db.reconcileTrustAnchorFlags.1

end TLSentinel.Trust
