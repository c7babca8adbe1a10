/-
  TLSentinel.Trust.Freshness
  ──────────────────────────
  **CERTIFICATE_TRUST AFTER A REFRESH CYCLE.**

  One cycle is `rootstore.Refresh`, `LoadPools` and `ReevaluateAll`, every
  statement and every swap one atomic step; any number of probe ingests interleave
  with it, their `Evaluate` and their `UpsertCertificateTrust` being separate
  steps.  A row is fresh when its store's current anchors verify the certificate.

  A trusted row can be left stale in two ways.  ReevaluateAll writes rows only for
  the stores that have a pool, and a store without anchors has none.  An ingest
  that evaluated on the old pools can write after ReevaluateAll has passed its
  certificate.

  Main results:
    * `inv_step`            — a step that meets `Timely` keeps the invariant;
    * `rows_fresh`          — a completed cycle leaves no stale row, in a run whose
                              steps all meet `Timely`;
    * `stale_row`           — a cycle that leaves a store without anchors.
-/
import TLSentinel.Trust.Ingest

namespace TLSentinel.Trust.Freshness

open Foundation TLSentinel.Certs

variable {X : X509}

/-! ## §1. The system. -/

/-- How far the cycle has come, with its local variables. -/
inductive Cycle where
  /-- `Refresh`: the matrix entries still to be processed, and those accepted. -/
  | entries (todo accepted : List TrustEntry)
  /-- `Refresh`: the stores whose anchors are still to be replaced. -/
  | stores (todo : List (String × List String))
  | reconciling
  /-- `LoadPools` is next. -/
  | refreshed
  | anchorsListed (anchors : List (String × List String))
  | listed (anchors : List (String × List String)) (nonAnchors : List (String × String))
  /-- `ReevaluateAll` is next. -/
  | swapped
  /-- `ReevaluateAll`: the certificates still to be written, and the verdicts of the
  first one once it is evaluated. -/
  | reevaluating (todo : List (String × String)) (verdicts : Option (List (String × Result)))
  | done

/-- The pools have been swapped in. -/
def Cycle.loaded : Cycle → Bool
  | swapped => true
  | reevaluating _ _ => true
  | done => true
  | _ => false

/-- ReevaluateAll is still to write the certificate, if it is stored. -/
def Cycle.Rewrites : Cycle → String → Prop
  | reevaluating todo _, fp => fp ∈ todo.map Prod.fst
  | done, _ => False
  | _, _ => True

/-- The database, the evaluator, the cycle and the ingests. -/
structure State (X : X509) where
  db : DB X
  ev : Evaluator X
  cycle : Cycle
  ingests : Nat → Ingest X
  /-- History: the latest step of the ingest came before the swap. -/
  early : Nat → Bool

/-- Who moves.  `issuer` is the answer of the trigger's subquery. -/
inductive Action where
  | cycle (issuer : Option String)
  | ingest (i : Nat) (a : Ingest.Action)

/-- One step of a cycle none of whose statements fails; `pems` are the fetched
bundles. -/
def cycleStep (pems : String → Option X.Cert) (issuer : Option String) (db : DB X)
    (ev : Evaluator X) : Cycle → Option (DB X × Evaluator X × Cycle)
  -- every builtin store comes next, also one that nothing was accepted for
  | .entries [] accepted => some (db, ev, .stores (perStore accepted))
  | .entries (e :: todo) accepted =>
      match processEntry pems issuer db accepted e with
      | none => none
      | some (db, accepted) => some (db, ev, .entries todo accepted)
  | .stores [] => some (db, ev, .reconciling)
  | .stores (p :: todo) =>
      match db.replaceRootStoreAnchors p.1 p.2 with
      | none => none
      | some db => some (db, ev, .stores todo)
  | .reconciling => some (db.reconcileTrustAnchorFlags.1, ev, .refreshed)
  | .refreshed => some (db, ev, .anchorsListed db.listAnchorPEMsByStore)
  | .anchorsListed anchors => some (db, ev, .listed anchors db.listNonAnchorCertPEMs)
  | .listed anchors nonAnchors =>
      some (db, ev.loadPools (some anchors) (some nonAnchors), .swapped)
  | .swapped => some (db, ev, .reevaluating db.forEachCert none)
  | .reevaluating [] _ => some (db, ev, .done)
  | .reevaluating ((fp, p) :: todo) none =>
      match X.parsePEM p with
      -- a PEM that does not parse is logged and skipped
      | none => some (db, ev, .reevaluating todo none)
      | some cert => some (db, ev, .reevaluating ((fp, p) :: todo) (some (ev.evaluate cert)))
  | .reevaluating ((fp, _) :: todo) (some verdicts) =>
      some (db.upsertCertificateTrust fp verdicts, ev, .reevaluating todo none)
  | .done => none

/-- One step of the system. -/
def step (pems : String → Option X.Cert) (s : State X) : Action → Option (State X)
  | .cycle issuer =>
      match cycleStep pems issuer s.db s.ev s.cycle with
      | none => none
      | some (db, ev, cycle) => some { s with db := db, ev := ev, cycle := cycle }
  | .ingest i a =>
      match Ingest.step ⟨s.db, s.ev, s.ingests i⟩ a with
      | none => none
      | some u =>
          some { s with
            db := u.db
            ev := u.ev
            ingests := Function.update s.ingests i u.ingest
            early := Function.update s.early i (!s.cycle.loaded) }

/-- Before the cycle and the ingests. -/
def start (db : DB X) (ev : Evaluator X) (matrix : List TrustEntry) : State X :=
  ⟨db, ev, .entries matrix [], fun _ => .idle, fun _ => false⟩

/-! ## §2. The property and the condition. -/

/-- The row is of a certificate whose stored PEM parses to `c`. -/
def ParsesTo (db : DB X) (fp : String) (c : X.Cert) : Prop :=
  ∃ rec flag, db.row? fp = some (rec, flag) ∧ X.parsePEM rec.pem = some c

/-- Every trusted row of a parseable certificate is for a store that has anchors, and
whose current anchors verify the certificate. -/
def Fresh (s : State X) : Prop :=
  ∀ row ∈ s.db.certificateTrust, row.trusted = true → ∀ c, ParsesTo s.db row.fingerprint c →
    (∃ a ∈ s.db.rootStoreAnchors, a.rootStoreID = row.rootStoreID)
      ∧ ∃ roots, (row.rootStoreID, roots) ∈ newRoots X s.db.listAnchorPEMsByStore
          ∧ verify X.signedBy roots s.ev.intermediates c = true

/-- The condition on a step.
* The swap: every store with a trusted row of a parseable certificate, or with a
  trusted verdict that an ingest has yet to write, is among the stores whose anchors
  were listed.
* An ingest's write of verdicts from before the swap: none of them is trusted, or
  ReevaluateAll has not written the certificate yet. -/
def Timely (s : State X) : Action → Prop
  | .cycle _ =>
      ∀ anchors nonAnchors, s.cycle = .listed anchors nonAnchors →
        (∀ row ∈ s.db.certificateTrust, row.trusted = true →
          (∃ c, ParsesTo s.db row.fingerprint c) → row.rootStoreID ∈ anchors.map Prod.fst)
        ∧ ∀ i c v, s.ingests i = .evaluated c v → ∀ w ∈ v, w.2.trusted = true →
            w.1 ∈ anchors.map Prod.fst
  | .ingest i (.upsert true) =>
      ∀ c v, s.ingests i = .evaluated c v → s.early i = true →
        ∀ w ∈ v, w.2.trusted = true → s.cycle.Rewrites (X.fingerprint c)
  | .ingest _ _ => True

/-! ## §3. The invariant. -/

/-- What holds once the pools have been swapped in. -/
structure Loaded (s : State X) : Prop where
  /-- The root pools are those of the current anchors. -/
  roots : s.ev.rootPools = newRoots X s.db.listAnchorPEMsByStore
  /-- A trusted row is right, or will be rewritten. -/
  rows : ∀ row ∈ s.db.certificateTrust, row.trusted = true →
    ∀ c, ParsesTo s.db row.fingerprint c → s.ev.Verifies row.rootStoreID c
      ∨ (s.cycle.Rewrites row.fingerprint ∧ row.rootStoreID ∈ s.ev.rootPools.map Prod.fst)
  /-- A trusted verdict yet to be written is right, or from before the swap. -/
  waiting : ∀ i c v, s.ingests i = .evaluated c v → ∀ w ∈ v, w.2.trusted = true →
    s.ev.Verifies w.1 c ∨ (s.early i = true ∧ w.1 ∈ s.ev.rootPools.map Prod.fst)
  /-- What ReevaluateAll has yet to write is as stored. -/
  todo : ∀ todo v, s.cycle = .reevaluating todo v → ∀ fp p, (fp, p) ∈ todo →
    ∃ rec flag, s.db.row? fp = some (rec, flag) ∧ rec.pem = p
  /-- The verdicts it is about to write are right, and for every store. -/
  verdicts : ∀ fp p todo v, s.cycle = .reevaluating ((fp, p) :: todo) (some v) →
    ∃ c, X.parsePEM p = some c ∧ (∀ w ∈ v, w.2.trusted = true → s.ev.Verifies w.1 c)
      ∧ v.map Prod.fst = s.ev.rootPools.map Prod.fst

/-- The invariant of the system. -/
structure Inv (s : State X) : Prop where
  /-- Before the swap every verdict yet to be written is from before the swap. -/
  early : s.cycle.loaded = false → ∀ i c v, s.ingests i = .evaluated c v → s.early i = true
  /-- The listed anchors are the current ones. -/
  listed : ∀ anchors, s.cycle = .anchorsListed anchors ∨ (∃ n, s.cycle = .listed anchors n) →
    anchors = s.db.listAnchorPEMsByStore
  loaded : s.cycle.loaded = true → Loaded s

/-- A PEM parses to one certificate, that of its fingerprint. -/
theorem ParsesTo.fingerprint {db : DB X} {fp : String} {c : X.Cert} (h : ParsesTo db fp c) :
    X.fingerprint c = fp := by
  obtain ⟨rec, flag, hrow, hparse⟩ := h
  exact DB.fingerprint_of_row? hrow hparse

/-- What parses to a certificate after an ingest's step did so before, if it was
stored. -/
theorem parsesTo_of_effect {s t : Ingest.State X} {a : Ingest.Action} (h : Ingest.Effect s a t)
    {fp : String}
    (hstored : ∃ r, s.db.row? fp = some r) {c : X.Cert} (hc : ParsesTo t.db fp c) :
    ParsesTo s.db fp c := by
  obtain ⟨rec, flag, hrow, hparse⟩ := hc
  obtain ⟨r, hr⟩ := hstored
  have heq : r = (rec, flag) := Option.some.inj ((h.row? hr).symm.trans hrow)
  exact ⟨rec, flag, heq ▸ hr, hparse⟩

/-! ## §4. An ingest's step. -/

/-- The parts of an ingest's step. -/
theorem ingest_cases {pems : String → Option X.Cert} {s t : State X} {i : Nat}
    {a : Ingest.Action} (h : step pems s (.ingest i a) = some t) :
    ∃ u : Ingest.State X, Ingest.Effect ⟨s.db, s.ev, s.ingests i⟩ a u
      ∧ t = { s with
          db := u.db
          ev := u.ev
          ingests := Function.update s.ingests i u.ingest
          early := Function.update s.early i (!s.cycle.loaded) } := by
  simp only [step] at h
  split at h
  · exact absurd h (by simp)
  · next u hu =>
      injection h with h
      exact ⟨u, Ingest.step_cases hu, h.symm⟩

/-- **An ingest's step keeps the invariant, if it meets the condition.** -/
theorem inv_ingest {pems : String → Option X.Cert} {s t : State X} {i : Nat}
    {a : Ingest.Action} (hs : Inv s) (hcond : Timely s (.ingest i a))
    (h : step pems s (.ingest i a) = some t) : Inv t := by
  obtain ⟨u, heff, rfl⟩ := ingest_cases h
  -- the root pools stay and the intermediates grow, so what verified still does
  have hmono : ∀ storeID c, s.ev.Verifies storeID c → u.ev.Verifies storeID c :=
    fun _ _ hv => hv.mono heff.rootPools (fun _ => heff.intermediates)
  refine ⟨fun hbefore j c v hj => ?_, fun anchors ha => ?_, fun hafter => ?_⟩
  · have hbefore : s.cycle.loaded = false := hbefore
    by_cases hji : j = i
    · subst hji
      simp [hbefore]
    · simp only [Function.update_of_ne hji] at hj ⊢
      exact hs.early hbefore j c v hj
  · show anchors = u.db.listAnchorPEMsByStore
    rw [heff.listAnchorPEMsByStore]
    exact hs.listed anchors ha
  · have hL : Loaded s := hs.loaded hafter
    refine ⟨?_, ?_, ?_, ?_, ?_⟩
    · show u.ev.rootPools = newRoots X u.db.listAnchorPEMsByStore
      rw [heff.rootPools, heff.listAnchorPEMsByStore]
      exact hL.roots
    · intro row hrow ht c hc
      show u.ev.Verifies row.rootStoreID c
        ∨ (s.cycle.Rewrites row.fingerprint ∧ row.rootStoreID ∈ u.ev.rootPools.map Prod.fst)
      rw [heff.rootPools]
      rcases heff.certificateTrust hrow with hold | ⟨d, v, rfl, hwait, w, hw, rfl⟩
      · have hc' := parsesTo_of_effect heff (DB.exists_row?_of_trust hold) hc
        exact (hL.rows row hold ht c hc').imp_left (hmono _ _)
      · -- the row the ingest writes
        have hdc : c = d := X509.eq_of_fingerprint hc.fingerprint
        subst hdc
        rcases hL.waiting i c v hwait w hw ht with hgood | ⟨hearly, hstore⟩
        · exact .inl (hmono _ _ hgood)
        · exact .inr ⟨hcond c v hwait hearly w hw ht, hstore⟩
    · intro j c v hj w hw ht
      show u.ev.Verifies w.1 c
        ∨ (Function.update s.early i (!s.cycle.loaded) j = true
          ∧ w.1 ∈ u.ev.rootPools.map Prod.fst)
      by_cases hji : j = i
      · subst hji
        simp only [Function.update_self] at hj
        obtain ⟨_, rfl⟩ := heff.waiting_verdicts hj
        exact .inl (hmono _ _ (Evaluator.verifies_of_mem_evaluate hw ht))
      · simp only [Function.update_of_ne hji] at hj ⊢
        rw [heff.rootPools]
        exact (hL.waiting j c v hj w hw ht).imp_left (hmono _ _)
    · intro todo v hcycle fp p hp
      obtain ⟨rec, flag, hrow, hpem⟩ := hL.todo todo v hcycle fp p hp
      exact ⟨rec, flag, heff.row? hrow, hpem⟩
    · intro fp p todo v hcycle
      obtain ⟨c, hparse, hgood, hstores⟩ := hL.verdicts fp p todo v hcycle
      refine ⟨c, hparse, fun w hw ht => hmono _ _ (hgood w hw ht), ?_⟩
      show v.map Prod.fst = u.ev.rootPools.map Prod.fst
      rw [heff.rootPools]
      exact hstores

/-! ## §5. A step of the cycle. -/

/-- Before the swap there is little to keep. -/
theorem inv_of_not_loaded {s : State X} (hs : Inv s) (hbefore : s.cycle.loaded = false)
    {db : DB X} {cycle : Cycle} (hcycle : cycle.loaded = false)
    (hlisted : ∀ anchors, cycle = .anchorsListed anchors ∨ (∃ n, cycle = .listed anchors n) →
      anchors = db.listAnchorPEMsByStore) :
    Inv { s with db := db, cycle := cycle } := by
  refine ⟨fun _ => hs.early hbefore, hlisted, fun hafter => ?_⟩
  have hafter : cycle.loaded = true := hafter
  simp [hcycle] at hafter

/-- After it, there is what `Loaded` says. -/
theorem inv_of_loaded {s : State X} (hcycle : s.cycle.loaded = true) (h : Loaded s) : Inv s := by
  refine ⟨fun hbefore => ?_, fun anchors ha => ?_, fun _ => h⟩
  · simp [hcycle] at hbefore
  · rcases ha with ha | ⟨n, ha⟩ <;> simp [ha, Cycle.loaded] at hcycle

/-- **The swap** makes every trusted row one that is right or will be rewritten: its
store has a pool. -/
theorem loaded_swap {s : State X} (hs : Inv s) {anchors : List (String × List String)}
    {nonAnchors : List (String × String)} (hcycle : s.cycle = .listed anchors nonAnchors)
    (hrows : ∀ row ∈ s.db.certificateTrust, row.trusted = true →
      (∃ c, ParsesTo s.db row.fingerprint c) → row.rootStoreID ∈ anchors.map Prod.fst)
    (hwaiting : ∀ i c v, s.ingests i = .evaluated c v → ∀ w ∈ v, w.2.trusted = true →
      w.1 ∈ anchors.map Prod.fst) :
    Loaded { s with
      ev := s.ev.loadPools (some anchors) (some nonAnchors)
      cycle := .swapped } := by
  have hbefore : s.cycle.loaded = false := by
    rw [hcycle]
    rfl
  have hstores : (s.ev.loadPools (some anchors) (some nonAnchors)).rootPools.map Prod.fst
      = anchors.map Prod.fst := stores_newRoots anchors
  refine ⟨?_, ?_, ?_, ?_, ?_⟩
  · show newRoots X anchors = newRoots X s.db.listAnchorPEMsByStore
    rw [hs.listed anchors (.inr ⟨nonAnchors, hcycle⟩)]
  · intro row hrow ht c hc
    -- ReevaluateAll comes next, and rewrites all rows of the stores with a pool
    refine .inr ⟨trivial, ?_⟩
    show row.rootStoreID ∈ (s.ev.loadPools (some anchors) (some nonAnchors)).rootPools.map Prod.fst
    rw [hstores]
    exact hrows row hrow ht ⟨c, hc⟩
  · intro i c v hwait w hw ht
    refine .inr ⟨hs.early hbefore i c v hwait, ?_⟩
    show w.1 ∈ (s.ev.loadPools (some anchors) (some nonAnchors)).rootPools.map Prod.fst
    rw [hstores]
    exact hwaiting i c v hwait w hw ht
  · intro todo v h
    exact absurd h (by simp)
  · intro fp p todo v h
    exact absurd h (by simp)

section Reevaluate

variable {s : State X} (hL : Loaded s)
include hL

/-- ReevaluateAll lists every stored certificate. -/
theorem loaded_forEachCert :
    Loaded { s with cycle := .reevaluating s.db.forEachCert none } := by
  refine ⟨hL.roots, ?_, hL.waiting, ?_, ?_⟩
  · intro row hrow ht c hc
    rcases hL.rows row hrow ht c hc with hgood | ⟨_, hstore⟩
    · exact .inl hgood
    · refine .inr ⟨?_, hstore⟩
      obtain ⟨rec, flag, hstored, _⟩ := hc
      exact List.mem_map.mpr
        ⟨(row.fingerprint, rec.pem), DB.mem_forEachCert.mpr ⟨rec, flag, hstored, rfl⟩, rfl⟩
  · intro todo v h fp p hp
    injection h with h
    subst h
    exact DB.mem_forEachCert.mp hp
  · intro fp p todo v h
    injection h with _ h
    exact absurd h (by simp)

/-- The first certificate is evaluated, for every store. -/
theorem loaded_evaluate {fp p : String} {todo : List (String × String)} {cert : X.Cert}
    (hcycle : s.cycle = .reevaluating ((fp, p) :: todo) none) (hparse : X.parsePEM p = some cert) :
    Loaded { s with cycle := .reevaluating ((fp, p) :: todo) (some (s.ev.evaluate cert)) } := by
  refine ⟨hL.roots, ?_, hL.waiting, ?_, ?_⟩
  · intro row hrow ht c hc
    have h := hL.rows row hrow ht c hc
    rw [hcycle] at h
    exact h
  · intro todo' v h
    injection h with h _
    subst h
    exact hL.todo _ none hcycle
  · intro fp' p' todo' v h
    injection h with h hv
    injection h with h _
    obtain ⟨rfl, rfl⟩ := Prod.mk.inj h
    injection hv with hv
    subst hv
    exact ⟨cert, hparse, fun w hw ht => Evaluator.verifies_of_mem_evaluate hw ht,
      Evaluator.stores_evaluate s.ev cert⟩

/-- A certificate that does not parse is skipped: none of its rows matters. -/
theorem loaded_skip {fp p : String} {todo : List (String × String)}
    (hcycle : s.cycle = .reevaluating ((fp, p) :: todo) none) (hparse : X.parsePEM p = none) :
    Loaded { s with cycle := .reevaluating todo none } := by
  refine ⟨hL.roots, ?_, hL.waiting, ?_, ?_⟩
  · intro row hrow ht c hc
    rcases hL.rows row hrow ht c hc with hgood | ⟨hrewrites, hstore⟩
    · exact .inl hgood
    · rw [hcycle] at hrewrites
      rcases List.mem_cons.mp hrewrites with hfp | htail
      · -- the row's PEM is the one that does not parse
        exfalso
        have hfp : row.fingerprint = fp := hfp
        obtain ⟨rec, flag, hstored, hc⟩ := hc
        obtain ⟨rec', flag', hstored', hpem⟩ := hL.todo _ none hcycle fp p List.mem_cons_self
        rw [hfp] at hstored
        have heq : rec = rec' := (Prod.mk.inj (Option.some.inj (hstored.symm.trans hstored'))).1
        subst heq
        rw [hpem, hparse] at hc
        exact absurd hc (by simp)
      · exact .inr ⟨htail, hstore⟩
  · intro todo' v h fp' p' hp'
    injection h with h
    subst h
    exact hL.todo _ none hcycle fp' p' (List.mem_cons_of_mem _ hp')
  · intro fp' p' todo' v h
    injection h with _ h
    exact absurd h (by simp)

/-- **ReevaluateAll's write** replaces the rows of its certificate for every store
that has a pool. -/
theorem loaded_upsert {fp p : String} {todo : List (String × String)}
    {verdicts : List (String × Result)}
    (hcycle : s.cycle = .reevaluating ((fp, p) :: todo) (some verdicts)) :
    Loaded { s with
      db := s.db.upsertCertificateTrust fp verdicts
      cycle := .reevaluating todo none } := by
  obtain ⟨cert, hparse, hgood, hstores⟩ := hL.verdicts fp p todo verdicts hcycle
  refine ⟨?_, ?_, hL.waiting, ?_, ?_⟩
  · show s.ev.rootPools = newRoots X (s.db.upsertCertificateTrust fp verdicts).listAnchorPEMsByStore
    rw [DB.upsertCertificateTrust_listAnchorPEMsByStore]
    exact hL.roots
  · intro row hrow ht c hc
    have hc : ParsesTo s.db row.fingerprint c := by
      simpa only [ParsesTo, DB.upsertCertificateTrust_row?] using hc
    rcases DB.mem_upsertCertificateTrust hrow with ⟨hold, hkept⟩ | ⟨w, hw, rfl⟩
    · rcases hL.rows row hold ht c hc with hright | ⟨hrewrites, hstore⟩
      · exact .inl hright
      · rw [hcycle] at hrewrites
        rcases List.mem_cons.mp hrewrites with hfp | htail
        · -- a row of this certificate and of a store with a pool was replaced
          exact absurd (hstores ▸ hstore) (hkept hfp)
        · exact .inr ⟨htail, hstore⟩
    · -- a row that was written: its certificate is the one that was evaluated
      obtain ⟨rec, flag, hstored, hc⟩ := hc
      obtain ⟨rec', flag', hstored', hpem⟩ := hL.todo _ _ hcycle fp p List.mem_cons_self
      have heq : rec = rec' := (Prod.mk.inj (Option.some.inj (hstored.symm.trans hstored'))).1
      subst heq
      rw [hpem, hparse] at hc
      have hcc : cert = c := Option.some.inj hc
      subst hcc
      exact .inl (hgood w hw ht)
  · intro todo' v h fp' p' hp'
    injection h with h
    subst h
    obtain ⟨rec, flag, hstored, hpem⟩ :=
      hL.todo _ _ hcycle fp' p' (List.mem_cons_of_mem _ hp')
    exact ⟨rec, flag, (DB.upsertCertificateTrust_row? _ _ _ _).trans hstored, hpem⟩
  · intro fp' p' todo' v h
    injection h with _ h
    exact absurd h (by simp)

/-- When ReevaluateAll is through, nothing waits to be rewritten. -/
theorem loaded_done {v : Option (List (String × Result))} (hcycle : s.cycle = .reevaluating [] v) :
    Loaded { s with cycle := .done } := by
  refine ⟨hL.roots, ?_, hL.waiting, ?_, ?_⟩
  · intro row hrow ht c hc
    rcases hL.rows row hrow ht c hc with hgood | ⟨hrewrites, _⟩
    · exact .inl hgood
    · rw [hcycle] at hrewrites
      exact absurd hrewrites List.not_mem_nil
  · intro todo v h
    exact absurd h (by simp)
  · intro fp p todo v h
    exact absurd h (by simp)

end Reevaluate

/-- **A step of the cycle keeps the invariant, if it meets the condition.** -/
theorem inv_cycle {pems : String → Option X.Cert} {s t : State X} {issuer : Option String}
    (hs : Inv s) (hcond : Timely s (.cycle issuer)) (h : step pems s (.cycle issuer) = some t) :
    Inv t := by
  simp only [step] at h
  split at h
  · exact absurd h (by simp)
  · next db ev cycle hstep =>
      injection h with h
      subst h
      cases hcycle : s.cycle with
      | entries todo accepted =>
          rw [hcycle] at hstep
          have hbefore : s.cycle.loaded = false := by rw [hcycle]; rfl
          cases todo with
          | nil =>
              simp only [cycleStep, Option.some.injEq, Prod.mk.injEq] at hstep
              obtain ⟨rfl, rfl, rfl⟩ := hstep
              exact inv_of_not_loaded hs hbefore rfl (by simp)
          | cons e todo =>
              simp only [cycleStep] at hstep
              split at hstep
              · exact absurd hstep (by simp)
              · simp only [Option.some.injEq, Prod.mk.injEq] at hstep
                obtain ⟨rfl, rfl, rfl⟩ := hstep
                exact inv_of_not_loaded hs hbefore rfl (by simp)
      | stores todo =>
          rw [hcycle] at hstep
          have hbefore : s.cycle.loaded = false := by rw [hcycle]; rfl
          cases todo with
          | nil =>
              simp only [cycleStep, Option.some.injEq, Prod.mk.injEq] at hstep
              obtain ⟨rfl, rfl, rfl⟩ := hstep
              exact inv_of_not_loaded hs hbefore rfl (by simp)
          | cons p todo =>
              simp only [cycleStep] at hstep
              split at hstep
              · exact absurd hstep (by simp)
              · simp only [Option.some.injEq, Prod.mk.injEq] at hstep
                obtain ⟨rfl, rfl, rfl⟩ := hstep
                exact inv_of_not_loaded hs hbefore rfl (by simp)
      | reconciling =>
          have hbefore : s.cycle.loaded = false := by rw [hcycle]; rfl
          simp only [hcycle, cycleStep, Option.some.injEq, Prod.mk.injEq] at hstep
          obtain ⟨rfl, rfl, rfl⟩ := hstep
          exact inv_of_not_loaded hs hbefore rfl (by simp)
      | refreshed =>
          have hbefore : s.cycle.loaded = false := by rw [hcycle]; rfl
          simp only [hcycle, cycleStep, Option.some.injEq, Prod.mk.injEq] at hstep
          obtain ⟨rfl, rfl, rfl⟩ := hstep
          refine inv_of_not_loaded hs hbefore rfl ?_
          intro anchors ha
          have hlist : s.db.listAnchorPEMsByStore = anchors := by simpa using ha
          exact hlist.symm
      | anchorsListed anchors =>
          have hbefore : s.cycle.loaded = false := by rw [hcycle]; rfl
          have hcurrent := hs.listed anchors (.inl hcycle)
          simp only [hcycle, cycleStep, Option.some.injEq, Prod.mk.injEq] at hstep
          obtain ⟨rfl, rfl, rfl⟩ := hstep
          refine inv_of_not_loaded hs hbefore rfl ?_
          intro anchors' ha
          simp only [reduceCtorEq, Cycle.listed.injEq, exists_and_left, exists_eq', and_true,
            false_or] at ha
          exact ha ▸ hcurrent
      | listed anchors nonAnchors =>
          simp only [hcycle, cycleStep, Option.some.injEq, Prod.mk.injEq] at hstep
          obtain ⟨rfl, rfl, rfl⟩ := hstep
          obtain ⟨hrows, hwaiting⟩ := hcond anchors nonAnchors hcycle
          exact inv_of_loaded rfl (loaded_swap hs hcycle hrows hwaiting)
      | swapped =>
          have hL := hs.loaded (by rw [hcycle]; rfl)
          simp only [hcycle, cycleStep, Option.some.injEq, Prod.mk.injEq] at hstep
          obtain ⟨rfl, rfl, rfl⟩ := hstep
          exact inv_of_loaded rfl (loaded_forEachCert hL)
      | reevaluating todo v =>
          have hL := hs.loaded (by rw [hcycle]; rfl)
          rw [hcycle] at hstep
          cases todo with
          | nil =>
              simp only [cycleStep, Option.some.injEq, Prod.mk.injEq] at hstep
              obtain ⟨rfl, rfl, rfl⟩ := hstep
              exact inv_of_loaded rfl (loaded_done hL hcycle)
          | cons q todo =>
              obtain ⟨fp, p⟩ := q
              cases v with
              | none =>
                  simp only [cycleStep] at hstep
                  split at hstep
                  · next hparse =>
                      simp only [Option.some.injEq, Prod.mk.injEq] at hstep
                      obtain ⟨rfl, rfl, rfl⟩ := hstep
                      exact inv_of_loaded rfl (loaded_skip hL hcycle hparse)
                  · next cert hparse =>
                      simp only [Option.some.injEq, Prod.mk.injEq] at hstep
                      obtain ⟨rfl, rfl, rfl⟩ := hstep
                      exact inv_of_loaded rfl (loaded_evaluate hL hcycle hparse)
              | some verdicts =>
                  simp only [cycleStep, Option.some.injEq, Prod.mk.injEq] at hstep
                  obtain ⟨rfl, rfl, rfl⟩ := hstep
                  exact inv_of_loaded rfl (loaded_upsert hL hcycle)
      | done =>
          simp only [hcycle, cycleStep] at hstep
          exact absurd hstep (by simp)

/-! ## §6. Runs. -/

/-- **A step that meets the condition keeps the invariant.** -/
theorem inv_step {pems : String → Option X.Cert} {s t : State X} {a : Action} (hs : Inv s)
    (hcond : Timely s a) (h : step pems s a = some t) : Inv t := by
  cases a with
  | cycle issuer => exact inv_cycle hs hcond h
  | ingest i a => exact inv_ingest hs hcond h

theorem inv_start (db : DB X) (ev : Evaluator X) (matrix : List TrustEntry) :
    Inv (start db ev matrix) :=
  ⟨fun _ _ _ _ h => absurd h (by simp [start]), fun _ h => absurd h (by simp [start]),
    fun h => absurd h (by simp [start, Cycle.loaded])⟩

/-- Once the cycle is done, the invariant says that the rows are fresh. -/
theorem Inv.fresh {s : State X} (hs : Inv s) (hdone : s.cycle = .done) : Fresh s := by
  have hL := hs.loaded (by rw [hdone]; rfl)
  intro row hrow ht c hc
  rcases hL.rows row hrow ht c hc with ⟨roots, hmem, hverify⟩ | ⟨hrewrites, _⟩
  · rw [hL.roots] at hmem
    refine ⟨DB.exists_anchor_of_listed ?_, roots, hmem, hverify⟩
    rw [← stores_newRoots (X := X)]
    exact List.mem_map.mpr ⟨_, hmem, rfl⟩
  · rw [hdone] at hrewrites
    exact absurd hrewrites id

/-- **THE ROWS ARE FRESH.**  For every database, every evaluator and every matrix: in
a run whose steps all meet the condition, once the cycle is done every trusted row of
a parseable certificate is for a store that has anchors, and whose current anchors
verify the certificate, whatever the ingests have still to do. -/
theorem rows_fresh (pems : String → Option X.Cert) (db : DB X) (ev : Evaluator X)
    (matrix : List TrustEntry) {tr : List (State X × Action)} {t : State X}
    (e : Exec (step pems) (start db ev matrix) tr t) (hcond : ∀ p ∈ tr, Timely p.1 p.2) :
    ∀ u ∈ visited tr t, u.cycle = .done → Fresh u := by
  have hinv := e.preserves (C := Timely) (I := Inv)
    (fun _ _ _ hs hC h => inv_step hs hC h) (inv_start db ev matrix) hcond
  exact fun u hu hdone => (hinv u hu).fresh hdone

/-! ## §7. Three cycles. -/

/-- The first root is an anchor of Mozilla, and trusted there. -/
def anchoredDB : DB samplePKI where
  certificates :=
    ⟨[{ toCertificateRecord := samplePKI.extractCertificateRecord SampleCert.root
        issuerFingerprint := none
        trustAnchor := true }], by decide⟩
  rootStoreAnchors := [⟨"mozilla", "root"⟩]
  endpointCerts := []
  endpointScanHistory := []
  discoveryInbox := []
  fks := ⟨by decide, by decide, by decide, by decide⟩
  certificateTrust := ⟨[⟨"root", "mozilla", true, ""⟩], by decide⟩
  fingerprints := by
    intro r hr c hc
    have hr : r = _ := List.mem_singleton.mp hr
    subst hr
    have hc : some SampleCert.root = some c := hc
    exact Option.some.inj hc ▸ rfl
  trustFks := by decide

/-- The evaluator that goes with it. -/
def anchoredEvaluator : Evaluator samplePKI :=
  (Evaluator.new samplePKI).loadPools (some anchoredDB.listAnchorPEMsByStore)
    (some anchoredDB.listNonAnchorCertPEMs)

/-- The steps of the cycle alone. -/
def cycleRun (n : Nat) : List Action := List.replicate n (.cycle none)

/-- The first part of the condition on the swap, as a test. -/
def storesKept (s : State samplePKI) : Bool :=
  match s.cycle with
  | .listed anchors _ =>
      s.db.certificateTrust.rows.all (fun row => decide (row.rootStoreID ∈ anchors.map Prod.fst))
  | _ => true

/-- Steps of the cycle leave the ingests alone. -/
theorem ingests_of_cycle {pems : String → Option X.Cert} {s t : State X} {issuer : Option String}
    (h : step pems s (.cycle issuer) = some t) : t.ingests = s.ingests := by
  simp only [step] at h
  split at h
  · exact absurd h (by simp)
  · injection h with h
    subst h
    rfl

/-- The theorem at a cycle that keeps the anchor. -/
theorem rows_fresh_kept_anchor :
    ∃ tr t, Exec (step SampleCert.parse) (start anchoredDB anchoredEvaluator
        [⟨"root", false, false, false, true⟩]) tr t
      ∧ t.cycle = .done ∧ t.db.certificateTrust.rows = [⟨"root", "mozilla", true, ""⟩]
      ∧ ∀ u ∈ visited tr t, u.cycle = .done → Fresh u := by
  have hrun : ∃ t, run (step SampleCert.parse) (start anchoredDB anchoredEvaluator
          [⟨"root", false, false, false, true⟩]) (cycleRun 15) = some t
      ∧ t.cycle = .done ∧ t.db.certificateTrust.rows = [⟨"root", "mozilla", true, ""⟩]
      ∧ (traceFrom (step SampleCert.parse) (start anchoredDB anchoredEvaluator
          [⟨"root", false, false, false, true⟩]) (cycleRun 15)).all
          (fun p => storesKept p.1) = true :=
    ⟨_, rfl, rfl, rfl, rfl⟩
  obtain ⟨t, ht, hdone, hrows, hkept⟩ := hrun
  have e := exec_traceFrom ht
  have hcycle : ∀ p ∈ traceFrom (step SampleCert.parse) (start anchoredDB anchoredEvaluator
      [⟨"root", false, false, false, true⟩]) (cycleRun 15), p.2 = .cycle none :=
    fun p hp => List.eq_of_mem_replicate (mem_of_mem_traceFrom hp)
  have hidle := e.preserves (C := fun _ a => a = .cycle none)
    (I := fun s => s.ingests = fun _ => .idle)
    (fun s a u hs ha h => by
      subst ha
      exact (ingests_of_cycle h).trans hs) rfl hcycle
  refine ⟨_, t, e, hdone, hrows, rows_fresh SampleCert.parse anchoredDB anchoredEvaluator _ e ?_⟩
  intro p hp
  rw [hcycle p hp]
  intro anchors nonAnchors hl
  refine ⟨fun row hrow _ _ => ?_, fun i c v hi => ?_⟩
  · have hall := List.all_eq_true.mp hkept p hp
    simp only [storesKept, hl] at hall
    exact of_decide_eq_true (List.all_eq_true.mp hall row hrow)
  · rw [hidle p.1 (mem_visited hp t)] at hi
    exact absurd hi (by simp)

/-- An ingest of the intermediate up to its verdicts, a whole cycle that moves
Mozilla to the second root, and the ingest's write. -/
def lateRun : List Action :=
  [.ingest 0 (.insert "inter" true (some "root")), .ingest 0 .addIntermediate,
    .ingest 0 .evaluate] ++ cycleRun 19 ++ [.ingest 0 (.upsert true)]

/-- **Stale rows**: after a cycle with an empty matrix the first root is still trusted
by Mozilla, which has no anchors left; and after a cycle that moves Mozilla to the
second root, an ingest that evaluated before it leaves the intermediate trusted by
Mozilla. -/
theorem stale_row :
    (∃ tr t, Exec (step SampleCert.parse) (start anchoredDB anchoredEvaluator []) tr t
      ∧ t.cycle = .done ∧ (∀ i, (t.ingests i).finished = true) ∧ ¬ Fresh t)
    ∧ ∃ tr t, Exec (step SampleCert.parse) (start anchoredDB anchoredEvaluator
          [⟨"other", false, false, false, true⟩]) tr t
      ∧ t.cycle = .done ∧ (∀ i, (t.ingests i).finished = true) ∧ ¬ Fresh t := by
  constructor
  · have hrun : ∃ t, run (step SampleCert.parse) (start anchoredDB anchoredEvaluator [])
            (cycleRun 14) = some t
        ∧ t.cycle = .done ∧ t.ingests = (fun _ => .idle)
        ∧ t.db.certificateTrust.rows = [⟨"root", "mozilla", true, ""⟩]
        ∧ t.db.rootStoreAnchors = []
        ∧ t.db.row? "root" = some (samplePKI.extractCertificateRecord SampleCert.root, false) :=
      ⟨_, rfl, rfl, rfl, rfl, rfl, rfl⟩
    obtain ⟨t, ht, hdone, hidle, hrows, hanchors, hrow⟩ := hrun
    refine ⟨_, t, exec_traceFrom ht, hdone, fun i => by rw [hidle]; rfl, fun hfresh => ?_⟩
    have hmem : (⟨"root", "mozilla", true, ""⟩ : CertificateTrust)
        ∈ t.db.certificateTrust.rows := by
      rw [hrows]
      exact List.mem_cons_self
    obtain ⟨⟨a, ha, _⟩, _⟩ := hfresh _ hmem rfl SampleCert.root ⟨_, _, hrow, rfl⟩
    rw [hanchors] at ha
    exact absurd ha List.not_mem_nil
  · have hrun : ∃ t, run (step SampleCert.parse) (start anchoredDB anchoredEvaluator
            [⟨"other", false, false, false, true⟩]) lateRun = some t
        ∧ t.cycle = .done
        ∧ t.ingests = Function.update (Function.update (Function.update (Function.update
            (fun _ => .idle) 0 (.inserted SampleCert.inter)) 0 (.added SampleCert.inter)) 0
            (.evaluated SampleCert.inter [("mozilla", ⟨true, ""⟩)])) 0 (.done SampleCert.inter)
        ∧ (⟨"inter", "mozilla", true, ""⟩ : CertificateTrust) ∈ t.db.certificateTrust.rows
        ∧ newRoots samplePKI t.db.listAnchorPEMsByStore = [("mozilla", [SampleCert.other])]
        ∧ verify samplePKI.signedBy [SampleCert.other] t.ev.intermediates SampleCert.inter = false
        ∧ t.db.row? "inter" = some (samplePKI.extractCertificateRecord SampleCert.inter, false) :=
      ⟨_, rfl, rfl, rfl, by decide, rfl, rfl, rfl⟩
    obtain ⟨t, ht, hdone, hingests, hmem, hroots, hverify, hrow⟩ := hrun
    refine ⟨_, t, exec_traceFrom ht, hdone, fun i => ?_, fun hfresh => ?_⟩
    · rw [hingests]
      by_cases hi : i = 0
      · simp [hi, Ingest.finished]
      · simp [hi, Ingest.finished]
    · obtain ⟨_, roots, hpool, hv⟩ := hfresh _ hmem rfl SampleCert.inter ⟨_, _, hrow, rfl⟩
      rw [hroots] at hpool
      have hpool : roots = [SampleCert.other] :=
        (Prod.mk.inj (List.mem_singleton.mp hpool)).2
      subst hpool
      exact absurd (hverify.symm.trans hv) (by simp)

end TLSentinel.Trust.Freshness
