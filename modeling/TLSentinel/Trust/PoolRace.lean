/-
  TLSentinel.Trust.PoolRace
  ─────────────────────────
  **LOADPOOLS AGAINST PROBE INGESTS: IS AN INTERMEDIATE LOST?**

  A run of `LoadPools` reads the two lists without the lock and swaps both pools in
  later; an ingest commits its insert and takes the lock for `AddIntermediate`
  afterwards.  Any number of both interleave, each query, insert, add and swap being
  one atomic step.

  An ingest that inserts after the list was read and adds before the swap is lost:
  its row is not in the list, and the swap throws away what was added.

  Main results:
    * `none_lost_iff`       — no added certificate is ever missing from the pool
                              exactly when every swap meets `ListedFirst`;
    * `none_lost`           — the certificates of the finished ingests are in the pool,
                              in a run whose swaps all meet it;
    * `intermediate_lost`   — a run that loses one.
-/
import TLSentinel.Trust.Ingest

namespace TLSentinel.Trust.PoolRace

open Foundation TLSentinel.Certs

variable {X : X509}

/-! ## §1. The system. -/

/-- How far a run of `LoadPools` has come, with its local variables. -/
inductive Loader where
  | idle
  | anchorsListed (anchors : List (String × List String))
  | listed (anchors : List (String × List String)) (nonAnchors : List (String × String))
  | done

/-- The steps of `LoadPools`; a query may fail. -/
inductive LoadAction where
  | listAnchors (ok : Bool)
  | listNonAnchors (ok : Bool)
  | swap
  deriving DecidableEq, Repr

/-- The database, the evaluator, and the runs that share them. -/
structure State (X : X509) where
  db : DB X
  ev : Evaluator X
  loaders : Nat → Loader
  ingests : Nat → Ingest X

/-- Who moves, and how. -/
inductive Action where
  | load (l : Nat) (a : LoadAction)
  | ingest (i : Nat) (a : Ingest.Action)

/-- One step of a run of `LoadPools`. -/
def loadStep (db : DB X) (ev : Evaluator X) (l : Loader) :
    LoadAction → Option (Evaluator X × Loader)
  | .listAnchors ok =>
      match l with
      | .idle =>
          if ok then some (ev, .anchorsListed db.listAnchorPEMsByStore)
          else some (ev.loadPools none none, .done)
      | _ => none
  | .listNonAnchors ok =>
      match l with
      | .anchorsListed anchors =>
          if ok then some (ev, .listed anchors db.listNonAnchorCertPEMs)
          else some (ev.loadPools (some anchors) none, .done)
      | _ => none
  | .swap =>
      match l with
      | .listed anchors nonAnchors => some (ev.loadPools (some anchors) (some nonAnchors), .done)
      | _ => none

/-- One step of the system. -/
def step (s : State X) : Action → Option (State X)
  | .load l a =>
      match loadStep s.db s.ev (s.loaders l) a with
      | none => none
      | some (ev, loader) =>
          some { s with ev := ev, loaders := Function.update s.loaders l loader }
  | .ingest i a =>
      match Ingest.step ⟨s.db, s.ev, s.ingests i⟩ a with
      | none => none
      | some u =>
          some { s with
            db := u.db
            ev := u.ev
            ingests := Function.update s.ingests i u.ingest }

/-- Nothing has begun. -/
def start (db : DB X) (ev : Evaluator X) : State X := ⟨db, ev, fun _ => .idle, fun _ => .idle⟩

/-- Every run that has begun has ended. -/
def Finished (s : State X) : Prop :=
  (∀ l, s.loaders l = .idle ∨ s.loaders l = .done) ∧ ∀ i, (s.ingests i).finished = true

/-! ## §2. The property and the condition. -/

/-- Of the certificates whose `AddIntermediate` has returned, the parseable CAs that
are not flagged as anchors are in the pool. -/
def NoneLost (s : State X) : Prop :=
  ∀ i c, (s.ingests i).addedCert = some c → s.db.Loadable c → c ∈ s.ev.intermediates

/-- The condition on a swap: the list that the run has read names every such
certificate, that is, their inserts came before it. -/
def ListedFirst (s : State X) : Action → Prop
  | .load l .swap =>
      ∀ anchors nonAnchors, s.loaders l = .listed anchors nonAnchors →
        ∀ i c, (s.ingests i).addedCert = some c → s.db.Loadable c →
          X.fingerprint c ∈ nonAnchors.map Prod.fst
  | _ => True

/-- The background invariant: what an ingest has inserted is stored, and what a run
has listed still is what the database has. -/
structure Inv (s : State X) : Prop where
  stored : ∀ i c, (s.ingests i).storedCert = some c → ∃ r, s.db.row? (X.fingerprint c) = some r
  listed : ∀ l anchors nonAnchors, s.loaders l = .listed anchors nonAnchors →
    ∀ f p, (f, p) ∈ nonAnchors → ∃ rec, s.db.row? f = some (rec, false) ∧ rec.pem = p

theorem storedCert_of_addedCert {i : Ingest X} {c : X.Cert} (h : i.addedCert = some c) :
    i.storedCert = some c := by
  cases i with
  | inserted cert => exact absurd h (by simp [Ingest.addedCert])
  | _ => exact h

/-! ## §3. The steps keep the invariant. -/

/-- An ingest's step. -/
theorem ingest_cases {s t : State X} {i : Nat} {a : Ingest.Action}
    (h : step s (.ingest i a) = some t) :
    ∃ u : Ingest.State X, Ingest.Effect ⟨s.db, s.ev, s.ingests i⟩ a u
      ∧ t = { s with db := u.db, ev := u.ev, ingests := Function.update s.ingests i u.ingest } := by
  simp only [step] at h
  split at h
  · exact absurd h (by simp)
  · next u hu =>
      injection h with h
      exact ⟨u, Ingest.step_cases hu, h.symm⟩

/-- Everything a run of `LoadPools` can do to its own state and to the evaluator. -/
theorem load_cases {s t : State X} {l : Nat} {a : LoadAction} (h : step s (.load l a) = some t) :
    (a ≠ .swap ∧ ∃ loader, t = { s with loaders := Function.update s.loaders l loader }
        ∧ ∀ anchors nonAnchors, loader = .listed anchors nonAnchors →
          nonAnchors = s.db.listNonAnchorCertPEMs)
      ∨ ∃ anchors nonAnchors, a = .swap ∧ s.loaders l = .listed anchors nonAnchors
        ∧ t = { s with
            ev := ⟨newRoots X anchors, newIntermediates X nonAnchors⟩
            loaders := Function.update s.loaders l .done } := by
  simp only [step] at h
  split at h
  · exact absurd h (by simp)
  · next ev loader hstep =>
      injection h with h
      cases a with
      | listAnchors ok =>
          simp only [loadStep] at hstep
          split at hstep
          · split at hstep
            · obtain ⟨rfl, rfl⟩ := Prod.mk.inj (Option.some.inj hstep)
              exact .inl ⟨by simp, _, h.symm, by simp⟩
            · obtain ⟨rfl, rfl⟩ := Prod.mk.inj (Option.some.inj hstep)
              exact .inl ⟨by simp, _, h.symm, by simp⟩
          · exact absurd hstep (by simp)
      | listNonAnchors ok =>
          simp only [loadStep] at hstep
          split at hstep
          · split at hstep
            · obtain ⟨rfl, rfl⟩ := Prod.mk.inj (Option.some.inj hstep)
              refine .inl ⟨by simp, _, h.symm, ?_⟩
              intro anchors nonAnchors heq
              injection heq with _ hlist
              exact hlist.symm
            · obtain ⟨rfl, rfl⟩ := Prod.mk.inj (Option.some.inj hstep)
              exact .inl ⟨by simp, _, h.symm, by simp⟩
          · exact absurd hstep (by simp)
      | swap =>
          simp only [loadStep] at hstep
          split at hstep
          · next anchors nonAnchors hl =>
              obtain ⟨rfl, rfl⟩ := Prod.mk.inj (Option.some.inj hstep)
              exact .inr ⟨anchors, nonAnchors, rfl, hl, h.symm⟩
          · exact absurd hstep (by simp)

/-- **Every step keeps the invariant.** -/
theorem inv_step {s t : State X} {a : Action} (hs : Inv s) (h : step s a = some t) : Inv t := by
  cases a with
  | load l a =>
      rcases load_cases h with ⟨_, loader, rfl, hfresh⟩ | ⟨anchors, nonAnchors, _, _, rfl⟩
      · refine ⟨hs.stored, fun m anchors nonAnchors hm => ?_⟩
        by_cases hml : m = l
        · subst hml
          simp only [Function.update_self] at hm
          intro f p hp
          rw [hfresh anchors nonAnchors hm] at hp
          exact DB.mem_listNonAnchorCertPEMs.mp hp
        · simp only [Function.update_of_ne hml] at hm
          exact hs.listed m anchors nonAnchors hm
      · refine ⟨hs.stored, fun m anchors' nonAnchors' hm => ?_⟩
        by_cases hml : m = l
        · subst hml
          simp only [Function.update_self] at hm
          exact absurd hm (by simp)
        · simp only [Function.update_of_ne hml] at hm
          exact hs.listed m anchors' nonAnchors' hm
  | ingest i a =>
      obtain ⟨u, heff, rfl⟩ := ingest_cases h
      refine ⟨fun j c hj => ?_, fun l anchors nonAnchors hl f p hp => ?_⟩
      · by_cases hji : j = i
        · subst hji
          simp only [Function.update_self] at hj
          exact heff.stored (hs.stored j) c hj
        · simp only [Function.update_of_ne hji] at hj
          obtain ⟨r, hr⟩ := hs.stored j c hj
          exact ⟨r, heff.row? hr⟩
      · obtain ⟨rec, hrec, hpem⟩ := hs.listed l anchors nonAnchors hl f p hp
        exact ⟨rec, heff.row? hrec, hpem⟩

/-! ## §4. When a step loses a certificate. -/

/-- An ingest loses nothing. -/
theorem noneLost_ingest {s t : State X} {i : Nat} {a : Ingest.Action} (hinv : Inv s)
    (hs : NoneLost s) (h : step s (.ingest i a) = some t) : NoneLost t := by
  obtain ⟨u, heff, rfl⟩ := ingest_cases h
  intro j c hj hload
  -- who was in before is in still
  have hold : (s.ingests j).addedCert = some c → c ∈ u.ev.intermediates := by
    intro hadded
    -- a flag is never cleared by an ingest, so only a new row becomes loadable
    rcases heff.loadable hload with hbefore | hnone
    · exact heff.intermediates (hs j c hadded hbefore)
    · obtain ⟨r, hr⟩ := hinv.stored j c (storedCert_of_addedCert hadded)
      exact absurd (hnone.symm.trans hr) (by simp)
  show c ∈ u.ev.intermediates
  by_cases hji : j = i
  · subst hji
    simp only [Function.update_self] at hj
    rcases heff.addedCert hj with hbefore | hnew
    · exact hold hbefore
    · exact hnew (DB.loadable_iff.mp hload).1
  · simp only [Function.update_of_ne hji] at hj
    exact hold hj

/-- A swap keeps a loadable certificate exactly if the list names it. -/
theorem mem_newIntermediates_iff {s : State X} (hinv : Inv s) {l : Nat}
    {anchors : List (String × List String)} {nonAnchors : List (String × String)}
    (hl : s.loaders l = .listed anchors nonAnchors) {c : X.Cert} (hc : s.db.Loadable c) :
    c ∈ newIntermediates X nonAnchors ↔ X.fingerprint c ∈ nonAnchors.map Prod.fst := by
  obtain ⟨hca, rec, hrow, hparse⟩ := DB.loadable_iff.mp hc
  rw [mem_newIntermediates]
  constructor
  · intro h
    obtain ⟨_, f, p, hmem, hp⟩ := h
    obtain ⟨rec', hrow', rfl⟩ := hinv.listed l anchors nonAnchors hl f p hmem
    rw [DB.fingerprint_of_row? hrow' hp]
    exact List.mem_map.mpr ⟨(f, rec'.pem), hmem, rfl⟩
  · intro h
    obtain ⟨⟨f, p⟩, hmem, hf⟩ := List.mem_map.mp h
    have hf : f = X.fingerprint c := hf
    subst hf
    -- the list has the PEM of the row
    obtain ⟨rec', hrow', rfl⟩ := hinv.listed l anchors nonAnchors hl _ p hmem
    have heq : rec = rec' := (Prod.mk.inj (Option.some.inj (hrow.symm.trans hrow'))).1
    subst heq
    exact ⟨hca, _, _, hmem, hparse⟩

/-- **A step loses nothing exactly if it meets the condition.** -/
theorem noneLost_step_iff {s t : State X} {a : Action} (hinv : Inv s) (hs : NoneLost s)
    (h : step s a = some t) : NoneLost t ↔ ListedFirst s a := by
  cases a with
  | ingest i a => exact ⟨fun _ => trivial, fun _ => noneLost_ingest hinv hs h⟩
  | load l a =>
      rcases load_cases h with ⟨hne, loader, rfl, _⟩ | ⟨anchors, nonAnchors, rfl, hl, rfl⟩
      · refine ⟨fun _ => ?_, fun _ => hs⟩
        cases a with
        | swap => exact absurd rfl hne
        | listAnchors ok => trivial
        | listNonAnchors ok => trivial
      · constructor
        · intro ht anchors' nonAnchors' hl' i c hadded hload
          rw [hl] at hl'
          injection hl' with _ hlist
          subst hlist
          exact (mem_newIntermediates_iff hinv hl hload).mp (ht i c hadded hload)
        · intro hcond i c hadded hload
          exact (mem_newIntermediates_iff hinv hl hload).mpr
            (hcond anchors nonAnchors hl i c hadded hload)

/-! ## §5. Runs. -/

theorem inv_start (db : DB X) (ev : Evaluator X) : Inv (start db ev) :=
  ⟨fun _ _ h => absurd h (by simp [start, Ingest.storedCert, Ingest.addedCert]),
    fun _ _ _ h => absurd h (by simp [start])⟩

theorem noneLost_start (db : DB X) (ev : Evaluator X) : NoneLost (start db ev) :=
  fun _ _ h => absurd h (by simp [start, Ingest.addedCert])

/-- **No added certificate is ever missing from the pool exactly when every swap
meets the condition.** -/
theorem none_lost_iff (db : DB X) (ev : Evaluator X) {tr : List (State X × Action)} {t : State X}
    (e : Exec step (start db ev) tr t) :
    (∀ u ∈ visited tr t, NoneLost u) ↔ ∀ p ∈ tr, ListedFirst p.1 p.2 :=
  e.always_iff (fun _ _ _ hs h => inv_step hs h)
    (fun _ _ _ hinv hs h => noneLost_step_iff hinv hs h) (inv_start db ev) (noneLost_start db ev)

/-- **NONE IS LOST.**  In a run whose swaps all come after a list that names what
has been added, whenever all runs have finished the certificates of the ingests
that are parseable CAs and not flagged as anchors are in the pool. -/
theorem none_lost (db : DB X) (ev : Evaluator X) {tr : List (State X × Action)} {t : State X}
    (e : Exec step (start db ev) tr t) (hcond : ∀ p ∈ tr, ListedFirst p.1 p.2) :
    ∀ u ∈ visited tr t, Finished u →
      ∀ i c, u.ingests i = .done c → u.db.Loadable c → c ∈ u.ev.intermediates := by
  intro u hu _ i c hdone hload
  have hadded : (u.ingests i).addedCert = some c := by
    rw [hdone]
    rfl
  exact (none_lost_iff db ev e).mpr hcond u hu i c hadded hload

/-- An ingest, and a run of `LoadPools` up to its swap. -/
def keepingRun : List Action :=
  [.ingest 0 (.insert "inter" true none), .ingest 0 .addIntermediate, .ingest 0 .evaluate,
   .load 0 (.listAnchors true), .load 0 (.listNonAnchors true)]

/-- The theorem at that run, and the swap. -/
theorem none_lost_ingest_first :
    ∃ tr t, Exec step (start (emptyDB samplePKI) (Evaluator.new samplePKI)) tr t
      ∧ t.ingests 0 = .done SampleCert.inter
      ∧ ∀ u ∈ visited tr t, Finished u →
          ∀ i c, u.ingests i = .done c → u.db.Loadable c → c ∈ u.ev.intermediates := by
  have hrun : ∃ s t,
      run step (start (emptyDB samplePKI) (Evaluator.new samplePKI)) keepingRun = some s
      ∧ step s (.load 0 .swap) = some t
      ∧ s.loaders 0 = .listed [] [("inter", "inter")]
      ∧ s.ingests = Function.update (Function.update (Function.update (fun _ => .idle) 0
          (.inserted SampleCert.inter)) 0 (.added SampleCert.inter)) 0 (.done SampleCert.inter)
      ∧ t.ingests = s.ingests := ⟨_, _, rfl, rfl, rfl, rfl, rfl⟩
  obtain ⟨s, t, hs, ht, hlist, hingests, hsame⟩ := hrun
  have e := (exec_traceFrom hs).snoc ht
  refine ⟨_, t, e, by simp [hsame, hingests],
    none_lost (emptyDB samplePKI) (Evaluator.new samplePKI) e ?_⟩
  intro p hp
  rcases List.mem_append.mp hp with hp | hp
  · -- no step before the last one is a swap
    have hmem := mem_of_mem_traceFrom hp
    obtain ⟨u, a⟩ := p
    simp only [keepingRun, List.mem_cons, List.not_mem_nil, or_false] at hmem
    rcases hmem with rfl | rfl | rfl | rfl | rfl <;> trivial
  · have hp : p = (s, .load 0 .swap) := by simpa using hp
    subst hp
    intro anchors nonAnchors hl i c hadded _
    rw [hlist] at hl
    injection hl with _ hl
    subst hl
    -- there is one ingest
    have hi : i = 0 := by
      by_contra hi
      simp [hingests, hi, Ingest.addedCert] at hadded
    subst hi
    rw [hingests] at hadded
    have hc : SampleCert.inter = c := Option.some.inj hadded
    subst hc
    exact List.mem_singleton.mpr rfl

/-- The list is read before the insert and the pools are swapped after the add. -/
def losingRun : List Action :=
  [.load 0 (.listAnchors true), .load 0 (.listNonAnchors true),
   .ingest 0 (.insert "inter" true none), .ingest 0 .addIntermediate, .ingest 0 .evaluate,
   .load 0 .swap]

/-- **An intermediate is lost**: both runs have finished, the intermediate is stored,
parseable and not flagged, and the pool does not have it. -/
theorem intermediate_lost :
    ∃ tr t, Exec step (start (emptyDB samplePKI) (Evaluator.new samplePKI)) tr t ∧ Finished t
      ∧ ∃ i c, t.ingests i = .done c ∧ t.db.Loadable c ∧ c ∉ t.ev.intermediates := by
  have hrun : ∃ t, run step (start (emptyDB samplePKI) (Evaluator.new samplePKI)) losingRun = some t
      ∧ t.loaders = Function.update (Function.update (Function.update (fun _ => .idle) 0
          (.anchorsListed [])) 0 (.listed [] [])) 0 .done
      ∧ t.ingests = Function.update (Function.update (Function.update (fun _ => .idle) 0
          (.inserted SampleCert.inter)) 0 (.added SampleCert.inter)) 0 (.done SampleCert.inter)
      ∧ newIntermediates samplePKI t.db.listNonAnchorCertPEMs = [SampleCert.inter]
      ∧ t.ev.intermediates = [] := ⟨_, rfl, rfl, rfl, rfl, rfl⟩
  obtain ⟨t, ht, hloaders, hingests, hload, hempty⟩ := hrun
  refine ⟨_, t, exec_traceFrom ht, ⟨fun l => ?_, fun i => ?_⟩, 0, SampleCert.inter,
    ?_, ?_, ?_⟩
  · rw [hloaders]
    by_cases hl : l = 0
    · exact .inr (by simp [hl])
    · exact .inl (by simp [hl])
  · rw [hingests]
    by_cases hi : i = 0
    · simp [hi, Ingest.finished]
    · simp [hi, Ingest.finished]
  · simp [hingests]
  · show SampleCert.inter ∈ newIntermediates samplePKI t.db.listNonAnchorCertPEMs
    rw [hload]
    exact List.mem_singleton.mpr rfl
  · rw [hempty]
    exact List.not_mem_nil

end TLSentinel.Trust.PoolRace
