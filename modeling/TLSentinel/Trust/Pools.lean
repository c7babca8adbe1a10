/-
  TLSentinel.Trust.Pools
  ──────────────────────
  **LOADPOOLS IS ATOMIC AND THE POOLS ARE EXACT.**

  The evaluator under any sequence of `LoadPools` and `AddIntermediate` calls.  What a
  source answers is arbitrary: either query may fail, any text may stand for a PEM.

  Main results:
    * `loadPools_error`        — a `LoadPools` that fails leaves the pools alone;
    * `rootsExact_newRoots`    — one that succeeds has the root pools of its source;
    * `runCalls_lastLoad`      — the pools, by the last load and what came after;
    * `pools_exact`            — all of it, over whole sequences of calls.
-/
import TLSentinel.Trust.Evaluator
import TLSentinel.Foundation.Tables

namespace TLSentinel.Trust.Pools

open Foundation

variable {X : X509}

/-! ## §1. Sources and calls. -/

/-- The PEMs of each store, a map. -/
abbrev AnchorMap := Table fun (a : String × List String) => a.1

/-- The PEM of each fingerprint, a map. -/
abbrev CertMap := Table fun (n : String × String) => n.1

/-- What a `PoolSource` answers to the two queries. -/
structure PoolSource where
  listAnchorPEMsByStore : Except String AnchorMap
  listNonAnchorCertPEMs : Except String CertMap

/-- `LoadPools`: the evaluator after the call, and the error it returns. -/
def loadPools (e : Evaluator X) (src : PoolSource) : Evaluator X × Option String :=
  match src.listAnchorPEMsByStore with
  | .error err => (e.loadPools none none, some ("load anchors: " ++ err))
  | .ok anchors =>
      match src.listNonAnchorCertPEMs with
      | .error err =>
          (e.loadPools (some anchors.rows) none, some ("load non-anchor certs: " ++ err))
      | .ok nonAnchors => (e.loadPools (some anchors.rows) (some nonAnchors.rows), none)

/-- `AddIntermediate`, with no certificate for a nil pointer. -/
def addIntermediate (e : Evaluator X) : Option X.Cert → Evaluator X
  | none => e
  | some cert => e.addIntermediate cert

/-- A call. -/
inductive Call (X : X509) where
  | load (src : PoolSource)
  | add (cert : Option X.Cert)

/-- The evaluator after a call. -/
def step (e : Evaluator X) : Call X → Evaluator X
  | .load src => (loadPools e src).1
  | .add cert => addIntermediate e cert

/-- The evaluator after a sequence of calls, from `New`. -/
def runCalls (calls : List (Call X)) : Evaluator X := calls.foldl step (Evaluator.new X)

/-! ## §2. What the pools should be. -/

/-- The source answers both queries. -/
def Answers (src : PoolSource) (anchors : AnchorMap) (nonAnchors : CertMap) : Prop :=
  src.listAnchorPEMsByStore = .ok anchors ∧ src.listNonAnchorCertPEMs = .ok nonAnchors

/-- The root pool of a store. -/
def rootPool (e : Evaluator X) (storeID : String) : Option (List X.Cert) :=
  e.rootPools.lookup storeID

/-- Every store listed has the pool of its parseable anchors, and no other store has one. -/
def RootsExact (e : Evaluator X) (anchors : AnchorMap) : Prop :=
  (∀ storeID, (rootPool e storeID).isSome = true ↔ ∃ pems, (storeID, pems) ∈ anchors) ∧
    ∀ storeID pems roots, (storeID, pems) ∈ anchors → rootPool e storeID = some roots →
      ∀ c, c ∈ roots ↔ ∃ p ∈ pems, X.parsePEM p = some c

/-- A parseable CA of the non-anchors. -/
def ListedCA (X : X509) (nonAnchors : CertMap) (c : X.Cert) : Prop :=
  X.isCA c = true ∧ ∃ fp p, (fp, p) ∈ nonAnchors ∧ X.parsePEM p = some c

/-- Added by one of the calls. -/
def AddedCA (calls : List (Call X)) (c : X.Cert) : Prop :=
  X.isCA c = true ∧ Call.add (some c) ∈ calls

/-- No `LoadPools` among the calls succeeds. -/
def NoLoad (calls : List (Call X)) : Prop :=
  ∀ src, Call.load src ∈ calls → ∀ anchors nonAnchors, ¬Answers src anchors nonAnchors

/-! ## §3. One call. -/

/-- Everything `LoadPools` can do. -/
theorem loadPools_cases (e : Evaluator X) (src : PoolSource) :
    ((loadPools e src).1 = e ∧ (∃ err, (loadPools e src).2 = some err) ∧
        ∀ anchors nonAnchors, ¬Answers src anchors nonAnchors) ∨
      ∃ anchors nonAnchors, Answers src anchors nonAnchors ∧ (loadPools e src).2 = none ∧
        (loadPools e src).1 = ⟨newRoots X anchors.rows, newIntermediates X nonAnchors.rows⟩ := by
  unfold loadPools Answers
  cases hanchors : src.listAnchorPEMsByStore with
  | error err => exact Or.inl ⟨rfl, ⟨_, rfl⟩, by simp⟩
  | ok anchors =>
      cases hnonAnchors : src.listNonAnchorCertPEMs with
      | error err => exact Or.inl ⟨rfl, ⟨_, rfl⟩, by simp⟩
      | ok nonAnchors => exact Or.inr ⟨anchors, nonAnchors, ⟨rfl, rfl⟩, rfl, rfl⟩

/-- **A `LoadPools` that fails leaves the pools alone.** -/
theorem loadPools_error {e : Evaluator X} {src : PoolSource} {err : String}
    (h : (loadPools e src).2 = some err) : (loadPools e src).1 = e := by
  obtain ⟨hsame, -, -⟩ | ⟨anchors, nonAnchors, -, hnone, -⟩ := loadPools_cases e src
  · exact hsame
  · rw [hnone] at h
    cases h

theorem step_load {e : Evaluator X} {src : PoolSource} {anchors : AnchorMap}
    {nonAnchors : CertMap} (h : Answers src anchors nonAnchors) :
    step e (.load src) = ⟨newRoots X anchors.rows, newIntermediates X nonAnchors.rows⟩ := by
  show (loadPools e src).1 = _
  unfold loadPools
  rw [h.1, h.2]
  rfl

/-- A lookup in the new pools. -/
theorem lookup_newRoots (anchors : List (String × List String)) (storeID : String) :
    (newRoots X anchors).lookup storeID =
      (anchors.find? fun a => a.1 = storeID).map fun a => a.2.filterMap X.parsePEM := by
  unfold newRoots
  induction anchors with
  | nil => rfl
  | cons a anchors ih =>
      rw [List.map_cons, List.lookup_cons]
      by_cases h : a.1 = storeID
      · simp [h]
      · have hne : (storeID == a.1) = false := by simpa using fun heq => h heq.symm
        rw [hne, List.find?_cons_of_neg (by simp [h])]
        exact ih

/-- **The root pools of a load are those of its source.** -/
theorem rootsExact_newRoots (anchors : AnchorMap) (intermediates : List X.Cert) :
    RootsExact (⟨newRoots X anchors.rows, intermediates⟩ : Evaluator X) anchors := by
  have hpool : ∀ storeID, rootPool (⟨newRoots X anchors.rows, intermediates⟩ : Evaluator X)
      storeID = (anchors.find? storeID).map fun a => a.2.filterMap X.parsePEM :=
    lookup_newRoots anchors.rows
  constructor
  · intro storeID
    rw [hpool, Option.isSome_map]
    constructor
    · intro h
      obtain ⟨a, ha⟩ := Option.isSome_iff_exists.mp h
      obtain ⟨hmem, hkey⟩ := Table.find?_eq_some_iff.mp ha
      exact ⟨a.2, hkey ▸ hmem⟩
    · rintro ⟨pems, hmem⟩
      rw [Option.isSome_iff_exists]
      exact ⟨_, Table.find?_eq_some_iff.mpr ⟨hmem, rfl⟩⟩
  · intro storeID pems roots hmem hroots c
    have hfound : anchors.find? storeID = some (storeID, pems) :=
      Table.find?_eq_some_iff.mpr ⟨hmem, rfl⟩
    rw [hpool, hfound] at hroots
    injection hroots with hroots
    rw [← hroots]
    exact List.mem_filterMap

/-! ## §4. Sequences of calls. -/

theorem runCalls_append (before after : List (Call X)) :
    runCalls (before ++ after) = after.foldl step (runCalls before) :=
  List.foldl_append

/-- **Without a load that succeeds** the roots stay and the intermediates grow by what is
added. -/
theorem foldl_step_noLoad {calls : List (Call X)} (h : NoLoad calls) (e : Evaluator X) :
    (calls.foldl step e).rootPools = e.rootPools ∧
      ∀ c, c ∈ (calls.foldl step e).intermediates ↔
        c ∈ e.intermediates ∨ AddedCA calls c := by
  induction calls generalizing e with
  | nil => simp [AddedCA]
  | cons call calls ih =>
      have hrest : NoLoad calls := fun src hsrc => h src (List.mem_cons_of_mem _ hsrc)
      obtain ⟨hroots, hinter⟩ := ih hrest (step e call)
      rw [List.foldl_cons]
      cases call with
      | load src =>
          have hsame : step e (.load src) = e := by
            obtain ⟨hsame, -, -⟩ | ⟨anchors, nonAnchors, hanswers, -⟩ := loadPools_cases e src
            · exact hsame
            · exact absurd hanswers (h src List.mem_cons_self anchors nonAnchors)
          rw [hsame] at hroots hinter ⊢
          refine ⟨hroots, fun c => (hinter c).trans (or_congr_right ?_)⟩
          unfold AddedCA
          simp
      | add cert =>
          cases cert with
          | none =>
              refine ⟨hroots, fun c => (hinter c).trans (or_congr_right ?_)⟩
              unfold AddedCA
              simp
          | some d =>
              refine ⟨hroots.trans (Evaluator.addIntermediate_rootPools e d), fun c => ?_⟩
              have hmem : c ∈ (step e (.add (some d))).intermediates ↔
                  c ∈ e.intermediates ∨ (c = d ∧ X.isCA d = true) :=
                Evaluator.mem_addIntermediate
              rw [hinter c, hmem, or_assoc]
              refine or_congr_right ?_
              unfold AddedCA
              rw [List.mem_cons, Call.add.injEq, Option.some.injEq]
              constructor
              · rintro (⟨rfl, hCA⟩ | ⟨hCA, hcalls⟩)
                · exact ⟨hCA, Or.inl rfl⟩
                · exact ⟨hCA, Or.inr hcalls⟩
              · rintro ⟨hCA, rfl | hcalls⟩
                · exact Or.inl ⟨rfl, hCA⟩
                · exact Or.inr ⟨hCA, hcalls⟩

/-- **The pools after the last load that succeeds.** -/
theorem runCalls_lastLoad {before after : List (Call X)} {src : PoolSource}
    {anchors : AnchorMap} {nonAnchors : CertMap} (hsrc : Answers src anchors nonAnchors)
    (hafter : NoLoad after) :
    RootsExact (runCalls (before ++ .load src :: after)) anchors ∧
      ∀ c, c ∈ (runCalls (before ++ .load src :: after)).intermediates ↔
        ListedCA X nonAnchors c ∨ AddedCA after c := by
  rw [runCalls_append, List.foldl_cons, step_load hsrc]
  obtain ⟨hroots, hinter⟩ := foldl_step_noLoad hafter
    ⟨newRoots X anchors.rows, newIntermediates X nonAnchors.rows⟩
  constructor
  · have hexact := rootsExact_newRoots anchors (newIntermediates X nonAnchors.rows)
    unfold RootsExact rootPool at hexact ⊢
    rw [hroots]
    exact hexact
  · intro c
    rw [hinter c]
    exact or_congr_left mem_newIntermediates

/-- Some load is the last one to succeed, or none does. -/
theorem lastLoad_cases (calls : List (Call X)) :
    NoLoad calls ∨ ∃ before src after anchors nonAnchors,
      calls = before ++ .load src :: after ∧ Answers src anchors nonAnchors ∧ NoLoad after := by
  induction calls with
  | nil => exact Or.inl fun src hsrc => absurd hsrc List.not_mem_nil
  | cons call calls ih =>
      obtain hnone | ⟨before, src, after, anchors, nonAnchors, rfl, hsrc, hafter⟩ := ih
      · by_cases hload : ∃ src anchors nonAnchors,
            call = .load src ∧ Answers src anchors nonAnchors
        · obtain ⟨src, anchors, nonAnchors, rfl, hsrc⟩ := hload
          exact Or.inr ⟨[], src, calls, anchors, nonAnchors, rfl, hsrc, hnone⟩
        · refine Or.inl fun src hsrc anchors nonAnchors hanswers => ?_
          obtain hcall | hcalls := List.mem_cons.mp hsrc
          · exact hload ⟨src, anchors, nonAnchors, hcall.symm, hanswers⟩
          · exact hnone src hcalls anchors nonAnchors hanswers
      · exact Or.inr ⟨call :: before, src, after, anchors, nonAnchors, rfl, hsrc, hafter⟩

/-- **In every reachable state the pool of intermediates holds CA certificates only.** -/
theorem isCA_of_mem_intermediates {calls : List (Call X)} {c : X.Cert}
    (h : c ∈ (runCalls calls).intermediates) : X.isCA c = true := by
  obtain hnone | ⟨before, src, after, anchors, nonAnchors, rfl, hsrc, hafter⟩ :=
    lastLoad_cases calls
  · obtain hnew | hadded := ((foldl_step_noLoad hnone (Evaluator.new X)).2 c).mp h
    · exact absurd hnew List.not_mem_nil
    · exact hadded.1
  · obtain hlisted | hadded := ((runCalls_lastLoad hsrc hafter).2 c).mp h
    · exact hlisted.1
    · exact hadded.1

/-- **LoadPools is atomic and the pools are exact**, after any sequence of calls. -/
theorem pools_exact (X : X509) (calls : List (Call X)) :
    (∀ src err, (loadPools (runCalls calls) src).2 = some err →
      (loadPools (runCalls calls) src).1 = runCalls calls) ∧
    (∀ src, (loadPools (runCalls calls) src).2 = none →
      ∃ anchors nonAnchors, Answers src anchors nonAnchors ∧
        RootsExact (loadPools (runCalls calls) src).1 anchors) ∧
    (∀ c ∈ (runCalls calls).intermediates, X.isCA c = true) ∧
    (NoLoad calls → ∀ c, c ∈ (runCalls calls).intermediates ↔ AddedCA calls c) ∧
    ∀ before src after anchors nonAnchors, calls = before ++ .load src :: after →
      Answers src anchors nonAnchors → NoLoad after →
        RootsExact (runCalls calls) anchors ∧
          ∀ c, c ∈ (runCalls calls).intermediates ↔
            ListedCA X nonAnchors c ∨ AddedCA after c := by
  refine ⟨fun src err => loadPools_error, fun src hnone => ?_, fun c => isCA_of_mem_intermediates,
    fun hnone c => ?_, ?_⟩
  · obtain ⟨-, ⟨err, herr⟩, -⟩ | ⟨anchors, nonAnchors, hanswers, -, hpools⟩ :=
      loadPools_cases (runCalls calls) src
    · rw [hnone] at herr
      cases herr
    · rw [hpools]
      exact ⟨anchors, nonAnchors, hanswers, rootsExact_newRoots anchors _⟩
  · have hmem := (foldl_step_noLoad hnone (Evaluator.new X)).2 c
    refine hmem.trans ⟨?_, Or.inr⟩
    rintro (hnew | hadded)
    · exact absurd hnew List.not_mem_nil
    · exact hadded
  · rintro before src after anchors nonAnchors rfl hsrc hafter
    exact runCalls_lastLoad hsrc hafter

end TLSentinel.Trust.Pools
