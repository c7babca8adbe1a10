/-
  TLSentinel.Reports.Attention
  ────────────────────────────
  **WHAT NEEDS ATTENTION AT AN ENDPOINT.**

  The posture report lists every security concern of an endpoint with the worst
  severity of them (`allAttentionIssues`).  It counts the critical and the weak suites
  and decides by a chain of ifs, where `Classify` keeps a running worst; the counts say
  which of the two branches the running worst would have taken (`foldl_worst_suites`).

  Main results:
    * `attention_worst`       — the two classifiers come to the same severity;
    * `attention_issues_eq_nil_iff` — no issue is listed exactly when all is well.
-/
import TLSentinel.TLSProfile.Classify

namespace TLSentinel.Reports

open Foundation TLSProfile

/-! ## §1. The pass over an endpoint. -/

/-- The issues so far, and the worst severity of them. -/
structure Attention where
  issues : List String
  worst : Severity
  deriving DecidableEq, Repr

/-- How many suites are critical, and how many are weak. -/
structure SuiteCounts where
  critical : Nat
  warning : Nat
  deriving DecidableEq, Repr

/-- The switch over the severity of a suite. -/
def countSuite (counts : SuiteCounts) (suite : String) : SuiteCounts :=
  match cipherSeverity suite with
  | .critical => { counts with critical := counts.critical + 1 }
  | .warning => { counts with warning := counts.warning + 1 }
  | .ok => counts

/-- `criticalCount, warningCount`. -/
def suiteCounts (cipherSuites : List String) : SuiteCounts :=
  cipherSuites.foldl countSuite ⟨0, 0⟩

/-- The versions that are a concern. -/
def versionIssues (ssl30 tls10 tls11 : Bool) : Attention :=
  let a : Attention := ⟨[], .ok⟩
  let a := if ssl30 then ⟨a.issues ++ ["Supports SSL 3.0"], .critical⟩ else a
  let a := if tls10 then ⟨a.issues ++ ["Supports TLS 1.0"], .critical⟩ else a
  if tls11 then
    ⟨a.issues ++ ["Supports TLS 1.1"], if a.worst ≠ .critical then .warning else a.worst⟩
  else a

/-- The suites that are a concern, after the versions. -/
def suiteIssues (a : Attention) (counts : SuiteCounts) : Attention :=
  let a :=
    if counts.critical > 0 then
      ⟨a.issues ++ ["Accepts " ++ toString counts.critical ++ " critical cipher suite(s)"],
        .critical⟩
    else a
  if counts.warning > 0 then
    ⟨a.issues ++ ["Accepts " ++ toString counts.warning ++ " weak cipher suite(s)"],
      if a.worst = .ok then .warning else a.worst⟩
  else a

/-- What the pass has collected at its end. -/
def attention (ssl30 tls10 tls11 : Bool) (cipherSuites : List String) : Attention :=
  suiteIssues (versionIssues ssl30 tls10 tls11) (suiteCounts cipherSuites)

/-- `allAttentionIssues`. -/
def allAttentionIssues (ssl30 tls10 tls11 : Bool) (cipherSuites : List String) :
    List String × String :=
  let a := attention ssl30 tls10 tls11 cipherSuites
  if a.issues = [] then ([], "") else (a.issues, a.worst.text)

/-! ## §2. The counts and the running worst. -/

/-- The severity that the counts stand for. -/
def SuiteCounts.worst (counts : SuiteCounts) : Severity :=
  if counts.critical > 0 then .critical else if counts.warning > 0 then .warning else .ok

theorem worst_countSuite (counts : SuiteCounts) (suite : String) :
    (countSuite counts suite).worst = TLSProfile.worst counts.worst (cipherSeverity suite) := by
  unfold countSuite SuiteCounts.worst
  cases cipherSeverity suite <;>
    by_cases hc : counts.critical > 0 <;> by_cases hw : counts.warning > 0 <;>
      simp [hc, hw, TLSProfile.worst]

/-- **Counting the suites comes to the running worst of them.** -/
theorem foldl_worst_suites (cipherSuites : List String) (counts : SuiteCounts) :
    (cipherSuites.map cipherSeverity).foldl TLSProfile.worst counts.worst =
      (cipherSuites.foldl countSuite counts).worst := by
  induction cipherSuites generalizing counts with
  | nil => rfl
  | cons suite cipherSuites ih =>
      rw [List.map_cons, List.foldl_cons, List.foldl_cons, ← worst_countSuite, ih]

theorem worst_assoc (a b c : Severity) :
    TLSProfile.worst (TLSProfile.worst a b) c = TLSProfile.worst a (TLSProfile.worst b c) := by
  cases a <;> cases b <;> cases c <;> rfl

/-- What the loop starts with may be joined at its end. -/
theorem foldl_worst_start (l : List Severity) (a : Severity) :
    l.foldl TLSProfile.worst a = TLSProfile.worst a (l.foldl TLSProfile.worst .ok) := by
  induction l generalizing a with
  | nil => cases a <;> rfl
  | cons s l ih =>
      rw [List.foldl_cons, List.foldl_cons, ih, ih (TLSProfile.worst .ok s), worst_assoc]
      cases s <;> rfl

/-! ## §3. The two classifiers. -/

/-- The severity after the suites. -/
theorem worst_suiteIssues (a : Attention) (counts : SuiteCounts) :
    (suiteIssues a counts).worst = TLSProfile.worst a.worst counts.worst := by
  unfold suiteIssues SuiteCounts.worst
  by_cases hc : counts.critical > 0 <;> by_cases hw : counts.warning > 0 <;>
    cases ha : a.worst <;> simp [hc, hw, ha, TLSProfile.worst]

/-- The versions that are well are no concern, whether accepted or not. -/
theorem worst_versionIssues (ssl30 tls10 tls11 tls12 tls13 : Bool) :
    (versionIssues ssl30 tls10 tls11).worst =
      ((acceptedVersions ssl30 tls10 tls11 tls12 tls13).map
        fun v => v.finding.severity).foldl TLSProfile.worst .ok := by
  cases ssl30 <;> cases tls10 <;> cases tls11 <;> cases tls12 <;> cases tls13 <;> decide

section Agreement

variable {ssl30 tls10 tls11 : Bool} {cipherSuites : List String}

/-- **The chain of ifs and the running worst come to one severity.** -/
theorem attention_worst (tls12 tls13 : Bool) :
    (attention ssl30 tls10 tls11 cipherSuites).worst =
      (classify ssl30 tls10 tls11 tls12 tls13 cipherSuites).overallSeverity := by
  have hsuites : (cipherSuites.map suiteFinding).map Finding.severity =
      cipherSuites.map cipherSeverity := by
    rw [List.map_map]
    exact List.map_congr_left fun name _ => severity_suiteFinding name
  rw [classify_eq, List.map_append, List.foldl_append, hsuites, foldl_worst_start, attention,
    worst_suiteIssues, worst_versionIssues ssl30 tls10 tls11 tls12 tls13, List.map_map]
  congr 1
  exact (foldl_worst_suites cipherSuites ⟨0, 0⟩).symm

/-- Issues are listed with their severity. -/
theorem versionIssues_eq_nil_iff :
    (versionIssues ssl30 tls10 tls11).issues = [] ↔
      (versionIssues ssl30 tls10 tls11).worst = .ok := by
  cases ssl30 <;> cases tls10 <;> cases tls11 <;> decide

theorem suiteIssues_eq_nil_iff {a : Attention} {counts : SuiteCounts}
    (ha : a.issues = [] ↔ a.worst = .ok) :
    (suiteIssues a counts).issues = [] ↔ (suiteIssues a counts).worst = .ok := by
  unfold suiteIssues
  by_cases hc : counts.critical > 0 <;> by_cases hw : counts.warning > 0 <;>
    simp [hc, hw, ha]
  cases a.worst <;> simp

/-- **No issue is listed exactly when all is well.** -/
theorem attention_issues_eq_nil_iff :
    (attention ssl30 tls10 tls11 cipherSuites).issues = [] ↔
      (attention ssl30 tls10 tls11 cipherSuites).worst = .ok :=
  suiteIssues_eq_nil_iff versionIssues_eq_nil_iff

end Agreement

theorem Severity.text_ne_empty (s : Severity) : s.text ≠ "" := by
  cases s <;> decide

/-- What is returned, by the severity that `Classify` comes to. -/
theorem allAttentionIssues_of_classify (ssl30 tls10 tls11 tls12 tls13 : Bool)
    (cipherSuites : List String) :
    let overall := (classify ssl30 tls10 tls11 tls12 tls13 cipherSuites).overallSeverity
    let found := allAttentionIssues ssl30 tls10 tls11 cipherSuites
    (found.1 = [] ↔ overall = .ok) ∧ (found.2 = "" ↔ overall = .ok) ∧
      (overall ≠ .ok → found.2 = overall.text) := by
  intro overall found
  have hworst : (attention ssl30 tls10 tls11 cipherSuites).worst = overall :=
    attention_worst tls12 tls13
  have hnil := @attention_issues_eq_nil_iff ssl30 tls10 tls11 cipherSuites
  rw [hworst] at hnil
  unfold found allAttentionIssues
  by_cases h : overall = .ok
  · simp [hnil.mpr h, h]
  · have hissues : (attention ssl30 tls10 tls11 cipherSuites).issues ≠ [] :=
      fun hn => h (hnil.mp hn)
    simp [hissues, h, hworst, Severity.text_ne_empty]

/-- **The two classifiers agree.**  `Classify` finds each suite once, in order, with the
severity of its name; its overall severity is the worst of all findings, whatever their
order, and never falls when suites are added; and the attention pass returns the same. -/
theorem classifiers_agree (ssl30 tls10 tls11 tls12 tls13 : Bool) (cipherSuites : List String) :
    let result := classify ssl30 tls10 tls11 tls12 tls13
    let found := allAttentionIssues ssl30 tls10 tls11 cipherSuites
    let overall := (result cipherSuites).overallSeverity
    ((result cipherSuites).cipherSuites.map Finding.name = cipherSuites ∧
      (result cipherSuites).cipherSuites.map Finding.severity =
        cipherSuites.map cipherSeverity) ∧
    ((∀ f ∈ (result cipherSuites).versions ++ (result cipherSuites).cipherSuites,
        f.severity ≤ overall) ∧
      (overall = .ok ∨
        ∃ f ∈ (result cipherSuites).versions ++ (result cipherSuites).cipherSuites,
          overall = f.severity)) ∧
    (∀ permuted, cipherSuites.Perm permuted → (result permuted).overallSeverity = overall) ∧
    (∀ more, overall ≤ (result (cipherSuites ++ more)).overallSeverity) ∧
    (found.1 = [] ↔ overall = .ok) ∧ (found.2 = "" ↔ overall = .ok) ∧
      (overall ≠ .ok → found.2 = overall.text) := by
  intro result found overall
  refine ⟨⟨?_, ?_⟩, ⟨?_, ?_⟩, ?_, ?_,
    allAttentionIssues_of_classify ssl30 tls10 tls11 tls12 tls13 cipherSuites⟩
  · rw [classify_cipherSuites, List.map_map]
    exact (List.map_congr_left fun name _ => name_suiteFinding name).trans (List.map_id _)
  · rw [classify_cipherSuites, List.map_map]
    exact List.map_congr_left fun name _ => severity_suiteFinding name
  · intro f hf
    exact (le_extremes_fst hf).trans classify_overall.ge
  · unfold overall
    rw [classify_overall]
    exact extremes_fst_mem Finding.severity _ _
  · intro permuted hperm
    unfold overall result
    rw [classify_overall, classify_overall, extremes_congr fun f => ?_]
    simp [classify_findings, hperm.mem_iff]
  · intro more
    unfold overall result
    rw [classify_overall, classify_overall]
    apply extremes_fst_mono
    intro f hf
    rw [classify_findings] at hf ⊢
    simp only [List.map_append, List.mem_append] at hf ⊢
    tauto

end TLSentinel.Reports
