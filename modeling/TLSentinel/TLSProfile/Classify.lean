/-
  TLSentinel.TLSProfile.Classify
  ──────────────────────────────
  **FINDINGS, AND THE WORST OF THEM.**

  `Classify` makes one finding of every version a server accepts and of every cipher
  suite, and carries the worst severity along.  That severity is the greatest of all
  findings, so what holds of a best value seen (`extremes`) holds of it.

  Main results:
    * `classify_cipherSuites` — one finding for each suite, in their order;
    * `classify_overall`      — the overall severity is the best value seen of them.
-/
import TLSentinel.Foundation.Ratings
import TLSentinel.TLSProfile.Ciphers
import Mathlib.Order.Basic

namespace TLSentinel.TLSProfile

open Foundation

/-! ## §1. Severities. -/

/-- How bad it is. -/
def Severity.rank : Severity → Nat
  | .ok => 0
  | .warning => 1
  | .critical => 2

instance : LinearOrder Severity :=
  LinearOrder.lift' Severity.rank (by intro a b h; cases a <;> cases b <;> first | rfl | cases h)

/-- `worst`. -/
def worst (a b : Severity) : Severity :=
  if a = .critical ∨ b = .critical then .critical
  else if a = .warning ∨ b = .warning then .warning
  else .ok

/-- The running worst is the best value seen of a loop. -/
theorem foldl_worst (l : List Severity) (a b : Severity) :
    l.foldl worst a = (extremes id (a, b) l).1 := by
  induction l generalizing a b with
  | nil => rfl
  | cons s l ih =>
      have hstep : worst a s = (extremesStep id (a, b) s).1 := by
        cases a <;> cases s <;> rfl
      rw [List.foldl_cons, hstep, ih]
      rfl

/-! ## §2. Classify. -/

/-- The versions that are probed. -/
inductive Version where
  | ssl30
  | tls10
  | tls11
  | tls12
  | tls13
  deriving DecidableEq, Repr

/-- `versionClassifications`. -/
def Version.finding : Version → Finding
  | .ssl30 => ⟨"SSL 3.0",
      "Deprecated by RFC 7568 (June 2015). Vulnerable to POODLE with any CBC cipher.", .critical⟩
  | .tls10 => ⟨"TLS 1.0",
      "Deprecated by RFC 8996 (March 2021). Vulnerable to POODLE and BEAST attacks.", .critical⟩
  | .tls11 => ⟨"TLS 1.1",
      "Deprecated by RFC 8996 (March 2021). Lacks support for AEAD cipher suites.", .warning⟩
  | .tls12 => ⟨"TLS 1.2",
      "Widely supported. Secure when restricted to AEAD cipher suites.", .ok⟩
  | .tls13 => ⟨"TLS 1.3",
      "Current best practice. AEAD-only; obsolete features removed from the protocol.", .ok⟩

/-- `versionOrder`. -/
def versionOrder : List Version := [.ssl30, .tls10, .tls11, .tls12, .tls13]

/-- `Result`. -/
structure Result where
  versions : List Finding
  cipherSuites : List Finding
  overallSeverity : Severity
  deriving DecidableEq, Repr

/-- One more finding, and the worst severity so far. -/
def addFinding (acc : List Finding × Severity) (f : Finding) : List Finding × Severity :=
  (acc.1 ++ [f], worst acc.2 f.severity)

/-- The finding of a suite. -/
def suiteFinding (name : String) : Finding :=
  match cipherClassifications.lookup name with
  | some f => f
  | none => ⟨name, unknownReason, .ok⟩

/-- `Classify`. -/
def classify (ssl30 tls10 tls11 tls12 tls13 : Bool) (cipherSuites : List String) : Result :=
  let versionEnabled : Version → Bool
    | .ssl30 => ssl30
    | .tls10 => tls10
    | .tls11 => tls11
    | .tls12 => tls12
    | .tls13 => tls13
  let versions := versionOrder.foldl
    (fun acc v => if versionEnabled v then addFinding acc v.finding else acc) ([], .ok)
  let suites := cipherSuites.foldl (fun acc name => addFinding acc (suiteFinding name))
    ([], versions.2)
  ⟨versions.1, suites.1, suites.2⟩

/-! ## §3. What it returns. -/

theorem name_suiteFinding (name : String) : (suiteFinding name).name = name := by
  unfold suiteFinding
  cases h : cipherClassifications.lookup name with
  | none => rfl
  | some f => exact name_of_lookup h

/-- The finding of a suite has the severity of its name. -/
theorem severity_suiteFinding (name : String) :
    (suiteFinding name).severity = cipherSeverity name := by
  unfold suiteFinding cipherSeverity
  cases cipherClassifications.lookup name <;> rfl

/-- A loop that adds findings. -/
theorem foldl_addFinding {α : Type} (finding : α → Finding) (l : List α)
    (acc : List Finding × Severity) :
    l.foldl (fun acc a => addFinding acc (finding a)) acc =
      (acc.1 ++ l.map finding, (l.map fun a => (finding a).severity).foldl worst acc.2) := by
  induction l generalizing acc with
  | nil => simp
  | cons a l ih =>
      rw [List.foldl_cons, ih]
      simp [addFinding]

/-- The versions accepted, as a list. -/
def acceptedVersions (ssl30 tls10 tls11 tls12 tls13 : Bool) : List Version :=
  ([(Version.ssl30, ssl30), (.tls10, tls10), (.tls11, tls11), (.tls12, tls12),
    (.tls13, tls13)].filter Prod.snd).map Prod.fst

section Classify

variable (ssl30 tls10 tls11 tls12 tls13 : Bool) (cipherSuites : List String)

/-- **What Classify returns.** -/
theorem classify_eq :
    classify ssl30 tls10 tls11 tls12 tls13 cipherSuites =
      ⟨(acceptedVersions ssl30 tls10 tls11 tls12 tls13).map Version.finding,
        cipherSuites.map suiteFinding,
        (((acceptedVersions ssl30 tls10 tls11 tls12 tls13).map Version.finding ++
          cipherSuites.map suiteFinding).map Finding.severity).foldl worst .ok⟩ := by
  unfold classify
  simp only [foldl_addFinding]
  cases ssl30 <;> cases tls10 <;> cases tls11 <;> cases tls12 <;> cases tls13 <;>
    simp [versionOrder, acceptedVersions, addFinding, Function.comp_def]

variable {ssl30 tls10 tls11 tls12 tls13 cipherSuites}

/-- **One finding of each suite, in the order of the list.** -/
theorem classify_cipherSuites :
    (classify ssl30 tls10 tls11 tls12 tls13 cipherSuites).cipherSuites =
      cipherSuites.map suiteFinding := by
  rw [classify_eq]

theorem classify_versions :
    (classify ssl30 tls10 tls11 tls12 tls13 cipherSuites).versions =
      (acceptedVersions ssl30 tls10 tls11 tls12 tls13).map Version.finding := by
  rw [classify_eq]

/-- All findings of a result. -/
def Result.findings (r : Result) : List Finding := r.versions ++ r.cipherSuites

theorem classify_findings :
    (classify ssl30 tls10 tls11 tls12 tls13 cipherSuites).findings =
      (acceptedVersions ssl30 tls10 tls11 tls12 tls13).map Version.finding ++
        cipherSuites.map suiteFinding := by
  rw [Result.findings, classify_versions, classify_cipherSuites]

/-- **The overall severity is the worst of all findings.** -/
theorem classify_overall :
    (classify ssl30 tls10 tls11 tls12 tls13 cipherSuites).overallSeverity =
      (extremes Finding.severity (.ok, .ok)
        (classify ssl30 tls10 tls11 tls12 tls13 cipherSuites).findings).1 := by
  have hfold := foldl_worst ((classify ssl30 tls10 tls11 tls12 tls13 cipherSuites).findings.map
    Finding.severity) .ok .ok
  rw [extremes_map] at hfold
  rw [← show _ = (extremes Finding.severity (.ok, .ok) _).1 from hfold, classify_findings,
    classify_eq]

end Classify

end TLSentinel.TLSProfile
