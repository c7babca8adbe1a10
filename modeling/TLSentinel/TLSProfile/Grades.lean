/-
  TLSentinel.TLSProfile.Grades
  ────────────────────────────
  **WHAT MOVES THE GRADE.**

  Grades are compared by `gradeRank`.  One rule, `rank_score_le`, carries the
  comparisons: where T, M and the forced failures of the worse input are failures of
  the other as well, the numeric grade and the caps decide.

  Main results:
    * `score_failures_and_caps` — forced F, caps, T and M; a fault never helps;
    * `rank_withBits_le_iff`    — more key-exchange bits, and the zero that escapes F;
    * `rank_addSuite_le`        — one more weak suite, and the suites that are all RC4;
    * `rank_completes_le_iff`   — a more complete scan, and the bits that lift an average.
-/
import TLSentinel.TLSProfile.Score

namespace TLSentinel.TLSProfile

open Foundation

variable (upper : Char → Char)

/-! ## §1. Comparing two grades. -/

/-- Some condition of the C caps holds. -/
def CapsAtC (inp : ScoreInput) : Prop :=
  inp.vulnPoodle = true ∨
    (has3DES upper inp.cipherSuites = true ∨ hasRC4 upper inp.cipherSuites = true) ∧
      (inp.tls11 = true ∨ inp.tls12 = true ∨ inp.tls13 = true) ∨
    inp.tls12 = false ∧ inp.tls13 = false

/-- Some condition of the B caps holds. -/
def CapsAtB (inp : ScoreInput) : Prop :=
  (0 < inp.keyExchangeBits ∧ inp.keyExchangeBits < 2048) ∨ hasRC4 upper inp.cipherSuites = true ∨
    inp.certChainIncomplete = true ∨ inp.hasForwardSecrecy = false ∨ inp.hasAEAD = false ∨
    inp.tls10 = true ∨ inp.tls11 = true

/-- Some condition of the A- caps holds. -/
def CapsAtAMinus (inp : ScoreInput) : Prop := inp.tls13 = false ∨ inp.hsts = some false

/-- **What holds of the caps that apply**: each of the three has its conditions. -/
theorem forall_caps_iff {inp : ScoreInput} {P : Grade → Prop} :
    (∀ c ∈ applicableCaps upper inp, P c) ↔
      (CapsAtC upper inp → P .C) ∧ (CapsAtB upper inp → P .B) ∧
        (CapsAtAMinus inp → P .AMinus) := by
  rw [forall_mem_applicableCaps]
  unfold CapsAtC CapsAtB CapsAtAMinus
  simp only [gradeCaps, List.forall_mem_cons, scoreKeyExchange_isSome, List.not_mem_nil,
    false_implies, implies_true, and_true, Bool.and_eq_true, Bool.or_eq_true,
    Bool.not_eq_true', decide_eq_true_eq, beq_iff_eq]
  grind

/-- What the caps leave. -/
theorem le_caps_iff {inp : ScoreInput} {n : Int} :
    (∀ c ∈ applicableCaps upper inp, n ≤ gradeRank c) ↔
      (CapsAtC upper inp → n ≤ 3) ∧ (CapsAtB upper inp → n ≤ 4) ∧ (CapsAtAMinus inp → n ≤ 5) := by
  rw [forall_caps_iff, gradeRank_C, gradeRank_B, gradeRank_AMinus]

/-- The caps that apply. -/
theorem mem_applicableCaps_iff {inp : ScoreInput} {g : Grade} :
    g ∈ applicableCaps upper inp ↔
      g = .C ∧ CapsAtC upper inp ∨ g = .B ∧ CapsAtB upper inp ∨ g = .AMinus ∧ CapsAtAMinus inp := by
  have hmem : g ∈ applicableCaps upper inp ↔ ¬ ∀ c ∈ applicableCaps upper inp, c ≠ g := by
    simp
  rw [hmem, forall_caps_iff]
  grind

/-- Some condition of the automatic failures holds. -/
def ForcesF (inp : ScoreInput) : Prop :=
  inp.ssl20 = true ∨ inp.certExpired = true ∨ inp.certSelfSigned = true ∨
    inp.certRevoked = true ∨ inp.certInsecureSig = true ∨
    (0 < inp.keyExchangeBits ∧ inp.keyExchangeBits < 1024) ∨
    hasExportSuites upper inp.cipherSuites = true ∨ inp.vulnHeartbleed = true ∨
    inp.vulnDrown = true ∨ inp.vulnRobot = true ∨
    (inp.ssl30 = true ∧ inp.tls10 = false ∧ inp.tls11 = false ∧ inp.tls12 = false ∧
      inp.tls13 = false) ∨
    onlyRC4 upper inp.cipherSuites = true

/-- When F is not forced. -/
theorem failed_eq_false_iff {inp : ScoreInput} :
    failed upper inp = false ↔
      inp.ssl20 = false ∧ inp.certExpired = false ∧ inp.certSelfSigned = false ∧
        inp.certRevoked = false ∧ inp.certInsecureSig = false ∧
        ¬(0 < inp.keyExchangeBits ∧ inp.keyExchangeBits < 1024) ∧
        hasExportSuites upper inp.cipherSuites = false ∧ inp.vulnHeartbleed = false ∧
        inp.vulnDrown = false ∧ inp.vulnRobot = false ∧
        ¬(inp.ssl30 = true ∧ inp.tls10 = false ∧ inp.tls11 = false ∧ inp.tls12 = false ∧
          inp.tls13 = false) ∧
        onlyRC4 upper inp.cipherSuites = false := by
  unfold failed
  simp only [automaticFailures, List.any_cons, List.any_nil, scoreKeyExchange_isSome,
    Bool.or_eq_false_iff, Bool.or_false]
  grind

theorem failed_iff {inp : ScoreInput} : failed upper inp = true ↔ ForcesF upper inp := by
  rw [← not_iff_not, Bool.not_eq_true, failed_eq_false_iff]
  unfold ForcesF
  simp only [not_or, Bool.not_eq_true]

/-- A flag that would have stayed on is off. -/
theorem eq_false_of_imp {x y : Bool} (h : x = true → y = true) (hy : y = false) : x = false := by
  cases x with
  | false => rfl
  | true => rw [h rfl] at hy; cases hy

theorem neg_one_le_gradeRank (g : Grade) : -1 ≤ gradeRank g := by
  cases g <;> decide

/-- The thresholds of the grades. -/
theorem le_rank_scoreToGrade_iff {n s : Int} :
    n ≤ gradeRank (scoreToGrade s) ↔
      n ≤ 6 ∧ (0 < n → 20 ≤ s) ∧ (1 < n → 35 ≤ s) ∧ (2 < n → 50 ≤ s) ∧ (3 < n → 65 ≤ s) ∧
        (4 < n → 80 ≤ s) := by
  unfold scoreToGrade
  split_ifs <;> simp only [gradeRank] <;> omega

/-- A grade that is neither T nor M is F or better. -/
theorem zero_le_rank_score (inp : ScoreInput) (hM : inp.certNameMismatch = false)
    (hT : inp.certNotTrusted = false) : 0 ≤ gradeRank (score upper inp).grade := by
  rw [score_grade]
  simp only [hM, hT, Bool.false_eq_true, if_false]
  cases hF : failed upper inp with
  | true => simp
  | false =>
      simp only [Bool.false_eq_true, if_false, le_rank_capped_iff]
      refine ⟨le_rank_scoreToGrade_iff.mpr (by omega), fun c hc => ?_⟩
      have hpos := gradeRank_pos_of_mem upper c hc
      omega

theorem rank_score_of_special (inp : ScoreInput)
    (h : ¬(inp.certNameMismatch = false ∧ inp.certNotTrusted = false)) :
    gradeRank (score upper inp).grade = -1 := by
  rw [score_grade]
  cases hM : inp.certNameMismatch with
  | true => simp
  | false =>
      cases hT : inp.certNotTrusted with
      | true => simp
      | false => exact absurd ⟨hM, hT⟩ h

theorem rank_score_of_failed (inp : ScoreInput) (hM : inp.certNameMismatch = false)
    (hT : inp.certNotTrusted = false) (hF : failed upper inp = true) :
    gradeRank (score upper inp).grade = 0 := by
  rw [score_grade]
  simp [hM, hT, hF]

/-- **The rule for comparing two grades.**  Special grades and forced failures aside, the
numeric grade and the caps decide. -/
theorem rank_score_le {a b : ScoreInput}
    (hspecial : b.certNameMismatch = false → b.certNotTrusted = false →
      a.certNameMismatch = false ∧ a.certNotTrusted = false)
    (hfailed : b.certNameMismatch = false → b.certNotTrusted = false →
      failed upper b = false → failed upper a = false)
    (hgrade : b.certNameMismatch = false → b.certNotTrusted = false →
      failed upper b = false → ∀ n : Int, 0 < n →
      n ≤ gradeRank (scoreToGrade (score upper b).score) →
      (∀ c ∈ applicableCaps upper b, n ≤ gradeRank c) →
      n ≤ gradeRank (scoreToGrade (score upper a).score) ∧
        ∀ c ∈ applicableCaps upper a, n ≤ gradeRank c) :
    gradeRank (score upper b).grade ≤ gradeRank (score upper a).grade := by
  by_cases hb : b.certNameMismatch = false ∧ b.certNotTrusted = false
  · obtain ⟨haM, haT⟩ := hspecial hb.1 hb.2
    have hzero := zero_le_rank_score upper a haM haT
    by_cases hn : 0 < gradeRank (score upper b).grade
    · obtain ⟨-, -, hbF, hscore, hcaps⟩ := (le_rank_score_iff upper hn).mp le_rfl
      rw [le_rank_score_iff upper hn]
      exact ⟨haM, haT, hfailed hb.1 hb.2 hbF, hgrade hb.1 hb.2 hbF _ hn hscore hcaps⟩
    · omega
  · rw [rank_score_of_special upper b hb]
    exact neg_one_le_gradeRank _

/-! ## §2. Unknown parts. -/

/-- `b` is `a` with unknown parts replaced by known values. -/
structure Completes (a b : ScoreInput) : Prop where
  ssl20 : b.ssl20 = a.ssl20
  ssl30 : b.ssl30 = a.ssl30
  tls10 : b.tls10 = a.tls10
  tls11 : b.tls11 = a.tls11
  tls12 : b.tls12 = a.tls12
  tls13 : b.tls13 = a.tls13
  cipherSuites : b.cipherSuites = a.cipherSuites
  hasForwardSecrecy : b.hasForwardSecrecy = a.hasForwardSecrecy
  hasAEAD : b.hasAEAD = a.hasAEAD
  keyExchangeBits : b.keyExchangeBits = a.keyExchangeBits ∨
    a.keyExchangeBits < 0 ∧ 0 ≤ b.keyExchangeBits
  hsts : b.hsts = a.hsts ∨ a.hsts = none ∧ b.hsts.isSome = true
  certNotTrusted : a.certNotTrusted = true → b.certNotTrusted = true
  certNameMismatch : a.certNameMismatch = true → b.certNameMismatch = true
  certExpired : a.certExpired = true → b.certExpired = true
  certSelfSigned : a.certSelfSigned = true → b.certSelfSigned = true
  certRevoked : a.certRevoked = true → b.certRevoked = true
  certInsecureSig : a.certInsecureSig = true → b.certInsecureSig = true
  certChainIncomplete : a.certChainIncomplete = true → b.certChainIncomplete = true
  vulnHeartbleed : a.vulnHeartbleed = true → b.vulnHeartbleed = true
  vulnPoodle : a.vulnPoodle = true → b.vulnPoodle = true
  vulnDrown : a.vulnDrown = true → b.vulnDrown = true
  vulnRobot : a.vulnRobot = true → b.vulnRobot = true

namespace Completes

variable {a b : ScoreInput} (h : Completes a b)

include h

theorem failed_eq_false (hF : failed upper b = false) : failed upper a = false := by
  rw [failed_eq_false_iff] at hF ⊢
  obtain ⟨h20, hexpired, hself, hrevoked, hsig, hbits, hexport, hbleed, hdrown, hrobot, h30,
    honly⟩ := hF
  rw [h.ssl30, h.tls10, h.tls11, h.tls12, h.tls13] at h30
  have hkey := h.keyExchangeBits
  exact ⟨h.ssl20 ▸ h20, eq_false_of_imp h.certExpired hexpired,
    eq_false_of_imp h.certSelfSigned hself, eq_false_of_imp h.certRevoked hrevoked,
    eq_false_of_imp h.certInsecureSig hsig, by omega, h.cipherSuites ▸ hexport,
    eq_false_of_imp h.vulnHeartbleed hbleed, eq_false_of_imp h.vulnDrown hdrown,
    eq_false_of_imp h.vulnRobot hrobot, h30, h.cipherSuites ▸ honly⟩

theorem capsAtC (hC : CapsAtC upper a) : CapsAtC upper b := by
  unfold CapsAtC at hC ⊢
  rw [h.cipherSuites, h.tls11, h.tls12, h.tls13]
  exact hC.imp_left h.vulnPoodle

theorem capsAtB (hB : CapsAtB upper a) : CapsAtB upper b := by
  unfold CapsAtB at hB ⊢
  rw [h.cipherSuites, h.tls10, h.tls11, h.hasForwardSecrecy, h.hasAEAD]
  have hkey := h.keyExchangeBits
  exact Or.imp (fun hbits => by omega) (Or.imp_right (Or.imp_left h.certChainIncomplete)) hB

theorem capsAtAMinus (hA : CapsAtAMinus a) : CapsAtAMinus b := by
  unfold CapsAtAMinus at hA ⊢
  rw [h.tls13]
  refine hA.imp_right fun hoff => ?_
  obtain hsame | ⟨hnone, -⟩ := h.hsts
  · exact hsame.trans hoff
  · rw [hnone] at hoff
    cases hoff

theorem scoreProtocols_eq : scoreProtocols b = scoreProtocols a := by
  unfold scoreProtocols ScoreInput.enabled
  rw [h.ssl20, h.ssl30, h.tls10, h.tls11, h.tls12, h.tls13]

theorem scoreCipherStrength_eq : scoreCipherStrength upper b = scoreCipherStrength upper a := by
  unfold scoreCipherStrength
  rw [h.cipherSuites]

end Completes

/-- The bits are added to an input whose other parts average below the threshold `t`, and
with them the average reaches it. -/
def CrossesThreshold (a b : ScoreInput) (t : Int) : Prop :=
  ∃ k, scoreKeyExchange b = some k ∧
    scoreProtocols a * 30 + scoreCipherStrength upper a * 40 < 70 * t ∧
    100 * t ≤ scoreProtocols a * 30 + k * 30 + scoreCipherStrength upper a * 40

/-- The bits lift the average over a threshold which no failure and no cap hides. -/
def BitsLift (a b : ScoreInput) : Prop :=
  a.keyExchangeBits < 0 ∧ 0 ≤ b.keyExchangeBits ∧
    b.certNameMismatch = false ∧ b.certNotTrusted = false ∧ failed upper b = false ∧
    ((∃ t ∈ ([20, 35, 50] : List Int), CrossesThreshold upper a b t) ∨
      CrossesThreshold upper a b 65 ∧ ¬CapsAtC upper b ∨
      CrossesThreshold upper a b 80 ∧ ¬CapsAtC upper b ∧ ¬CapsAtB upper b)

/-- The score of the input whose bits are not known. -/
theorem score_unknown {a : ScoreInput} (ha : a.keyExchangeBits < 0) :
    (score upper a).score =
      (scoreProtocols a * 30 + scoreCipherStrength upper a * 40) / 70 := by
  have hnone : scoreKeyExchange a = none := if_pos ha
  show weighted (scoreProtocols a) (scoreKeyExchange a) (scoreCipherStrength upper a) = _
  rw [hnone]
  exact weighted_none (scoreProtocols_mem_range a).1 (scoreCipherStrength_mem_range upper a).1

/-- The score of one whose bits are known. -/
theorem score_known {b : ScoreInput} {k : Int} (hk : scoreKeyExchange b = some k) :
    (score upper b).score =
      (scoreProtocols b * 30 + k * 30 + scoreCipherStrength upper b * 40) / 100 := by
  show weighted (scoreProtocols b) (scoreKeyExchange b) (scoreCipherStrength upper b) = _
  rw [hk]
  exact weighted_some (scoreProtocols_mem_range b).1 (scoreKeyExchange_mem_range _ hk).1
    (scoreCipherStrength_mem_range upper b).1

/-- **The rule for unknown parts.** -/
theorem rank_completes_le {a b : ScoreInput} (h : Completes a b) (hno : ¬BitsLift upper a b) :
    gradeRank (score upper b).grade ≤ gradeRank (score upper a).grade := by
  apply rank_score_le upper
  · intro hM hT
    exact ⟨eq_false_of_imp h.certNameMismatch hM, eq_false_of_imp h.certNotTrusted hT⟩
  · exact fun _ _ hF => h.failed_eq_false upper hF
  · intro hM hT hF n hn hscore hcaps
    have hcaps' := (le_caps_iff upper).mp hcaps
    refine ⟨?_, (le_caps_iff upper).mpr ⟨fun hC => hcaps'.1 (h.capsAtC upper hC),
      fun hB => hcaps'.2.1 (h.capsAtB upper hB), fun hA => hcaps'.2.2 (h.capsAtAMinus hA)⟩⟩
    obtain hsame | ⟨ha, hb⟩ := h.keyExchangeBits
    · have hkey : scoreKeyExchange b = scoreKeyExchange a := by
        unfold scoreKeyExchange
        rw [hsame]
      have heq : (score upper b).score = (score upper a).score := by
        show weighted (scoreProtocols b) (scoreKeyExchange b) (scoreCipherStrength upper b) =
          weighted (scoreProtocols a) (scoreKeyExchange a) (scoreCipherStrength upper a)
        rw [h.scoreProtocols_eq, h.scoreCipherStrength_eq, hkey]
      exact heq ▸ hscore
    · obtain ⟨k, hk⟩ : ∃ k, scoreKeyExchange b = some k := by
        rw [← Option.isSome_iff_exists, scoreKeyExchange_isSome]
        exact decide_eq_true hb
      have hsb := score_known upper hk
      rw [h.scoreProtocols_eq, h.scoreCipherStrength_eq] at hsb
      have hsa := score_unknown upper ha
      have hcross : ∀ {t : Int}, (score upper a).score < t → t ≤ (score upper b).score →
          CrossesThreshold upper a b t :=
        fun hbelow habove => ⟨k, hk, by omega, by omega⟩
      -- below the rank, the average with the bits crosses one of the thresholds
      by_contra hbelow
      rw [le_rank_scoreToGrade_iff] at hscore hbelow
      have hcases : ((score upper a).score < 20 ∧ 20 ≤ (score upper b).score) ∨
          ((score upper a).score < 35 ∧ 35 ≤ (score upper b).score) ∨
          ((score upper a).score < 50 ∧ 50 ≤ (score upper b).score) ∨
          (3 < n ∧ (score upper a).score < 65 ∧ 65 ≤ (score upper b).score) ∨
          (4 < n ∧ (score upper a).score < 80 ∧ 80 ≤ (score upper b).score) := by omega
      refine hno ⟨ha, hb, hM, hT, hF, ?_⟩
      obtain h20 | h35 | h50 | ⟨hn3, h65⟩ | ⟨hn4, h80⟩ := hcases
      · exact Or.inl ⟨20, by decide, hcross h20.1 h20.2⟩
      · exact Or.inl ⟨35, by decide, hcross h35.1 h35.2⟩
      · exact Or.inl ⟨50, by decide, hcross h50.1 h50.2⟩
      · refine Or.inr (Or.inl ⟨hcross h65.1 h65.2, fun hC => ?_⟩)
        have hle := hcaps'.1 hC
        omega
      · refine Or.inr (Or.inr ⟨hcross h80.1 h80.2, fun hC => ?_, fun hB => ?_⟩)
        · have hle := hcaps'.1 hC
          omega
        · have hle := hcaps'.2.1 hB
          omega

/-! ## §3. The table of failures and caps. -/

/-- The switches that only find fault. -/
inductive Fault where
  | ssl20
  | certNotTrusted
  | certNameMismatch
  | certExpired
  | certSelfSigned
  | certRevoked
  | certInsecureSig
  | certChainIncomplete
  | vulnHeartbleed
  | vulnPoodle
  | vulnDrown
  | vulnRobot
  deriving DecidableEq, Repr

/-- The input with one fault switched on. -/
def ScoreInput.withFault (inp : ScoreInput) : Fault → ScoreInput
  | .ssl20 => { inp with ssl20 := true }
  | .certNotTrusted => { inp with certNotTrusted := true }
  | .certNameMismatch => { inp with certNameMismatch := true }
  | .certExpired => { inp with certExpired := true }
  | .certSelfSigned => { inp with certSelfSigned := true }
  | .certRevoked => { inp with certRevoked := true }
  | .certInsecureSig => { inp with certInsecureSig := true }
  | .certChainIncomplete => { inp with certChainIncomplete := true }
  | .vulnHeartbleed => { inp with vulnHeartbleed := true }
  | .vulnPoodle => { inp with vulnPoodle := true }
  | .vulnDrown => { inp with vulnDrown := true }
  | .vulnRobot => { inp with vulnRobot := true }

/-- A fault other than SSL 2.0 makes a scan more complete. -/
theorem completes_withFault (inp : ScoreInput) {f : Fault} (hf : f ≠ .ssl20) :
    Completes inp (inp.withFault f) := by
  cases f with
  | ssl20 => exact absurd rfl hf
  | _ =>
      constructor <;>
        first
          | rfl
          | exact Or.inl rfl
          | exact fun h => h
          | exact fun _ => rfl

/-- **A fault never helps.** -/
theorem rank_withFault_le (inp : ScoreInput) (f : Fault) :
    gradeRank (score upper (inp.withFault f)).grade ≤ gradeRank (score upper inp).grade := by
  by_cases hf : f = .ssl20
  · -- SSL 2.0 lowers the protocol score too, but forces F
    subst hf
    have hF : failed upper (inp.withFault .ssl20) ≠ false :=
      fun h => Bool.noConfusion ((failed_eq_false_iff upper).mp h).1
    apply rank_score_le upper
    · exact fun hM hT => ⟨hM, hT⟩
    · exact fun _ _ h => absurd h hF
    · exact fun _ _ h => absurd h hF
  · apply rank_completes_le upper (completes_withFault inp hf)
    rintro ⟨ha, hb, -⟩
    have hbits : (inp.withFault f).keyExchangeBits = inp.keyExchangeBits := by
      cases f <;> rfl
    omega

theorem score_mem_range (inp : ScoreInput) :
    0 ≤ (score upper inp).score ∧ (score upper inp).score ≤ 100 := by
  have hp := scoreProtocols_mem_range inp
  have hc := scoreCipherStrength_mem_range upper inp
  show 0 ≤ weighted _ (scoreKeyExchange inp) _ ∧ weighted _ (scoreKeyExchange inp) _ ≤ 100
  cases hk : scoreKeyExchange inp with
  | none =>
      rw [weighted_none hp.1 hc.1]
      omega
  | some k =>
      have hkr := scoreKeyExchange_mem_range _ hk
      rw [weighted_some hp.1 hkr.1 hc.1]
      omega

/-- **Forced F, caps, and the grades T and M**, with the conditions of the failures and caps
named. -/
theorem score_failures_and_caps (inp : ScoreInput) :
    let r := score upper inp
    (0 ≤ r.protocolScore ∧ r.protocolScore ≤ 100) ∧ (0 ≤ r.cipherScore ∧ r.cipherScore ≤ 100) ∧
      (0 ≤ r.score ∧ r.score ≤ 100) ∧
      (∀ k, r.keyExchangeScore = some k → 0 ≤ k ∧ k ≤ 100) ∧
      (inp.certNameMismatch = true → r.grade = .M) ∧
      (inp.certNameMismatch = false → inp.certNotTrusted = true → r.grade = .T) ∧
      (inp.certNameMismatch = false → inp.certNotTrusted = false →
        ((∃ row ∈ automaticFailures upper inp, row.1 = true) → r.grade = .F) ∧
        ((∀ row ∈ automaticFailures upper inp, row.1 = false) →
          (∀ g ∈ scoreToGrade r.score :: applicableCaps upper inp,
            gradeRank r.grade ≤ gradeRank g) ∧
          r.grade ∈ scoreToGrade r.score :: applicableCaps upper inp)) ∧
      ((∃ row ∈ automaticFailures upper inp, row.1 = true) ↔ ForcesF upper inp) ∧
      (∀ g, g ∈ applicableCaps upper inp ↔
        g = .C ∧ CapsAtC upper inp ∨ g = .B ∧ CapsAtB upper inp ∨
          g = .AMinus ∧ CapsAtAMinus inp) ∧
      ∀ f, gradeRank (score upper (inp.withFault f)).grade ≤ gradeRank r.grade := by
  intro r
  refine ⟨scoreProtocols_mem_range inp, scoreCipherStrength_mem_range upper inp,
    score_mem_range upper inp, fun k hk => scoreKeyExchange_mem_range _ hk, ?_, ?_, ?_,
    List.any_eq_true.symm.trans (failed_iff upper), fun g => mem_applicableCaps_iff upper,
    rank_withFault_le upper inp⟩
  · intro hM
    show (score upper inp).grade = .M
    rw [score_grade, if_pos hM]
  · intro hM hT
    show (score upper inp).grade = .T
    rw [score_grade, if_neg (by simp [hM]), if_pos hT]
  · intro hM hT
    have hgrade := score_grade upper inp
    rw [if_neg (by simp [hM]), if_neg (by simp [hT])] at hgrade
    constructor
    · intro hrow
      have hF : failed upper inp = true := List.any_eq_true.mpr hrow
      show (score upper inp).grade = .F
      rw [hgrade, if_pos hF]
    · intro hrows
      have hF : failed upper inp = false :=
        List.any_eq_false.mpr fun row hrow => by simp [hrows row hrow]
      rw [if_neg (by simp [hF])] at hgrade
      have hr : r.grade = (score upper inp).grade := rfl
      rw [hr, hgrade]
      refine ⟨fun g hg => ?_, capped_mem⟩
      obtain hg | hg := List.mem_cons.mp hg
      · rw [hg]
        exact rank_capped_le
      · exact rank_capped_le_of_mem hg

/-! ## §4. Key exchange. -/

/-- Some version other than SSL 2.0 is accepted. -/
def ScoreInput.acceptsVersion (inp : ScoreInput) : Prop :=
  inp.ssl30 = true ∨ inp.tls10 = true ∨ inp.tls11 = true ∨ inp.tls12 = true ∨ inp.tls13 = true

/-- Suites good for half the points: one of 256 bits, or one of 128 and none without encryption. -/
def HalfStrength (suites : List String) : Prop :=
  (∃ s ∈ suites, suiteScore upper s = 100) ∨
    (∃ s ∈ suites, suiteScore upper s = 80) ∧ ∀ s ∈ suites, suiteScore upper s ≠ 0

/-- An accepted version is worth 80 points or more. -/
theorem scoreProtocols_of_accepts {inp : ScoreInput} (hssl : inp.ssl20 = false)
    (h : inp.acceptsVersion) : 80 ≤ scoreProtocols inp := by
  have hworst : 80 ≤ (extremes protocolScore (-1, 101) inp.enabled).2 := by
    rw [le_extremes_snd_iff, forall_mem_enabled, hssl]
    refine ⟨by decide, by decide, ?_, ?_, ?_, ?_, ?_⟩ <;> (intro _; decide)
  have hbest : 80 ≤ (extremes protocolScore (-1, 101) inp.enabled).1 := by
    by_contra hlt
    have hle := forall_mem_enabled.mp
      (extremes_fst_le_iff.mp (Int.le_sub_one_of_lt (not_le.mp hlt))).2
    obtain h | h | h | h | h := h
    · exact absurd (hle.2.1 h) (by decide)
    · exact absurd (hle.2.2.1 h) (by decide)
    · exact absurd (hle.2.2.2.1 h) (by decide)
    · exact absurd (hle.2.2.2.2.1 h) (by decide)
    · exact absurd (hle.2.2.2.2.2 h) (by decide)
  unfold scoreProtocols
  rw [average_eq (le_trans (by decide) hbest) (le_trans (by decide) hworst)]
  omega

theorem scoreProtocols_of_not_accepts {inp : ScoreInput} (hssl : inp.ssl20 = false)
    (h : ¬inp.acceptsVersion) : scoreProtocols inp = 0 := by
  unfold ScoreInput.acceptsVersion at h
  have hnone : inp.enabled = [] := by
    simp only [not_or, Bool.not_eq_true] at h
    obtain ⟨h30, h10, h11, h12, h13⟩ := h
    simp [ScoreInput.enabled, hssl, h30, h10, h11, h12, h13]
  unfold scoreProtocols
  rw [hnone]
  rfl

/-- **Half the points for the cipher strength.** -/
theorem le_scoreCipherStrength_iff {inp : ScoreInput} :
    50 ≤ scoreCipherStrength upper inp ↔ HalfStrength upper inp.cipherSuites := by
  unfold HalfStrength scoreCipherStrength
  cases hl : inp.cipherSuites with
  | nil => simp
  | cons a l =>
      rw [← hl]
      have hne : ¬inp.cipherSuites.isEmpty := by simp [hl]
      rw [if_neg hne]
      have ha : a ∈ inp.cipherSuites := by simp [hl]
      generalize inp.cipherSuites = suites at ha
      have hmem := suiteScore_mem upper
      -- best and worst are both values of listed suites
      obtain ⟨s, hs, hbest⟩ : ∃ s ∈ suites,
          (extremes (suiteScore upper) (-1, 101) suites).1 = suiteScore upper s := by
        obtain h | h := extremes_fst_mem (suiteScore upper) (-1, 101) suites
        · have hle : _ ≤ (extremes (suiteScore upper) (-1, 101) suites).1 := le_extremes_fst ha
          have hval := hmem a
          omega
        · exact h
      obtain ⟨t, ht, hworst⟩ : ∃ t ∈ suites,
          (extremes (suiteScore upper) (-1, 101) suites).2 = suiteScore upper t := by
        obtain h | h := extremes_snd_mem (suiteScore upper) (-1, 101) suites
        · have hle : (extremes (suiteScore upper) (-1, 101) suites).2 ≤ _ := extremes_snd_le ha
          have hval := hmem a
          omega
        · exact h
      have hsval := hmem s
      have htval := hmem t
      have hle : ∀ u ∈ suites, suiteScore upper u ≤ suiteScore upper s :=
        fun u hu => hbest ▸ le_extremes_fst hu
      have hge : ∀ u ∈ suites, suiteScore upper t ≤ suiteScore upper u :=
        fun u hu => hworst ▸ extremes_snd_le hu
      have hts := hle t ht
      have havg : average (extremes (suiteScore upper) (-1, 101) suites) = _ :=
        average_eq (by omega) (by omega)
      rw [havg, hbest, hworst]
      constructor
      · intro h
        have hcases : suiteScore upper s = 100 ∨
            suiteScore upper s = 80 ∧ suiteScore upper t ≠ 0 := by omega
        obtain h100 | h80 := hcases
        · exact Or.inl ⟨s, hs, h100⟩
        · refine Or.inr ⟨⟨s, hs, h80.1⟩, fun u hu => ?_⟩
          have hu := hge u hu
          omega
      · intro h
        obtain ⟨u, hu, h100⟩ | ⟨⟨u, hu, h80⟩, hpos⟩ := h
        · have hu := hle u hu
          omega
        · have hu := hle u hu
          have htpos := hpos t ht
          omega

/-- The input with so many key-exchange bits. -/
def ScoreInput.withBits (inp : ScoreInput) (bits : Int) : ScoreInput :=
  { inp with keyExchangeBits := bits }

/-- The bits count in their own part of the score only. -/
theorem score_withBits (inp : ScoreInput) {b k : Int}
    (hk : scoreKeyExchange (inp.withBits b) = some k) :
    (score upper (inp.withBits b)).score =
      (scoreProtocols inp * 30 + k * 30 + scoreCipherStrength upper inp * 40) / 100 :=
  score_known upper hk

/-- The points of so many bits. -/
theorem scoreKeyExchange_known (inp : ScoreInput) (h : 0 ≤ inp.keyExchangeBits) :
    ∃ k, scoreKeyExchange inp = some k ∧ (inp.keyExchangeBits = 0 ↔ k = 0) ∧
      (20 < k ↔ 512 ≤ inp.keyExchangeBits) ∧ (40 < k ↔ 1024 ≤ inp.keyExchangeBits) ∧
      (80 < k ↔ 2048 ≤ inp.keyExchangeBits) ∧ (90 < k ↔ 4096 ≤ inp.keyExchangeBits) ∧
      (k = 0 ∨ k = 20 ∨ k = 40 ∨ k = 80 ∨ k = 90 ∨ k = 100) := by
  unfold scoreKeyExchange
  dsimp only
  generalize inp.keyExchangeBits = bits at h
  rw [if_neg (by omega)]
  split_ifs <;> exact ⟨_, rfl, by omega⟩

/-- More bits, more points. -/
theorem scoreKeyExchange_mono (inp : ScoreInput) {a b : Int} (ha : 0 ≤ a) (hab : a ≤ b) :
    ∃ k l, scoreKeyExchange (inp.withBits a) = some k ∧
      scoreKeyExchange (inp.withBits b) = some l ∧ k ≤ l ∧ (a = 0 → k = 0) := by
  obtain ⟨k, hk, hkpoints⟩ := scoreKeyExchange_known (inp.withBits a) ha
  obtain ⟨l, hl, hlpoints⟩ := scoreKeyExchange_known (inp.withBits b) (ha.trans hab)
  simp only [ScoreInput.withBits] at hkpoints hlpoints
  exact ⟨k, l, hk, hl, by omega, by omega⟩

/-- What is wrong with an input apart from its bits. -/
theorem failed_withBits_iff (inp : ScoreInput) {b : Int} :
    failed upper (inp.withBits b) = false ↔
      failed upper (inp.withBits 0) = false ∧ ¬(0 < b ∧ b < 1024) := by
  rw [failed_eq_false_iff, failed_eq_false_iff]
  simp only [ScoreInput.withBits]
  grind

/-- Zero bits escape the failure that fewer than 1024 bits are. -/
def ZeroBitsEscape (inp : ScoreInput) (a b : Int) : Prop :=
  a = 0 ∧ 0 < b ∧ b < 1024 ∧ inp.certNameMismatch = false ∧ inp.certNotTrusted = false ∧
    failed upper (inp.withBits 0) = false ∧
    (inp.acceptsVersion ∨ HalfStrength upper inp.cipherSuites)

/-- With zero bits the grade is better than F where a version is accepted, or the suites
are good for half the points. -/
theorem one_le_rank_zeroBits_iff {inp : ScoreInput} (hM : inp.certNameMismatch = false)
    (hT : inp.certNotTrusted = false) (hF : failed upper (inp.withBits 0) = false) :
    1 ≤ gradeRank (score upper (inp.withBits 0)).grade ↔
      inp.acceptsVersion ∨ HalfStrength upper inp.cipherSuites := by
  have hssl : inp.ssl20 = false := ((failed_eq_false_iff upper).mp hF).1
  have hcaps : ∀ c ∈ applicableCaps upper (inp.withBits 0), 1 ≤ gradeRank c := by
    intro c hc
    have hpos := gradeRank_pos_of_mem upper c hc
    omega
  have hscore := score_withBits upper inp (b := 0) (k := 0) rfl
  have hc := scoreCipherStrength_mem_range upper inp
  rw [le_rank_score_iff upper (by decide), le_rank_scoreToGrade_iff, hscore,
    ← le_scoreCipherStrength_iff]
  by_cases haccepts : inp.acceptsVersion
  · have hp := scoreProtocols_of_accepts hssl haccepts
    simp only [haccepts, true_or, iff_true]
    exact ⟨hM, hT, hF, by omega, hcaps⟩
  · rw [scoreProtocols_of_not_accepts hssl haccepts]
    simp only [haccepts, false_or]
    constructor
    · intro h
      have h20 := h.2.2.2.1
      omega
    · intro h
      exact ⟨hM, hT, hF, by omega, hcaps⟩

/-- **A stronger key exchange lowers the grade exactly where zero bits escape.** -/
theorem rank_withBits_le_iff {a b : Int} (inp : ScoreInput) (ha : 0 ≤ a) (hab : a ≤ b) :
    gradeRank (score upper (inp.withBits a)).grade ≤
        gradeRank (score upper (inp.withBits b)).grade ↔
      ¬ZeroBitsEscape upper inp a b := by
  constructor
  · rintro hle ⟨rfl, hpos, hlt, hM, hT, hF, hparts⟩
    have hone := (one_le_rank_zeroBits_iff upper hM hT hF).mpr hparts
    have hbF : failed upper (inp.withBits b) = true := by
      rw [← Bool.not_eq_false, failed_withBits_iff]
      exact fun h => h.2 ⟨hpos, hlt⟩
    rw [rank_score_of_failed upper (inp.withBits b) hM hT hbF] at hle
    omega
  · intro hno
    by_cases hescape : a = 0 ∧ 0 < b ∧ b < 1024 ∧ failed upper (inp.withBits 0) = false
    · obtain ⟨rfl, hpos, hlt, hF⟩ := hescape
      by_cases hspecial : inp.certNameMismatch = false ∧ inp.certNotTrusted = false
      · obtain ⟨hM, hT⟩ := hspecial
        have hzero := zero_le_rank_score upper (inp.withBits b) hM hT
        have hone := (one_le_rank_zeroBits_iff upper hM hT hF).not.mpr
          fun h => hno ⟨rfl, hpos, hlt, hM, hT, hF, h⟩
        omega
      · rw [rank_score_of_special upper (inp.withBits 0) hspecial]
        exact neg_one_le_gradeRank _
    · -- elsewhere every failure and every cap of `b` bits is one of `a` bits
      obtain ⟨k, l, hk, hl, hkl, hzero⟩ := scoreKeyExchange_mono inp ha hab
      have hsa := score_withBits upper inp hk
      have hsb := score_withBits upper inp hl
      have hp := scoreProtocols_mem_range inp
      have hc := scoreCipherStrength_mem_range upper inp
      apply rank_score_le upper
      · exact fun hM hT => ⟨hM, hT⟩
      · intro _ _ hF
        rw [failed_withBits_iff] at hF ⊢
        refine ⟨hF.1, fun hb => ?_⟩
        by_cases ha0 : a = 0
        · exact hescape ⟨ha0, hb.1, hb.2, hF.1⟩
        · exact hF.2 ⟨by omega, by omega⟩
      · intro _ _ _ n hn hscore hcaps
        rw [le_rank_scoreToGrade_iff, hsa] at hscore
        rw [le_caps_iff] at hcaps ⊢
        rw [le_rank_scoreToGrade_iff, hsb]
        refine ⟨by omega, hcaps.1, fun hB => ?_, hcaps.2.2⟩
        by_cases ha0 : a = 0
        · -- without the points of the key exchange the score is a B at best
          have hk0 := hzero ha0
          omega
        · apply hcaps.2.1
          obtain hbits | hrest := hB
          · refine Or.inl ⟨?_, ?_⟩ <;> simp only [ScoreInput.withBits] at hbits ⊢ <;> omega
          · exact Or.inr hrest

/-- TLS 1.2 and 1.3 with such suites, and nothing found wrong. -/
def modernInput (suites : List String) : ScoreInput where
  ssl20 := false
  ssl30 := false
  tls10 := false
  tls11 := false
  tls12 := true
  tls13 := true
  cipherSuites := suites
  keyExchangeBits := -1
  certNotTrusted := false
  certNameMismatch := false
  certExpired := false
  certSelfSigned := false
  certRevoked := false
  certInsecureSig := false
  certChainIncomplete := false
  vulnHeartbleed := false
  vulnPoodle := false
  vulnDrown := false
  vulnRobot := false
  hasForwardSecrecy := true
  hasAEAD := true
  hsts := none

/-- 1024 bits and 4096 bits. -/
theorem rank_withBits_le_iff_modern :
    gradeRank (score Char.toUpper
        ((modernInput ["TLS_AES_256_GCM_SHA384"]).withBits 1024)).grade ≤
      gradeRank (score Char.toUpper
        ((modernInput ["TLS_AES_256_GCM_SHA384"]).withBits 4096)).grade ↔
      ¬ZeroBitsEscape Char.toUpper (modernInput ["TLS_AES_256_GCM_SHA384"]) 1024 4096 :=
  rank_withBits_le_iff Char.toUpper _ (by decide) (by decide)

/-- **Zero bits are graded B where 512 bits are graded F.** -/
theorem rank_withBits_lowered :
    ¬∀ (inp : ScoreInput) (a b : Int), 0 ≤ a → a ≤ b →
      gradeRank (score Char.toUpper (inp.withBits a)).grade ≤
        gradeRank (score Char.toUpper (inp.withBits b)).grade := by
  intro h
  have hle := h (modernInput ["TLS_AES_256_GCM_SHA384"]) 0 512 (by decide) (by decide)
  exact absurd hle (by decide)

/-! ## §5. Cipher suites. -/

/-- The input with another list of suites. -/
def ScoreInput.withSuites (inp : ScoreInput) (suites : List String) : ScoreInput :=
  { inp with cipherSuites := suites }

theorem any_congr {l l' : List String} (p : String → Bool) (h : ∀ s, s ∈ l ↔ s ∈ l') :
    l.any p = l'.any p := by
  rw [Bool.eq_iff_iff, List.any_eq_true, List.any_eq_true]
  simp only [h]

theorem all_congr {l l' : List String} (p : String → Bool) (h : ∀ s, s ∈ l ↔ s ∈ l') :
    l.all p = l'.all p := by
  rw [Bool.eq_iff_iff, List.all_eq_true, List.all_eq_true]
  simp only [h]

theorem isEmpty_congr {l l' : List String} (h : ∀ s, s ∈ l ↔ s ∈ l') :
    l.isEmpty = l'.isEmpty := by
  rw [Bool.eq_iff_iff, List.isEmpty_iff, List.isEmpty_iff, List.eq_nil_iff_forall_not_mem,
    List.eq_nil_iff_forall_not_mem]
  simp only [h]

/-- **Only which suites are listed counts, not their order nor how often.** -/
theorem score_congr (inp : ScoreInput) {suites suites' : List String}
    (h : ∀ s, s ∈ suites ↔ s ∈ suites') :
    score upper (inp.withSuites suites) = score upper (inp.withSuites suites') := by
  have hexport : hasExportSuites upper suites = hasExportSuites upper suites' := any_congr _ h
  have hrc4 : hasRC4 upper suites = hasRC4 upper suites' := any_congr _ h
  have h3des : has3DES upper suites = has3DES upper suites' := any_congr _ h
  have honly : onlyRC4 upper suites = onlyRC4 upper suites' := by
    unfold onlyRC4
    rw [isEmpty_congr h, all_congr _ h]
  have hstrength : scoreCipherStrength upper (inp.withSuites suites) =
      scoreCipherStrength upper (inp.withSuites suites') := by
    unfold scoreCipherStrength ScoreInput.withSuites
    dsimp only
    rw [isEmpty_congr h, extremes_congr h]
  have hfailures : automaticFailures upper (inp.withSuites suites) =
      automaticFailures upper (inp.withSuites suites') := by
    unfold automaticFailures ScoreInput.withSuites
    dsimp only
    rw [hexport, honly]
    rfl
  have hcaps : gradeCaps upper (inp.withSuites suites) =
      gradeCaps upper (inp.withSuites suites') := by
    unfold gradeCaps ScoreInput.withSuites
    dsimp only
    rw [hrc4, h3des]
    rfl
  unfold score
  rw [hstrength, hfailures, hcaps]
  rfl

/-- The weighted combination grows with its parts. -/
theorem weighted_mono {p p' c c' : Int} {k : Option Int} (hp : 0 ≤ p) (hc : 0 ≤ c)
    (hk : ∀ l, k = some l → 0 ≤ l) (hpp : p ≤ p') (hcc : c ≤ c') :
    weighted p k c ≤ weighted p' k c' := by
  cases k with
  | none =>
      rw [weighted_none hp hc, weighted_none (by omega) (by omega)]
      omega
  | some l =>
      have hl := hk l rfl
      rw [weighted_some hp hl hc, weighted_some (by omega) hl (by omega)]
      omega

/-- The score grows with the protocol and cipher scores. -/
theorem score_le_score {a b : ScoreInput} (hp : scoreProtocols a ≤ scoreProtocols b)
    (hk : scoreKeyExchange a = scoreKeyExchange b)
    (hc : scoreCipherStrength upper a ≤ scoreCipherStrength upper b) :
    (score upper a).score ≤ (score upper b).score :=
  calc (score upper a).score
      ≤ weighted (scoreProtocols b) (scoreKeyExchange a) (scoreCipherStrength upper b) :=
        weighted_mono (scoreProtocols_mem_range a).1 (scoreCipherStrength_mem_range upper a).1
          (fun k hk => (scoreKeyExchange_mem_range a hk).1) hp hc
    _ = (score upper b).score := by rw [hk]; rfl

/-- **A weak suite more.**  Unless it is the first among suites that are all RC4 to be
something else, it does not raise the grade. -/
theorem rank_weakSuite_le {inp : ScoreInput} {name : String} (hne : inp.cipherSuites ≠ [])
    (hweak : ∀ s ∈ inp.cipherSuites, suiteScore upper name ≤ suiteScore upper s)
    (hrc4 : onlyRC4 upper inp.cipherSuites = true → mentions upper name "RC4" = true) :
    gradeRank (score upper (inp.withSuites (name :: inp.cipherSuites))).grade ≤
      gradeRank (score upper inp).grade := by
  obtain ⟨s, hs⟩ := List.exists_mem_of_ne_nil _ hne
  have hstrength := scoreCipherStrength_cons_le upper inp hs (hweak s hs)
  have hscore : (score upper (inp.withSuites (name :: inp.cipherSuites))).score ≤
      (score upper inp).score := score_le_score upper le_rfl rfl hstrength
  apply rank_score_le upper
  · exact fun hM hT => ⟨hM, hT⟩
  · intro _ _ hF
    rw [failed_eq_false_iff] at hF ⊢
    obtain ⟨h20, hexpired, hself, hrevoked, hsig, hbits, hexport, hbleed, hdrown, hrobot, h30,
      honly⟩ := hF
    refine ⟨h20, hexpired, hself, hrevoked, hsig, hbits, ?_, hbleed, hdrown, hrobot, h30, ?_⟩
    · exact (Bool.or_eq_false_iff.mp hexport).2
    · by_contra hold
      rw [Bool.not_eq_false] at hold
      have hname := hrc4 hold
      have hall := (Bool.and_eq_true_iff.mp hold).2
      have hnew : onlyRC4 upper (name :: inp.cipherSuites) = true := by
        unfold onlyRC4
        rw [List.all_cons, hname, hall]
        rfl
      have hboth : true = false := hnew.symm.trans honly
      cases hboth
  · intro _ _ _ n _ hgrade hcaps
    rw [le_rank_scoreToGrade_iff] at hgrade ⊢
    rw [le_caps_iff] at hcaps ⊢
    refine ⟨by omega, fun hC => hcaps.1 ?_, fun hB => hcaps.2.1 ?_, hcaps.2.2⟩
    · unfold CapsAtC at hC ⊢
      refine hC.imp_right (Or.imp_left (And.imp_left (Or.imp (fun h => ?_) fun h => ?_)))
      · exact Bool.or_eq_true_iff.mpr (Or.inr h)
      · exact Bool.or_eq_true_iff.mpr (Or.inr h)
    · unfold CapsAtB at hB ⊢
      exact hB.imp_right (Or.imp_left fun h => Bool.or_eq_true_iff.mpr (Or.inr h))

/-- RC4 among the suites is a C at best. -/
theorem rank_le_of_hasRC4 {inp : ScoreInput} (h : hasRC4 upper inp.cipherSuites = true) :
    gradeRank (score upper inp).grade ≤ 3 := by
  by_contra hlt
  have hn : 0 < gradeRank (score upper inp).grade := by omega
  obtain ⟨-, -, -, -, hcaps⟩ := (le_rank_score_iff upper hn).mp le_rfl
  have hC : CapsAtC upper inp := by
    unfold CapsAtC
    by_cases hversions : inp.tls12 = false ∧ inp.tls13 = false
    · exact Or.inr (Or.inr hversions)
    · refine Or.inr (Or.inl ⟨Or.inr h, ?_⟩)
      rw [Classical.not_and_iff_not_or_not, Bool.not_eq_false, Bool.not_eq_false] at hversions
      exact Or.inr hversions
  have hle := ((le_caps_iff upper).mp hcaps).1 hC
  omega

/-- **Accepting one more weak suite, at any place of the list.** -/
theorem rank_addSuite_le (inp : ScoreInput) :
    (∀ (before after : List String) (name : String), inp.cipherSuites = before ++ after →
      inp.cipherSuites ≠ [] →
      (∀ s ∈ inp.cipherSuites, suiteScore upper name ≤ suiteScore upper s) →
      ((onlyRC4 upper inp.cipherSuites = true → mentions upper name "RC4" = true) →
        gradeRank (score upper (inp.withSuites (before ++ name :: after))).grade ≤
          gradeRank (score upper inp).grade) ∧
      (onlyRC4 upper inp.cipherSuites = true →
        gradeRank (score upper (inp.withSuites (before ++ name :: after))).grade ≤ 3)) ∧
    ∀ suites suites' : List String, (∀ s, s ∈ suites ↔ s ∈ suites') →
      score upper (inp.withSuites suites) = score upper (inp.withSuites suites') := by
  refine ⟨fun before after name hsplit hne hweak => ?_, fun _ _ => score_congr upper inp⟩
  have hplace : score upper (inp.withSuites (before ++ name :: after)) =
      score upper (inp.withSuites (name :: inp.cipherSuites)) := by
    apply score_congr
    intro s
    rw [hsplit]
    simp only [List.mem_append, List.mem_cons]
    exact or_left_comm
  rw [hplace]
  refine ⟨rank_weakSuite_le upper hne hweak, fun honly => rank_le_of_hasRC4 upper ?_⟩
  -- the suites listed so far are still there
  obtain ⟨s, hs⟩ := List.exists_mem_of_ne_nil _ hne
  have hall := List.all_eq_true.mp (Bool.and_eq_true_iff.mp honly).2
  exact List.any_eq_true.mpr ⟨s, List.mem_cons_of_mem _ hs, hall s hs⟩

/-- **One RC4 suite alone is an F, with a second suite as weak it is a C.** -/
theorem rank_addSuite_raised :
    ¬∀ (inp : ScoreInput) (name : String), inp.cipherSuites ≠ [] →
      (∀ s ∈ inp.cipherSuites, suiteScore Char.toUpper name ≤ suiteScore Char.toUpper s) →
      gradeRank (score Char.toUpper (inp.withSuites (name :: inp.cipherSuites))).grade ≤
        gradeRank (score Char.toUpper inp).grade := by
  intro h
  have hle := h (modernInput ["TLS_RSA_WITH_RC4_128_SHA"]) "TLS_RSA_WITH_AES_128_CBC_SHA"
    (by decide) (by decide)
  exact absurd hle (by decide)

/-! ## §6. A more complete scan. -/

/-- **A more complete scan raises the grade exactly where the bits lift the average.** -/
theorem rank_completes_le_iff {a b : ScoreInput} (h : Completes a b) :
    gradeRank (score upper b).grade ≤ gradeRank (score upper a).grade ↔ ¬BitsLift upper a b := by
  constructor
  · rintro hle ⟨ha, hb, hM, hT, hF, hcross⟩
    -- the threshold that is crossed gives a rank that only `b` reaches
    have hlift : ∀ {t n : Int}, CrossesThreshold upper a b t → 0 < n →
        (∀ s, n ≤ gradeRank (scoreToGrade s) ↔ t ≤ s) →
        (∀ c ∈ applicableCaps upper b, n ≤ gradeRank c) → False := by
      rintro t n ⟨k, hk, hbelow, habove⟩ hn hthreshold hcaps
      have hsb := score_known upper hk
      rw [h.scoreProtocols_eq, h.scoreCipherStrength_eq] at hsb
      have hrb : n ≤ gradeRank (score upper b).grade :=
        (le_rank_score_iff upper hn).mpr
          ⟨hM, hT, hF, (hthreshold _).mpr (by omega), hcaps⟩
      obtain ⟨-, -, -, hsa, -⟩ := (le_rank_score_iff upper hn).mp (hrb.trans hle)
      rw [hthreshold, score_unknown upper ha] at hsa
      omega
    simp only [List.mem_cons, List.not_mem_nil, or_false, exists_eq_or_imp, exists_eq_left]
      at hcross
    obtain (hE | hD | hC) | ⟨hB, hnoC⟩ | ⟨hA, hnoC, hnoB⟩ := hcross
    · refine hlift (n := 1) hE (by decide) (fun s => ?_) ((le_caps_iff upper).mpr (by omega))
      rw [le_rank_scoreToGrade_iff]
      omega
    · refine hlift (n := 2) hD (by decide) (fun s => ?_) ((le_caps_iff upper).mpr (by omega))
      rw [le_rank_scoreToGrade_iff]
      omega
    · refine hlift (n := 3) hC (by decide) (fun s => ?_) ((le_caps_iff upper).mpr (by omega))
      rw [le_rank_scoreToGrade_iff]
      omega
    · refine hlift (n := 4) hB (by decide) (fun s => ?_)
        ((le_caps_iff upper).mpr ⟨fun hC => absurd hC hnoC, by omega, by omega⟩)
      rw [le_rank_scoreToGrade_iff]
      omega
    · refine hlift (n := 5) hA (by decide) (fun s => ?_)
        ((le_caps_iff upper).mpr
          ⟨fun hC => absurd hC hnoC, fun hB => absurd hB hnoB, by omega⟩)
      rw [le_rank_scoreToGrade_iff]
      omega
  · exact rank_completes_le upper h

/-- An average of 71 without the bits is one of 80 with them. -/
theorem completes_bits : Completes
    (modernInput ["TLS_AES_256_GCM_SHA384", "TLS_ECDHE_RSA_WITH_NULL_SHA"])
    ((modernInput ["TLS_AES_256_GCM_SHA384", "TLS_ECDHE_RSA_WITH_NULL_SHA"]).withBits 4096) := by
  constructor <;> decide

theorem rank_completes_le_iff_bits :
    gradeRank (score Char.toUpper
        ((modernInput ["TLS_AES_256_GCM_SHA384", "TLS_ECDHE_RSA_WITH_NULL_SHA"]).withBits
          4096)).grade ≤
      gradeRank (score Char.toUpper
        (modernInput ["TLS_AES_256_GCM_SHA384", "TLS_ECDHE_RSA_WITH_NULL_SHA"])).grade ↔
      ¬BitsLift Char.toUpper
        (modernInput ["TLS_AES_256_GCM_SHA384", "TLS_ECDHE_RSA_WITH_NULL_SHA"])
        ((modernInput ["TLS_AES_256_GCM_SHA384", "TLS_ECDHE_RSA_WITH_NULL_SHA"]).withBits 4096) :=
  rank_completes_le_iff Char.toUpper completes_bits

/-- **The bits of the certificate's key raise a B to an A.** -/
theorem rank_completes_raised :
    ¬∀ a b : ScoreInput, Completes a b →
      gradeRank (score Char.toUpper b).grade ≤ gradeRank (score Char.toUpper a).grade := by
  intro h
  exact absurd (h _ _ completes_bits) (by decide)

end TLSentinel.TLSProfile
