/-
  TLSentinel.TLSProfile.Score
  ───────────────────────────
  **THE SCORE AND THE LETTER GRADE OF A TLS PROFILE.**

  `Score` weighs three sub-scores, derives a grade, forces F where a condition of the
  automatic failures holds, lowers the grade to the caps that apply, and last gives T
  or M for the certificate.  The two blocks of `if` statements are kept as lists of
  conditions with their effect and their warning, in the order of the source.

  Main results:
    * `scoreProtocols_mem_range`, `scoreCipherStrength_mem_range`,
      `scoreKeyExchange_mem_range` — the sub-scores lie between 0 and 100;
    * `score_grade`        — the grade by cases;
    * `le_rank_score_iff`  — what keeps the rank of the grade above a bound.
-/
import TLSentinel.Foundation.Ratings
import TLSentinel.Base
import Mathlib.Data.List.Infix
import Mathlib.Order.Lattice

namespace TLSentinel.TLSProfile

open Foundation

/-! ## §1. Grades. -/

/-- `Grade`. -/
inductive Grade where
  | APlus
  | A
  | AMinus
  | B
  | C
  | D
  | E
  | F
  /-- Certificate not trusted. -/
  | T
  /-- Certificate name mismatch. -/
  | M
  deriving DecidableEq, Repr

/-- `gradeRank`. -/
def gradeRank : Grade → Int
  | .F => 0
  | .E => 1
  | .D => 2
  | .C => 3
  | .B => 4
  | .AMinus => 5
  | .A => 6
  | .APlus => 7
  | .T => -1
  | .M => -1

@[simp] theorem gradeRank_F : gradeRank .F = 0 := rfl
@[simp] theorem gradeRank_C : gradeRank .C = 3 := rfl
@[simp] theorem gradeRank_B : gradeRank .B = 4 := rfl
@[simp] theorem gradeRank_AMinus : gradeRank .AMinus = 5 := rfl
@[simp] theorem gradeRank_T : gradeRank .T = -1 := rfl
@[simp] theorem gradeRank_M : gradeRank .M = -1 := rfl

/-- `capGrade`. -/
def capGrade (current cap : Grade) : Grade := capAt gradeRank current cap

/-- `scoreToGrade`. -/
def scoreToGrade (score : Int) : Grade :=
  if 80 ≤ score then .A
  else if 65 ≤ score then .B
  else if 50 ≤ score then .C
  else if 35 ≤ score then .D
  else if 20 ≤ score then .E
  else .F

/-! ## §2. Cipher suites. -/

section Suites

variable (upper : Char → Char)

/-- `strings.Contains(strings.ToUpper(name), part)`. -/
def mentions (name part : String) : Bool :=
  decide (part.toList <:+: (toUpper upper name).toList)

/-- `cipherStrengthBits`. -/
def cipherStrengthBits : List (String × Int) :=
  [("TLS_RSA_WITH_NULL_MD5", 0),
    ("TLS_RSA_WITH_NULL_SHA", 0),
    ("TLS_RSA_WITH_NULL_SHA256", 0)]

/-- `cipherEffectiveBits`. -/
def cipherEffectiveBits (name : String) : Int :=
  match cipherStrengthBits.lookup name with
  | some bits => bits
  | none =>
    if mentions upper name "NULL" then 0
    else if mentions upper name "EXPORT" then
      if mentions upper name "1024" then 56 else 40
    else if mentions upper name "DES_CBC" && !mentions upper name "3DES" then 56
    else if mentions upper name "RC4" then 128
    else if mentions upper name "RC2" then 128
    else if mentions upper name "3DES" then 112
    else if mentions upper name "IDEA" then 128
    else if mentions upper name "SEED" then 128
    else if mentions upper name "CHACHA20" then 256
    else if mentions upper name "AES_256" || mentions upper name "AES256" then 256
    else if mentions upper name "AES_128" || mentions upper name "AES128" then 128
    else if mentions upper name "CAMELLIA_256" || mentions upper name "CAMELLIA256" then 256
    else if mentions upper name "CAMELLIA_128" || mentions upper name "CAMELLIA128" then 128
    else if mentions upper name "GOST" || mentions upper name "28147" then 256
    else 128

/-- `cipherBitsToScore`. -/
def cipherBitsToScore (bits : Int) : Int :=
  if bits = 0 then 0
  else if bits < 128 then 20
  else if bits < 256 then 80
  else 100

/-- The bit score of one suite. -/
def suiteScore (name : String) : Int := cipherBitsToScore (cipherEffectiveBits upper name)

/-- `hasExportSuites`. -/
def hasExportSuites (suites : List String) : Bool :=
  suites.any fun s => mentions upper s "EXPORT"

/-- `hasRC4`. -/
def hasRC4 (suites : List String) : Bool :=
  suites.any fun s => mentions upper s "RC4"

/-- `onlyRC4`: an empty list is not "only RC4". -/
def onlyRC4 (suites : List String) : Bool :=
  !suites.isEmpty && suites.all fun s => mentions upper s "RC4"

/-- `has3DES`. -/
def has3DES (suites : List String) : Bool :=
  suites.any fun s => mentions upper s "3DES"

/-- `isTLS13SuiteName`, of the name in upper case. -/
def isTLS13SuiteName (name : String) : Bool :=
  "TLS_".toList.isPrefixOf (toUpper upper name).toList && !mentions upper name "_WITH_"

/-- `HasForwardSecrecy`. -/
def hasForwardSecrecy (suites : List String) : Bool :=
  suites.any fun s =>
    mentions upper s "ECDHE_" || mentions upper s "DHE_" || isTLS13SuiteName upper s

/-- `HasAEAD`. -/
def hasAEAD (suites : List String) : Bool :=
  suites.any fun s =>
    mentions upper s "_GCM_" || mentions upper s "_CCM" || mentions upper s "POLY1305"
      || isTLS13SuiteName upper s

end Suites

/-! ## §3. The input and its sub-scores. -/

/-- `ScoreInput`. -/
structure ScoreInput where
  ssl20 : Bool
  ssl30 : Bool
  tls10 : Bool
  tls11 : Bool
  tls12 : Bool
  tls13 : Bool
  cipherSuites : List String
  /-- Negative: unknown, not probed. -/
  keyExchangeBits : Int
  certNotTrusted : Bool
  certNameMismatch : Bool
  certExpired : Bool
  certSelfSigned : Bool
  certRevoked : Bool
  certInsecureSig : Bool
  certChainIncomplete : Bool
  vulnHeartbleed : Bool
  vulnPoodle : Bool
  vulnDrown : Bool
  vulnRobot : Bool
  hasForwardSecrecy : Bool
  hasAEAD : Bool
  /-- `none`: unknown, not probed. -/
  hsts : Option Bool
  deriving DecidableEq, Repr

/-- `ScoreResult`. -/
structure ScoreResult where
  protocolScore : Int
  keyExchangeScore : Option Int
  cipherScore : Int
  score : Int
  grade : Grade
  warnings : List String
  deriving DecidableEq, Repr

/-- `protocolScores`. -/
def protocolScores : List (String × Int) :=
  [("SSL 2.0", 0), ("SSL 3.0", 80), ("TLS 1.0", 90), ("TLS 1.1", 95), ("TLS 1.2", 100),
    ("TLS 1.3", 100)]

/-- The versions the server accepted, of the map `enabled`. -/
def ScoreInput.enabled (inp : ScoreInput) : List String :=
  ([("SSL 2.0", inp.ssl20), ("SSL 3.0", inp.ssl30), ("TLS 1.0", inp.tls10),
    ("TLS 1.1", inp.tls11), ("TLS 1.2", inp.tls12), ("TLS 1.3", inp.tls13)].filter
      Prod.snd).map Prod.fst

/-- `protocolScores[name]`. -/
def protocolScore (name : String) : Int := (protocolScores.lookup name).getD 0

/-- The average of best and worst, from what the loops end with. -/
def average (bw : Int × Int) : Int := if bw.1 < 0 then 0 else (bw.1 + bw.2).tdiv 2

/-- `scoreProtocols`; a map has no order, see `extremes_congr`. -/
def scoreProtocols (inp : ScoreInput) : Int :=
  average (extremes protocolScore (-1, 101) inp.enabled)

/-- `scoreKeyExchange`; `none` is `known = false`. -/
def scoreKeyExchange (inp : ScoreInput) : Option Int :=
  let bits := inp.keyExchangeBits
  if bits < 0 then none
  else if bits = 0 then some 0
  else if bits < 512 then some 20
  else if bits < 1024 then some 40
  else if bits < 2048 then some 80
  else if bits < 4096 then some 90
  else some 100

/-- `scoreCipherStrength`. -/
def scoreCipherStrength (upper : Char → Char) (inp : ScoreInput) : Int :=
  if inp.cipherSuites.isEmpty then 0
  else average (extremes (suiteScore upper) (-1, 101) inp.cipherSuites)

/-- Step 4: the weighted combination. -/
def weighted (protocolScore : Int) (keyExScore : Option Int) (cipherScore : Int) : Int :=
  match keyExScore with
  | some k => (protocolScore * 30 + k * 30 + cipherScore * 40).tdiv 100
  | none => (protocolScore * 30 + cipherScore * 40).tdiv 70

/-! ## §4. Failures, caps and the grade. -/

section Score

variable (upper : Char → Char)

/-- Step 6: the conditions that force F. -/
def automaticFailures (inp : ScoreInput) : List (Bool × String) :=
  let keyExKnown := (scoreKeyExchange inp).isSome
  [(inp.ssl20, "SSL 2.0 support forces F."),
    (inp.certExpired, "Expired certificate forces F."),
    (inp.certSelfSigned, "Self-signed certificate forces F."),
    (inp.certRevoked, "Revoked certificate forces F."),
    (inp.certInsecureSig, "Insecure certificate signature (MD2/MD5) forces F."),
    (keyExKnown && decide (0 < inp.keyExchangeBits) && decide (inp.keyExchangeBits < 1024),
      "Insecure DH parameters (< 1024 bits) forces F."),
    (hasExportSuites upper inp.cipherSuites, "Export cipher suites force F."),
    (inp.vulnHeartbleed, "Heartbleed vulnerability forces F."),
    (inp.vulnDrown, "DROWN vulnerability forces F."),
    (inp.vulnRobot, "ROBOT vulnerability forces F."),
    (inp.ssl30 && !inp.tls10 && !inp.tls11 && !inp.tls12 && !inp.tls13,
      "SSL 3.0 as best protocol forces F."),
    (onlyRC4 upper inp.cipherSuites, "Only RC4 cipher suites forces F.")]

/-- Step 7: the caps. -/
def gradeCaps (inp : ScoreInput) : List (Bool × Grade × String) :=
  let keyExKnown := (scoreKeyExchange inp).isSome
  -- C caps
  [(inp.vulnPoodle, .C, "POODLE vulnerability caps grade at C."),
    (has3DES upper inp.cipherSuites && (inp.tls11 || inp.tls12 || inp.tls13), .C,
      "3DES with TLS 1.1+ caps grade at C."),
    (hasRC4 upper inp.cipherSuites && (inp.tls11 || inp.tls12 || inp.tls13), .C,
      "RC4 with TLS 1.1+ caps grade at C."),
    (!inp.tls12 && !inp.tls13, .C, "No TLS 1.2 or 1.3 support caps grade at C."),
    -- B caps
    (keyExKnown && decide (0 < inp.keyExchangeBits) && decide (inp.keyExchangeBits < 2048), .B,
      "Weak DH parameters (< 2048 bits) cap grade at B."),
    (hasRC4 upper inp.cipherSuites, .B, "RC4 support caps grade at B."),
    (inp.certChainIncomplete, .B, "Incomplete certificate chain caps grade at B."),
    (!inp.hasForwardSecrecy, .B, "No forward secrecy caps grade at B."),
    (!inp.hasAEAD, .B, "No AEAD cipher suites caps grade at B."),
    (inp.tls10 || inp.tls11, .B, "TLS 1.0 or 1.1 support caps grade at B."),
    -- A- caps
    (!inp.tls13, .AMinus, "Missing TLS 1.3 support caps grade at A-."),
    (inp.hsts == some false, .AMinus, "Missing HSTS caps grade at A-.")]

/-- One statement of step 6. -/
def forceF (gw : Grade × List String) (row : Bool × String) : Grade × List String :=
  if row.1 then (.F, gw.2 ++ [row.2]) else gw

/-- One statement of step 7. -/
def applyCap (gw : Grade × List String) (row : Bool × Grade × String) : Grade × List String :=
  if row.1 then (capGrade gw.1 row.2.1, gw.2 ++ [row.2.2]) else gw

/-- One statement of step 8. -/
def special (flag : Bool) (g : Grade) (text : String) (gw : Grade × List String) :
    Grade × List String :=
  if flag then (g, gw.2 ++ [text]) else gw

/-- `Score`. -/
def score (inp : ScoreInput) : ScoreResult :=
  let protocolScore := scoreProtocols inp
  let keyExScore := scoreKeyExchange inp
  let cipherScore := scoreCipherStrength upper inp
  let finalScore := weighted protocolScore keyExScore cipherScore
  let failed := (automaticFailures upper inp).foldl forceF (scoreToGrade finalScore, [])
  -- caps only where the grade is not F already
  let lowered := if failed.1 ≠ .F then (gradeCaps upper inp).foldl applyCap failed else failed
  let trusted := special inp.certNotTrusted .T "Certificate not trusted." lowered
  let named := special inp.certNameMismatch .M "Certificate name mismatch." trusted
  { protocolScore := protocolScore
    keyExchangeScore := keyExScore
    cipherScore := cipherScore
    score := finalScore
    grade := named.1
    warnings := named.2 }

/-! ## §5. The sub-scores. -/

theorem average_eq {bw : Int × Int} (hbest : 0 ≤ bw.1) (hworst : 0 ≤ bw.2) :
    average bw = (bw.1 + bw.2) / 2 := by
  unfold average
  rw [if_neg (by omega), Int.tdiv_eq_ediv_of_nonneg (by omega)]

theorem average_le_average {bw bw' : Int × Int} (hbest : bw.1 ≤ bw'.1) (hworst : bw.2 ≤ bw'.2)
    (h : 0 ≤ bw.2) : average bw ≤ average bw' := by
  by_cases hneg : bw.1 < 0
  · have hzero : average bw = 0 := if_pos hneg
    rw [hzero]
    by_cases hneg' : bw'.1 < 0
    · exact (if_pos hneg' : average bw' = 0).ge
    · rw [average_eq (by omega) (by omega)]
      omega
  · rw [average_eq (by omega) h, average_eq (by omega) (by omega)]
    omega

/-- An average of values between 0 and 100 lies there too. -/
theorem average_mem_range {α : Type} {f : α → Int} {l : List α}
    (h : ∀ a ∈ l, 0 ≤ f a ∧ f a ≤ 100) :
    0 ≤ average (extremes f (-1, 101) l) ∧ average (extremes f (-1, 101) l) ≤ 100 := by
  have hworst : 0 ≤ (extremes f (-1, 101) l).2 :=
    le_extremes_snd_iff.mpr ⟨by decide, fun a ha => (h a ha).1⟩
  obtain hbest | ⟨a, ha, hbest⟩ := extremes_fst_mem f (-1, 101) l
  · have hzero : average (extremes f (-1, 101) l) = 0 := if_pos (by rw [hbest]; decide)
    rw [hzero]
    decide
  · have hle : (extremes f (-1, 101) l).2 ≤ f a := extremes_snd_le ha
    have hrange := h a ha
    rw [average_eq (by omega) hworst]
    omega

theorem suiteScore_mem (name : String) :
    suiteScore upper name = 0 ∨ suiteScore upper name = 20 ∨ suiteScore upper name = 80 ∨
      suiteScore upper name = 100 := by
  unfold suiteScore cipherBitsToScore
  split_ifs <;> simp

/-- What holds of every accepted version. -/
theorem forall_mem_enabled {inp : ScoreInput} {P : String → Prop} :
    (∀ name ∈ inp.enabled, P name) ↔
      (inp.ssl20 = true → P "SSL 2.0") ∧ (inp.ssl30 = true → P "SSL 3.0") ∧
        (inp.tls10 = true → P "TLS 1.0") ∧ (inp.tls11 = true → P "TLS 1.1") ∧
        (inp.tls12 = true → P "TLS 1.2") ∧ (inp.tls13 = true → P "TLS 1.3") := by
  simp only [ScoreInput.enabled, List.forall_mem_map, List.mem_filter, and_imp,
    List.forall_mem_cons, List.not_mem_nil, false_implies, implies_true, and_true]

theorem enabled_mem (inp : ScoreInput) :
    (inp.ssl20 = true → "SSL 2.0" ∈ inp.enabled) ∧ (inp.ssl30 = true → "SSL 3.0" ∈ inp.enabled) ∧
      (inp.tls10 = true → "TLS 1.0" ∈ inp.enabled) ∧
      (inp.tls11 = true → "TLS 1.1" ∈ inp.enabled) ∧
      (inp.tls12 = true → "TLS 1.2" ∈ inp.enabled) ∧
      (inp.tls13 = true → "TLS 1.3" ∈ inp.enabled) :=
  forall_mem_enabled.mp fun _ hv => hv

theorem protocolScore_mem_range {inp : ScoreInput} :
    ∀ name ∈ inp.enabled, 0 ≤ protocolScore name ∧ protocolScore name ≤ 100 := by
  rw [forall_mem_enabled]
  refine ⟨?_, ?_, ?_, ?_, ?_, ?_⟩ <;> (intro _; decide)

theorem scoreProtocols_mem_range (inp : ScoreInput) :
    0 ≤ scoreProtocols inp ∧ scoreProtocols inp ≤ 100 :=
  average_mem_range protocolScore_mem_range

theorem scoreCipherStrength_mem_range (inp : ScoreInput) :
    0 ≤ scoreCipherStrength upper inp ∧ scoreCipherStrength upper inp ≤ 100 := by
  unfold scoreCipherStrength
  by_cases h : inp.cipherSuites.isEmpty
  · simp [h]
  · rw [if_neg h]
    apply average_mem_range
    intro name _
    have hmem := suiteScore_mem upper name
    omega

theorem scoreKeyExchange_mem_range (inp : ScoreInput) {k : Int}
    (h : scoreKeyExchange inp = some k) : 0 ≤ k ∧ k ≤ 100 := by
  unfold scoreKeyExchange at h
  dsimp only at h
  split_ifs at h <;> (injection h with h; omega)

theorem scoreKeyExchange_isSome {inp : ScoreInput} :
    (scoreKeyExchange inp).isSome = decide (0 ≤ inp.keyExchangeBits) := by
  unfold scoreKeyExchange
  dsimp only
  split_ifs with hneg
  · simp [hneg]
  all_goals simp [not_lt.mp hneg]

/-- The weighted combination rounds down. -/
theorem weighted_some {p k c : Int} (hp : 0 ≤ p) (hk : 0 ≤ k) (hc : 0 ≤ c) :
    weighted p (some k) c = (p * 30 + k * 30 + c * 40) / 100 :=
  Int.tdiv_eq_ediv_of_nonneg (by omega)

theorem weighted_none {p c : Int} (hp : 0 ≤ p) (hc : 0 ≤ c) :
    weighted p none c = (p * 30 + c * 40) / 70 :=
  Int.tdiv_eq_ediv_of_nonneg (by omega)

/-- More suites to the same best only lower the cipher strength. -/
theorem scoreCipherStrength_cons_le (inp : ScoreInput) {name s : String}
    (hs : s ∈ inp.cipherSuites) (hle : suiteScore upper name ≤ suiteScore upper s) :
    scoreCipherStrength upper { inp with cipherSuites := name :: inp.cipherSuites } ≤
      scoreCipherStrength upper inp := by
  unfold scoreCipherStrength
  have hne : inp.cipherSuites.isEmpty = false := by
    cases hl : inp.cipherSuites with
    | nil => rw [hl] at hs; cases hs
    | cons a l => rfl
  simp only [List.isEmpty_cons, hne, Bool.false_eq_true, if_false]
  apply average_le_average
  · exact (extremes_cons_fst hs hle).le
  · exact extremes_snd_anti fun a ha => List.mem_cons_of_mem _ ha
  · rw [le_extremes_snd_iff]
    refine ⟨by decide, fun a _ => ?_⟩
    have hmem := suiteScore_mem upper a
    omega

/-! ## §6. The grade by cases. -/

/-- Some condition of the automatic failures holds. -/
def failed (inp : ScoreInput) : Bool := (automaticFailures upper inp).any Prod.fst

/-- The caps whose condition holds. -/
def applicableCaps (inp : ScoreInput) : List Grade :=
  ((gradeCaps upper inp).filter Prod.fst).map fun row => row.2.1

theorem foldl_forceF (rows : List (Bool × String)) (gw : Grade × List String) :
    (rows.foldl forceF gw).1 = if rows.any Prod.fst then .F else gw.1 := by
  induction rows generalizing gw with
  | nil => rfl
  | cons row rows ih =>
      rw [List.foldl_cons, ih, List.any_cons]
      unfold forceF
      cases hrow : row.1 with
      | true => simp
      | false => simp only [Bool.false_or, Bool.false_eq_true, if_false]

theorem foldl_applyCap (rows : List (Bool × Grade × String)) (gw : Grade × List String) :
    (rows.foldl applyCap gw).1 =
      capped gradeRank gw.1 ((rows.filter Prod.fst).map fun row => row.2.1) := by
  induction rows generalizing gw with
  | nil => rfl
  | cons row rows ih =>
      rw [List.foldl_cons, ih]
      unfold applyCap
      by_cases hrow : row.1
      · simp only [hrow, if_true, List.filter_cons_of_pos, List.map_cons]
        rfl
      · simp [hrow]

theorem special_fst (flag : Bool) (g : Grade) (text : String) (gw : Grade × List String) :
    (special flag g text gw).1 = if flag then g else gw.1 := by
  cases flag <;> rfl

/-- What holds of every cap that applies. -/
theorem forall_mem_applicableCaps {inp : ScoreInput} {P : Grade → Prop} :
    (∀ c ∈ applicableCaps upper inp, P c) ↔
      ∀ row ∈ gradeCaps upper inp, row.1 = true → P row.2.1 := by
  unfold applicableCaps
  simp only [List.forall_mem_map, List.mem_filter, and_imp]

/-- No cap is as low as F. -/
theorem gradeRank_pos_of_mem {inp : ScoreInput} :
    ∀ c ∈ applicableCaps upper inp, 3 ≤ gradeRank c := by
  rw [forall_mem_applicableCaps]
  simp [gradeCaps]

/-- **The grade by cases.** -/
theorem score_grade (inp : ScoreInput) :
    (score upper inp).grade =
      if inp.certNameMismatch then .M
      else if inp.certNotTrusted then .T
      else if failed upper inp then .F
      else capped gradeRank (scoreToGrade (score upper inp).score) (applicableCaps upper inp) := by
  have hscore : (score upper inp).score =
      weighted (scoreProtocols inp) (scoreKeyExchange inp) (scoreCipherStrength upper inp) := rfl
  rw [hscore]
  unfold score
  simp only [special_fst]
  generalize scoreToGrade _ = g
  have hfailed := foldl_forceF (automaticFailures upper inp) (g, [])
  congr 2
  by_cases hF : ((automaticFailures upper inp).foldl forceF (g, [])).1 = .F
  · rw [if_neg (not_not.mpr hF), hF]
    rw [hF] at hfailed
    unfold failed
    by_cases hany : (automaticFailures upper inp).any Prod.fst
    · rw [if_pos hany]
    · -- the score itself gives F, which no cap lowers
      rw [if_neg hany] at hfailed ⊢
      have hg : g = .F := hfailed.symm
      rw [hg]
      refine (capped_eq_self fun c hc => ?_).symm
      have hpos := gradeRank_pos_of_mem upper c hc
      rw [gradeRank_F]
      omega
  · rw [if_pos hF, foldl_applyCap]
    have hany : ¬ (automaticFailures upper inp).any Prod.fst := by
      intro hany
      rw [if_pos hany] at hfailed
      exact hF hfailed
    rw [hfailed]
    unfold failed
    rw [if_neg hany, if_neg hany]
    rfl

/-- **What keeps the rank of the grade above a bound.** -/
theorem le_rank_score_iff {inp : ScoreInput} {n : Int} (hn : 0 < n) :
    n ≤ gradeRank (score upper inp).grade ↔
      inp.certNameMismatch = false ∧ inp.certNotTrusted = false ∧ failed upper inp = false ∧
        n ≤ gradeRank (scoreToGrade (score upper inp).score) ∧
        ∀ c ∈ applicableCaps upper inp, n ≤ gradeRank c := by
  rw [score_grade]
  cases hM : inp.certNameMismatch with
  | true =>
      simp only [if_true, gradeRank_M, Bool.true_eq_false, false_and, iff_false]
      omega
  | false =>
      cases hT : inp.certNotTrusted with
      | true =>
          simp only [Bool.false_eq_true, if_false, if_true, gradeRank_T, Bool.true_eq_false,
            false_and, and_false, iff_false]
          omega
      | false =>
          cases hF : failed upper inp with
          | true =>
              simp only [Bool.false_eq_true, if_false, if_true, gradeRank_F, Bool.true_eq_false,
                false_and, and_false, iff_false]
              omega
          | false =>
              simp only [Bool.false_eq_true, if_false, true_and]
              exact le_rank_capped_iff

end Score

end TLSentinel.TLSProfile
