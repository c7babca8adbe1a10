/-
  TLSentinel.TLSProfile.Handler
  ─────────────────────────────
  **THE GRADE AN ENDPOINT IS SHOWN WITH.**

  `GetTLSProfile` scores the stored profile of an endpoint.  The bits of the key
  exchange are those of the key of the current certificate; what the scanner does not
  probe is left unknown.

  Main result:
    * `rank_profile_protocols` — an old version next to TLS 1.2 or 1.3 never helps,
      TLS 1.3 never hurts.
-/
import TLSentinel.TLSProfile.Grades
import TLSentinel.Endpoints.TypeChange

namespace TLSentinel.TLSProfile

open Foundation
open TLSentinel.Endpoints.TypeChange (EndpointTLSProfile)

/-! ## §1. The bits of a certificate. -/

/-- The key of a certificate, as `KeyExchangeBitsFromPEM` tells keys apart. -/
inductive PublicKey where
  /-- The length of the modulus. -/
  | rsa (bitLen : Nat)
  /-- The size of the curve. -/
  | ecdsa (bitSize : Nat)
  | ed25519
  | other
  deriving DecidableEq, Repr

/-- `ecCurveBitsToRSAEquiv`. -/
def ecCurveBitsToRSAEquiv (curveBits : Int) : Int :=
  if 512 ≤ curveBits then 15360
  else if 384 ≤ curveBits then 7680
  else if 256 ≤ curveBits then 3072
  else if 224 ≤ curveBits then 2048
  else if 192 ≤ curveBits then 1024
  else 512

/-- `KeyExchangeBitsFromPEM`, with `pem.Decode` and `x509.ParseCertificate` in one: `none`
is a text neither takes. -/
def keyExchangeBitsFromPEM (parse : String → Option PublicKey) (pemData : String) : Option Int :=
  if pemData = "" then none
  else
    match parse pemData with
    | none => none
    | some (.rsa bitLen) => some bitLen
    | some (.ecdsa bitSize) => some (ecCurveBitsToRSAEquiv bitSize)
    | some .ed25519 => some 3072
    | some .other => some (-1)

/-! ## §2. The handler. -/

/-- What `GetTLSProfile` asks `Score` about. -/
def profileInput (upper : Char → Char) (profile : EndpointTLSProfile) (kexBits : Int) :
    ScoreInput where
  ssl20 := false
  ssl30 := profile.ssl30
  tls10 := profile.tls10
  tls11 := profile.tls11
  tls12 := profile.tls12
  tls13 := profile.tls13
  cipherSuites := profile.cipherSuites
  keyExchangeBits := kexBits
  certNotTrusted := false
  certNameMismatch := false
  certExpired := false
  certSelfSigned := false
  certRevoked := false
  certInsecureSig := false
  certChainIncomplete := false
  vulnHeartbleed := false
  -- any server that accepts SSL 3.0 is taken to be vulnerable
  vulnPoodle := profile.ssl30
  vulnDrown := false
  vulnRobot := false
  hasForwardSecrecy := hasForwardSecrecy upper profile.cipherSuites
  hasAEAD := hasAEAD upper profile.cipherSuites
  hsts := none

/-- The score of a stored profile. -/
def profileScore (upper : Char → Char) (profile : EndpointTLSProfile) (kexBits : Int) :
    ScoreResult :=
  score upper (profileInput upper profile kexBits)

/-- What the profile lookup ends with. -/
inductive ProfileLookup where
  | found (profile : EndpointTLSProfile)
  | notFound
  | failed

/-- `GetTLSProfile`, from what the two lookups return. -/
def getTLSProfile (upper : Char → Char) (parse : String → Option PublicKey)
    (profile : ProfileLookup) (certPEM : Option String) :
    Except HttpError (EndpointTLSProfile × ScoreResult) :=
  match profile with
  | .notFound => .error ⟨404, "tls profile not found"⟩
  | .failed => .error ⟨500, "failed to get TLS profile"⟩
  | .found profile =>
      let kexBits := (certPEM.bind (keyExchangeBitsFromPEM parse)).getD (-1)
      .ok (profile, profileScore upper profile kexBits)

/-! ## §3. Versions. -/

section Versions

variable (upper : Char → Char)

/-- The profile with more versions accepted. -/
def accepting (profile : EndpointTLSProfile) (ssl30 tls10 tls11 tls13 : Bool) :
    EndpointTLSProfile :=
  { profile with
    ssl30 := profile.ssl30 || ssl30
    tls10 := profile.tls10 || tls10
    tls11 := profile.tls11 || tls11
    tls13 := profile.tls13 || tls13 }

/-- Versions worth no more than the best one accepted only lower the protocol score. -/
theorem scoreProtocols_le_of_more {a b : ScoreInput} (hmore : ∀ v ∈ a.enabled, v ∈ b.enabled)
    (hbest : ∃ v ∈ a.enabled, 100 ≤ protocolScore v) :
    scoreProtocols b ≤ scoreProtocols a := by
  obtain ⟨v, hv, h100⟩ := hbest
  apply average_le_average
  · rw [extremes_fst_le_iff]
    refine ⟨(extremes_fst_le_iff.mp le_rfl).1, fun u hu => ?_⟩
    exact ((protocolScore_mem_range u hu).2.trans h100).trans (le_extremes_fst hv)
  · exact extremes_snd_anti hmore
  · rw [le_extremes_snd_iff]
    exact ⟨by decide, fun u hu => (protocolScore_mem_range u hu).1⟩

/-- A version worth all points raises the protocol score. -/
theorem scoreProtocols_le_of_best {a b : ScoreInput}
    (hmore : ∀ v ∈ a.enabled, v ∈ b.enabled)
    (hnew : ∀ v ∈ b.enabled, v ∈ a.enabled ∨ 100 ≤ protocolScore v) :
    scoreProtocols a ≤ scoreProtocols b := by
  cases ha : a.enabled with
  | nil =>
      have hzero : scoreProtocols a = 0 := by
        unfold scoreProtocols
        rw [ha]
        rfl
      rw [hzero]
      exact (scoreProtocols_mem_range b).1
  | cons u us =>
      have hu : u ∈ a.enabled := by rw [ha]; exact List.mem_cons_self
      apply average_le_average
      · exact extremes_fst_mono hmore
      · rw [le_extremes_snd_iff]
        refine ⟨(le_extremes_snd_iff.mp le_rfl).1, fun v hv => ?_⟩
        obtain hold | h100 := hnew v hv
        · exact extremes_snd_le hold
        · exact ((extremes_snd_le hu).trans (protocolScore_mem_range u hu).2).trans h100
      · rw [le_extremes_snd_iff]
        exact ⟨by decide, fun v hv => (protocolScore_mem_range v hv).1⟩

variable (profile : EndpointTLSProfile) (kexBits : Int)

/-- The versions of a profile that accepts more. -/
theorem mem_enabled_accepting (ssl30 tls10 tls11 tls13 : Bool) :
    ∀ v ∈ (profileInput upper profile kexBits).enabled,
      v ∈ (profileInput upper (accepting profile ssl30 tls10 tls11 tls13) kexBits).enabled := by
  obtain ⟨-, h30, h10, h11, h12, h13⟩ :=
    enabled_mem (profileInput upper (accepting profile ssl30 tls10 tls11 tls13) kexBits)
  rw [forall_mem_enabled]
  refine ⟨fun h => ?_, fun h => h30 ?_, fun h => h10 ?_, fun h => h11 ?_, h12, fun h => h13 ?_⟩
  · cases h
  all_goals exact Bool.or_eq_true_iff.mpr (Or.inl h)

/-- With TLS 1.2 or 1.3 accepted, the versions do not fail a profile. -/
theorem failed_eq_false_of_best {upper kexBits} {p q : EndpointTLSProfile}
    (hF : failed upper (profileInput upper p kexBits) = false)
    (hsuites : q.cipherSuites = p.cipherSuites) (h : q.tls12 = true ∨ q.tls13 = true) :
    failed upper (profileInput upper q kexBits) = false := by
  rw [failed_eq_false_iff] at hF ⊢
  obtain ⟨h20, hexpired, hself, hrevoked, hsig, hbits, hexport, hbleed, hdrown, hrobot, -,
    honly⟩ := hF
  change hasExportSuites upper p.cipherSuites = false at hexport
  change onlyRC4 upper p.cipherSuites = false at honly
  rw [← hsuites] at hexport honly
  refine ⟨h20, hexpired, hself, hrevoked, hsig, hbits, hexport, hbleed, hdrown, hrobot, ?_,
    honly⟩
  -- SSL 3.0 is not the best version
  rintro ⟨-, -, -, h12, h13⟩
  obtain h | h := h
  · exact absurd (h.symm.trans h12) (by decide)
  · exact absurd (h.symm.trans h13) (by decide)

/-- **An old version next to TLS 1.2 or 1.3.** -/
theorem rank_accepting_old_le {upper profile kexBits} (ssl30 tls10 tls11 : Bool)
    (h : profile.tls12 = true ∨ profile.tls13 = true) :
    gradeRank (profileScore upper (accepting profile ssl30 tls10 tls11 false) kexBits).grade ≤
      gradeRank (profileScore upper profile kexBits).grade := by
  have hbest : ∃ v ∈ (profileInput upper profile kexBits).enabled, 100 ≤ protocolScore v := by
    obtain ⟨-, -, -, -, h12, h13⟩ := enabled_mem (profileInput upper profile kexBits)
    obtain h | h := h
    · exact ⟨_, h12 h, by decide⟩
    · exact ⟨_, h13 h, by decide⟩
  have hprotocols := scoreProtocols_le_of_more
    (mem_enabled_accepting upper profile kexBits ssl30 tls10 tls11 false) hbest
  have hscore :
      (score upper
        (profileInput upper (accepting profile ssl30 tls10 tls11 false) kexBits)).score ≤
        (score upper (profileInput upper profile kexBits)).score :=
    score_le_score upper hprotocols rfl le_rfl
  apply rank_score_le upper
  · exact fun _ _ => ⟨rfl, rfl⟩
  · exact fun _ _ hF => failed_eq_false_of_best hF rfl h
  · intro _ _ _ n _ hgrade hcaps
    rw [le_rank_scoreToGrade_iff] at hgrade ⊢
    rw [le_caps_iff] at hcaps ⊢
    refine ⟨by omega, fun hC => hcaps.1 ?_, fun hB => hcaps.2.1 ?_, fun hA => hcaps.2.2 ?_⟩
    · unfold CapsAtC at hC ⊢
      simp only [profileInput, accepting, Bool.or_eq_true, Bool.or_false] at hC ⊢
      exact hC.imp Or.inl (Or.imp_left (And.imp_right (Or.imp_left Or.inl)))
    · unfold CapsAtB at hB ⊢
      simp only [profileInput, accepting, Bool.or_eq_true] at hB ⊢
      obtain hbits | hrc4 | hchain | hfs | haead | h10 | h11 := hB
      · exact Or.inl hbits
      · exact Or.inr (Or.inl hrc4)
      · cases hchain
      · exact Or.inr (Or.inr (Or.inr (Or.inl hfs)))
      · exact Or.inr (Or.inr (Or.inr (Or.inr (Or.inl haead))))
      · exact Or.inr (Or.inr (Or.inr (Or.inr (Or.inr (Or.inl (Or.inl h10))))))
      · exact Or.inr (Or.inr (Or.inr (Or.inr (Or.inr (Or.inr (Or.inl h11))))))
    · unfold CapsAtAMinus at hA ⊢
      simpa only [profileInput, accepting, Bool.or_false] using hA

/-- **TLS 1.3 on top.** -/
theorem rank_le_accepting_tls13 {upper profile kexBits} :
    gradeRank (profileScore upper profile kexBits).grade ≤
      gradeRank (profileScore upper (accepting profile false false false true) kexBits).grade := by
  have hnew : ∀ v ∈ (profileInput upper (accepting profile false false false true)
      kexBits).enabled, v ∈ (profileInput upper profile kexBits).enabled ∨
        100 ≤ protocolScore v := by
    obtain ⟨h20, h30, h10, h11, h12, -⟩ := enabled_mem (profileInput upper profile kexBits)
    rw [forall_mem_enabled]
    simp only [profileInput, accepting, Bool.or_false] at h20 h30 h10 h11 h12 ⊢
    exact ⟨fun h => Or.inl (h20 h), fun h => Or.inl (h30 h), fun h => Or.inl (h10 h),
      fun h => Or.inl (h11 h), fun h => Or.inl (h12 h), fun _ => Or.inr (by decide)⟩
  have hprotocols := scoreProtocols_le_of_best
    (mem_enabled_accepting upper profile kexBits false false false true) hnew
  have hscore : (score upper (profileInput upper profile kexBits)).score ≤
      (score upper
        (profileInput upper (accepting profile false false false true) kexBits)).score :=
    score_le_score upper hprotocols rfl le_rfl
  apply rank_score_le upper
  · exact fun _ _ => ⟨rfl, rfl⟩
  · exact fun _ _ hF => failed_eq_false_of_best hF rfl (Or.inr (Bool.or_true _))
  · intro _ _ _ n _ hgrade hcaps
    rw [le_rank_scoreToGrade_iff] at hgrade ⊢
    rw [le_caps_iff] at hcaps ⊢
    refine ⟨by omega, fun hC => hcaps.1 ?_, fun hB => hcaps.2.1 ?_, fun hA => hcaps.2.2 ?_⟩
    · -- where 3DES and RC4 had no version to cap, the missing TLS 1.2 and 1.3 did
      unfold CapsAtC at hC ⊢
      simp only [profileInput, accepting, Bool.or_true, Bool.or_false] at hC ⊢
      cases h12 : profile.tls12 with
      | true => simp_all
      | false =>
          cases h13 : profile.tls13 with
          | true => simp_all
          | false => simp
    · unfold CapsAtB at hB ⊢
      simpa only [profileInput, accepting, Bool.or_false] using hB
    · unfold CapsAtAMinus at hA
      simp [profileInput, accepting] at hA

/-- **Protocol support moves the displayed grade the right way.** -/
theorem rank_profile_protocols (upper : Char → Char) (profile : EndpointTLSProfile)
    (kexBits : Int) :
    (profile.tls12 = true ∨ profile.tls13 = true → ∀ ssl30 tls10 tls11,
      gradeRank (profileScore upper (accepting profile ssl30 tls10 tls11 false) kexBits).grade ≤
        gradeRank (profileScore upper profile kexBits).grade) ∧
    gradeRank (profileScore upper profile kexBits).grade ≤
      gradeRank (profileScore upper (accepting profile false false false true) kexBits).grade :=
  ⟨fun h ssl30 tls10 tls11 => rank_accepting_old_le ssl30 tls10 tls11 h,
    rank_le_accepting_tls13⟩

end Versions

end TLSentinel.TLSProfile
