/-
  TLSentinel.Trust.FingerprintKeys
  ────────────────────────────────
  **THE KEYS BY WHICH ANCHORS AND PEMS ARE JOINED.**

  The trust matrix gives fingerprints as CCADB renders them, in upper case and with
  colons; `parsePEMBlob` of `internal/rootstore/parse.go` keeps certificates under the
  hexadecimal text of their digest, and `ExtractCertificateRecord` has its own.
  `parsePEMBlob` is here the loop of the source, over its map; `parsePEMBlob_eq` says that
  it has the certificates that `TLSentinel.Trust.TrustMatrix` lists.

  Main result: `fingerprint_keys_join` — the three keys agree for every rendering, and no
  certificate of a blob is missed.
-/
import TLSentinel.Foundation.Hex
import TLSentinel.Trust.TrustMatrix

namespace TLSentinel.Trust.FingerprintKeys

open Foundation
open Foundation.Hex (isHex hexValue)

/-! ## §1. Renderings of a digest. -/

/-- The bytes of a byte string. -/
def bytesOf (s : String) : List UInt8 := s.toList.map fun c => UInt8.ofNat c.toNat

/-- `hex.EncodeToString`. -/
def encodeToString (s : String) : String :=
  String.ofList (Hex.encode Nat.digitChar (bytesOf s))

/-- The values of the digits of a byte string. -/
def nibbles (s : String) : List Nat := (bytesOf s).flatMap fun b => [b.toNat / 16, b.toNat % 16]

/-- A text renders a byte string in hexadecimal: its digits, of either case, have the right
values in the right order.  All else in it separates. -/
def Renders (s rendering : String) : Prop :=
  (rendering.toList.filter isHex).map hexValue = nibbles s

instance (s rendering : String) : Decidable (Renders s rendering) :=
  inferInstanceAs (Decidable (_ = _))

theorem encodeToString_eq (s : String) :
    encodeToString s = String.ofList ((nibbles s).map Nat.digitChar) := by
  rw [nibbles, List.map_flatMap]
  rfl

/-- What `normalizeFingerprint` makes of a character. -/
def normalizeRune (r : Char) : Option Char :=
  if '0' ≤ r ∧ r ≤ '9' then some r
  else if 'a' ≤ r ∧ r ≤ 'f' then some r
  else if 'A' ≤ r ∧ r ≤ 'F' then some (Char.ofNat (r.toNat + ('a'.toNat - 'A'.toNat)))
  else none

/-- A digit becomes the digit of its value in lower case. -/
theorem normalizeRune_of_isHex {r : Char} (h : isHex r = true) :
    normalizeRune r = some (hexValue r).digitChar := by
  have hall : ∀ n < 103, isHex (Char.ofNat n) = true →
      normalizeRune (Char.ofNat n) = some (hexValue (Char.ofNat n)).digitChar := by decide
  have hlt : r.toNat < 103 := by
    have hrange := Hex.isHex_iff.mp h
    omega
  have hr := hall r.toNat hlt
  rw [Char.ofNat_toNat] at hr
  exact hr h

/-- Anything else is dropped. -/
theorem normalizeRune_of_not_isHex {r : Char} (h : isHex r = false) : normalizeRune r = none := by
  have hnot := mt Hex.isHex_iff.mpr (Bool.eq_false_iff.mp h)
  unfold normalizeRune
  simp only [Char.le_def, UInt32.le_iff_toNat_le]
  have hzero : '0'.val.toNat = 48 ∧ '9'.val.toNat = 57 ∧ 'a'.val.toNat = 97 ∧ 'f'.val.toNat = 102 ∧
    'A'.val.toNat = 65 ∧ 'F'.val.toNat = 70 := by decide
  have hval : r.val.toNat = r.toNat := rfl
  rw [if_neg (by omega), if_neg (by omega), if_neg (by omega)]

/-- **A rendering is normalized to the text of `hex.EncodeToString`.** -/
theorem normalizeFingerprint_of_renders {s rendering : String} (h : Renders s rendering) :
    normalizeFingerprint rendering = encodeToString s := by
  have hfilter : ∀ chars : List Char, chars.filterMap normalizeRune =
      ((chars.filter isHex).map hexValue).map Nat.digitChar := by
    intro chars
    induction chars with
    | nil => rfl
    | cons r chars ih =>
        cases hr : isHex r with
        | true =>
            rw [List.filterMap_cons_some (normalizeRune_of_isHex hr),
              List.filter_cons_of_pos hr, ih]
            rfl
        | false =>
            rw [List.filterMap_cons_none (normalizeRune_of_not_isHex hr),
              List.filter_cons_of_neg (by rw [hr]; exact Bool.false_ne_true), ih]
  rw [encodeToString_eq, ← h, ← hfilter]
  rfl

/-! ## §2. The map of a blob. -/

variable {X : X509} (P : PEMRest X)

/-- The loop of `parsePEMBlob` over its map `out`. -/
def blobLoop (data : String) (out : String → Option X.Cert) : String → Option X.Cert :=
  if data = "" then out
  else
    match _hblock : X.pemDecode data with
    | none => out
    | some (type, bytes) =>
        if type ≠ "CERTIFICATE" then blobLoop (P.rest data) out
        else
          match X.parseCertificate bytes with
          | none => blobLoop (P.rest data) out
          | some cert =>
              let sum := X.sha256 (X.raw cert)
              blobLoop (P.rest data) fun fp =>
                if fp = X.hexEncode sum then some cert else out fp
termination_by data.length
decreasing_by all_goals exact PEMRest.shorter _ data _ _hblock

/-- `parsePEMBlob`. -/
def parsePEMBlob (data : String) : String → Option X.Cert := blobLoop P data fun _ => none

/-- The blocks that successive calls of `pem.Decode` yield. -/
inductive Yields : String → String × String → Prop where
  | first {data : String} {block : String × String} (h : X.pemDecode data = some block) :
      Yields data block
  | later {data : String} {block block' : String × String} (h : X.pemDecode data = some block)
      (hrest : Yields (P.rest data) block') : Yields data block'

/-- An empty text has no block. -/
theorem pemDecode_empty (P : PEMRest X) : X.pemDecode "" = none := by
  cases h : X.pemDecode "" with
  | none => rfl
  | some block => exact absurd (P.shorter "" block h) (Nat.not_lt_zero _)

/-- **The loop ends**: there is no endless sequence of turns. -/
theorem no_endless_turns : ¬∃ datas : Nat → String, ∀ n,
    (∃ block, X.pemDecode (datas n) = some block) ∧ datas (n + 1) = P.rest (datas n) := by
  rintro ⟨datas, hturn⟩
  have hlen : ∀ n, (datas n).length + n ≤ (datas 0).length := by
    intro n
    induction n with
    | zero => exact Nat.le_refl _
    | succ n ih =>
        obtain ⟨⟨block, hblock⟩, hnext⟩ := hturn n
        have hshorter := P.shorter (datas n) block hblock
        rw [hnext]
        omega
  have hend := hlen ((datas 0).length + 1)
  omega

theorem byFingerprint_cons (cert : X.Cert) (certs : List X.Cert) (fp : String) :
    byFingerprint (cert :: certs) fp =
      (byFingerprint certs fp).or (if fp = X.fingerprint cert then some cert else none) := by
  unfold byFingerprint
  by_cases hfp : X.fingerprint cert = fp
  · rw [List.filter_cons_of_pos (by rw [decide_eq_true_eq]; exact hfp), if_pos hfp.symm]
    cases hrest : certs.filter fun c => decide (X.fingerprint c = fp) with
    | nil => rfl
    | cons c rest =>
        rw [List.getLast?_cons_cons]
        exact (Option.or_of_isSome (by simp)).symm
  · rw [List.filter_cons_of_neg (by rw [decide_eq_true_eq]; exact hfp), if_neg (Ne.symm hfp),
      Option.or_none]

/-- The map has what the list of the certificates has, later ones before earlier ones. -/
theorem blobLoop_eq {n : Nat} {data : String} (hn : data.length ≤ n)
    (out : String → Option X.Cert) (fp : String) :
    blobLoop P data out fp = (byFingerprint (parseBlocks P n data) fp).or (out fp) := by
  induction n generalizing data out with
  | zero =>
      have hempty : data = "" := String.length_eq_zero_iff.mp (Nat.le_zero.mp hn)
      rw [blobLoop, if_pos hempty]
      rfl
  | succ n ih =>
      rw [blobLoop, parseBlocks]
      split
      · next hempty =>
          rw [hempty, pemDecode_empty P]
          rfl
      · split
        · next hnone =>
            rw [hnone]
            rfl
        · next type bytes hblock =>
            have hrest := P.shorter data _ hblock
            rw [hblock]
            dsimp only
            split
            · exact ih (by omega) out
            · next htype =>
                rw [if_pos (not_not.mp htype)]
                cases X.parseCertificate bytes with
                | none => exact ih (by omega) out
                | some cert =>
                    dsimp only
                    rw [byFingerprint_cons, ih (by omega), Option.or_assoc]
                    refine congrArg (Option.or _) ?_
                    show (if fp = X.fingerprint cert then some cert else out fp) = _
                    split
                    · rfl
                    · rfl

/-- **The map is that of the certificates listed.** -/
theorem parsePEMBlob_eq (data fp : String) :
    parsePEMBlob P data fp = byFingerprint (Trust.parsePEMBlob P data) fp := by
  rw [parsePEMBlob, blobLoop_eq P (Nat.le_refl _), Option.or_none]
  rfl

/-! ## §3. What is stored. -/

variable {P}

/-- A text yields its first block, and what is left of it the others. -/
theorem yields_iff {data : String} {block block' : String × String}
    (h : X.pemDecode data = some block) :
    Yields P data block' ↔ block' = block ∨ Yields P (P.rest data) block' := by
  constructor
  · rintro (hfirst | ⟨-, hrest⟩)
    · exact Or.inl (Option.some.inj (hfirst.symm.trans h))
    · exact Or.inr hrest
  · rintro (rfl | hrest)
    · exact Yields.first h
    · exact Yields.later h hrest

theorem not_yields {data : String} (h : X.pemDecode data = none) (block : String × String) :
    ¬Yields P data block := by
  rintro (hfirst | ⟨hlater, -⟩)
  · rw [h] at hfirst
    cases hfirst
  · rw [h] at hlater
    cases hlater

/-- A certificate of a blob: a block of its type that is parsed to it. -/
def Holds (P : PEMRest X) (data : String) (cert : X.Cert) : Prop :=
  ∃ bytes, Yields P data ("CERTIFICATE", bytes) ∧ X.parseCertificate bytes = some cert

/-- **The list has the certificates that are yielded**, and no others. -/
theorem mem_parseBlocks_iff {n : Nat} {data : String} (hn : data.length ≤ n) {cert : X.Cert} :
    cert ∈ parseBlocks P n data ↔ Holds P data cert := by
  induction n generalizing data with
  | zero =>
      have hempty : data = "" := String.length_eq_zero_iff.mp (Nat.le_zero.mp hn)
      rw [hempty]
      constructor
      · exact fun h => absurd h List.not_mem_nil
      · rintro ⟨bytes, hyields, -⟩
        exact absurd hyields (not_yields (pemDecode_empty P) _)
  | succ n ih =>
      rw [parseBlocks]
      cases hblock : X.pemDecode data with
      | none =>
          constructor
          · exact fun h => absurd h List.not_mem_nil
          · rintro ⟨bytes, hyields, -⟩
            exact absurd hyields (not_yields hblock _)
      | some block =>
          obtain ⟨type, bytes⟩ := block
          have hrest := P.shorter data _ hblock
          have hih : cert ∈ parseBlocks P n (P.rest data) ↔ Holds P (P.rest data) cert :=
            ih (by omega)
          -- the first block, and those of the rest
          have hholds : Holds P data cert ↔
              type = "CERTIFICATE" ∧ X.parseCertificate bytes = some cert ∨
                Holds P (P.rest data) cert := by
            unfold Holds
            simp only [yields_iff hblock, Prod.mk.injEq]
            constructor
            · rintro ⟨_, ⟨rfl, rfl⟩ | hyields, hparse⟩
              · exact Or.inl ⟨rfl, hparse⟩
              · exact Or.inr ⟨_, hyields, hparse⟩
            · rintro (⟨rfl, hparse⟩ | ⟨_, hyields, hparse⟩)
              · exact ⟨bytes, Or.inl ⟨rfl, rfl⟩, hparse⟩
              · exact ⟨_, Or.inr hyields, hparse⟩
          rw [hholds, ← hih]
          dsimp only
          split
          · next htype =>
              cases hparse : X.parseCertificate bytes with
              | none => simp
              | some first => simp [htype, eq_comm]
          · next htype => simp [htype]

/-- **Every certificate of a blob is stored** under its fingerprint, and nothing else is. -/
theorem parsePEMBlob_eq_some_iff {data fp : String} {cert : X.Cert} :
    parsePEMBlob P data fp = some cert ↔ fp = X.fingerprint cert ∧ Holds P data cert := by
  rw [parsePEMBlob_eq, Trust.parsePEMBlob, ← mem_parseBlocks_iff (Nat.le_refl _)]
  constructor
  · intro h
    refine ⟨(fingerprint_of_byFingerprint h).symm, ?_⟩
    exact (List.mem_filter.mp (List.mem_of_getLast? h)).1
  · rintro ⟨rfl, hmem⟩
    have hfound : cert ∈ (parseBlocks P data.length data).filter fun c =>
        decide (X.fingerprint c = X.fingerprint cert) :=
      List.mem_filter.mpr ⟨hmem, decide_eq_true rfl⟩
    cases hlast : byFingerprint (parseBlocks P data.length data) (X.fingerprint cert) with
    | none => exact absurd hfound (List.getLast?_eq_none_iff.mp hlast ▸ List.not_mem_nil)
    | some other =>
        rw [X.eq_of_fingerprint (fingerprint_of_byFingerprint hlast)]

/-- **The keys join.**  Whatever the rendering of a certificate's digest, it is normalized to
the fingerprint of its record, which is the key that the map of a blob has it under; a blob
keeps every certificate that it has, whatever stands between, and the loop over it ends. -/
theorem fingerprint_keys_join (hhex : ∀ s, X.hexEncode s = encodeToString s) :
    (∀ cert rendering, Renders (X.sha256 (X.raw cert)) rendering →
      normalizeFingerprint rendering = (X.extractCertificateRecord cert).fingerprint ∧
        ∀ data, Holds P data cert →
          parsePEMBlob P data (normalizeFingerprint rendering) = some cert) ∧
    (∀ data fp cert, parsePEMBlob P data fp = some cert ↔
      fp = (X.extractCertificateRecord cert).fingerprint ∧ Holds P data cert) ∧
    ¬∃ datas : Nat → String, ∀ n,
      (∃ block, X.pemDecode (datas n) = some block) ∧ datas (n + 1) = P.rest (datas n) := by
  refine ⟨fun cert rendering hrenders => ?_, fun _ _ _ => parsePEMBlob_eq_some_iff,
    no_endless_turns P⟩
  have hkey : normalizeFingerprint rendering = X.fingerprint cert := by
    show normalizeFingerprint rendering = X.hexEncode (X.sha256 (X.raw cert))
    rw [normalizeFingerprint_of_renders hrenders, hhex]
  exact ⟨hkey, fun data hholds => parsePEMBlob_eq_some_iff.mpr ⟨hkey, hholds⟩⟩

/-! ## §4. A small blob. -/

/-- The bytes of a digest as a byte string. -/
def byteString (bs : List UInt8) : String := String.ofList (bs.map fun b => Char.ofNat b.toNat)

/-- The SHA-256 digest of the bytes of "certificate". -/
def sampleDigest : String :=
  byteString [0x03, 0xd6, 0x6d, 0xd0, 0x88, 0x35, 0xc1, 0xca, 0x3f, 0x12, 0x8c, 0xce, 0xac, 0xd1,
    0xf3, 0x1a, 0xc9, 0x41, 0x63, 0x09, 0x6b, 0x20, 0xf4, 0x45, 0xae, 0x84, 0x28, 0x5b, 0xc0, 0x83,
    0x2d, 0x72]

/-- One certificate, and blocks of one letter: `c` is the certificate's, `k` one of a key. -/
def digestPKI : X509 where
  Cert := Unit
  decEq := inferInstance
  pemDecode p :=
    match p.toList with
    | 'c' :: _ => some ("CERTIFICATE", "certificate")
    | 'k' :: _ => some ("PRIVATE KEY", "key")
    | _ => none
  pemEncode _ _ := "c"
  parseCertificate b := if b = "certificate" then some () else none
  raw _ := "certificate"
  rawSubject _ := "subject"
  rawIssuer _ := "subject"
  commonName _ := "subject"
  dnsNames _ := []
  notAfter _ := 0
  subjectKeyId _ := ""
  authorityKeyId _ := ""
  isCA _ := true
  signedBy _ _ := true
  sha256 b := if b = "certificate" then sampleDigest else ""
  hexEncode := encodeToString
  decode_encode _ := rfl
  parse_raw _ := rfl
  fingerprint_inj _ _ _ := rfl

/-- The letters after the first. -/
def digestRest : PEMRest digestPKI where
  rest p := String.ofList p.toList.tail
  shorter p block h := by
    rw [String.length_ofList, List.length_tail, String.length_toList]
    have hne : p ≠ "" := by
      rintro rfl
      cases h
    have hpos : p.length ≠ 0 := fun hzero => hne (String.length_eq_zero_iff.mp hzero)
    omega

theorem holds_afterKey : Holds digestRest "kc" () :=
  have hkey : digestPKI.pemDecode "kc" = some ("PRIVATE KEY", "key") := rfl
  ⟨"certificate", Yields.later hkey (Yields.first rfl), rfl⟩

/-- That digest, with colons and in upper case. -/
def sampleRendering : String :=
  "03:D6:6D:D0:88:35:C1:CA:3F:12:8C:CE:AC:D1:F3:1A:" ++
    "C9:41:63:09:6B:20:F4:45:AE:84:28:5B:C0:83:2D:72"

/-- A certificate after a key, found by such a rendering. -/
theorem fingerprint_keys_colons :
    parsePEMBlob digestRest "kc" (normalizeFingerprint sampleRendering) = some () :=
  have hhex : ∀ s, digestPKI.hexEncode s = encodeToString s := fun _ => rfl
  ((fingerprint_keys_join hhex).1 () _ (by decide +kernel)).2 "kc" holds_afterKey

end TLSentinel.Trust.FingerprintKeys
