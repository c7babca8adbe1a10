/-
  TLSentinel.Trust.Evaluator
  ──────────────────────────
  **THE IN-PROCESS CERTIFICATE TRUST EVALUATOR.**

  `internal/trust/evaluator.go`: one pool of roots for each root store that has
  anchors, one pool of intermediates that all of them share.  `LoadPools` builds
  both from the database, `AddIntermediate` grows the second one, `Evaluate` runs
  `x509.Verify` against every root pool.

  `X509` is what the code uses of the standard library.  `x509.Verify` is modelled
  as the search for a chain to a root, over an abstract relation `signedBy` that
  stands for everything it checks of one link at a fixed time.

  Main results:
    * `Evaluator.evaluate_eq_of_agree` — evaluators with the same roots, and
                              intermediates that differ only in certificates signed
                              by nothing but themselves, give the same verdicts;
    * `Evaluator.Verifies.mono` — a growing pool keeps every trusted verdict.
-/
import TLSentinel.Certs.Store
import TLSentinel.Foundation.Chains

namespace TLSentinel.Trust

open Foundation TLSentinel.Certs

/-! ## §1. Certificates. -/

/-- PEM blocks, X.509 certificates and SHA-256 as the standard library has them.
Byte strings are strings. -/
structure X509 where
  /-- `*x509.Certificate`. -/
  Cert : Type
  decEq : DecidableEq Cert
  /-- `pem.Decode`: type and bytes of the first block. -/
  pemDecode : String → Option (String × String)
  /-- `pem.EncodeToMemory` of a block with this type and these bytes. -/
  pemEncode : String → String → String
  /-- `x509.ParseCertificate`. -/
  parseCertificate : String → Option Cert
  raw : Cert → String
  rawSubject : Cert → String
  rawIssuer : Cert → String
  commonName : Cert → String
  dnsNames : Cert → List String
  notAfter : Cert → Int
  subjectKeyId : Cert → String
  authorityKeyId : Cert → String
  isCA : Cert → Bool
  /-- `x509.Verify` accepts the second certificate as the parent of the first. -/
  signedBy : Cert → Cert → Bool
  /-- `sha256.Sum256`. -/
  sha256 : String → String
  /-- `hex.EncodeToString`. -/
  hexEncode : String → String
  /-- An encoded certificate decodes to itself. -/
  decode_encode : ∀ c, pemDecode (pemEncode "CERTIFICATE" (raw c)) = some ("CERTIFICATE", raw c)
  /-- The bytes kept with a certificate parse to it. -/
  parse_raw : ∀ c, parseCertificate (raw c) = some c
  /-- The fingerprints of certificates do not collide. -/
  fingerprint_inj : ∀ c d, hexEncode (sha256 (raw c)) = hexEncode (sha256 (raw d)) → c = d

namespace X509

variable (X : X509)

instance : DecidableEq X.Cert := X.decEq

/-- `parsePEM`, and `certificates.ParsePEMCertificate`. -/
def parsePEM (pemStr : String) : Option X.Cert :=
  match X.pemDecode pemStr with
  | none => none
  | some (type, bytes) => if type = "CERTIFICATE" then X.parseCertificate bytes else none

/-- `certificates.ExtractCertificateRecord`. -/
def extractCertificateRecord (cert : X.Cert) : CertificateRecord where
  fingerprint := X.hexEncode (X.sha256 (X.raw cert))
  pem := X.pemEncode "CERTIFICATE" (X.raw cert)
  commonName := X.commonName cert
  sans := X.dnsNames cert
  notAfter := X.notAfter cert
  subjectKeyID := X.hexEncode (X.subjectKeyId cert)
  authorityKeyID :=
    if X.authorityKeyId cert = "" then none else some (X.hexEncode (X.authorityKeyId cert))
  subjectDNHash := X.hexEncode (X.sha256 (X.rawSubject cert))
  issuerDNHash := X.hexEncode (X.sha256 (X.rawIssuer cert))

/-- The fingerprint of a certificate. -/
def fingerprint (cert : X.Cert) : String := (X.extractCertificateRecord cert).fingerprint

variable {X}

/-- **The stored PEM of a certificate parses back to it.** -/
@[simp] theorem parsePEM_extract (c : X.Cert) :
    X.parsePEM (X.extractCertificateRecord c).pem = some c := by
  show X.parsePEM (X.pemEncode "CERTIFICATE" (X.raw c)) = some c
  unfold parsePEM
  rw [X.decode_encode c]
  exact X.parse_raw c

theorem eq_of_fingerprint {c d : X.Cert} (h : X.fingerprint c = X.fingerprint d) : c = d :=
  X.fingerprint_inj c d h

/-- `p` signed `c`. -/
def Signs (X : X509) (c p : X.Cert) : Prop := X.signedBy c p = true

end X509

/-! ## §2. The evaluator. -/

/-- `trust.Result`. -/
structure Result where
  trusted : Bool
  reason : String
  deriving DecidableEq, Repr

/-- `trust.Evaluator`: a root pool for each store, and the shared intermediates. -/
structure Evaluator (X : X509) where
  rootPools : List (String × List X.Cert)
  intermediates : List X.Cert

section Evaluator

variable {X : X509}

/-- The root pools `LoadPools` builds: an anchor whose PEM does not parse is
skipped, its store keeps its pool. -/
def newRoots (X : X509) (anchors : List (String × List String)) : List (String × List X.Cert) :=
  anchors.map (fun a => (a.1, a.2.filterMap X.parsePEM))

/-- Every store of the list has a pool. -/
theorem stores_newRoots (anchors : List (String × List String)) :
    (newRoots X anchors).map Prod.fst = anchors.map Prod.fst := by
  simp [newRoots]

/-- The pool of intermediates `LoadPools` builds: of what parses, the CAs. -/
def newIntermediates (X : X509) (nonAnchors : List (String × String)) : List X.Cert :=
  (nonAnchors.filterMap (fun n => X.parsePEM n.2)).filter X.isCA

theorem mem_newIntermediates {nonAnchors : List (String × String)} {c : X.Cert} :
    c ∈ newIntermediates X nonAnchors
      ↔ X.isCA c = true ∧ ∃ fp p, (fp, p) ∈ nonAnchors ∧ X.parsePEM p = some c := by
  simp only [newIntermediates, List.mem_filter, List.mem_filterMap, Prod.exists]
  exact and_comm

/-- What `Evaluate` makes of the answer of `x509.Verify` for one root pool; a
certificate without a chain gets its `UnknownAuthorityError`. -/
def verdict (X : X509) (roots intermediates : List X.Cert) (leaf : X.Cert) : Result :=
  if verify X.signedBy roots intermediates leaf then ⟨true, ""⟩
  else ⟨false, "x509: certificate signed by unknown authority"⟩

namespace Evaluator

/-- `New`. -/
def new (X : X509) : Evaluator X := ⟨[], []⟩

/-- `LoadPools`, given what the two queries returned, or `none` for an error: the
previous pools are kept then. -/
def loadPools (e : Evaluator X) (anchors : Option (List (String × List String)))
    (nonAnchors : Option (List (String × String))) : Evaluator X :=
  match anchors with
  | none => e
  | some anchors =>
      match nonAnchors with
      | none => e
      | some nonAnchors =>
          { rootPools := newRoots X anchors, intermediates := newIntermediates X nonAnchors }

/-- `AddIntermediate`. -/
def addIntermediate (e : Evaluator X) (cert : X.Cert) : Evaluator X :=
  if X.isCA cert then { e with intermediates := e.intermediates ++ [cert] } else e

/-- `Evaluate`. -/
def evaluate (e : Evaluator X) (leaf : X.Cert) : List (String × Result) :=
  e.rootPools.map (fun p => (p.1, verdict X p.2 e.intermediates leaf))

/-! ## §3. What the operations do to the pools and the verdicts. -/

@[simp] theorem addIntermediate_rootPools (e : Evaluator X) (c : X.Cert) :
    (e.addIntermediate c).rootPools = e.rootPools := by
  unfold addIntermediate
  split <;> rfl

theorem mem_addIntermediate {e : Evaluator X} {c d : X.Cert} :
    d ∈ (e.addIntermediate c).intermediates
      ↔ d ∈ e.intermediates ∨ (d = c ∧ X.isCA c = true) := by
  unfold addIntermediate
  split
  · next h => simp [h]
  · next h => simp [h]

/-- The pool for the store verifies the certificate. -/
def Verifies (e : Evaluator X) (storeID : String) (c : X.Cert) : Prop :=
  ∃ roots, (storeID, roots) ∈ e.rootPools
    ∧ verify X.signedBy roots e.intermediates c = true

/-- **A trusted verdict is a store that verifies the certificate.** -/
theorem verifies_of_mem_evaluate {e : Evaluator X} {c : X.Cert} {storeID : String} {res : Result}
    (h : (storeID, res) ∈ e.evaluate c) (ht : res.trusted = true) : e.Verifies storeID c := by
  obtain ⟨p, hp, heq⟩ := List.mem_map.mp h
  obtain ⟨rfl, rfl⟩ := Prod.mk.inj heq
  refine ⟨p.2, hp, ?_⟩
  unfold verdict at ht
  split at ht
  · assumption
  · exact absurd ht Bool.false_ne_true

/-- The verdicts are for the stores that have a pool. -/
theorem stores_evaluate (e : Evaluator X) (c : X.Cert) :
    (e.evaluate c).map Prod.fst = e.rootPools.map Prod.fst := by
  simp [evaluate]

/-- **A growing pool keeps every trusted verdict.** -/
theorem Verifies.mono {e f : Evaluator X} (hroots : f.rootPools = e.rootPools)
    (hinter : ∀ d ∈ e.intermediates, d ∈ f.intermediates) {storeID : String} {c : X.Cert}
    (h : e.Verifies storeID c) : f.Verifies storeID c := by
  obtain ⟨roots, hmem, hv⟩ := h
  refine ⟨roots, hroots ▸ hmem, ?_⟩
  rw [verify_iff] at hv ⊢
  exact hv.mono (fun _ h => h) hinter

/-- **When two evaluators agree.** -/
theorem evaluate_eq_of_agree {e f : Evaluator X} (hroots : e.rootPools = f.rootPools)
    (hinter : ∀ p, ¬ SelfSignedOnly X.Signs p → (p ∈ e.intermediates ↔ p ∈ f.intermediates))
    (c : X.Cert) : e.evaluate c = f.evaluate c := by
  unfold evaluate
  rw [hroots]
  apply List.map_congr_left
  intro p _
  have hverify : verify X.signedBy p.2 e.intermediates c
      = verify X.signedBy p.2 f.intermediates c := by
    rw [Bool.eq_iff_iff, verify_iff, verify_iff]
    exact Verified.of_agree hinter c
  simp only [verdict, hverify]

end Evaluator

end Evaluator

end TLSentinel.Trust
