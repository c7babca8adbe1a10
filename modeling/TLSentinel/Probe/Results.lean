/-
  TLSentinel.Probe.Results
  ────────────────────────
  **WHAT A SUBMITTED SCAN MAKES OF AN ENDPOINT'S CERTIFICATES.**

  `Result` and `SAMLResult` of `internal/probe/handler.go`: both ingest the
  certificates of the request one after the other, past those that do not parse or
  cannot be stored.  `Result` keeps the fingerprint that the scanner names, for
  RecordScanResult to link, if the first certificate was stored; `SAMLResult` links
  every certificate it stored.

  The tables are those of `TLSentinel.Scans.Store`.  Which inserts the database
  takes is an argument.  Left out is what goes to other tables and is never read
  here: the verdicts of the trust evaluator (`TLSentinel.Trust.Ingest`) and the
  metadata document.

  Main results:
    * `result_sound_iff`      — when `Result` links no other certificate than the
                                first one of the request, and never a missing one;
    * `samlResult_mirrors_iff` — when the current certificates of a SAML endpoint are
                                those submitted.
-/
import TLSentinel.Base
import TLSentinel.Foundation.Loops
import TLSentinel.Scans.EndpointCerts
import TLSentinel.Trust.Ingest

namespace TLSentinel.Probe

open Foundation
open TLSentinel.Scans (EndpointCertTable HasEndpoint)
open TLSentinel.Trust (X509 validUse)

/-! ## §1. The current certificates of an endpoint and use. -/

/-- The certificate is current for the endpoint and use. -/
def Current (t : EndpointCertTable) (endpointID certUse fingerprint : String) : Prop :=
  ∃ c ∈ t, c.key = (endpointID, fingerprint, certUse) ∧ c.isCurrent = true

instance (t : EndpointCertTable) (endpointID certUse fingerprint : String) :
    Decidable (Current t endpointID certUse fingerprint) :=
  inferInstanceAs (Decidable (∃ c ∈ t, c.key = (endpointID, fingerprint, certUse) ∧
    c.isCurrent = true))

/-- **After an upsert** its certificate is the current one of its endpoint and use; the
others stay. -/
theorem current_upsertEndpointCert {t u : EndpointCertTable} {refs : Bool} {now : Int}
    {endpointID fingerprint certUse : String}
    (h : Scans.upsertEndpointCert t refs now endpointID fingerprint certUse = some u)
    (e w f : String) :
    Current u e w f ↔
      if endpointID = e ∧ certUse = w then f = fingerprint else Current t e w f := by
  unfold Current
  constructor
  · intro hcur
    obtain ⟨c, hc, hkey, hcurrent⟩ := hcur
    obtain ⟨he, hf, hw⟩ := Scans.EndpointCert.key_eq_iff.mp hkey
    rcases (Scans.mem_upsertEndpointCert h).mp hc with ⟨s, hs, rfl⟩ | ⟨_, hnew⟩
    · -- a stored row: of the pair it is current only if it is the one upserted
      rw [Scans.EndpointCert.upserted_key] at hkey
      rw [Scans.upserted_isCurrent] at hcurrent
      obtain ⟨hse, hsf, hsw⟩ := Scans.EndpointCert.key_eq_iff.mp hkey
      rw [hse, hsf, hsw] at hcurrent
      split at hcurrent
      · next hpair =>
          rw [if_pos hpair]
          exact (of_decide_eq_true hcurrent).symm
      · next hpair =>
          rw [if_neg hpair]
          exact ⟨s, hs, hkey, hcurrent⟩
    · subst hnew
      rw [if_pos ⟨he, hw⟩]
      exact hf.symm
  · intro hcur
    by_cases hpair : endpointID = e ∧ certUse = w
    · rw [if_pos hpair] at hcur
      obtain ⟨he, hw⟩ := hpair
      subst he hw hcur
      by_cases hknown : ∃ s ∈ t, s.key = (endpointID, f, certUse)
      · -- seen again, or else inserted
        obtain ⟨s, hs, hkey⟩ := hknown
        obtain ⟨hse, hsf, hsw⟩ := Scans.EndpointCert.key_eq_iff.mp hkey
        refine ⟨_, (Scans.mem_upsertEndpointCert h).mpr (.inl ⟨s, hs, rfl⟩), ?_, ?_⟩
        · rw [Scans.EndpointCert.upserted_key, hkey]
        · rw [Scans.upserted_isCurrent, hse, hsf, hsw, if_pos ⟨rfl, rfl⟩, decide_eq_true_eq]
      · exact ⟨_, (Scans.mem_upsertEndpointCert h).mpr
          (.inr ⟨fun s hs hk => hknown ⟨s, hs, hk⟩, rfl⟩), rfl, rfl⟩
    · rw [if_neg hpair] at hcur
      obtain ⟨s, hs, hkey, hcurrent⟩ := hcur
      obtain ⟨hse, hsf, hsw⟩ := Scans.EndpointCert.key_eq_iff.mp hkey
      refine ⟨_, (Scans.mem_upsertEndpointCert h).mpr (.inl ⟨s, hs, rfl⟩), ?_, ?_⟩
      · rw [Scans.EndpointCert.upserted_key, hkey]
      · rw [Scans.upserted_isCurrent, hse, hsw, if_neg hpair]
        exact hcurrent

/-! ## §2. The loop of `Result`. -/

/-- `models.ScanResultRequest`. -/
structure ScanResultRequest extends Scans.ScanResultRequest where
  pems : List String
  deriving DecidableEq, Repr

/-- What the loop of `Result` works on. -/
structure Loop where
  db : Scans.DB
  activeFingerprint : Option String
  leafOK : Bool

section

variable (X : X509) (insertOK : Nat → Bool)

/-- One round of the loop, for a certificate and its index. -/
def ingestPEM (s : Loop) (p : String × Nat) : Loop :=
  match X.parsePEM p.1 with
  | none => s
  | some cert =>
      if insertOK p.2 then
        { s with
          db := s.db.insertCertificate (X.fingerprint cert)
          leafOK := if p.2 = 0 then true else s.leafOK }
      -- leaf failed: don't link a fingerprint that may not be in the DB
      else { s with activeFingerprint := if p.2 = 0 then none else s.activeFingerprint }

/-- The loop; no PEMs means error scan. -/
def ingestPEMs (db : Scans.DB) (req : ScanResultRequest) : Loop :=
  req.pems.zipIdx.foldl (ingestPEM X insertOK) ⟨db, req.activeFingerprint, req.pems.isEmpty⟩

/-- The fingerprint that RecordScanResult is called with. -/
def linked (db : Scans.DB) (req : ScanResultRequest) : Option String :=
  let s := ingestPEMs X insertOK db req
  if s.leafOK then s.activeFingerprint else none

/-- `Result`: the database, and the error response if there is one. -/
def result (db : Scans.DB) (now : Int) (hostID : String) (req : ScanResultRequest) :
    Scans.DB × Option HttpError :=
  let s := ingestPEMs X insertOK db req
  let req := { req.toScanResultRequest with activeFingerprint := linked X insertOK db req }
  match s.db.recordScanResult now hostID req with
  | none => (s.db, some ⟨500, "failed to record scan result"⟩)
  | some db => (db, none)

/-! ## §3. What the loop leaves. -/

/-- The fingerprint under which a PEM is stored, if it is. -/
def storedAs (p : String × Nat) : Option String :=
  (X.parsePEM p.1).bind fun cert => if insertOK p.2 then some (X.fingerprint cert) else none

/-- The fingerprint of the first PEM of a request, if that one parses and is stored. -/
def leaf (req : ScanResultRequest) : Option String :=
  req.pems.head?.bind fun pem => storedAs X insertOK (pem, 0)

/-- The fingerprints that the request stores. -/
def stored (req : ScanResultRequest) : List String :=
  req.pems.zipIdx.filterMap (storedAs X insertOK)

variable {X insertOK}

/-- What one round leaves: of the certificates the fingerprint stored, of the rest all. -/
theorem ingestPEM_db (s : Loop) (p : String × Nat) :
    (ingestPEM X insertOK s p).db =
      ((storedAs X insertOK p).elim s.db fun f => s.db.insertCertificate f) := by
  unfold ingestPEM storedAs
  cases X.parsePEM p.1 with
  | none => rfl
  | some cert => cases insertOK p.2 <;> rfl

/-- The tables after the loop. -/
theorem ingestPEMs_db (db : Scans.DB) (req : ScanResultRequest) :
    (ingestPEMs X insertOK db req).db.endpoints = db.endpoints ∧
      (ingestPEMs X insertOK db req).db.endpointCerts = db.endpointCerts ∧
      ∀ f, f ∈ (ingestPEMs X insertOK db req).db.certificates ↔
        f ∈ db.certificates ∨ f ∈ stored X insertOK req := by
  unfold ingestPEMs stored
  refine foldl_invariant (P := fun done (s : Loop) => s.db.endpoints = db.endpoints ∧
    s.db.endpointCerts = db.endpointCerts ∧
      ∀ f, f ∈ s.db.certificates ↔
        f ∈ db.certificates ∨ f ∈ done.filterMap (storedAs X insertOK)) ?_ ?_ req.pems.zipIdx
  · simp
  · intro done p s ih
    obtain ⟨hend, hcerts, hmem⟩ := ih
    rw [ingestPEM_db, List.filterMap_append]
    cases hp : storedAs X insertOK p with
    | none => simp [hend, hcerts, hmem, hp]
    | some g =>
        refine ⟨hend, hcerts, fun f => ?_⟩
        show f ∈ g :: s.db.certificates ↔ _
        rw [List.mem_cons, hmem]
        simp [hp, or_comm, or_left_comm]

/-- After the first round the loop leaves the fingerprint and the flag alone. -/
theorem foldl_ingestPEM_rest (pems : List String) (k : Nat) (s : Loop) :
    ((pems.zipIdx (k + 1)).foldl (ingestPEM X insertOK) s).activeFingerprint
        = s.activeFingerprint ∧
      ((pems.zipIdx (k + 1)).foldl (ingestPEM X insertOK) s).leafOK = s.leafOK := by
  induction pems generalizing k s with
  | nil => exact ⟨rfl, rfl⟩
  | cons pem pems ih =>
      rw [List.zipIdx_cons, List.foldl_cons]
      obtain ⟨hactive, hleaf⟩ := ih (k + 1) (ingestPEM X insertOK s (pem, k + 1))
      rw [hactive, hleaf]
      unfold ingestPEM
      cases X.parsePEM pem with
      | none => exact ⟨rfl, rfl⟩
      | some cert =>
          have hk : ¬ k + 1 = 0 := by omega
          simp only [hk, if_false]
          split
          · exact ⟨rfl, rfl⟩
          · exact ⟨rfl, rfl⟩

/-- **The fingerprint that is linked**: the one the scanner names, unless the first
certificate is missing. -/
theorem linked_eq (db : Scans.DB) (req : ScanResultRequest) :
    linked X insertOK db req =
      if req.pems = [] ∨ (leaf X insertOK req).isSome = true then req.activeFingerprint
      else none := by
  unfold linked ingestPEMs leaf
  cases hpems : req.pems with
  | nil => rfl
  | cons pem pems =>
      -- only the first round matters
      obtain ⟨hactive, hleaf⟩ := @foldl_ingestPEM_rest X insertOK pems 0
        (ingestPEM X insertOK ⟨db, req.activeFingerprint, false⟩ (pem, 0))
      rw [List.zipIdx_cons, List.foldl_cons]
      simp only [List.isEmpty_cons, hactive, hleaf, reduceCtorEq, false_or, List.head?_cons,
        Option.bind_some]
      unfold ingestPEM storedAs
      cases X.parsePEM pem with
      | none => rfl
      | some cert => cases insertOK 0 <;> rfl

end

/-! ## §4. When `Result` is sound. -/

section

variable (X : X509) (insertOK : Nat → Bool)

/-- A handled result neither dangles nor mislinks. -/
structure Sound (db : Scans.DB) (now : Int) (hostID : String) (req : ScanResultRequest) :
    Prop where
  /-- RecordScanResult is called with a certificate that is stored. -/
  stored : ∀ f ∈ linked X insertOK db req, f ∈ (ingestPEMs X insertOK db req).db.certificates
  /-- The scan state of an endpoint is recorded. -/
  recorded : HasEndpoint db.endpoints hostID → (result X insertOK db now hostID req).2 = none
  /-- The endpoint's current certificate is the first one, if that was stored. -/
  current : ∀ g, leaf X insertOK req = some g → HasEndpoint db.endpoints hostID →
    ∀ f, Current (result X insertOK db now hostID req).1.endpointCerts hostID "tls" f ↔ f = g

/-- The scanner names the certificate it sends first, and without certificates one that is
stored. -/
structure NamesItsLeaf (db : Scans.DB) (hostID : String) (req : ScanResultRequest) : Prop where
  stored : req.pems = [] ∨ (leaf X insertOK req).isSome = true →
    ∀ f ∈ req.activeFingerprint, f ∈ db.certificates ∨ f ∈ stored X insertOK req
  /-- Naming none is as good, where the first certificate is the current one already. -/
  leaf : ∀ g, leaf X insertOK req = some g → HasEndpoint db.endpoints hostID →
    req.activeFingerprint = some g ∨
      (req.activeFingerprint = none ∧ ∀ f, Current db.endpointCerts hostID "tls" f ↔ f = g)

variable {X insertOK}

theorem stored_iff (db : Scans.DB) {req : ScanResultRequest} :
    (∀ f ∈ linked X insertOK db req, f ∈ (ingestPEMs X insertOK db req).db.certificates) ↔
      (req.pems = [] ∨ (leaf X insertOK req).isSome = true →
        ∀ f ∈ req.activeFingerprint, f ∈ db.certificates ∨ f ∈ stored X insertOK req) := by
  rw [linked_eq]
  simp only [(ingestPEMs_db db req).2.2]
  by_cases h : req.pems = [] ∨ (leaf X insertOK req).isSome = true
  · simp only [h, if_true, true_imp_iff]
  · simp only [h, if_false, false_imp_iff, iff_true]
    intro f hf
    exact absurd hf (by simp)

/-- A result for an endpoint that links no missing certificate is recorded. -/
theorem result_recorded {db : Scans.DB} (now : Int) {hostID : String} {req : ScanResultRequest}
    (hhost : HasEndpoint db.endpoints hostID)
    (hstored : ∀ f ∈ linked X insertOK db req,
      f ∈ (ingestPEMs X insertOK db req).db.certificates) :
    ∃ db', result X insertOK db now hostID req = (db', none) ∧
      (ingestPEMs X insertOK db req).db.recordScanResult now hostID
        { req.toScanResultRequest with activeFingerprint := linked X insertOK db req }
          = some db' := by
  have hsome : ((ingestPEMs X insertOK db req).db.recordScanResult now hostID
      { req.toScanResultRequest with
        activeFingerprint := linked X insertOK db req }).isSome = true := by
    rw [Scans.DB.recordScanResult_isSome_iff, (ingestPEMs_db db req).1]
    exact ⟨hhost, hstored⟩
  obtain ⟨db', hdb'⟩ := Option.isSome_iff_exists.mp hsome
  refine ⟨db', ?_, hdb'⟩
  unfold result
  simp only [hdb']

/-- The current certificates after a recorded result. -/
theorem current_result {db db' : Scans.DB} {now : Int} {hostID : String}
    {req : ScanResultRequest}
    (h : (ingestPEMs X insertOK db req).db.recordScanResult now hostID
      { req.toScanResultRequest with activeFingerprint := linked X insertOK db req }
        = some db') (f : String) :
    Current db'.endpointCerts hostID "tls" f ↔
      match linked X insertOK db req with
      | none => Current db.endpointCerts hostID "tls" f
      | some g => f = g := by
  have hcerts := (Scans.DB.recordScanResult_eq_some h).endpointCerts
  cases hlinked : linked X insertOK db req with
  | none =>
      rw [hlinked] at hcerts
      simp only at hcerts
      rw [hcerts, (ingestPEMs_db db req).2.1]
  | some g =>
      rw [hlinked] at hcerts
      rw [current_upsertEndpointCert hcerts, if_pos ⟨rfl, rfl⟩]

/-- **When `Result` is sound.** -/
theorem result_sound_iff (db : Scans.DB) (now : Int) (hostID : String)
    (req : ScanResultRequest) :
    Sound X insertOK db now hostID req ↔ NamesItsLeaf X insertOK db hostID req := by
  have hlinked := @linked_eq X insertOK db req
  constructor
  · intro h
    refine ⟨(stored_iff db).mp h.stored, fun g hg hhost => ?_⟩
    -- the result was recorded, and what is current then is what was linked
    obtain ⟨db', hresult, hrecord⟩ := result_recorded now hhost h.stored
    have hcurrent := h.current g hg hhost
    rw [hresult] at hcurrent
    rw [if_pos (.inr (by rw [hg]; rfl))] at hlinked
    simp only [current_result hrecord, hlinked] at hcurrent
    cases hactive : req.activeFingerprint with
    | none =>
        rw [hactive] at hcurrent
        exact .inr ⟨rfl, hcurrent⟩
    | some f =>
        rw [hactive] at hcurrent
        exact .inl (congrArg some ((hcurrent f).mp rfl))
  · intro h
    have hstored := (stored_iff db).mpr h.stored
    refine ⟨hstored, fun hhost => ?_, fun g hg hhost f => ?_⟩
    · obtain ⟨db', hresult, _⟩ := result_recorded now hhost hstored
      rw [hresult]
    · obtain ⟨db', hresult, hrecord⟩ := result_recorded now hhost hstored
      rw [hresult, current_result hrecord, hlinked, if_pos (.inr (by rw [hg]; rfl))]
      rcases h.leaf g hg hhost with hactive | ⟨hactive, hcurrent⟩
      · rw [hactive]
      · rw [hactive]
        exact hcurrent f

end

/-- The scanner names another fingerprint than that of the certificate it sends. -/
def misnamed : ScanResultRequest :=
  { activeFingerprint := some "LEAF", resolvedIP := none, tlsVersion := none, error := none,
    pems := ["leaf"] }

/-- RecordScanResult is called with a certificate that is not stored, and the scan is not
recorded. -/
theorem result_dangles : ¬ ∀ (X : X509) (insertOK : Nat → Bool) (db : Scans.DB) (now : Int)
    (hostID : String) (req : ScanResultRequest), Sound X insertOK db now hostID req := by
  intro h
  have hrecorded := (h Trust.samplePKI (fun _ => true) Scans.newEndpoint 10 "web" misnamed).recorded
    (by decide)
  exact absurd hrecorded (by decide)

/-! ## §5. `SAMLResult`. -/

/-- `models.SAMLCertPayload`. -/
structure SAMLCertPayload where
  pem : String
  use : String
  deriving DecidableEq, Repr

/-- `models.SAMLScanResultRequest`, without the metadata document. -/
structure SAMLScanResultRequest where
  error : Option String
  certs : List SAMLCertPayload
  deriving DecidableEq, Repr

/-- What the database does to the statements of a request, by the index of the certificate. -/
structure Outcome where
  now : Nat → Int
  insertOK : Nat → Bool
  linkOK : Nat → Bool

section

variable (X : X509) (o : Outcome)

/-- One round of the loop of `SAMLResult`, for a certificate and its index. -/
def linkSAMLCert (endpointID : String) (db : Scans.DB) (p : SAMLCertPayload × Nat) : Scans.DB :=
  if validUse p.1.use then
    match X.parsePEM p.1.pem with
    | none => db
    | some cert =>
        if o.insertOK p.2 then
          let db := db.insertCertificate (X.fingerprint cert)
          -- a failed link is logged
          if o.linkOK p.2 then
            (db.upsertEndpointCert (o.now p.2) endpointID (X.fingerprint cert) p.1.use).getD db
          else db
        else db
  else db

/-- `SAMLResult`: the database, and the error response if there is one. -/
def samlResult (db : Scans.DB) (now : Int) (endpointID : String)
    (req : SAMLScanResultRequest) : Scans.DB × Option HttpError :=
  match db.recordScanResult now endpointID ⟨none, none, none, req.error⟩ with
  | none => (db, some ⟨500, "failed to record SAML scan result"⟩)
  | some db => (req.certs.zipIdx.foldl (linkSAMLCert X o endpointID) db, none)

/-- The fingerprint of a submitted certificate. -/
def payloadFingerprint (p : SAMLCertPayload) : Option String :=
  (X.parsePEM p.pem).map X.fingerprint

/-- The certificate has a valid use, parses, is stored and linked. -/
def Accepted (p : SAMLCertPayload × Nat) : Prop :=
  validUse p.1.use = true ∧ (X.parsePEM p.1.pem).isSome = true ∧ o.insertOK p.2 = true ∧
    o.linkOK p.2 = true

/-- The fingerprint that a list of certificates ends with, for one use. -/
def lastOf (certs : List SAMLCertPayload) (use : String) : Option String :=
  (certs.filter (fun p => decide (p.use = use))).getLast?.bind (payloadFingerprint X)

variable {X o}

theorem lastOf_concat (certs : List SAMLCertPayload) (p : SAMLCertPayload) (use : String) :
    lastOf X (certs ++ [p]) use =
      if p.use = use then payloadFingerprint X p else lastOf X certs use := by
  unfold lastOf
  rw [List.filter_append]
  by_cases h : p.use = use
  · rw [if_pos h, List.filter_cons_of_pos (by simpa using h), List.filter_nil,
      List.getLast?_concat, Option.bind_some]
  · rw [if_neg h, List.filter_cons_of_neg (by simpa using h), List.filter_nil, List.append_nil]

theorem validUse_mem_certUses {use : String} (h : validUse use = true) :
    use ∈ Scans.certUses := by
  unfold validUse at h
  rw [Bool.or_eq_true, decide_eq_true_eq, decide_eq_true_eq] at h
  rcases h with h | h
  · rw [h]
    decide
  · rw [h]
    decide

/-- **One accepted certificate** becomes the current one of its use. -/
theorem linkSAMLCert_accepted {db : Scans.DB} {endpointID : String}
    (hhost : HasEndpoint db.endpoints endpointID) {p : SAMLCertPayload × Nat}
    (hp : Accepted X o p) :
    HasEndpoint (linkSAMLCert X o endpointID db p).endpoints endpointID ∧
      ∃ g, payloadFingerprint X p.1 = some g ∧
        ∀ w f, Current (linkSAMLCert X o endpointID db p).endpointCerts endpointID w f ↔
          if p.1.use = w then f = g else Current db.endpointCerts endpointID w f := by
  obtain ⟨huse, hparse, hinsert, hlink⟩ := hp
  obtain ⟨cert, hcert⟩ := Option.isSome_iff_exists.mp hparse
  have hsome : ((db.insertCertificate (X.fingerprint cert)).upsertEndpointCert (o.now p.2)
      endpointID (X.fingerprint cert) p.1.use).isSome = true :=
    Scans.DB.upsertEndpointCert_isSome_iff.mpr
      ⟨validUse_mem_certUses huse, hhost, List.mem_cons_self⟩
  obtain ⟨db', hdb'⟩ := Option.isSome_iff_exists.mp hsome
  obtain ⟨t, ht, hcerts, hend, _⟩ := Scans.DB.upsertEndpointCert_eq_some hdb'
  have hstep : linkSAMLCert X o endpointID db p = db' := by
    simp only [linkSAMLCert, huse, if_true, hcert, hinsert, hlink, hdb', Option.getD_some]
  rw [hstep, hcerts, hend]
  refine ⟨hhost, X.fingerprint cert, by rw [payloadFingerprint, hcert, Option.map_some], ?_⟩
  intro w f
  rw [current_upsertEndpointCert ht]
  simp only [true_and]
  exact Iff.rfl

/-- **After the loop** the current certificate of a use is the last one submitted for it, or
as before. -/
theorem current_linkSAMLCerts {db : Scans.DB} {endpointID : String}
    (hhost : HasEndpoint db.endpoints endpointID) (certs : List (SAMLCertPayload × Nat))
    (hok : ∀ p ∈ certs, Accepted X o p) (w f : String) :
    Current (certs.foldl (linkSAMLCert X o endpointID) db).endpointCerts endpointID w f ↔
      match lastOf X (certs.map Prod.fst) w with
      | some g => f = g
      | none => Current db.endpointCerts endpointID w f := by
  have hloop := foldl_invariant (f := linkSAMLCert X o endpointID) (s := db)
    (P := fun done (d : Scans.DB) => (∀ p ∈ done, Accepted X o p) →
      HasEndpoint d.endpoints endpointID ∧
        ∀ w f, Current d.endpointCerts endpointID w f ↔
          match lastOf X (done.map Prod.fst) w with
          | some g => f = g
          | none => Current db.endpointCerts endpointID w f)
    (fun _ => ⟨hhost, fun _ _ => Iff.rfl⟩) ?_ certs
  · exact (hloop hok).2 w f
  · intro done p d ih hdone
    obtain ⟨hhost', hcurrent⟩ := ih fun q hq => hdone q (List.mem_append_left _ hq)
    obtain ⟨hnext, g, hg, hlinked⟩ := linkSAMLCert_accepted hhost'
      (hdone p (List.mem_append_right _ (List.mem_singleton_self p)))
    refine ⟨hnext, fun w f => ?_⟩
    rw [hlinked, List.map_append, List.map_cons, List.map_nil, lastOf_concat, hg]
    by_cases huse : p.1.use = w
    · rw [if_pos huse, if_pos huse]
    · rw [if_neg huse, if_neg huse]
      exact hcurrent w f

end

/-! ## §6. When the certificates mirror the metadata. -/

section

variable (X : X509)

/-- The certificate was submitted for the use. -/
def Submitted (certs : List SAMLCertPayload) (use fingerprint : String) : Prop :=
  ∃ p ∈ certs, p.use = use ∧ payloadFingerprint X p = some fingerprint

/-- The current certificates of the endpoint, with their use, are those submitted. -/
def Mirrors (t : EndpointCertTable) (endpointID : String) (certs : List SAMLCertPayload) : Prop :=
  ∀ use, validUse use = true → ∀ f, Current t endpointID use f ↔ Submitted X certs use f

/-- One certificate a use: no use is submitted with two certificates, and no use is missing
that has a current certificate. -/
structure OneEach (t : EndpointCertTable) (endpointID : String) (certs : List SAMLCertPayload) :
    Prop where
  single : ∀ p ∈ certs, ∀ q ∈ certs, p.use = q.use →
    payloadFingerprint X p = payloadFingerprint X q
  complete : ∀ use, validUse use = true → ∀ f, Current t endpointID use f →
    ∃ p ∈ certs, p.use = use

/-- What is current for each use after the loop, of a list of certificates that parse. -/
structure Looped (t t' : EndpointCertTable) (endpointID : String) (certs : List SAMLCertPayload) :
    Prop where
  parse : ∀ p ∈ certs, (X.parsePEM p.pem).isSome = true
  valid : ∀ p ∈ certs, validUse p.use = true
  current : ∀ use f, Current t' endpointID use f ↔
    match lastOf X certs use with
    | some g => f = g
    | none => Current t endpointID use f

variable {X} {o : Outcome}

/-- The last certificate of a use was submitted for it. -/
theorem exists_of_lastOf {certs : List SAMLCertPayload} {use f : String}
    (h : lastOf X certs use = some f) : Submitted X certs use f := by
  obtain ⟨p, hp, hf⟩ := Option.bind_eq_some_iff.mp h
  obtain ⟨hmem, huse⟩ := List.mem_filter.mp (List.mem_of_getLast? hp)
  exact ⟨p, hmem, of_decide_eq_true huse, hf⟩

theorem lastOf_eq_none_iff {certs : List SAMLCertPayload} {use : String}
    (hok : ∀ p ∈ certs, (X.parsePEM p.pem).isSome = true) :
    lastOf X certs use = none ↔ ∀ p ∈ certs, p.use ≠ use := by
  constructor
  · intro h p hp huse
    have hne : certs.filter (fun p => decide (p.use = use)) ≠ [] :=
      List.ne_nil_of_mem (List.mem_filter.mpr ⟨hp, by simpa using huse⟩)
    have hlast := List.getLast?_eq_some_getLast hne
    have hmem := (List.mem_filter.mp (List.getLast_mem hne)).1
    obtain ⟨cert, hcert⟩ := Option.isSome_iff_exists.mp (hok _ hmem)
    rw [lastOf, hlast, Option.bind_some, payloadFingerprint, hcert] at h
    exact absurd h (by simp)
  · intro h
    have hnil : certs.filter (fun p => decide (p.use = use)) = [] := by
      rw [List.filter_eq_nil_iff]
      intro p hp huse
      exact h p hp (of_decide_eq_true huse)
    rw [lastOf, hnil]
    rfl

theorem mem_zipIdx_of_mem {certs : List SAMLCertPayload} {p : SAMLCertPayload} (hp : p ∈ certs) :
    ∃ i, (p, i) ∈ certs.zipIdx := by
  rw [← List.zipIdx_map_fst 0 certs] at hp
  obtain ⟨q, hq, rfl⟩ := List.mem_map.mp hp
  exact ⟨q.2, hq⟩

/-- What was submitted for a use is current, and only one certificate is; a use without any
keeps the one it had. -/
theorem Looped.oneEach {t t' : EndpointCertTable} {endpointID : String}
    {certs : List SAMLCertPayload} (h : Looped X t t' endpointID certs)
    (hmirrors : Mirrors X t' endpointID certs) : OneEach X t endpointID certs := by
  have hfp : ∀ p ∈ certs, ∃ f, payloadFingerprint X p = some f := by
    intro p hp
    obtain ⟨cert, hcert⟩ := Option.isSome_iff_exists.mp (h.parse p hp)
    exact ⟨X.fingerprint cert, by rw [payloadFingerprint, hcert, Option.map_some]⟩
  constructor
  · intro p hp q hq hpq
    obtain ⟨f, hf⟩ := hfp p hp
    obtain ⟨g, hg⟩ := hfp q hq
    have hcp := (hmirrors p.use (h.valid p hp) f).mpr ⟨p, hp, rfl, hf⟩
    have hcq := (hmirrors p.use (h.valid p hp) g).mpr ⟨q, hq, hpq.symm, hg⟩
    rw [h.current] at hcp hcq
    cases hlast : lastOf X certs p.use with
    | none => exact absurd rfl ((lastOf_eq_none_iff h.parse).mp hlast p hp)
    | some r =>
        rw [hlast] at hcp hcq
        rw [hf, hg, hcp, hcq]
  · intro use hvalid f hold
    by_contra hnone
    have hlast : lastOf X certs use = none :=
      (lastOf_eq_none_iff h.parse).mpr fun p hp heq => hnone ⟨p, hp, heq⟩
    have hstill := h.current use f
    rw [hlast] at hstill
    obtain ⟨p, hp, heq, _⟩ := (hmirrors use hvalid f).mp (hstill.mpr hold)
    exact hnone ⟨p, hp, heq⟩

/-- With one certificate for each use, the last one submitted is the only one. -/
theorem Looped.mirrors {t t' : EndpointCertTable} {endpointID : String}
    {certs : List SAMLCertPayload} (h : Looped X t t' endpointID certs)
    (hone : OneEach X t endpointID certs) : Mirrors X t' endpointID certs := by
  intro use hvalid f
  rw [h.current]
  cases hlast : lastOf X certs use with
  | none =>
      have hno := (lastOf_eq_none_iff h.parse).mp hlast
      constructor
      · intro hold
        obtain ⟨p, hp, heq⟩ := hone.complete use hvalid f hold
        exact absurd heq (hno p hp)
      · intro hsub
        obtain ⟨p, hp, heq, _⟩ := hsub
        exact absurd heq (hno p hp)
  | some g =>
      obtain ⟨q, hq, hqu, hqg⟩ := exists_of_lastOf hlast
      constructor
      · intro hfg
        exact ⟨q, hq, hqu, hfg ▸ hqg⟩
      · intro hsub
        obtain ⟨p, hp, hpu, hpf⟩ := hsub
        have hsame := hone.single p hp q hq (hpu.trans hqu.symm)
        exact Option.some.inj (hpf.symm.trans (hsame.trans hqg))

/-- A successful request is the scan's record and the loop. -/
theorem looped_samlResult {db db' : Scans.DB} {now : Int} {endpointID : String}
    {req : SAMLScanResultRequest} (h : samlResult X o db now endpointID req = (db', none))
    (hok : ∀ p ∈ req.certs.zipIdx, Accepted X o p) :
    Looped X db.endpointCerts db'.endpointCerts endpointID req.certs := by
  unfold samlResult at h
  split at h
  · exact absurd h (by simp)
  next db₁ hrecord =>
  obtain ⟨hdb', _⟩ := Prod.mk.inj h
  subst hdb'
  have hsaved := Scans.DB.recordScanResult_eq_some hrecord
  have hhost : HasEndpoint db₁.endpoints endpointID := by
    have hsome := Scans.DB.recordScanResult_isSome_iff.mp (Option.isSome_of_eq_some hrecord)
    rw [hsaved.endpoints]
    exact Scans.DB.hasEndpoint_scanState.mpr hsome.1
  -- without a fingerprint the record links nothing
  have hcerts : db₁.endpointCerts = db.endpointCerts := hsaved.endpointCerts
  have hcurrent := current_linkSAMLCerts hhost req.certs.zipIdx hok
  rw [List.zipIdx_map_fst, hcerts] at hcurrent
  constructor
  · intro p hp
    obtain ⟨i, hi⟩ := mem_zipIdx_of_mem hp
    exact (hok (p, i) hi).2.1
  · intro p hp
    obtain ⟨i, hi⟩ := mem_zipIdx_of_mem hp
    exact (hok (p, i) hi).1
  · exact hcurrent

/-- **When the certificates mirror the metadata**: after a successful request whose
certificates were all accepted, exactly if it has one certificate for each use. -/
theorem samlResult_mirrors_iff {db db' : Scans.DB} {now : Int} {endpointID : String}
    {req : SAMLScanResultRequest} (h : samlResult X o db now endpointID req = (db', none))
    (hok : ∀ p ∈ req.certs.zipIdx, Accepted X o p) :
    Mirrors X db'.endpointCerts endpointID req.certs ↔
      OneEach X db.endpointCerts endpointID req.certs :=
  ⟨(looped_samlResult h hok).oneEach, (looped_samlResult h hok).mirrors⟩

end

/-- Metadata with two signing certificates, as during a key rollover. -/
def rollover : SAMLScanResultRequest := ⟨none, [⟨"leaf", "signing"⟩, ⟨"root", "signing"⟩]⟩

/-- Every statement succeeds. -/
def noFailures : Outcome := ⟨fun i => 20 + i, fun _ => true, fun _ => true⟩

/-- The first of two signing certificates is not current afterwards. -/
theorem samlResult_drops_certificate :
    ¬ ∀ (X : X509) (o : Outcome) (db db' : Scans.DB) (now : Int) (endpointID : String)
      (req : SAMLScanResultRequest), samlResult X o db now endpointID req = (db', none) →
      (∀ p ∈ req.certs.zipIdx, Accepted X o p) →
      Mirrors X db'.endpointCerts endpointID req.certs := by
  intro h
  have hmirrors := h Trust.samplePKI noFailures Scans.newEndpoint _ 10 "web" rollover rfl (by
    intro p hp
    have hp' : p = (⟨"leaf", "signing"⟩, 0) ∨ p = (⟨"root", "signing"⟩, 1) := by
      simpa [rollover] using hp
    rcases hp' with rfl | rfl
    · exact ⟨by decide, rfl, rfl, rfl⟩
    · exact ⟨by decide, rfl, rfl, rfl⟩)
  have hcurrent := (hmirrors "signing" (by decide) "leaf").mpr
    ⟨⟨"leaf", "signing"⟩, by decide, rfl, rfl⟩
  exact absurd hcurrent (by decide)

/-- One certificate for each use. -/
def oneEach : SAMLScanResultRequest := ⟨none, [⟨"leaf", "signing"⟩, ⟨"root", "encryption"⟩]⟩

/-- Metadata with one certificate for each use is mirrored. -/
theorem samlResult_mirrors_oneEach :
    ∃ db', samlResult Trust.samplePKI noFailures Scans.newEndpoint 10 "web" oneEach
        = (db', none) ∧
      Mirrors Trust.samplePKI db'.endpointCerts "web" oneEach.certs := by
  refine ⟨_, rfl, ?_⟩
  refine (@samlResult_mirrors_iff _ noFailures Scans.newEndpoint _ 10 "web" oneEach rfl
    ?_).mpr ⟨?_, ?_⟩
  · intro p hp
    have hp' : p = (⟨"leaf", "signing"⟩, 0) ∨ p = (⟨"root", "encryption"⟩, 1) := by
      simpa [oneEach] using hp
    rcases hp' with rfl | rfl
    · exact ⟨by decide, rfl, rfl, rfl⟩
    · exact ⟨by decide, rfl, rfl, rfl⟩
  · decide
  · intro use _ f hold
    obtain ⟨c, hc, _⟩ := hold
    exact absurd hc (Table.not_mem_empty c)

end TLSentinel.Probe
