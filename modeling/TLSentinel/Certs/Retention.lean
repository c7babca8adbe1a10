/-
  TLSentinel.Certs.Retention
  ──────────────────────────
  **REPEATED RETENTION PASSES KEEP EXACTLY WHAT IS REACHABLE.**

  `PurgeUnreferencedCerts` deletes, in one statement, every certificate that
  nothing refers to: no flag, no anchor, no endpoint, no scan, no inbox item, and
  no certificate it is the issuer of.  So one pass cuts the unreferenced ends of
  issuer chains, and the next pass the ends that this left.

  `retention_exact`: on an acyclic issuer graph the passes reach a fixpoint, the
  certificates left are the least set that contains the directly referenced ones
  and is closed under issuers, and no pass deletes a member of it.
-/
import Mathlib.Order.Bounds.Basic
import TLSentinel.Foundation.Forest
import TLSentinel.Certs.Store

namespace TLSentinel.Certs

open Foundation

/-! ## §1. The issuer graph. -/

/-- The `issuer_fingerprint` of a stored certificate. -/
def issuerOf (t : CertTable) (f : String) : Option String :=
  (t.find? f).bind (fun c => c.issuerFingerprint)

/-- The issuer of a stored row. -/
theorem issuerOf_of_mem {t : CertTable} {c : Certificate} (hc : c ∈ t) :
    issuerOf t c.fingerprint = c.issuerFingerprint := by
  have hfind : t.find? c.fingerprint = some c := Table.find?_eq_some_iff.mpr ⟨hc, rfl⟩
  simp [issuerOf, hfind]

/-- An edge comes from a row. -/
theorem edge_iff {t : CertTable} {a b : String} :
    Edge (issuerOf t) a b
      ↔ ∃ c ∈ t, c.fingerprint = a ∧ c.issuerFingerprint = some b := by
  constructor
  · intro h
    obtain ⟨c, hfind, hc⟩ := Option.bind_eq_some_iff.mp h
    obtain ⟨hmem, hkey⟩ := Table.find?_eq_some_iff.mp hfind
    exact ⟨c, hmem, hkey, hc⟩
  · intro h
    obtain ⟨c, hc, rfl, hb⟩ := h
    show issuerOf t c.fingerprint = some b
    rw [issuerOf_of_mem hc, hb]

/-- **The issuer graph has no cycle.** -/
def IssuersAcyclic (db : DB) : Prop := Acyclic (Edge (issuerOf db.certificates))

/-! ## §2. What must be kept. -/

/-- A set that contains every directly referenced certificate and is closed under
`issuer_fingerprint`. -/
structure ClosedSet (db : DB) (S : Set Certificate) : Prop where
  direct : ∀ c ∈ db.certificates, db.referenced c = true → c ∈ S
  issuer : ∀ c ∈ S, ∀ p ∈ db.certificates, c.issuerFingerprint = some p.fingerprint → p ∈ S

/-- The certificates that a directly referenced one leads up to. -/
inductive Kept (db : DB) : Certificate → Prop
  | direct {c : Certificate} : c ∈ db.certificates → db.referenced c = true → Kept db c
  | issuer {c p : Certificate} : Kept db c → p ∈ db.certificates →
      c.issuerFingerprint = some p.fingerprint → Kept db p

theorem Kept.mem {db : DB} {c : Certificate} (h : Kept db c) : c ∈ db.certificates := by
  cases h with
  | direct hc _ => exact hc
  | issuer _ hp _ => exact hp

/-- **They are the least closed set.** -/
theorem isLeast_kept (db : DB) : IsLeast {S | ClosedSet db S} {c | Kept db c} := by
  refine ⟨⟨fun c hc hr => Kept.direct hc hr, fun c hc p hp hi => Kept.issuer hc hp hi⟩, ?_⟩
  intro S hS c hc
  -- by induction on the way from the reference to the certificate
  induction hc with
  | direct hc hr => exact hS.direct _ hc hr
  | issuer _ hp hi ih => exact hS.issuer _ ih _ hp hi

/-! ## §3. One pass. -/

/-- The database after one pass. -/
def retention (db : DB) : DB := db.purgeUnreferencedCerts.1

@[simp] theorem referenced_retention (db : DB) (c : Certificate) :
    (retention db).referenced c = db.referenced c := rfl

theorem mem_retention {db : DB} {c : Certificate} :
    c ∈ (retention db).certificates ↔ c ∈ db.certificates ∧ db.unreferenced c = false :=
  Table.mem_delete

/-- **A pass deletes no member of the least closed set.** -/
theorem Kept.mem_retention {db : DB} {c : Certificate} (h : Kept db c) :
    c ∈ (retention db).certificates := by
  rw [Certs.mem_retention]
  refine ⟨h.mem, ?_⟩
  cases h with
  | direct hc hr => simp [DB.unreferenced, hr]
  | @issuer d _ hd _ hi =>
      have hany : db.certificates.rows.any (DB.issuerIs c.fingerprint) = true :=
        List.any_eq_true.mpr ⟨d, hd.mem, by simp [DB.issuerIs, hi]⟩
      simp [DB.unreferenced, hany]

/-- A pass leaves the least closed set as it is. -/
theorem kept_retention_iff {db : DB} {c : Certificate} : Kept (retention db) c ↔ Kept db c := by
  constructor
  · intro h
    induction h with
    | direct hc hr => exact Kept.direct (Certs.mem_retention.mp hc).1 hr
    | issuer _ hp hi ih => exact Kept.issuer ih (Certs.mem_retention.mp hp).1 hi
  · intro h
    induction h with
    | direct hc hr => exact Kept.direct (Kept.direct hc hr).mem_retention hr
    | issuer hd hp hi ih => exact Kept.issuer ih (Kept.issuer hd hp hi).mem_retention hi

/-- A pass removes edges only. -/
theorem issuersAcyclic_retention {db : DB} (h : IssuersAcyclic db) :
    IssuersAcyclic (retention db) := by
  refine Acyclic.mono h (fun a b hab => ?_)
  obtain ⟨c, hc, ha, hb⟩ := edge_iff.mp hab
  exact edge_iff.mpr ⟨c, (mem_retention.mp hc).1, ha, hb⟩

/-- A pass that finds nothing changes nothing; any other one shrinks the table. -/
theorem retention_eq_or_shrinks (db : DB) :
    retention db = db
      ∨ (retention db).certificates.rows.length < db.certificates.rows.length := by
  by_cases h : ∃ c ∈ db.certificates.rows, db.unreferenced c = true
  · right
    obtain ⟨c, hc, hun⟩ := h
    show (db.certificates.rows.filter (fun r => !db.unreferenced r)).length < _
    rw [List.length_filter_lt_length_iff_exists]
    exact ⟨c, hc, by simp [hun]⟩
  · left
    have hall : db.certificates.rows.filter (fun r => !db.unreferenced r)
        = db.certificates.rows := by
      rw [List.filter_eq_self]
      intro c hc
      have : ¬ db.unreferenced c = true := fun hun => h ⟨c, hc, hun⟩
      simpa using this
    apply DB.ext
    · exact Table.ext hall
    · rfl
    · rfl
    · rfl
    · rfl

/-- **At a fixpoint only the least closed set is left**: on an acyclic graph. -/
theorem kept_of_fixpoint {db : DB} (hacyc : IssuersAcyclic db) (hfix : retention db = db)
    {c : Certificate} (hc : c ∈ db.certificates) : Kept db c := by
  classical
  by_contra hnot
  -- among the stored certificates that need not be kept, take one that is nobody's issuer
  have hne : (db.certificates.rows.filter (fun d => decide (¬ Kept db d))).map
      (fun d => d.fingerprint) ≠ [] := by
    intro hnil
    rw [List.map_eq_nil_iff, List.filter_eq_nil_iff] at hnil
    exact hnil c hc (by simpa using hnot)
  obtain ⟨f, hf, hsrc⟩ := exists_source hacyc hne
  obtain ⟨m, hm, rfl⟩ := List.mem_map.mp hf
  obtain ⟨hmem, hmnot⟩ := List.mem_filter.mp hm
  have hmnot : ¬ Kept db m := by simpa using hmnot
  -- the pass kept it, so something refers to it
  have hun : db.unreferenced m = false := by
    have hstays : m ∈ (retention db).certificates := by
      rw [hfix]
      exact hmem
    exact (mem_retention.mp hstays).2
  have hdirect : db.referenced m = false := by
    cases hr : db.referenced m with
    | false => rfl
    | true => exact absurd (Kept.direct hmem hr) hmnot
  have hany : db.certificates.rows.any (DB.issuerIs m.fingerprint) = true := by
    simpa [DB.unreferenced, hdirect] using hun
  -- it is the issuer of a certificate that need not be kept either
  obtain ⟨d, hd, hissuer⟩ := List.any_eq_true.mp hany
  have hdi : d.issuerFingerprint = some m.fingerprint := by simpa [DB.issuerIs] using hissuer
  have hdnot : ¬ Kept db d := fun hk => hmnot (Kept.issuer hk hmem hdi)
  refine hsrc d.fingerprint ?_ (edge_iff.mpr ⟨d, hd, rfl, hdi⟩)
  exact List.mem_map.mpr ⟨d, List.mem_filter.mpr ⟨hd, by simpa using hdnot⟩, rfl⟩

/-! ## §4. Repeated passes. -/

theorem issuersAcyclic_iterate {db : DB} (h : IssuersAcyclic db) (n : Nat) :
    IssuersAcyclic (retention^[n] db) := by
  induction n with
  | zero => exact h
  | succ n ih =>
      rw [Function.iterate_succ_apply']
      exact issuersAcyclic_retention ih

theorem kept_iterate_iff {db : DB} (n : Nat) {c : Certificate} :
    Kept (retention^[n] db) c ↔ Kept db c := by
  induction n with
  | zero => rfl
  | succ n ih => rw [Function.iterate_succ_apply', kept_retention_iff, ih]

/-- After a fixpoint nothing changes any more. -/
theorem iterate_of_fixpoint {db : DB} {n : Nat}
    (h : retention (retention^[n] db) = retention^[n] db) {m : Nat} (hm : n ≤ m) :
    retention^[m] db = retention^[n] db := by
  induction m, hm using Nat.le_induction with
  | base => rfl
  | succ m _ ih => rw [Function.iterate_succ_apply', ih, h]

/-- **RETENTION IS EXACT.**  On every database with an acyclic issuer graph, after
finitely many passes a further pass changes nothing; the certificates left are the
least set that contains every directly referenced certificate and is closed under
`issuer_fingerprint`; and no pass deletes a member of that set. -/
theorem retention_exact (db : DB) (hacyc : IssuersAcyclic db) :
    ∃ n, (∀ m, n ≤ m → retention^[m] db = retention^[n] db)
      ∧ IsLeast {S | ClosedSet db S} {c | c ∈ (retention^[n] db).certificates}
      ∧ ∀ S, IsLeast {S | ClosedSet db S} S →
          ∀ m, S ⊆ {c | c ∈ (retention^[m] db).certificates} := by
  obtain ⟨n, -, hfix⟩ := exists_fixpoint_of_shrinks retention
    (fun d => d.certificates.rows.length) retention_eq_or_shrinks db
  refine ⟨n, fun m hm => iterate_of_fixpoint hfix hm, ?_, ?_⟩
  · -- what is left is what must be kept
    have hleft : {c | c ∈ (retention^[n] db).certificates} = {c | Kept db c} := by
      ext c
      constructor
      · intro hc
        exact (kept_iterate_iff n).mp (kept_of_fixpoint (issuersAcyclic_iterate hacyc n) hfix hc)
      · intro hc
        exact ((kept_iterate_iff n).mpr hc).mem
    rw [hleft]
    exact isLeast_kept db
  · intro S hS m c hc
    have hkept : S = {c | Kept db c} := hS.unique (isLeast_kept db)
    rw [hkept] at hc
    exact ((kept_iterate_iff m).mpr hc).mem

/-- A certificate with the given fingerprint and issuer. -/
def plainCert (fingerprint : String) (issuer : Option String) : Certificate where
  fingerprint := fingerprint
  pem := fingerprint
  commonName := fingerprint
  sans := []
  notAfter := 0
  subjectKeyID := fingerprint
  authorityKeyID := issuer
  subjectDNHash := fingerprint
  issuerDNHash := issuer.getD ""
  issuerFingerprint := issuer
  trustAnchor := false

/-- A chain root - intermediate - leaf, and a second leaf; only the first leaf is
attached to an endpoint. -/
def chainDB : DB where
  certificates :=
    ⟨[plainCert "root" none, plainCert "inter" (some "root"), plainCert "leaf" (some "inter"),
      plainCert "old" (some "inter")], by decide⟩
  rootStoreAnchors := []
  endpointCerts := [⟨"e1", "leaf"⟩]
  endpointScanHistory := []
  discoveryInbox := []
  fks := ⟨by decide, by decide, by decide, by decide⟩

/-- The theorem at that database. -/
theorem retention_exact_chain :
    ∃ n, (∀ m, n ≤ m → retention^[m] chainDB = retention^[n] chainDB)
      ∧ IsLeast {S | ClosedSet chainDB S} {c | c ∈ (retention^[n] chainDB).certificates}
      ∧ ∀ S, IsLeast {S | ClosedSet chainDB S} S →
          ∀ m, S ⊆ {c | c ∈ (retention^[m] chainDB).certificates} := by
  refine retention_exact chainDB (acyclic_of_rank
    (fun f => if f = "root" then 2 else if f = "inter" then 1 else 0) ?_)
  intro a b h
  obtain ⟨c, hc, rfl, hb⟩ := edge_iff.mp h
  have hrows : ∀ c ∈ chainDB.certificates, ∀ b, c.issuerFingerprint = some b →
      (if c.fingerprint = "root" then 2 else if c.fingerprint = "inter" then 1 else 0)
        < (if b = "root" then 2 else if b = "inter" then 1 else 0) := by
    decide
  exact hrows c hc b hb

end TLSentinel.Certs
