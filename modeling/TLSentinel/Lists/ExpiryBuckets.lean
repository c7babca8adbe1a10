/-
  TLSentinel.Lists.ExpiryBuckets
  ──────────────────────────────
  **EXPIRED, CRITICAL, WARNING, OK: TWO LISTS, TWO CLOCKS.**

  The list of active certificates buckets by whole days that are left, with both ends
  included; the list of all certificates buckets by the instant of expiry, with the later
  end left out.  Each puts a certificate into one bucket.  The buckets are the same except
  within the eighth and the thirty-first day, which the first list still counts to the
  bucket before.

  Main results:
    * `activeMatches_iff`, `certificateMatches_iff` — the bucket of a row in each list;
    * `bucketByDays_eq_bucketByTime_iff`            — when the two are one;
    * `expiryBuckets_agree_iff`                     — the same of the lists.
-/
import TLSentinel.Lists.Queries

namespace TLSentinel.Lists

open Foundation

/-! ## §1. Buckets. -/

/-- The values of `status` that name a bucket. -/
def buckets : List String := ["expired", "critical", "warning", "ok"]

/-- The bucket of whole days, as ListAllActiveCerts cuts them. -/
def bucketByDays (days : Int) : String :=
  if days < 0 then "expired"
  else if days ≤ 7 then "critical"
  else if days ≤ 30 then "warning"
  else "ok"

/-- The bucket of the time left, as ListCertificates cuts it. -/
def bucketByTime (left : Int) : String :=
  if left < 0 then "expired"
  else if left < 7 * DB.day then "critical"
  else if left < 30 * DB.day then "warning"
  else "ok"

theorem bucketByDays_mem (days : Int) : bucketByDays days ∈ buckets := by
  unfold bucketByDays
  split_ifs <;> decide

theorem bucketByTime_mem (left : Int) : bucketByTime left ∈ buckets := by
  unfold bucketByTime
  split_ifs <;> decide

/-- Within the eighth and the thirty-first day. -/
def InGap (left : Int) : Prop :=
  (7 * DB.day ≤ left ∧ left < 8 * DB.day) ∨ (30 * DB.day ≤ left ∧ left < 31 * DB.day)

instance (left : Int) : Decidable (InGap left) := inferInstanceAs (Decidable (_ ∨ _))

/-- **When the two buckets are one.** -/
theorem bucketByDays_eq_bucketByTime_iff {now notAfter : Int} :
    bucketByDays (DB.daysRemaining now notAfter) = bucketByTime (notAfter - now) ↔
      ¬InGap (notAfter - now) := by
  have hdays : ∀ left : Int, left.fdiv DB.day = left / DB.day := fun left =>
    Int.fdiv_eq_ediv_of_nonneg left (by decide)
  unfold DB.daysRemaining bucketByDays bucketByTime InGap
  rw [hdays]
  generalize notAfter - now = left
  unfold DB.day
  split_ifs <;> simp <;> omega

section Matches

variable {T : Text} {Addr : Type}

/-- The bucket of a row of the active list. -/
theorem activeMatches_iff {db : DB T Addr} {status : String} (hstatus : status ∈ buckets)
    {r : VActiveCertificate} :
    db.activeMatches "" status "" r = true ↔ status = bucketByDays r.daysRemaining := by
  simp only [buckets, List.mem_cons, List.not_mem_nil, or_false] at hstatus
  unfold DB.activeMatches bucketByDays
  rcases hstatus with rfl | rfl | rfl | rfl <;> split_ifs <;> simp <;> omega

/-- The bucket of a row of the list of all certificates. -/
theorem certificateMatches_iff {now : Int} {status : String} (hstatus : status ∈ buckets)
    {c : Certificate} :
    DB.certificateMatches T now "" none status c = true ↔
      status = bucketByTime (c.notAfter - now) := by
  simp only [buckets, List.mem_cons, List.not_mem_nil, or_false] at hstatus
  unfold DB.certificateMatches bucketByTime DB.day
  rcases hstatus with rfl | rfl | rfl | rfl <;> split_ifs <;> simp <;> omega

/-! ## §2. The lists. -/

variable {db : DB T Addr} {now : Int}

theorem mem_listAllActiveCerts_iff {status : String} (hstatus : status ∈ buckets)
    {r : VActiveCertificate} (hr : r ∈ db.vActiveCertificates now) :
    r ∈ db.listAllActiveCerts now "" status "" ↔ status = bucketByDays r.daysRemaining := by
  rw [DB.listAllActiveCerts, Table.mem_delete, Bool.not_eq_false', activeMatches_iff hstatus]
  exact and_iff_right hr

theorem mem_listCertificates_iff {status : String} (hstatus : status ∈ buckets)
    {c : Certificate} (hc : c ∈ db.certificates) :
    c ∈ db.listCertificates now "" none status ↔ status = bucketByTime (c.notAfter - now) := by
  rw [DB.listCertificates, Table.mem_delete, Bool.not_eq_false', certificateMatches_iff hstatus]
  exact and_iff_right hc

/-- A row of the view is of the certificate with its fingerprint. -/
theorem daysRemaining_of_mem {r : VActiveCertificate} (hr : r ∈ db.vActiveCertificates now)
    {c : Certificate} (hc : c ∈ db.certificates) (hfp : c.fingerprint = r.fingerprint) :
    r.daysRemaining = DB.daysRemaining now c.notAfter := by
  obtain ⟨ec, -, hrow⟩ := Table.mem_select.mp hr
  unfold DB.activeCertificate at hrow
  split at hrow
  · split at hrow
    · next e c' he hc' =>
        split at hrow
        · injection hrow with hrow
          subst hrow
          -- fingerprints are the key of the certificates
          have hsame : c = c' := Table.eq_of_key hc (Table.mem_of_find? hc') hfp
          rw [hsame]
        · exact absurd hrow (by simp)
    · exact absurd hrow (by simp)
  · exact absurd hrow (by simp)

/-- The lists give one status to a row of the view and to its certificate. -/
def SameBucket (db : DB T Addr) (now : Int) (r : VActiveCertificate) (c : Certificate) : Prop :=
  ∀ status ∈ buckets, r ∈ db.listAllActiveCerts now "" status "" ↔
    c ∈ db.listCertificates now "" none status

theorem sameBucket_iff {r : VActiveCertificate} (hr : r ∈ db.vActiveCertificates now)
    {c : Certificate} (hc : c ∈ db.certificates) (hfp : c.fingerprint = r.fingerprint) :
    SameBucket db now r c ↔ ¬InGap (c.notAfter - now) := by
  rw [← bucketByDays_eq_bucketByTime_iff, ← daysRemaining_of_mem hr hc hfp]
  constructor
  · intro h
    have hmem := bucketByDays_mem r.daysRemaining
    exact (mem_listCertificates_iff hmem hc).mp
      ((h _ hmem).mp ((mem_listAllActiveCerts_iff hmem hr).mpr rfl))
  · intro h status hstatus
    rw [mem_listAllActiveCerts_iff hstatus hr, mem_listCertificates_iff hstatus hc, h]

/-- **WHEN THE BUCKETS AGREE.**  In each of the two lists every row has exactly one bucket;
and an active certificate has the same bucket in both if and only if its expiry is neither
within the eighth nor within the thirty-first day from now. -/
theorem expiryBuckets_agree_iff (db : DB T Addr) (now : Int) :
    (∀ r ∈ db.vActiveCertificates now,
      ∃! status, status ∈ buckets ∧ r ∈ db.listAllActiveCerts now "" status "") ∧
    (∀ c ∈ db.certificates,
      ∃! status, status ∈ buckets ∧ c ∈ db.listCertificates now "" none status) ∧
    ∀ r ∈ db.vActiveCertificates now, ∀ c ∈ db.certificates, c.fingerprint = r.fingerprint →
      (SameBucket db now r c ↔ ¬InGap (c.notAfter - now)) := by
  refine ⟨fun r hr => ?_, fun c hc => ?_, fun r hr c hc hfp => sameBucket_iff hr hc hfp⟩
  · refine ⟨_, ⟨bucketByDays_mem _, (mem_listAllActiveCerts_iff (bucketByDays_mem _) hr).mpr rfl⟩,
      ?_⟩
    rintro status ⟨hstatus, hlisted⟩
    exact (mem_listAllActiveCerts_iff hstatus hr).mp hlisted
  · refine ⟨_, ⟨bucketByTime_mem _, (mem_listCertificates_iff (bucketByTime_mem _) hc).mpr rfl⟩,
      ?_⟩
    rintro status ⟨hstatus, hlisted⟩
    exact (mem_listCertificates_iff hstatus hc).mp hlisted

end Matches

/-- One endpoint, and its current certificate. -/
def oneCertificate (notAfter : Int) : DB plainText String :=
  { noRows with
    endpoints := ⟨[⟨"mail", "mail", "host", true, none, none, 0⟩], List.nodup_singleton _⟩
    certificates := ⟨[⟨"leaf", "mail", notAfter, 0⟩], List.nodup_singleton _⟩
    endpointCerts := ⟨[⟨1, "mail", "leaf", "tls", true, 0, 0⟩], by decide⟩ }

/-- **A certificate with seven and a half days left** is critical in one list and a warning
in the other. -/
theorem expiryBuckets_disagree :
    ¬ ∀ (T : Text) (Addr : Type) (db : DB T Addr) (now : Int),
        ∀ r ∈ db.vActiveCertificates now, ∀ c ∈ db.certificates, c.fingerprint = r.fingerprint →
          SameBucket db now r c := by
  intro h
  have hgap : InGap (648000000000 - 0) := by decide
  have hr : ⟨"mail", "mail", "host", "tls", "leaf", "mail", 648000000000, 7⟩ ∈
      (oneCertificate 648000000000).vActiveCertificates 0 := by
    decide
  have hc : ⟨"leaf", "mail", 648000000000, 0⟩ ∈ (oneCertificate 648000000000).certificates := by
    decide
  exact (sameBucket_iff hr hc rfl).mp (h _ _ _ _ _ hr _ hc rfl) hgap

end TLSentinel.Lists
