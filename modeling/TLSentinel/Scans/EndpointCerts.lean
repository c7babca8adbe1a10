/-
  TLSentinel.Scans.EndpointCerts
  ──────────────────────────────
  **THE CURRENT CERTIFICATE OF AN ENDPOINT IS THE ONE SUBMITTED LAST.**

  RecordScanResult (use "tls") and UpsertEndpointCert share `upsertEndpointCert`:
  one statement rolls over the current rows of the endpoint and use, another
  upserts the row of endpoint, fingerprint and use.  What the table holds is a
  function of the committed submissions, in order (`Attached`): a row for every
  triple submitted, first seen when it first was, current when it is the last
  of its endpoint and use.

  Main result: `endpointCerts_submissions`.
-/
import TLSentinel.Scans.Store

namespace TLSentinel.Scans

open Foundation

/-! ## §1. Submissions. -/

/-- A certificate submitted for an endpoint and use. -/
structure Submission where
  now : Int
  endpointID : String
  fingerprint : String
  certUse : String
  deriving DecidableEq, Repr

/-- The key of the row that the submission is about. -/
def Submission.key (s : Submission) : String × String × String :=
  (s.endpointID, s.fingerprint, s.certUse)

/-- The committed submission that a step is. -/
def submission (p : DB × Action) : Option Submission :=
  match p.2 with
  | .recordScanResult now hostID req =>
      if (p.1.recordScanResult now hostID req).isSome then
        req.activeFingerprint.map (fun fingerprint => ⟨now, hostID, fingerprint, "tls"⟩)
      else none
  | .upsertEndpointCert now endpointID fingerprint certUse =>
      if (p.1.upsertEndpointCert now endpointID fingerprint certUse).isSome then
        some ⟨now, endpointID, fingerprint, certUse⟩
      else none
  | _ => none

/-- The committed submissions of a run, in order. -/
def submissions (tr : List (DB × Action)) : List Submission := tr.filterMap submission

theorem submissions_concat (tr : List (DB × Action)) (p : DB × Action) :
    submissions (tr ++ [p]) = submissions tr ++ (submission p).toList := by
  unfold submissions
  rw [List.filterMap_append]
  cases h : submission p <;> simp [h]

/-- The fingerprint submitted last for an endpoint and use. -/
def lastSubmitted (subs : List Submission) (endpointID certUse : String) : Option String :=
  (subs.filter (fun s => decide (s.endpointID = endpointID ∧ s.certUse = certUse))).getLast?.map
    Submission.fingerprint

theorem lastSubmitted_concat (subs : List Submission) (s : Submission)
    (endpointID certUse : String) :
    lastSubmitted (subs ++ [s]) endpointID certUse =
      if s.endpointID = endpointID ∧ s.certUse = certUse then some s.fingerprint
      else lastSubmitted subs endpointID certUse := by
  unfold lastSubmitted
  rw [List.filter_append]
  by_cases h : s.endpointID = endpointID ∧ s.certUse = certUse
  · rw [if_pos h, List.filter_cons_of_pos (by simpa using h), List.filter_nil,
      List.getLast?_concat, Option.map_some]
  · rw [if_neg h, List.filter_cons_of_neg (by simpa using h), List.filter_nil, List.append_nil]

/-- What a submission does to the table. -/
def submit (db : DB) (s : Submission) : Option EndpointCertTable :=
  upsertEndpointCert db.endpointCerts (db.certRefs s.endpointID s.fingerprint) s.now
    s.endpointID s.fingerprint s.certUse

/-- **One step on `endpoint_certs`**: a submission, or nothing. -/
theorem endpointCerts_step {db db' : DB} {a : Action} (h : step db a = some db') :
    match submission (db, a) with
    | some s => submit db s = some db'.endpointCerts
    | none => db'.endpointCerts = db.endpointCerts := by
  cases step_cases h with
  | @call now hostID req db' hcall =>
      have hcerts := (DB.recordScanResult_eq_some hcall).endpointCerts
      simp only [submission]
      rw [hcall, Option.isSome_some, if_pos rfl]
      cases hfp : req.activeFingerprint with
      | none =>
          rw [hfp] at hcerts
          exact hcerts
      | some fingerprint =>
          rw [hfp] at hcerts
          exact hcerts
  | callFails hcall =>
      simp only [submission]
      rw [hcall]
      trivial
  | cert hcall =>
      obtain ⟨t, ht, hct, _⟩ := DB.upsertEndpointCert_eq_some hcall
      simp only [submission]
      rw [hcall, Option.isSome_some, if_pos rfl, hct]
      exact ht
  | certFails hcall =>
      simp only [submission]
      rw [hcall]
      trivial
  | purge => rfl
  | ingest => rfl

/-! ## §2. What an upsert does to a row. -/

section Upserted

variable {now : Int} {endpointID fingerprint certUse : String} (c : EndpointCert)

theorem upserted_id : (c.upserted now endpointID fingerprint certUse).id = c.id := by
  unfold EndpointCert.upserted EndpointCert.afterRollOver
  split
  · rfl
  · split <;> rfl

theorem upserted_firstSeenAt :
    (c.upserted now endpointID fingerprint certUse).firstSeenAt = c.firstSeenAt := by
  unfold EndpointCert.upserted EndpointCert.afterRollOver
  split
  · rfl
  · split <;> rfl

/-- **Among the rows of the endpoint and use, exactly the submitted one becomes current.** -/
theorem upserted_isCurrent :
    (c.upserted now endpointID fingerprint certUse).isCurrent =
      if endpointID = c.endpointID ∧ certUse = c.certUse then decide (fingerprint = c.fingerprint)
      else c.isCurrent := by
  unfold EndpointCert.upserted EndpointCert.afterRollOver EndpointCert.key replacedBy
  by_cases hpair : endpointID = c.endpointID ∧ certUse = c.certUse
  · obtain ⟨he, hu⟩ := hpair
    subst he hu
    by_cases hf : fingerprint = c.fingerprint
    · simp [hf, EndpointCert.seenAgain]
    · cases hcur : c.isCurrent <;> simp [hf, Ne.symm hf, hcur, EndpointCert.rolledOver]
  · have hkey : ¬ (c.endpointID, c.fingerprint, c.certUse)
        = (endpointID, fingerprint, certUse) := by
      intro h
      injection h with he h
      injection h with _ hu
      exact hpair ⟨he.symm, hu.symm⟩
    have hrep : ¬ (c.endpointID = endpointID ∧ c.certUse = certUse) :=
      fun h => hpair ⟨h.1.symm, h.2.symm⟩
    rw [if_neg hkey, if_neg hpair, if_neg]
    simp only [Bool.and_eq_true, decide_eq_true_eq]
    tauto

end Upserted

/-! ## §3. The table is what the submissions made it. -/

/-- What `endpoint_certs` owes to the submissions. -/
structure Attached (subs : List Submission) (t : EndpointCertTable) : Prop where
  submitted : ∀ s ∈ subs, ∃ c ∈ t, c.key = s.key
  firstSeenAt : ∀ c ∈ t, (subs.find? (fun s => decide (s.key = c.key))).map Submission.now
    = some c.firstSeenAt
  isCurrent : ∀ c ∈ t, c.isCurrent = true ↔
    lastSubmitted subs c.endpointID c.certUse = some c.fingerprint

theorem Attached.empty {t : EndpointCertTable} (h : t.rows = []) : Attached [] t := by
  have hnone : ∀ c : EndpointCert, c ∉ t := by
    intro c hc
    rw [Table.mem_def, h] at hc
    exact List.not_mem_nil hc
  exact ⟨fun s hs => absurd hs List.not_mem_nil, fun c hc => absurd hc (hnone c),
    fun c hc => absurd hc (hnone c)⟩

/-- The row of a certificate new to its endpoint and use. -/
theorem attached_newCert {subs : List Submission} {t : EndpointCertTable} {s : Submission}
    (h : Attached subs t) (hno : ∀ c ∈ t, c.key ≠ s.key) :
    ((subs ++ [s]).find? (fun r => decide (r.key = s.key))).map Submission.now = some s.now ∧
      lastSubmitted (subs ++ [s]) s.endpointID s.certUse = some s.fingerprint := by
  have hnone : subs.find? (fun r => decide (r.key = s.key)) = none := by
    rw [List.find?_eq_none]
    intro r hr hk
    obtain ⟨c, hc, hck⟩ := h.submitted r hr
    exact hno c hc (hck.trans (of_decide_eq_true hk))
  rw [List.find?_append, hnone, lastSubmitted_concat]
  simp

/-- **The step lemma**: a submission keeps the invariant. -/
theorem Attached.submit {subs : List Submission} {t u : EndpointCertTable} {refs : Bool}
    {s : Submission} (h : Attached subs t)
    (hs : upsertEndpointCert t refs s.now s.endpointID s.fingerprint s.certUse = some u) :
    Attached (subs ++ [s]) u := by
  have hmem := fun c => mem_upsertEndpointCert hs (c := c)
  refine ⟨?_, ?_, ?_⟩
  · -- every triple submitted so far keeps its row, and the last one has one now
    have himage : ∀ c ∈ t, ∃ d ∈ u, d.key = c.key :=
      fun c hc => ⟨_, (hmem _).mpr (.inl ⟨c, hc, rfl⟩), c.upserted_key⟩
    intro r hr
    rcases List.mem_append.mp hr with hr | hr
    · obtain ⟨c, hc, hck⟩ := h.submitted r hr
      obtain ⟨d, hd, hdk⟩ := himage c hc
      exact ⟨d, hd, hdk.trans hck⟩
    · rw [List.mem_singleton.mp hr]
      by_cases hknown : ∃ c ∈ t, c.key = s.key
      · obtain ⟨c, hc, hck⟩ := hknown
        obtain ⟨d, hd, hdk⟩ := himage c hc
        exact ⟨d, hd, hdk.trans hck⟩
      · exact ⟨_, (hmem _).mpr (.inr ⟨fun c hc hck => hknown ⟨c, hc, hck⟩, rfl⟩), rfl⟩
  · intro d hd
    rcases (hmem d).mp hd with ⟨c, hc, hcd⟩ | ⟨hno, hd⟩
    · subst hcd
      rw [EndpointCert.upserted_key, upserted_firstSeenAt, List.find?_append]
      obtain ⟨r, hr, hnow⟩ := Option.map_eq_some_iff.mp (h.firstSeenAt c hc)
      rw [hr, Option.some_or, Option.map_some, hnow]
    · subst hd
      exact (attached_newCert h hno).1
  · intro d hd
    rcases (hmem d).mp hd with ⟨c, hc, hcd⟩ | ⟨hno, hd⟩
    · subst hcd
      have hkey : (c.upserted s.now s.endpointID s.fingerprint s.certUse).key = c.key :=
        c.upserted_key
      obtain ⟨he, hf, hu⟩ := EndpointCert.key_eq_iff.mp hkey
      rw [he, hf, hu, upserted_isCurrent, lastSubmitted_concat]
      -- the submission decides for its endpoint and use, and leaves the others alone
      by_cases hpair : s.endpointID = c.endpointID ∧ s.certUse = c.certUse
      · rw [if_pos hpair, if_pos hpair, decide_eq_true_eq, Option.some.injEq]
      · rw [if_neg hpair, if_neg hpair]
        exact h.isCurrent c hc
    · subst hd
      exact ⟨fun _ => (attached_newCert h hno).2, fun _ => rfl⟩

/-- **The run lemma.** -/
theorem attached_of_exec {start t : DB} {tr : List (DB × Action)} (e : Exec step start tr t)
    (hnew : start.endpointCerts.rows = []) : Attached (submissions tr) t.endpointCerts := by
  refine e.history (P := fun tr t => Attached (submissions tr) t.endpointCerts)
    (Attached.empty hnew) ?_
  intro tr u a v _ ih hstep
  have hcerts := endpointCerts_step hstep
  rw [submissions_concat]
  cases hsub : submission (u, a) with
  | none =>
      rw [hsub] at hcerts
      simp only at hcerts
      rw [Option.toList_none, List.append_nil, hcerts]
      exact ih
  | some s =>
      rw [hsub] at hcerts
      rw [Option.toList_some]
      exact ih.submit hcerts

/-! ## §4. Rows stay. -/

/-- The same row, seen again or rolled over since. -/
def SameRow (c d : EndpointCert) : Prop :=
  d.id = c.id ∧ d.key = c.key ∧ d.firstSeenAt = c.firstSeenAt

/-- No step removes a row. -/
theorem sameRow_step {db db' : DB} {a : Action} (h : step db a = some db')
    {c : EndpointCert} (hc : c ∈ db.endpointCerts) : ∃ d ∈ db'.endpointCerts, SameRow c d := by
  have hcerts := endpointCerts_step h
  cases hsub : submission (db, a) with
  | none =>
      rw [hsub] at hcerts
      simp only at hcerts
      exact ⟨c, hcerts ▸ hc, rfl, rfl, rfl⟩
  | some s =>
      rw [hsub] at hcerts
      exact ⟨_, (mem_upsertEndpointCert hcerts).mpr (.inl ⟨c, hc, rfl⟩), upserted_id c,
        c.upserted_key, upserted_firstSeenAt c⟩

/-- No run removes a row. -/
theorem sameRow_of_exec {start t : DB} {tr : List (DB × Action)} (e : Exec step start tr t) :
    ∀ u ∈ visited tr t, ∀ c ∈ u.endpointCerts, ∃ d ∈ t.endpointCerts, SameRow c d := by
  induction e with
  | refl s =>
      intro u hu c hc
      rw [visited_nil, List.mem_singleton] at hu
      subst hu
      exact ⟨c, hc, rfl, rfl, rfl⟩
  | @cons s m t a tr h e ih =>
      intro u hu c hc
      rcases List.mem_cons.mp hu with hu | hu
      · subst hu
        obtain ⟨d, hd, hid, hkey, hfirst⟩ := sameRow_step h hc
        obtain ⟨d', hd', hid', hkey', hfirst'⟩ := ih m e.start_mem_visited d hd
        exact ⟨d', hd', hid'.trans hid, hkey'.trans hkey, hfirst'.trans hfirst⟩
      · exact ih u hu c hc

/-- **The invariant of `endpoint_certs`.**  In every run from an empty table there is at most
one row per endpoint, fingerprint and use, and at most one current row per endpoint and use;
a row is current exactly when its fingerprint is the one submitted last for its endpoint and
use, and that one has a row; `first_seen_at` is the time of the first submission of the row's
triple; and a row once stored is stored from then on, with its id, its key and its
`first_seen_at`. -/
theorem endpointCerts_submissions {start t : DB} {tr : List (DB × Action)}
    (e : Exec step start tr t) (hnew : start.endpointCerts.rows = []) :
    (∀ c ∈ t.endpointCerts, ∀ d ∈ t.endpointCerts, c.key = d.key → c = d) ∧
    (∀ c ∈ t.endpointCerts, ∀ d ∈ t.endpointCerts, c.isCurrent = true → d.isCurrent = true →
      c.endpointID = d.endpointID → c.certUse = d.certUse → c = d) ∧
    (∀ endpointID certUse fingerprint,
      lastSubmitted (submissions tr) endpointID certUse = some fingerprint ↔
        ∃ c ∈ t.endpointCerts, c.isCurrent = true ∧
          c.key = (endpointID, fingerprint, certUse)) ∧
    (∀ c ∈ t.endpointCerts,
      ((submissions tr).find? (fun s => decide (s.key = c.key))).map Submission.now
        = some c.firstSeenAt) ∧
    ∀ u ∈ visited tr t, ∀ c ∈ u.endpointCerts, ∃ d ∈ t.endpointCerts,
      d.id = c.id ∧ d.key = c.key ∧ d.firstSeenAt = c.firstSeenAt := by
  have hatt := attached_of_exec e hnew
  refine ⟨fun c hc d hd h => Table.eq_of_key hc hd h, ?_, ?_, hatt.firstSeenAt,
    sameRow_of_exec e⟩
  · intro c hc d hd hcur hcur' he hu
    -- both carry the fingerprint submitted last
    have hc' := (hatt.isCurrent c hc).mp hcur
    have hd' := (hatt.isCurrent d hd).mp hcur'
    rw [he, hu, hd'] at hc'
    apply Table.eq_of_key hc hd
    unfold EndpointCert.key
    rw [he, hu, Option.some.inj hc']
  · intro endpointID certUse fingerprint
    constructor
    · intro hlast
      obtain ⟨s, hs, hf⟩ := Option.map_eq_some_iff.mp hlast
      obtain ⟨hmem, hpair⟩ := List.mem_filter.mp (List.mem_of_getLast? hs)
      obtain ⟨he, hu⟩ := of_decide_eq_true hpair
      obtain ⟨c, hc, hck⟩ := hatt.submitted s hmem
      have hkey : c.key = (endpointID, fingerprint, certUse) := by
        rw [hck, Submission.key, he, hu, hf]
      obtain ⟨hce, hcf, hcu⟩ := EndpointCert.key_eq_iff.mp hkey
      refine ⟨c, hc, (hatt.isCurrent c hc).mpr ?_, hkey⟩
      rw [hce, hcf, hcu]
      exact hlast
    · intro h
      obtain ⟨c, hc, hcur, hkey⟩ := h
      obtain ⟨hce, hcf, hcu⟩ := EndpointCert.key_eq_iff.mp hkey
      have hlast := (hatt.isCurrent c hc).mp hcur
      rw [hce, hcf, hcu] at hlast
      exact hlast

/-- A certificate is replaced and comes back; another is uploaded by hand. -/
def replacedAndBack : List Action :=
  [.recordScanResult 10 "web" (sawCert "A"), .recordScanResult 20 "web" (sawCert "B"),
    .upsertEndpointCert 25 "web" "B" "manual", .recordScanResult 30 "web" (sawCert "A")]

/-- Three rows, of which the first is current again. -/
theorem endpointCerts_submissions_replacedAndBack :
    ∃ t, run step newEndpoint replacedAndBack = some t ∧
      t.endpointCerts.rows = [⟨1, "web", "A", "tls", true, 10, 30⟩,
        ⟨2, "web", "B", "tls", false, 20, 30⟩, ⟨3, "web", "B", "manual", true, 25, 25⟩] ∧
      (∀ c ∈ t.endpointCerts, ∀ d ∈ t.endpointCerts, c.isCurrent = true → d.isCurrent = true →
        c.endpointID = d.endpointID → c.certUse = d.certUse → c = d) := by
  refine ⟨_, rfl, by decide, ?_⟩
  have e : Exec step newEndpoint (traceFrom step newEndpoint replacedAndBack) _ :=
    exec_traceFrom rfl
  exact (endpointCerts_submissions e rfl).2.1

end TLSentinel.Scans
