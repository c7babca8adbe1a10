/-
  TLSentinel.Certs.Deletion
  ─────────────────────────
  **DELETING A CERTIFICATE: THE HANDLER, AND THE DIALOG IN FRONT OF IT.**

  `Delete` and `GetReferences` of `internal/certificates/handler.go`, with
  `DeleteCertificate` of `internal/db/certificates_store.go`; the purge is that of
  `TLSentinel.Certs.Purge`.  `DeleteCertificateDialog.tsx` asks for the references
  first, and decides from them whether the button can be pressed and whether to
  ask for a purge.

  Main results:
    * `delete_exact`   — the answers of the handler, and what each leaves behind;
    * `dialog_agrees`  — the button can be pressed exactly if the request behind it
                         is answered with success.
-/
import TLSentinel.Base
import TLSentinel.Certs.Purge
import TLSentinel.Foundation.Pieces

namespace TLSentinel.Certs.Deletion

open Foundation TLSentinel.Scans TLSentinel.Certs.Purge

/-! ## §1. References. -/

/-- `CertReferences`. -/
structure CertReferences where
  currentEndpoints : Nat
  historicalEndpoints : Nat
  scanHistory : Nat
  issuedCerts : Nat
  deriving DecidableEq, Repr

/-- `countCertReferences`, one query. -/
def countCertReferences (f : String) (db : PurgeDB) : CertReferences where
  currentEndpoints := db.endpointCerts.rowsAffected
    fun e => decide (e.fingerprint = f ∧ e.isCurrent = true)
  historicalEndpoints := db.endpointCerts.rowsAffected
    fun e => decide (e.fingerprint = f ∧ e.isCurrent = false)
  scanHistory := db.endpointScanHistory.rowsAffected fun r => decide (r.fingerprint = some f)
  issuedCerts := countIssued f db

/-- `pluralize`. -/
def pluralize (n : Nat) (one many : String) : String := if n = 1 then one else many

/-- The kinds of rows that refer to the certificate, each with their number. -/
def CertReferences.parts (refs : CertReferences) : List String :=
  (if refs.currentEndpoints > 0 then
    [toString refs.currentEndpoints ++ " active " ++
      pluralize refs.currentEndpoints "endpoint" "endpoints"] else [])
  ++ (if refs.historicalEndpoints > 0 then
    [toString refs.historicalEndpoints ++ " historical endpoint " ++
      pluralize refs.historicalEndpoints "attachment" "attachments"] else [])
  ++ (if refs.scanHistory > 0 then
    [toString refs.scanHistory ++ " scan history " ++
      pluralize refs.scanHistory "record" "records"] else [])
  ++ (if refs.issuedCerts > 0 then
    [toString refs.issuedCerts ++ " issued " ++
      pluralize refs.issuedCerts "certificate" "certificates"] else [])

/-- `ErrCertHasReferences.Error`. -/
def CertReferences.error (refs : CertReferences) : String :=
  if refs.parts.length = 0 then "certificate is still referenced"
  else "still referenced by " ++ ", ".intercalate refs.parts

/-- The counts, each with the words that stand behind it in the text. -/
def CertReferences.named (refs : CertReferences) : List (Nat × String) :=
  [(refs.currentEndpoints, " active "), (refs.historicalEndpoints, " historical endpoint "),
    (refs.scanHistory, " scan history "), (refs.issuedCerts, " issued ")]

/-- `ErrCertIsIssuer.Error`. -/
def certIsIssuerError (count : Nat) : String :=
  "certificate is the issuer of " ++ toString count ++ " other " ++
    pluralize count "certificate" "certificates" ++ "; delete those first"

/-! ## §2. The handler. -/

/-- How `DeleteCertificate` fails. -/
inductive DeleteFailure where
  /-- `ErrCertHasReferences`. -/
  | hasReferences (refs : CertReferences)
  /-- "failed to delete certificate". -/
  | failed
  /-- `ErrNotFound`. -/
  | notFound
  deriving DecidableEq, Repr

/-- Which statements find the database there: those of a plain delete, and those of a purge. -/
structure Conn where
  delete : Bool
  count : Bool
  purge : Up
  deriving DecidableEq, Repr

/-- No statement is lost. -/
def Conn.all : Conn := ⟨true, true, Up.all⟩

/-- `DeleteCertificate`.  The references are counted after the refusal, in a database that others
may have changed (`later`); counts that fail are left at zero. -/
def deleteCertificate (conn : Conn) (later : PurgeDB) (f : String) (db : PurgeDB) :
    Except DeleteFailure Unit × PurgeDB :=
  if conn.delete = false then (.error .failed, db)
  else
    match Purge.deleteCertificate f db with
    | none =>
        (.error (.hasReferences
          (if conn.count then countCertReferences f later else ⟨0, 0, 0, 0⟩)), db)
    | some (n, db') => if n = 0 then (.error .notFound, db') else (.ok (), db')

/-- `Delete`: 204, or an error. -/
def delete (conn : Conn) (later : PurgeDB) (f : String) (purge : Bool) (db : PurgeDB) :
    Except HttpError Unit × PurgeDB :=
  if purge then
    match purgeCertificate conn.purge f db with
    | (.ok _, db') => (.ok (), db')
    | (.error .notFound, db') => (.error ⟨404, "certificate not found"⟩, db')
    | (.error (.certIsIssuer n), db') => (.error ⟨409, certIsIssuerError n⟩, db')
    | (.error _, db') => (.error ⟨500, "failed to delete certificate"⟩, db')
  else
    match deleteCertificate conn later f db with
    | (.ok _, db') => (.ok (), db')
    | (.error .notFound, db') => (.error ⟨404, "certificate not found"⟩, db')
    | (.error (.hasReferences refs), db') => (.error ⟨409, refs.error⟩, db')
    | (.error .failed, db') => (.error ⟨500, "failed to delete certificate"⟩, db')

/-! ## §3. What a plain delete meets. -/

variable {conn : Conn} {later db db' : PurgeDB} {f : String} {n : Nat}

/-- Something that is not to go with the certificate refers to it. -/
def Referenced (db : PurgeDB) (f : String) : Prop :=
  (∃ c ∈ db.certificates, c.fingerprint ≠ f ∧ c.issuerFingerprint = some f)
  ∨ (∃ r ∈ db.endpointScanHistory, r.fingerprint = some f)
  ∨ ∃ e ∈ db.endpointCerts, e.fingerprint = f

/-- **The NO ACTION keys** let the certificate go exactly if nothing refers to it. -/
theorem noActionHolds_iff :
    NoActionHolds (db.certificates.deleteKey f) db ↔ ¬ Referenced db f := by
  have hissuers : References db.certificates (fun c : Certificate => c.issuerFingerprint)
      (db.certificates.deleteKey f).rows :=
    db.refs.issuers.of_subset fun c hc => (Table.mem_deleteKey.mp hc).1
  unfold NoActionHolds Referenced
  rw [references_deleteKey_iff hissuers, references_deleteKey_iff db.refs.history,
    references_deleteKey_iff db.refs.endpointCerts]
  push Not
  refine and_congr ?_ (and_congr Iff.rfl ?_)
  · constructor
    · intro h c hc hne
      exact h c (Table.mem_deleteKey.mpr ⟨hc, hne⟩)
    · intro h c hc
      obtain ⟨hmem, hne⟩ := Table.mem_deleteKey.mp hc
      exact h c hmem hne
  · exact forall₂_congr fun e _ => by simp

/-- What a plain delete leaves, where it is accepted. -/
theorem purged_of_deleteCertificate (h : Purge.deleteCertificate f db = some (n, db')) :
    n = db.certificates.rowsAffected (fun c => decide (c.fingerprint = f)) ∧ Purged f db db' := by
  unfold Purge.deleteCertificate at h
  simp only at h
  split at h
  · next hrefs =>
      obtain ⟨rfl, rfl⟩ := Prod.mk.inj (Option.some.inj h)
      have hfree := noActionHolds_iff.mp hrefs
      refine ⟨rfl, ?_⟩
      exact
        { certificates := fun c => Table.mem_deleteKey
          issuers := hrefs.1.not_refersTo
          history := fun r => ⟨fun hr => ⟨hr, fun hf => hfree (.inr (.inl ⟨r, hr, hf⟩))⟩, And.left⟩
          endpointCerts := fun e =>
            ⟨fun he => ⟨he, fun hf => hfree (.inr (.inr ⟨e, he, hf⟩))⟩, And.left⟩
          anchors := fun a => mem_cascade_some
          trust := fun t => mem_cascade_some
          alerts := fun r => mem_cascade_some
          discoveryInbox := rfl }
  · cases h

theorem deleteCertificate_isSome_iff :
    (∃ p, Purge.deleteCertificate f db = some p) ↔ ¬ Referenced db f := by
  rw [← noActionHolds_iff]
  unfold Purge.deleteCertificate
  constructor
  · intro h
    obtain ⟨p, h⟩ := h
    simp only at h
    split at h
    · next hrefs => exact hrefs
    · cases h
  · intro h
    exact ⟨_, dif_pos h⟩

/-- Nothing refers to a certificate that is not there. -/
theorem not_referenced_of_missing (h : ¬ HasCert db.certificates f) : ¬ Referenced db f := by
  intro href
  rcases href with ⟨c, hc, _, hf⟩ | ⟨r, hr, hf⟩ | ⟨e, he, hf⟩
  · exact h (db.refs.issuers c hc f hf)
  · exact h (db.refs.history r hr f hf)
  · exact h (db.refs.endpointCerts e he f (congrArg some hf))

theorem not_isIssuer_of_missing (h : ¬ HasCert db.certificates f) : ¬ IsIssuer db f := by
  intro hissuer
  obtain ⟨c, hc, hf⟩ := hissuer
  exact h (db.refs.issuers c hc f hf)

theorem delete_eq_self {ρ κ : Type} {key : ρ → κ} {t : Table key} {p : ρ → Bool}
    (h : ∀ r ∈ t, p r = false) : t.delete p = t := by
  apply Table.ext
  show t.rows.filter (fun r => !p r) = t.rows
  rw [List.filter_eq_self]
  intro r hr
  rw [h r hr]
  rfl

/-- A table where nothing refers to the certificate. -/
theorem cascade_of_missing {ρ κ : Type} {key : ρ → κ} {t : Table key} {col : ρ → Option String}
    (h : ¬ HasCert db.certificates f) (hrefs : References db.certificates col t.rows) :
    t.cascade col f = t :=
  delete_eq_self fun r hr => refersTo_eq_false_iff.mpr fun hf => h (hrefs r hr f hf)

/-- **Nothing happens** where the certificate is not there. -/
theorem deleteCertificate_missing (h : ¬ HasCert db.certificates f) :
    Purge.deleteCertificate f db = some (0, db) := by
  have hcerts : db.certificates.deleteKey f = db.certificates :=
    delete_eq_self fun c hc => decide_eq_false fun hf => h ⟨c, hc, hf⟩
  have hzero := rowsAffected_eq_zero_iff.mpr h
  have hrefs := noActionHolds_iff.mpr (not_referenced_of_missing h)
  unfold Purge.deleteCertificate
  rw [dif_pos hrefs, hzero]
  obtain ⟨certificates, history, endpointCerts, anchors, trust, alerts, inbox, refs⟩ := db
  simp only [Option.some.injEq, Prod.mk.injEq, true_and, PurgeDB.mk.injEq, and_true]
  exact ⟨hcerts, cascade_of_missing h refs.anchors, cascade_of_missing h refs.trust,
    cascade_of_missing h refs.alerts⟩

/-- **What `DeleteCertificate` comes to.** -/
theorem deleteCertificate_cases (conn : Conn) (later : PurgeDB) (f : String) (db : PurgeDB) :
    (conn.delete = false ∧ deleteCertificate conn later f db = (.error .failed, db))
    ∨ (conn.delete = true ∧ Referenced db f ∧ deleteCertificate conn later f db =
        (.error (.hasReferences
          (if conn.count then countCertReferences f later else ⟨0, 0, 0, 0⟩)), db))
    ∨ (conn.delete = true ∧ ¬ HasCert db.certificates f
        ∧ deleteCertificate conn later f db = (.error .notFound, db))
    ∨ (conn.delete = true ∧ ¬ Referenced db f ∧ HasCert db.certificates f
        ∧ ∃ db', Purged f db db' ∧ deleteCertificate conn later f db = (.ok (), db')) := by
  unfold deleteCertificate
  cases hconn : conn.delete with
  | false => exact .inl ⟨rfl, rfl⟩
  | true =>
      rw [if_neg (by simp)]
      by_cases href : Referenced db f
      · have hnone : Purge.deleteCertificate f db = none := by
          rw [Option.eq_none_iff_forall_ne_some]
          exact fun p hp => deleteCertificate_isSome_iff.mp ⟨p, hp⟩ href
        rw [hnone]
        exact .inr (.inl ⟨rfl, href, rfl⟩)
      · by_cases hcert : HasCert db.certificates f
        · obtain ⟨⟨n, db'⟩, hdelete⟩ := deleteCertificate_isSome_iff.mpr href
          obtain ⟨hn, hpurged⟩ := purged_of_deleteCertificate hdelete
          have hne : n ≠ 0 := fun h0 => rowsAffected_eq_zero_iff.mp (hn ▸ h0) hcert
          refine .inr (.inr (.inr ⟨rfl, href, hcert, db', hpurged, ?_⟩))
          simp only [hdelete, if_neg hne]
        · refine .inr (.inr (.inl ⟨rfl, hcert, ?_⟩))
          simp only [deleteCertificate_missing hcert, if_true]

/-! ## §4. The answers. -/

/-- A failure of a purge that is the database's. -/
def PurgeFailure.IsLost : PurgeFailure → Prop
  | .certIsIssuer _ | .notFound => False
  | _ => True

/-- **What a purge comes to.** -/
theorem purgeCertificate_cases (up : Up) (f : String) (db : PurgeDB) :
    (up.count = true ∧ IsIssuer db f ∧
      purgeCertificate up f db = (.error (.certIsIssuer (countIssued f db)), db))
    ∨ (up.Runs ∧ ¬ HasCert db.certificates f ∧ purgeCertificate up f db = (.error .notFound, db))
    ∨ (up.Runs ∧ up.commit = true ∧ ¬ IsIssuer db f ∧ HasCert db.certificates f
        ∧ ∃ db', Purged f db db' ∧ purgeCertificate up f db = (.ok (), db'))
    ∨ (¬ (up.Runs ∧ up.commit = true) ∧ ∃ e, PurgeFailure.IsLost e ∧
        purgeCertificate up f db = (.error e, db)) := by
  unfold purgeCertificate runInTx
  rcases purgeBody_cases up f db with ⟨hcount, hbody⟩ | ⟨hcount, hissuer, hbody⟩ |
    ⟨hcount, hissuer, hup, e, s, he, hbody⟩ | ⟨hup, hissuer, db', hpurged, hbody⟩
  · have hlost : ¬ (up.Runs ∧ up.commit = true) := fun h => by
      rw [h.1.1] at hcount
      exact absurd hcount (by simp)
    exact .inr (.inr (.inr ⟨hlost, .countIssued, trivial, by rw [hbody]⟩))
  · exact .inl ⟨hcount, hissuer, by rw [hbody]⟩
  · have he' : PurgeFailure.IsLost e := by
      cases e <;> first | exact trivial | exact he
    exact .inr (.inr (.inr ⟨fun h => hup h.1, e, he', by rw [hbody]⟩))
  · by_cases hcert : HasCert db.certificates f
    · rw [if_pos hcert] at hbody
      cases hcommit : up.commit with
      | true =>
          refine .inr (.inr (.inl ⟨hup, rfl, hissuer, hcert, db', hpurged, ?_⟩))
          rw [hbody]
          rfl
      | false =>
          refine .inr (.inr (.inr ⟨fun h => by simp at h, .commit, trivial, ?_⟩))
          rw [hbody]
          rfl
    · rw [if_neg hcert] at hbody
      exact .inr (.inl ⟨hup, hcert, by rw [hbody]⟩)

/-- Every statement finds the database there. -/
def Conn.Runs (conn : Conn) (purge : Bool) : Prop :=
  if purge then conn.purge.Runs ∧ conn.purge.commit = true else conn.delete = true

/-- What stands in the way of the certificate. -/
def Blocked (db : PurgeDB) (f : String) (purge : Bool) : Prop :=
  if purge then IsIssuer db f else Referenced db f

/-- What a refused request is told. -/
def refusal (conn : Conn) (later : PurgeDB) (f : String) (purge : Bool) (db : PurgeDB) : String :=
  if purge then certIsIssuerError (countIssued f db)
  else (if conn.count then countCertReferences f later else ⟨0, 0, 0, 0⟩ : CertReferences).error

theorem length_part_eq_zero_iff {s : String} :
    (if n > 0 then [s] else []).length = 0 ↔ n = 0 := by
  split
  · next hn => exact iff_of_false (by simp) (Nat.ne_of_gt hn)
  · next hn => exact iff_of_true rfl (Nat.eq_zero_of_not_pos hn)

theorem length_parts_eq_zero_iff {refs : CertReferences} :
    refs.parts.length = 0 ↔ refs = ⟨0, 0, 0, 0⟩ := by
  obtain ⟨current, historical, scans, issued⟩ := refs
  unfold CertReferences.parts
  dsimp only
  rw [List.length_append, List.length_append, List.length_append, Nat.add_eq_zero_iff,
    Nat.add_eq_zero_iff, Nat.add_eq_zero_iff, length_part_eq_zero_iff, length_part_eq_zero_iff,
    length_part_eq_zero_iff, length_part_eq_zero_iff, CertReferences.mk.injEq, and_assoc, and_assoc]

/-- The text that names no reference is that of counts that are all zero. -/
theorem error_eq_iff {refs : CertReferences} :
    refs.error = "certificate is still referenced" ↔ refs = ⟨0, 0, 0, 0⟩ := by
  rw [← length_parts_eq_zero_iff]
  unfold CertReferences.error
  split
  · next hzero => exact iff_of_true rfl hzero
  · next hzero =>
      refine iff_of_false (fun heq => ?_) hzero
      have hhead := congrArg (fun s : String => s.toList.head?) heq
      simp only [String.toList_append] at hhead
      exact absurd hhead (by simp)

theorem mem_part {s : String} (hpos : 0 < n) : s ∈ (if n > 0 then [s] else []) := by
  rw [if_pos hpos]
  exact List.mem_singleton_self _

/-- Every count that is not zero begins a part. -/
theorem exists_mem_parts {refs : CertReferences} {p : Nat × String} (hp : p ∈ refs.named)
    (hpos : 0 < p.1) : ∃ words, toString p.1 ++ p.2 ++ words ∈ refs.parts := by
  unfold CertReferences.parts
  simp only [List.mem_append]
  simp only [CertReferences.named, List.mem_cons, List.not_mem_nil, or_false] at hp
  rcases hp with rfl | rfl | rfl | rfl
  · exact ⟨pluralize refs.currentEndpoints "endpoint" "endpoints",
      .inl (.inl (.inl (mem_part hpos)))⟩
  · exact ⟨pluralize refs.historicalEndpoints "attachment" "attachments",
      .inl (.inl (.inr (mem_part hpos)))⟩
  · exact ⟨pluralize refs.scanHistory "record" "records", .inl (.inr (mem_part hpos))⟩
  · exact ⟨pluralize refs.issuedCerts "certificate" "certificates", .inr (mem_part hpos)⟩

/-- Every count that is not zero stands in the text. -/
theorem infix_error {refs : CertReferences} {p : Nat × String} (hp : p ∈ refs.named)
    (hpos : 0 < p.1) : (toString p.1 ++ p.2).toList <:+: refs.error.toList := by
  obtain ⟨words, hmem⟩ := exists_mem_parts hp hpos
  have hne : ¬ refs.parts.length = 0 := fun h => by
    rw [List.eq_nil_of_length_eq_zero h] at hmem
    cases hmem
  unfold CertReferences.error
  rw [if_neg hne, String.toList_append (s := "still referenced by "), String.toList_intercalate]
  refine List.infix_append_of_infix_right ?_
  -- the part is one of those joined, and the count with its words begins it
  refine List.IsInfix.trans ?_ (Pieces.infix_intercalate (List.mem_map_of_mem hmem))
  rw [String.toList_append (t := words)]
  exact List.infix_append_left

/-- Nothing but rows of the three kinds counts. -/
theorem blocking_eq_zero_iff :
    (countCertReferences f db).currentEndpoints + (countCertReferences f db).historicalEndpoints
        + (countCertReferences f db).scanHistory = 0 ↔
      (∀ r ∈ db.endpointScanHistory, r.fingerprint ≠ some f)
        ∧ ∀ e ∈ db.endpointCerts, e.fingerprint ≠ f := by
  have hcurrent := Table.rowsAffected_eq_zero_iff (t := db.endpointCerts)
    (p := fun e => decide (e.fingerprint = f ∧ e.isCurrent = true))
  have hhistorical := Table.rowsAffected_eq_zero_iff (t := db.endpointCerts)
    (p := fun e => decide (e.fingerprint = f ∧ e.isCurrent = false))
  have hscans := Table.rowsAffected_eq_zero_iff (t := db.endpointScanHistory)
    (p := fun r => decide (r.fingerprint = some f))
  unfold countCertReferences
  dsimp only
  rw [Nat.add_eq_zero_iff, Nat.add_eq_zero_iff, hcurrent, hhistorical, hscans]
  constructor
  · intro h
    obtain ⟨⟨hc, hh⟩, hr⟩ := h
    refine ⟨fun r hmem => of_decide_eq_false (hr r hmem), fun e hmem hf => ?_⟩
    cases he : e.isCurrent with
    | true => exact of_decide_eq_false (hc e hmem) ⟨hf, he⟩
    | false => exact of_decide_eq_false (hh e hmem) ⟨hf, he⟩
  · intro h
    obtain ⟨hr, hc⟩ := h
    exact ⟨⟨fun e hmem => decide_eq_false fun he => hc e hmem he.1,
      fun e hmem => decide_eq_false fun he => hc e hmem he.1⟩,
      fun r hmem => decide_eq_false (hr r hmem)⟩

/-- A plain delete that is refused can say why. -/
theorem counts_ne_zero (h : Referenced db f) : countCertReferences f db ≠ ⟨0, 0, 0, 0⟩ := by
  intro hzero
  have hblocking : (countCertReferences f db).currentEndpoints
      + (countCertReferences f db).historicalEndpoints
      + (countCertReferences f db).scanHistory = 0 := by
    rw [hzero]
    rfl
  obtain ⟨hhistory, hcerts⟩ := blocking_eq_zero_iff.mp hblocking
  rcases h with ⟨c, hc, _, hf⟩ | ⟨r, hr, hf⟩ | ⟨e, he, hf⟩
  · have hissued : countIssued f db = 0 := congrArg CertReferences.issuedCerts hzero
    exact countIssued_eq_zero_iff.mp hissued ⟨c, hc, hf⟩
  · exact hhistory r hr hf
  · exact hcerts e he hf

/-- Counts that are not all zero have one that is not. -/
theorem exists_named {refs : CertReferences} (h : refs ≠ ⟨0, 0, 0, 0⟩) :
    ∃ p ∈ refs.named, 0 < p.1 := by
  by_contra hnone
  push Not at hnone
  obtain ⟨current, historical, scans, issued⟩ := refs
  simp only [CertReferences.named, List.forall_mem_cons, Nat.le_zero] at hnone
  obtain ⟨rfl, rfl, rfl, rfl, _⟩ := hnone
  exact h rfl

/-- What it says names a reference, if one is still there when they are counted. -/
theorem refusal_names (hcount : conn.count = true) (hlater : Referenced later f) :
    refusal conn later f false db ≠ "certificate is still referenced"
      ∧ ∃ p ∈ (countCertReferences f later).named, 0 < p.1
        ∧ (toString p.1 ++ p.2).toList <:+: (refusal conn later f false db).toList := by
  have hrefusal : refusal conn later f false db = (countCertReferences f later).error := by
    unfold refusal
    rw [if_neg (by simp), if_pos hcount]
  have hne := counts_ne_zero hlater
  obtain ⟨p, hp, hpos⟩ := exists_named hne
  rw [hrefusal]
  exact ⟨fun heq => hne (error_eq_iff.mp heq), p, hp, hpos, infix_error hp hpos⟩

/-- **Delete**: a request that fails changes nothing; it succeeds exactly if the certificate is
there and nothing stands in its way, and then leaves every other row as it was; a certificate that
is not there is not found; one that is in use is refused with 409, and the text has a count of rows
that use it, one that is not zero, unless they have gone when they are counted. -/
theorem delete_exact (conn : Conn) (later : PurgeDB) (f : String) (purge : Bool) (db : PurgeDB) :
    (∀ e, (delete conn later f purge db).1 = .error e → (delete conn later f purge db).2 = db)
    ∧ ((delete conn later f purge db).1 = .ok () ↔
        conn.Runs purge ∧ ¬ Blocked db f purge ∧ HasCert db.certificates f)
    ∧ ((delete conn later f purge db).1 = .ok () →
        Purged f db (delete conn later f purge db).2)
    ∧ (conn.Runs purge → ¬ HasCert db.certificates f →
        (delete conn later f purge db).1 = .error ⟨404, "certificate not found"⟩)
    ∧ (conn.Runs purge → Blocked db f purge →
        (delete conn later f purge db).1 = .error ⟨409, refusal conn later f purge db⟩)
    ∧ (conn.count = true → Referenced later f →
        refusal conn later f false db ≠ "certificate is still referenced"
          ∧ ∃ p ∈ (countCertReferences f later).named, 0 < p.1
            ∧ (toString p.1 ++ p.2).toList <:+: (refusal conn later f false db).toList) := by
  have hnames : conn.count = true → Referenced later f →
      refusal conn later f false db ≠ "certificate is still referenced"
        ∧ ∃ p ∈ (countCertReferences f later).named, 0 < p.1
          ∧ (toString p.1 ++ p.2).toList <:+: (refusal conn later f false db).toList :=
    refusal_names
  cases purge with
  | false =>
      have hdelete : delete conn later f false db =
          match deleteCertificate conn later f db with
          | (.ok _, db') => (.ok (), db')
          | (.error .notFound, db') => (.error ⟨404, "certificate not found"⟩, db')
          | (.error (.hasReferences refs), db') => (.error ⟨409, refs.error⟩, db')
          | (.error .failed, db') => (.error ⟨500, "failed to delete certificate"⟩, db') := rfl
      have hruns : conn.Runs false ↔ conn.delete = true := Iff.rfl
      have hblocked : Blocked db f false ↔ Referenced db f := Iff.rfl
      rw [hdelete, hruns, hblocked]
      rcases deleteCertificate_cases conn later f db with ⟨hconn, heq⟩ | ⟨hconn, href, heq⟩ |
        ⟨hconn, hcert, heq⟩ | ⟨hconn, href, hcert, db', hpurged, heq⟩
      · simpa [heq, hconn] using hnames
      · -- what is referred to is there
        have hcert : HasCert db.certificates f := by
          by_contra hcert
          exact not_referenced_of_missing hcert href
        simpa [heq, hconn, href, hcert, refusal] using hnames
      · simpa [heq, hconn, hcert, not_referenced_of_missing hcert] using hnames
      · simpa [heq, hconn, href, hcert, hpurged] using hnames
  | true =>
      have hdelete : delete conn later f true db =
          match purgeCertificate conn.purge f db with
          | (.ok _, db') => (.ok (), db')
          | (.error .notFound, db') => (.error ⟨404, "certificate not found"⟩, db')
          | (.error (.certIsIssuer n), db') => (.error ⟨409, certIsIssuerError n⟩, db')
          | (.error _, db') => (.error ⟨500, "failed to delete certificate"⟩, db') := rfl
      have hruns : conn.Runs true ↔ conn.purge.Runs ∧ conn.purge.commit = true := Iff.rfl
      have hblocked : Blocked db f true ↔ IsIssuer db f := Iff.rfl
      rw [hdelete, hruns, hblocked]
      rcases purgeCertificate_cases conn.purge f db with ⟨hcount, hissuer, heq⟩ |
        ⟨hup, hcert, heq⟩ | ⟨hup, hcommit, hissuer, hcert, db', hpurged, heq⟩ |
        ⟨hlost, e, he, heq⟩
      · -- so is an issuer
        have hcert : HasCert db.certificates f := by
          by_contra hcert
          exact not_isIssuer_of_missing hcert hissuer
        simpa [heq, hissuer, hcert, refusal] using hnames
      · simpa [heq, hcert, not_isIssuer_of_missing hcert] using hnames
      · simpa [heq, hup, hcommit, hissuer, hcert, hpurged] using hnames
      · cases e <;> first | exact he.elim | simpa [heq, hlost] using hnames

/-! ## §5. The dialog. -/

/-- The state of `DeleteCertificateDialog`, opened for a certificate. -/
structure Dialog where
  /-- The answer of GetReferences. -/
  refs : Option CertReferences
  refsLoading : Bool
  loading : Bool
  purgeChecked : Bool
  deriving DecidableEq, Repr

namespace Dialog

def isIssuer (d : Dialog) : Bool :=
  match d.refs with
  | none => false
  | some refs => refs.issuedCerts > 0

def blockingCount (d : Dialog) : Nat :=
  match d.refs with
  | none => 0
  | some refs => refs.currentEndpoints + refs.historicalEndpoints + refs.scanHistory

def hasBlockingRefs (d : Dialog) : Bool := !d.isIssuer && d.blockingCount > 0

/-- The button cannot be pressed. -/
def deleteDisabled (d : Dialog) : Bool :=
  d.loading || d.refsLoading || d.isIssuer || (d.hasBlockingRefs && !d.purgeChecked)

/-- What `handleDelete` asks for with `?purge=true`. -/
def purge (d : Dialog) : Bool := d.hasBlockingRefs && d.purgeChecked

end Dialog

/-- **The dialog and the handler agree**: where the dialog shows the references as they are, the
button can be pressed exactly if the request behind it is answered with success, unless the
certificate is its own issuer; there the dialog refuses what the handler would do. -/
theorem dialog_agrees (hcert : HasCert db.certificates f) {d : Dialog}
    (hrefs : d.refs = some (countCertReferences f db)) (hidle : d.refsLoading = false)
    (hready : d.loading = false) :
    d.deleteDisabled = false ↔
      (delete Conn.all later f d.purge db).1 = .ok ()
        ∧ ∀ c ∈ db.certificates, c.fingerprint = f → c.issuerFingerprint ≠ some f := by
  obtain ⟨_, hok, _⟩ := delete_exact Conn.all later f d.purge db
  have hruns : Conn.all.Runs d.purge := by
    unfold Conn.Runs
    split
    · exact ⟨⟨rfl, rfl, rfl, rfl⟩, rfl⟩
    · rfl
  rw [hok]
  have hissuer : d.isIssuer = true ↔ IsIssuer db f := by
    have hzero : countIssued f db = 0 ↔ ¬ IsIssuer db f := countIssued_eq_zero_iff
    unfold Dialog.isIssuer
    rw [hrefs]
    show decide (countIssued f db > 0) = true ↔ _
    rw [decide_eq_true_iff, gt_iff_lt, Nat.pos_iff_ne_zero, ne_eq, hzero, not_not]
  have hcount : d.blockingCount = 0 ↔ (∀ r ∈ db.endpointScanHistory, r.fingerprint ≠ some f)
      ∧ ∀ e ∈ db.endpointCerts, e.fingerprint ≠ f := by
    unfold Dialog.blockingCount
    rw [hrefs]
    exact blocking_eq_zero_iff
  by_cases h : IsIssuer db f
  · -- the dialog refuses; so does the handler, unless the certificate issued itself only
    have hi := hissuer.mpr h
    have hpurge : d.purge = false := by simp [Dialog.purge, Dialog.hasBlockingRefs, hi]
    refine iff_of_false (by simp [Dialog.deleteDisabled, hi]) ?_
    rintro ⟨⟨_, hblocked, _⟩, hself⟩
    rw [hpurge] at hblocked
    obtain ⟨c, hc, hf⟩ := h
    exact hblocked (.inl ⟨c, hc, fun hown => hself c hc hown hf, hf⟩)
  · have hi : d.isIssuer = false := Bool.eq_false_of_not_eq_true fun hi => h (hissuer.mp hi)
    have hself : ∀ c ∈ db.certificates, c.fingerprint = f → c.issuerFingerprint ≠ some f :=
      fun c hc _ hf => h ⟨c, hc, hf⟩
    by_cases hb : d.blockingCount = 0
    · -- nothing refers to it, and a plain delete is sent
      have hpurge : d.purge = false := by simp [Dialog.purge, Dialog.hasBlockingRefs, hb]
      obtain ⟨hhistory, hcerts⟩ := hcount.mp hb
      have hfree : ¬ Blocked db f false := by
        rintro (⟨c, hc, _, hf⟩ | ⟨r, hr, hf⟩ | ⟨e, he, hf⟩)
        · exact h ⟨c, hc, hf⟩
        · exact hhistory r hr hf
        · exact hcerts e he hf
      refine iff_of_true ?_ ⟨⟨hruns, hpurge ▸ hfree, hcert⟩, hself⟩
      simp [Dialog.deleteDisabled, Dialog.hasBlockingRefs, hi, hb, hidle, hready]
    · have hblocking : d.hasBlockingRefs = true := by
        simp [Dialog.hasBlockingRefs, hi, Nat.pos_of_ne_zero hb]
      cases hchecked : d.purgeChecked with
      | true =>
          have hpurge : d.purge = true := by simp [Dialog.purge, hblocking, hchecked]
          have hfree : ¬ Blocked db f true := h
          refine iff_of_true ?_ ⟨⟨hruns, hpurge ▸ hfree, hcert⟩, hself⟩
          simp [Dialog.deleteDisabled, hi, hidle, hready, hchecked]
      | false =>
          -- what the dialog does not offer is refused
          have hpurge : d.purge = false := by simp [Dialog.purge, hchecked]
          refine iff_of_false (by simp [Dialog.deleteDisabled, hblocking, hchecked]) ?_
          rintro ⟨⟨_, hblocked, _⟩, _⟩
          rw [hpurge] at hblocked
          refine hb (hcount.mpr ⟨fun r hr hf => ?_, fun e he hf => ?_⟩)
          · exact hblocked (.inr (.inl ⟨r, hr, hf⟩))
          · exact hblocked (.inr (.inr ⟨e, he, hf⟩))

/-- A certificate that an endpoint has, and another had, with a scan of it. -/
def attached : PurgeDB where
  certificates := discovered.certificates
  endpointScanHistory := ⟨[⟨⟨"E", 10, some "A", none, some "TLS 1.3", none⟩, 1⟩], by decide⟩
  endpointCerts :=
    ⟨[⟨1, "E", "A", "tls", true, 5, 10⟩, ⟨2, "F", "A", "tls", false, 1, 2⟩], by decide⟩
  rootStoreAnchors := Table.empty
  certificateTrust := Table.empty
  expiryAlerts := Table.empty
  discoveryInbox := []
  refs := ⟨by decide, by decide, by decide, by decide, by decide, by decide⟩

/-- The dialog for it, with the purge box as given. -/
def attachedDialog (purgeChecked : Bool) : Dialog :=
  ⟨some (countCertReferences "A" attached), false, false, purgeChecked⟩

/-- It is purged if the box is checked, and stays if not. -/
theorem dialog_agrees_attached :
    ((attachedDialog true).purge = true ∧ (attachedDialog true).deleteDisabled = false
        ∧ ((attachedDialog true).deleteDisabled = false ↔
          (delete Conn.all attached "A" (attachedDialog true).purge attached).1 = .ok ()
            ∧ ∀ c ∈ attached.certificates, c.fingerprint = "A" → c.issuerFingerprint ≠ some "A"))
    ∧ ((attachedDialog false).purge = false ∧ (attachedDialog false).deleteDisabled = true
        ∧ ((attachedDialog false).deleteDisabled = false ↔
          (delete Conn.all attached "A" (attachedDialog false).purge attached).1 = .ok ()
            ∧ ∀ c ∈ attached.certificates, c.fingerprint = "A" → c.issuerFingerprint ≠ some "A")) :=
  have hcert : HasCert attached.certificates "A" := ⟨_, .head _, rfl⟩
  ⟨⟨by decide, by decide, dialog_agrees hcert rfl rfl rfl⟩,
    ⟨by decide, by decide, dialog_agrees hcert rfl rfl rfl⟩⟩

end TLSentinel.Certs.Deletion
