/-
  TLSentinel.Reports.Posture
  ──────────────────────────
  **THE TLS POSTURE REPORT, QUERY BY QUERY.**

  `GetTLSPostureReport` runs six queries with joins and filters of their own.  The totals
  and the attention pass look at enabled endpoints; the protocol and the cipher counts look
  at the profiles alone, and so go on counting an endpoint that was disabled.  Each count
  of the report is seen here as the list of the endpoints it counts (`Count.endpoints`).

  Main results:
    * `number_eq`               — every count is the number of the endpoints it counts;
    * `enabledOnly_iff`         — when all of them are enabled;
    * `not_counted_disabled_iff` — what disabling an endpoint takes out of the counts.
-/
import TLSentinel.Foundation.Grouping
import TLSentinel.Lists.Queries
import TLSentinel.Reports.Attention

namespace TLSentinel.Reports

open Foundation TLSProfile
open TLSentinel.Lists (Text Endpoint)
open TLSentinel.Endpoints.TypeChange (EndpointTLSProfile TLSProtocolCounts protocolCounts)

/-! ## §1. The report. -/

/-- The columns of `tlsentinel.certificates` that say who issued a certificate. -/
structure IssuerColumns where
  subjectDNHash : String
  issuerDNHash : String
  issuerFingerprint : Option String
  deriving DecidableEq, Repr

/-- The tables. -/
structure DB (T : Text) (Addr : Type) extends Lists.DB T Addr where
  /-- The further columns of the certificate with a fingerprint. -/
  issuers : String → IssuerColumns
  /-- A profile refers to an endpoint, and goes with it. -/
  profileRefs : ∀ p ∈ tlsProfiles, ∃ e ∈ endpoints, e.id = p.endpointID

/-- How the database answers an ORDER BY: rows that tie come in any order. -/
structure Answers where
  sort : {ρ : Type} → OrderBy ρ → List ρ → List ρ
  listed : ∀ {ρ : Type} (o : OrderBy ρ) (rows : List ρ), o.Listed rows (sort o rows)

/-- `TLSCipherCount`. -/
structure TLSCipherCount where
  cipher : String
  count : Nat
  severity : String
  reason : String
  deriving DecidableEq, Repr

/-- `TLSIssuerCount`. -/
structure TLSIssuerCount where
  issuer : String
  count : Nat
  deriving DecidableEq, Repr

/-- `TLSAttentionItem`. -/
structure TLSAttentionItem where
  endpointID : String
  endpointName : String
  issues : List String
  severity : String
  deriving DecidableEq, Repr

/-- `TLSPostureReport`; the legacy endpoints stand with the protocol counts. -/
structure TLSPostureReport where
  totalEndpoints : Nat
  scannedEndpoints : Nat
  protocols : TLSProtocolCounts
  ciphers : List TLSCipherCount
  issuers : List TLSIssuerCount
  weakCipherEndpoints : Nat
  attention : List TLSAttentionItem
  deriving DecidableEq, Repr

namespace DB

variable {T : Text} {Addr : Type} (A : Answers) (db : DB T Addr)

/-- The enabled endpoints with their profiles, if they have one. -/
def enabledRows : List (Endpoint × Option EndpointTLSProfile) :=
  (db.endpoints.rows.filter fun e => e.enabled).map fun e => (e, db.tlsProfiles.find? e.id)

/-- The cipher suites of the profiles without error, unnested. -/
def cipherRows : List (String × String) :=
  (db.tlsProfiles.rows.filter fun p => p.scanError.isNone).flatMap fun p =>
    p.cipherSuites.map fun cipher => (cipher, p.endpointID)

/-- The cipher distribution. -/
def cipherCounts : List TLSCipherCount :=
  (A.sort (OrderBy.desc fun row : String × Nat => row.2) (groupCounts db.cipherRows)).map fun row =>
    ⟨row.1, row.2, (cipherSeverity row.1).text, cipherReason row.1⟩

/-- The issuer of a current certificate, with its endpoint. -/
def issuerRow (ec : Scans.EndpointCert) : Option (String × String) :=
  if ec.isCurrent then
    match db.certificates.find? ec.fingerprint with
    | none => none
    | some c =>
        let columns := db.issuers c.fingerprint
        let issuer :=
          if columns.subjectDNHash = columns.issuerDNHash then "Self-signed"
          else
            match columns.issuerFingerprint.bind db.certificates.find? with
            | some ic => ic.commonName
            | none => "Unknown CA"
        some (issuer, ec.endpointID)
  else none

/-- The issuer distribution. -/
def issuerCounts : List TLSIssuerCount :=
  ((A.sort (OrderBy.desc fun row : String × Nat => row.2)
    (groupCounts (db.endpointCerts.rows.filterMap db.issuerRow))).take 10).map fun row =>
      ⟨row.1, row.2⟩

/-- The rows of the attention pass: enabled endpoints with a profile without error. -/
def scanRows : Table (fun row : Endpoint × EndpointTLSProfile => row.1.id) :=
  db.endpoints.select
    (fun e =>
      match db.tlsProfiles.find? e.id with
      | some p => if e.enabled && p.scanError.isNone then some (e, p) else none
      | none => none)
    (by
      intro e row hrow
      split at hrow
      · split at hrow
        · exact congrArg (fun row => row.1.id) (Option.some.inj hrow).symm
        · exact absurd hrow (by simp)
      · exact absurd hrow (by simp))

/-- Their order: the worst version first, then by name. -/
def scanOrder (T : Text) : OrderBy (Endpoint × EndpointTLSProfile) :=
  (OrderBy.asc fun row : Endpoint × EndpointTLSProfile =>
    if row.2.ssl30 then 0 else if row.2.tls10 then 1 else if row.2.tls11 then 2 else 3).thenBy
      (T.collation.on fun row => row.1.name)

end DB

/-- A suite that is not well is among those an endpoint accepts. -/
def hasWeak (p : EndpointTLSProfile) : Bool :=
  p.cipherSuites.any fun c => decide (cipherSeverity c ≠ .ok)

/-- One row of the attention pass. -/
def attentionStep (acc : Nat × List TLSAttentionItem) (row : Endpoint × EndpointTLSProfile) :
    Nat × List TLSAttentionItem :=
  let weakCipherCount := if hasWeak row.2 then acc.1 + 1 else acc.1
  let found := allAttentionIssues row.2.ssl30 row.2.tls10 row.2.tls11 row.2.cipherSuites
  if found.1 = [] then (weakCipherCount, acc.2)
  else (weakCipherCount, acc.2 ++ [⟨row.1.id, row.1.name, found.1, found.2⟩])

/-- `GetTLSPostureReport`. -/
def getTLSPostureReport {T : Text} {Addr : Type} (A : Answers) (db : DB T Addr) :
    TLSPostureReport :=
  let pass := (A.sort (DB.scanOrder T) db.scanRows.rows).foldl attentionStep (0, [])
  { totalEndpoints := db.enabledRows.length
    scannedEndpoints := db.enabledRows.countP fun row => row.2.isSome
    protocols := protocolCounts db.tlsProfiles
    ciphers := db.cipherCounts A
    issuers := db.issuerCounts A
    weakCipherEndpoints := pass.1
    attention := pass.2 }

/-! ## §2. What is counted. -/

/-- The counts of the report. -/
inductive Count where
  | ssl30
  | tls10
  | tls11
  | tls12
  | tls13
  | legacy
  | cipher (name : String)
  | weakCipher
  deriving DecidableEq, Repr

/-- What the report shows; a cipher that is not listed counts 0. -/
def Count.number (report : TLSPostureReport) : Count → Nat
  | .ssl30 => report.protocols.ssl30
  | .tls10 => report.protocols.tls10
  | .tls11 => report.protocols.tls11
  | .tls12 => report.protocols.tls12
  | .tls13 => report.protocols.tls13
  | .legacy => report.protocols.legacyEndpoints
  | .cipher name => countFor (report.ciphers.map fun c => (c.cipher, c.count)) name
  | .weakCipher => report.weakCipherEndpoints

/-- The profiles that a count is about. -/
def Count.qualifies : Count → EndpointTLSProfile → Bool
  | .ssl30, p => p.ssl30
  | .tls10, p => p.tls10
  | .tls11, p => p.tls11
  | .tls12, p => p.tls12
  | .tls13, p => p.tls13
  | .legacy, p => p.ssl30 || p.tls10 || p.tls11
  | .cipher name, p => decide (name ∈ p.cipherSuites)
  | .weakCipher, p => hasWeak p

section Counts

variable {T : Text} {Addr : Type}

/-- The endpoints whose profiles qualify, enabled or not. -/
def DB.profileEndpoints (db : DB T Addr) (k : Count) : List String :=
  (db.tlsProfiles.rows.filter fun p => p.scanError.isNone && k.qualifies p).map
    EndpointTLSProfile.key

/-- The endpoints that a count of the report counts. -/
def Count.endpoints (db : DB T Addr) : Count → List String
  | .weakCipher => (db.scanRows.rows.filter fun row => hasWeak row.2).map fun row => row.1.id
  | k => db.profileEndpoints k

variable {db : DB T Addr} {k : Count} {id : String}

theorem mem_profileEndpoints :
    id ∈ db.profileEndpoints k ↔
      ∃ p ∈ db.tlsProfiles, p.endpointID = id ∧ p.scanError = none ∧ k.qualifies p = true := by
  simp only [DB.profileEndpoints, List.mem_map, List.mem_filter, Bool.and_eq_true,
    Option.isNone_iff_eq_none]
  constructor
  · rintro ⟨p, ⟨hp, herror, hk⟩, hid⟩
    exact ⟨p, hp, hid, herror, hk⟩
  · rintro ⟨p, hp, hid, herror, hk⟩
    exact ⟨p, ⟨hp, herror, hk⟩, hid⟩

theorem mem_scanRows {row : Endpoint × EndpointTLSProfile} :
    row ∈ db.scanRows ↔ row.1 ∈ db.endpoints ∧ row.1.enabled = true ∧
      db.tlsProfiles.find? row.1.id = some row.2 ∧ row.2.scanError = none := by
  unfold DB.scanRows
  rw [Table.mem_select]
  constructor
  · rintro ⟨e, he, hrow⟩
    split at hrow
    · next p hp =>
        split at hrow
        · next hkept =>
            obtain rfl := Option.some.inj hrow
            rw [Bool.and_eq_true, Option.isNone_iff_eq_none] at hkept
            exact ⟨he, hkept.1, hp, hkept.2⟩
        · exact absurd hrow (by simp)
    · exact absurd hrow (by simp)
  · rintro ⟨he, henabled, hp, herror⟩
    exact ⟨row.1, he, by simp [hp, henabled, herror]⟩

theorem mem_weakEndpoints :
    id ∈ Count.weakCipher.endpoints db ↔
      ∃ e p, e ∈ db.endpoints ∧ e.id = id ∧ e.enabled = true ∧
        db.tlsProfiles.find? id = some p ∧ p.scanError = none ∧ hasWeak p = true := by
  simp only [Count.endpoints, List.mem_map, List.mem_filter]
  constructor
  · rintro ⟨row, ⟨hrow, hweak⟩, rfl⟩
    obtain ⟨he, henabled, hp, herror⟩ := mem_scanRows.mp hrow
    exact ⟨row.1, row.2, he, rfl, henabled, hp, herror, hweak⟩
  · rintro ⟨e, p, he, rfl, henabled, hp, herror, hweak⟩
    exact ⟨(e, p), ⟨mem_scanRows.mpr ⟨he, henabled, hp, herror⟩, hweak⟩, rfl⟩

/-- An endpoint is counted once. -/
theorem nodup_endpoints (db : DB T Addr) (k : Count) : (k.endpoints db).Nodup := by
  have hprofiles : ∀ k, (db.profileEndpoints k).Nodup := fun k =>
    (List.filter_sublist.map _).nodup db.tlsProfiles.nodup
  cases k with
  | weakCipher => exact (List.filter_sublist.map _).nodup db.scanRows.nodup
  | _ => exact hprofiles _

/-! ## §3. The numbers. -/

/-- The loop over the rows counts those with a weak suite. -/
theorem attention_foldl (rows : List (Endpoint × EndpointTLSProfile))
    (acc : Nat × List TLSAttentionItem) :
    (rows.foldl attentionStep acc).1 = acc.1 + rows.countP fun row => hasWeak row.2 := by
  induction rows generalizing acc with
  | nil => rfl
  | cons row rows ih =>
      rw [List.foldl_cons, ih, List.countP_cons]
      have hstep : (attentionStep acc row).1 = if hasWeak row.2 then acc.1 + 1 else acc.1 := by
        unfold attentionStep
        dsimp only
        rw [apply_ite Prod.fst, ite_self]
      rw [hstep]
      split_ifs <;> omega

theorem mem_cipherRows {name : String} :
    (name, id) ∈ db.cipherRows ↔ id ∈ (Count.cipher name).endpoints db := by
  show _ ↔ id ∈ db.profileEndpoints (.cipher name)
  rw [mem_profileEndpoints]
  simp only [DB.cipherRows, List.mem_flatMap, List.mem_filter, List.mem_map,
    Option.isNone_iff_eq_none, Count.qualifies, decide_eq_true_iff, Prod.mk.injEq]
  constructor
  · rintro ⟨p, ⟨hp, herror⟩, cipher, hcipher, rfl, hid⟩
    exact ⟨p, hp, hid, herror, hcipher⟩
  · rintro ⟨p, hp, hid, herror, hcipher⟩
    exact ⟨p, ⟨hp, herror⟩, name, hcipher, rfl, hid⟩

/-- A filtered column of the profiles. -/
theorem countP_profiles (p : EndpointTLSProfile → Bool) :
    (db.tlsProfiles.rows.filter fun p => p.scanError.isNone).countP p =
      ((db.tlsProfiles.rows.filter fun row => row.scanError.isNone && p row).map
        EndpointTLSProfile.key).length := by
  rw [List.length_map, ← List.countP_eq_length_filter, List.countP_filter]
  simp only [Bool.and_comm]

/-- **Every count is the number of the endpoints it counts.** -/
theorem number_eq (A : Answers) (db : DB T Addr) (k : Count) :
    k.number (getTLSPostureReport A db) = (k.endpoints db).length := by
  cases k with
  | cipher name =>
      have hciphers : (getTLSPostureReport A db).ciphers.map (fun c => (c.cipher, c.count)) =
          A.sort (OrderBy.desc fun row => row.2) (groupCounts db.cipherRows) := by
        simp [getTLSPostureReport, DB.cipherCounts, Function.comp_def]
      show countFor _ name = _
      rw [hciphers, countFor_groupCounts (A.listed _ _).1,
        countDistinct_eq (nodup_endpoints db _) fun id => mem_cipherRows]
  | weakCipher =>
      show ((A.sort (DB.scanOrder T) db.scanRows.rows).foldl attentionStep (0, [])).1 = _
      rw [attention_foldl, (A.listed _ _).1.countP_eq, Count.endpoints, List.length_map,
        List.countP_eq_length_filter]
      exact Nat.zero_add _
  | _ => exact countP_profiles _

/-! ## §4. Enabled endpoints only. -/

/-- The endpoint is enabled and has a profile. -/
def DB.Scanned (db : DB T Addr) (id : String) : Prop :=
  ∃ e ∈ db.endpoints, e.id = id ∧ e.enabled = true ∧ ∃ p ∈ db.tlsProfiles, p.endpointID = id

/-- The profile has something to count: a version or a suite, and no error. -/
def Countable (p : EndpointTLSProfile) : Prop :=
  p.scanError = none ∧ (p.ssl30 = true ∨ p.tls10 = true ∨ p.tls11 = true ∨ p.tls12 = true ∨
    p.tls13 = true ∨ p.cipherSuites ≠ [])

instance (p : EndpointTLSProfile) : Decidable (Countable p) := inferInstanceAs (Decidable (_ ∧ _))

theorem countable_of_qualifies {p : EndpointTLSProfile} (herror : p.scanError = none)
    (hk : k.qualifies p = true) : Countable p := by
  refine ⟨herror, ?_⟩
  cases k with
  | cipher name =>
      have hmem : name ∈ p.cipherSuites := of_decide_eq_true hk
      simp [List.ne_nil_of_mem hmem]
  | weakCipher =>
      obtain ⟨c, hc, -⟩ := List.any_eq_true.mp hk
      simp [List.ne_nil_of_mem hc]
  | legacy =>
      simp only [Count.qualifies, Bool.or_eq_true] at hk
      tauto
  | _ =>
      simp only [Count.qualifies] at hk
      tauto

/-- What has something to count is counted by a protocol or a cipher count. -/
theorem exists_counts {p : EndpointTLSProfile} (hp : p ∈ db.tlsProfiles) (h : Countable p) :
    ∃ k : Count, k.endpoints db = db.profileEndpoints k ∧ p.endpointID ∈ k.endpoints db := by
  obtain ⟨herror, h⟩ := h
  have hcounted : ∀ k : Count, k.endpoints db = db.profileEndpoints k → k.qualifies p = true →
      ∃ k : Count, k.endpoints db = db.profileEndpoints k ∧ p.endpointID ∈ k.endpoints db :=
    fun k hk hq => ⟨k, hk, hk ▸ mem_profileEndpoints.mpr ⟨p, hp, rfl, herror, hq⟩⟩
  rcases h with h | h | h | h | h | h
  · exact hcounted .ssl30 rfl h
  · exact hcounted .tls10 rfl h
  · exact hcounted .tls11 rfl h
  · exact hcounted .tls12 rfl h
  · exact hcounted .tls13 rfl h
  · obtain ⟨name, hname⟩ := List.exists_mem_of_ne_nil _ h
    exact hcounted (.cipher name) rfl (decide_eq_true hname)

/-- Every endpoint that is counted has a profile with something to count. -/
theorem countable_of_mem (h : id ∈ k.endpoints db) :
    ∃ p ∈ db.tlsProfiles, p.endpointID = id ∧ Countable p := by
  have hprofiles : ∀ k, id ∈ db.profileEndpoints k →
      ∃ p ∈ db.tlsProfiles, p.endpointID = id ∧ Countable p := by
    intro k h
    obtain ⟨p, hp, hid, herror, hk⟩ := mem_profileEndpoints.mp h
    exact ⟨p, hp, hid, countable_of_qualifies herror hk⟩
  cases k with
  | weakCipher =>
      obtain ⟨e, p, -, -, -, hp, herror, hweak⟩ := mem_weakEndpoints.mp h
      exact ⟨p, Table.mem_of_find? hp, Table.key_of_find? hp,
        countable_of_qualifies (k := .weakCipher) herror hweak⟩
  | _ => exact hprofiles _ h

/-- The scanned endpoints are those the second total counts. -/
theorem scannedEndpoints_eq (A : Answers) (db : DB T Addr) :
    (getTLSPostureReport A db).scannedEndpoints =
      ((db.endpoints.rows.filter fun e =>
        e.enabled && (db.tlsProfiles.find? e.id).isSome).map Endpoint.id).length := by
  show (DB.enabledRows db).countP _ = _
  rw [DB.enabledRows, List.countP_map, List.countP_filter, List.length_map,
    List.countP_eq_length_filter]
  simp only [Function.comp_def, Bool.and_comm]

/-- Scanned endpoints, each once, are at most as many as the report says. -/
theorem length_le_scannedEndpoints (A : Answers) {ids : List String} (hnodup : ids.Nodup)
    (h : ∀ id ∈ ids, db.Scanned id) :
    ids.length ≤ (getTLSPostureReport A db).scannedEndpoints := by
  rw [scannedEndpoints_eq]
  refine (List.subperm_of_subset hnodup fun id hid => ?_).length_le
  obtain ⟨e, he, rfl, henabled, p, hp, hpid⟩ := h id hid
  have hfound : (db.tlsProfiles.find? e.id).isSome = true :=
    Option.isSome_iff_exists.mpr ⟨p, Table.find?_eq_some_iff.mpr ⟨hp, hpid⟩⟩
  exact List.mem_map.mpr ⟨e, List.mem_filter.mpr ⟨he, by simp [henabled, hfound]⟩, rfl⟩

theorem scannedEndpoints_le_totalEndpoints (A : Answers) (db : DB T Addr) :
    (getTLSPostureReport A db).scannedEndpoints ≤ (getTLSPostureReport A db).totalEndpoints :=
  List.countP_le_length

/-- The endpoint, without `enabled`. -/
def DB.disable (db : DB T Addr) (id : String) : DB T Addr :=
  { db with
    endpoints := db.endpoints.update (fun e => decide (e.id = id))
      (fun e => { e with enabled := false }) (fun _ => rfl)
    profileRefs := by
      intro p hp
      obtain ⟨e, he, hid⟩ := db.profileRefs p hp
      refine ⟨_, Table.update_mem he, ?_⟩
      split_ifs <;> exact hid }

theorem mem_disable {e : Endpoint} :
    e ∈ (db.disable id).endpoints ↔
      ∃ s ∈ db.endpoints, (if decide (s.id = id) then { s with enabled := false } else s) = e := by
  simp only [DB.disable, Table.mem_update]

theorem weakEndpoints_disable (db : DB T Addr) (id : String) :
    id ∉ Count.weakCipher.endpoints (db.disable id) := by
  intro h
  obtain ⟨e, p, he, hid, henabled, -⟩ := mem_weakEndpoints.mp h
  obtain ⟨e', -, rfl⟩ := mem_disable.mp he
  -- the row of the endpoint itself is not enabled any more
  split_ifs at hid henabled with hkey
  exact hkey (decide_eq_true hid)

/-- **What disabling an endpoint takes out of the counts**: the protocol and the cipher
counts do not notice. -/
theorem not_counted_disabled_iff {db : DB T Addr} {id : String} :
    (∀ k : Count, id ∉ k.endpoints (db.disable id)) ↔
      ∀ p ∈ db.tlsProfiles, p.endpointID = id → ¬Countable p := by
  constructor
  · rintro h p hp rfl hcountable
    have hp' : p ∈ (db.disable p.endpointID).tlsProfiles := hp
    obtain ⟨k, -, hk⟩ := exists_counts hp' hcountable
    exact h k hk
  · intro h k hk
    obtain ⟨p, hp, hid, hcountable⟩ := countable_of_mem hk
    exact h p hp hid hcountable

/-- The counts are of enabled endpoints with a profile, exactly if nobody else's profile
has something to count. -/
theorem enabledOnly_iff {db : DB T Addr} :
    (∀ k : Count, ∀ id ∈ k.endpoints db, db.Scanned id) ↔
      ∀ p ∈ db.tlsProfiles, Countable p →
        ∃ e ∈ db.endpoints, e.id = p.endpointID ∧ e.enabled = true := by
  constructor
  · intro h p hp hcountable
    obtain ⟨k, -, hk⟩ := exists_counts hp hcountable
    obtain ⟨e, he, hid, henabled, -⟩ := h k _ hk
    exact ⟨e, he, hid, henabled⟩
  · intro h k id hid
    obtain ⟨p, hp, rfl, hcountable⟩ := countable_of_mem hid
    obtain ⟨e, he, hid, henabled⟩ := h p hp hcountable
    exact ⟨e, he, hid, henabled, p, hp, rfl⟩

/-- **WHEN THE REPORT COVERS ENABLED ENDPOINTS ONLY.**  Every count is the number of the
endpoints it counts, and no more endpoints are scanned than there are.  All of the counted
are enabled and have a profile, and no count exceeds the scanned ones, if and only if no
disabled endpoint has a profile with something to count; and an endpoint is no longer
counted once it is disabled if and only if its profile has nothing to count. -/
theorem posture_enabledOnly_iff (A : Answers) (db : DB T Addr) :
    let report := getTLSPostureReport A db
    (∀ k : Count, k.number report = (k.endpoints db).length ∧ (k.endpoints db).Nodup) ∧
    report.scannedEndpoints ≤ report.totalEndpoints ∧
    ((∀ k : Count, (∀ id ∈ k.endpoints db, db.Scanned id) ∧
        k.number report ≤ report.scannedEndpoints) ↔
      ∀ p ∈ db.tlsProfiles, Countable p →
        ∃ e ∈ db.endpoints, e.id = p.endpointID ∧ e.enabled = true) ∧
    ∀ id, (∀ k : Count, id ∉ k.endpoints (db.disable id)) ↔
      ∀ p ∈ db.tlsProfiles, p.endpointID = id → ¬Countable p := by
  intro report
  refine ⟨fun k => ⟨number_eq A db k, nodup_endpoints db k⟩,
    scannedEndpoints_le_totalEndpoints A db, ?_, fun id => not_counted_disabled_iff⟩
  rw [← enabledOnly_iff]
  constructor
  · exact fun h k => (h k).1
  · intro h k
    refine ⟨h k, ?_⟩
    rw [number_eq]
    exact length_le_scannedEndpoints A (nodup_endpoints db k) (h k)

end Counts

/-! ## §5. A disabled endpoint. -/

/-- Answers by a stable sort. -/
def stableAnswers : Answers where
  sort o rows := rows.mergeSort o.le
  listed o rows := ⟨List.mergeSort_perm rows o.le, List.pairwise_mergeSort o.trans o.total rows⟩

/-- One endpoint, whose scan found TLS 1.3. -/
def oneProfile (enabled : Bool) : DB Lists.plainText String :=
  { Lists.noRows with
    endpoints := ⟨[⟨"shop", "shop", "host", enabled, none, none, 0⟩], List.nodup_singleton _⟩
    tlsProfiles := ⟨[⟨⟨false, false, false, false, true, [], none, none⟩, "shop", 0⟩],
      List.nodup_singleton _⟩
    issuers := fun _ => ⟨"", "", none⟩
    profileRefs := by
      intro p hp
      exact ⟨_, List.mem_singleton_self _, by rw [List.mem_singleton.mp hp]⟩ }

/-- **A disabled endpoint is counted**, where no endpoint is scanned. -/
theorem posture_counts_disabled :
    ¬ ∀ (T : Text) (Addr : Type) (A : Answers) (db : DB T Addr) (k : Count),
        k.number (getTLSPostureReport A db) ≤ (getTLSPostureReport A db).scannedEndpoints := by
  intro h
  exact absurd (h _ _ stableAnswers (oneProfile false) .tls13) (by decide)

end TLSentinel.Reports
