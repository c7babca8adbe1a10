/-
  TLSentinel.Reports.DrillDown
  ────────────────────────────
  **FROM A COUNT OF THE REPORT TO THE LIST BEHIND IT.**

  The page of the posture report links every protocol and every cipher to the list of
  endpoints with that filter.  The report counts profiles; the list joins endpoints with
  their profiles.  As a profile refers to one endpoint, and an endpoint has one profile,
  the two come to the same number.

  Main results:
    * `length_listEndpoints`  — what the list with a filter on profiles holds;
    * `drillDown_agrees`      — the count and the list.
-/
import TLSentinel.Reports.Posture

namespace TLSentinel.Reports

open Foundation
open TLSentinel.Lists (Text Endpoint)
open TLSentinel.Endpoints.TypeChange (EndpointTLSProfile)

/-- The protocols of the report, by the name of their filter. -/
def protocolFilters : List (String × Count) :=
  [("ssl30", .ssl30), ("tls10", .tls10), ("tls11", .tls11), ("tls12", .tls12), ("tls13", .tls13)]

variable {T : Text} {Addr : Type} {db : DB T Addr}

/-- `TotalCount` of ListEndpoints, called with a filter on the profiles only. -/
def DB.filteredTotal (db : DB T Addr) (protocol cipher : String) : Nat :=
  (db.listEndpoints false "" "" "" "" protocol cipher).rows.length

theorem length_listEndpoints (db : DB T Addr) (protocol cipher : String) :
    db.filteredTotal protocol cipher =
      db.endpoints.rows.countP fun e => db.profileMatches protocol cipher e.id := by
  show (db.endpoints.rows.filterMap _).length = _
  rw [List.length_filterMap_eq_countP]
  refine List.countP_congr fun e _ => ?_
  simp only [Lists.DB.endpointMatches, Lists.DB.withScanner]
  split <;> simp_all

/-- **An endpoint has one profile, and a profile one endpoint**: a list whose filter asks for
a column of the profile has as many rows as there are such profiles. -/
theorem filteredTotal_eq {protocol cipher : String} {k : Count}
    (hk : k.endpoints db = db.profileEndpoints k)
    (hfilter : ∀ id, db.profileMatches protocol cipher id = true ↔
      ∃ p, db.tlsProfiles.find? id = some p ∧ p.scanError = none ∧ k.qualifies p = true) :
    db.filteredTotal protocol cipher = (k.endpoints db).length := by
  rw [length_listEndpoints, hk, DB.profileEndpoints, List.length_map,
    ← List.countP_eq_length_filter]
  refine countP_eq_of_same_keys fun id => ?_
  simp only [hfilter, Bool.and_eq_true, Option.isNone_iff_eq_none]
  constructor
  · rintro ⟨e, -, ⟨p, hp, herror, hq⟩, rfl⟩
    exact ⟨p, Table.mem_of_find? hp, ⟨herror, hq⟩, Table.key_of_find? hp⟩
  · rintro ⟨p, hp, ⟨herror, hq⟩, rfl⟩
    obtain ⟨e, he, hid⟩ := db.profileRefs p hp
    refine ⟨e, he, ⟨p, ?_, herror, hq⟩, hid⟩
    exact Table.find?_eq_some_iff.mpr ⟨hp, hid.symm⟩

theorem profileMatches_protocol {protocol : String} {k : Count}
    (h : (protocol, k) ∈ protocolFilters) (id : String) :
    db.profileMatches protocol "" id = true ↔
      ∃ p, db.tlsProfiles.find? id = some p ∧ p.scanError = none ∧ k.qualifies p = true := by
  simp only [protocolFilters, List.mem_cons, List.not_mem_nil, or_false, Prod.mk.injEq] at h
  unfold Lists.DB.profileMatches
  cases db.tlsProfiles.find? id with
  | none =>
      rcases h with ⟨rfl, rfl⟩ | ⟨rfl, rfl⟩ | ⟨rfl, rfl⟩ | ⟨rfl, rfl⟩ | ⟨rfl, rfl⟩ <;>
        simp [Lists.DB.validProtocolFilters]
  | some p =>
      rcases h with ⟨rfl, rfl⟩ | ⟨rfl, rfl⟩ | ⟨rfl, rfl⟩ | ⟨rfl, rfl⟩ | ⟨rfl, rfl⟩ <;>
        simp [Lists.DB.validProtocolFilters, Count.qualifies]

theorem profileMatches_cipher {cipher : String} (h : cipher ≠ "") (id : String) :
    db.profileMatches "" cipher id = true ↔
      ∃ p, db.tlsProfiles.find? id = some p ∧ p.scanError = none ∧
        (Count.cipher cipher).qualifies p = true := by
  unfold Lists.DB.profileMatches
  cases db.tlsProfiles.find? id with
  | none => simp [Lists.DB.validProtocolFilters, h]
  | some p => simp [Lists.DB.validProtocolFilters, Count.qualifies, h]

/-- **THE REPORT AND THE LIST AGREE.**  For every protocol and for every cipher that has a
name, the list of endpoints with that filter has as many rows as the report says. -/
theorem drillDown_agrees (A : Answers) (db : DB T Addr) :
    (∀ protocol k, (protocol, k) ∈ protocolFilters →
      k.number (getTLSPostureReport A db) = db.filteredTotal protocol "") ∧
    ∀ cipher, cipher ≠ "" →
      (Count.cipher cipher).number (getTLSPostureReport A db) = db.filteredTotal "" cipher := by
  refine ⟨fun protocol k hk => ?_, fun cipher hcipher => ?_⟩
  · have hprofiles : k.endpoints db = db.profileEndpoints k := by
      simp only [protocolFilters, List.mem_cons, List.not_mem_nil, or_false, Prod.mk.injEq] at hk
      rcases hk with ⟨-, rfl⟩ | ⟨-, rfl⟩ | ⟨-, rfl⟩ | ⟨-, rfl⟩ | ⟨-, rfl⟩ <;> rfl
    rw [number_eq, filteredTotal_eq hprofiles (profileMatches_protocol hk)]
  · rw [number_eq, filteredTotal_eq (k := .cipher cipher) rfl (profileMatches_cipher hcipher)]

/-- Two endpoints that accept one suite, of which the array of the first has it twice. -/
def repeatedSuite : DB Lists.plainText String :=
  { Lists.noRows with
    endpoints := ⟨[⟨"shop", "shop", "host", true, none, none, 0⟩,
      ⟨"mail", "mail", "host", true, none, none, 0⟩], by decide⟩
    tlsProfiles := ⟨[⟨⟨false, false, false, true, true, ["TLS_AES_128_GCM_SHA256",
        "TLS_RSA_WITH_RC4_128_SHA", "TLS_AES_128_GCM_SHA256"], none, none⟩, "shop", 0⟩,
      ⟨⟨false, false, false, true, false, ["TLS_AES_128_GCM_SHA256"], none, none⟩, "mail", 0⟩],
      by decide⟩
    issuers := fun _ => ⟨"", "", none⟩
    profileRefs := by decide }

/-- The suite counts once for each of them. -/
theorem drillDown_agrees_repeatedSuite :
    (Count.tls13.number (getTLSPostureReport stableAnswers repeatedSuite) =
          repeatedSuite.filteredTotal "tls13" ""
        ∧ repeatedSuite.filteredTotal "tls13" "" = 1)
    ∧ (Count.cipher "TLS_AES_128_GCM_SHA256").number
          (getTLSPostureReport stableAnswers repeatedSuite) =
          repeatedSuite.filteredTotal "" "TLS_AES_128_GCM_SHA256"
        ∧ repeatedSuite.filteredTotal "" "TLS_AES_128_GCM_SHA256" = 2 :=
  ⟨⟨(drillDown_agrees stableAnswers repeatedSuite).1 "tls13" .tls13 (by decide), by decide⟩,
    (drillDown_agrees stableAnswers repeatedSuite).2 _ (by decide), by decide⟩

/-- The empty cipher is no filter: the list has an endpoint, and no profile a suite. -/
theorem drillDown_empty_cipher :
    ¬ ∀ (T : Text) (Addr : Type) (A : Answers) (db : DB T Addr) (cipher : String),
        (Count.cipher cipher).number (getTLSPostureReport A db) = db.filteredTotal "" cipher := by
  intro h
  have hzero : (Count.cipher "").endpoints (oneProfile true) = [] := by decide
  have hone : (oneProfile true).filteredTotal "" "" = 1 := by decide
  have hcount := h _ _ stableAnswers (oneProfile true) ""
  rw [number_eq, hzero, hone] at hcount
  exact absurd hcount (by decide)

end TLSentinel.Reports
