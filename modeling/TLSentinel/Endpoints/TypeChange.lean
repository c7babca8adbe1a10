/-
  TLSentinel.Endpoints.TypeChange
  ───────────────────────────────
  **WHAT CHANGING AN ENDPOINT'S TYPE LEAVES BEHIND.**

  UpdateEndpoint clears the rows of the types it knows, `endpoint_hosts` and
  `endpoint_saml`.  What scanners write for an endpoint lies in two more tables:
  its TLS profile (`internal/db/endpoint_tls_profiles_store.go`, read by
  GetTLSPostureReport of `reports_store.go`) and its certificates
  (`endpoint_certs`).

  The endpoint's row is split here as in the modules it comes from: what users
  configure is `TLSentinel.Endpoints.Store`, what scans write is
  `TLSentinel.Scans.Store`; `sameEndpoints` says that both are about the same
  endpoints.

  Main results:
    * `updateEndpoint_noOrphans_iff` — a type change leaves no orphans exactly if
                              there was nothing scanned to leave behind;
    * `protocolCounts_updateEndpoint` — the posture report counts on.
-/
import TLSentinel.Scans.Store
import TLSentinel.Endpoints.Store

namespace TLSentinel.Endpoints.TypeChange

open Foundation
open TLSentinel.Endpoints.DB (HostType Accepted)

/-! ## §1. TLS profiles. -/

/-- `models.TLSProfileIngestRequest`. -/
structure TLSProfileIngestRequest where
  ssl30 : Bool
  tls10 : Bool
  tls11 : Bool
  tls12 : Bool
  tls13 : Bool
  cipherSuites : List String
  selectedCipher : Option String
  scanError : Option String
  deriving DecidableEq, Repr

/-- A row of `tlsentinel.endpoint_tls_profiles`. -/
structure EndpointTLSProfile extends TLSProfileIngestRequest where
  endpointID : String
  scannedAt : Int
  deriving DecidableEq, Repr

/-- The endpoint a profile belongs to. -/
def EndpointTLSProfile.key (p : EndpointTLSProfile) : String := p.endpointID

abbrev ProfileTable := Table EndpointTLSProfile.key

/-- `models.TLSProtocolCounts`, with the number of legacy endpoints. -/
structure TLSProtocolCounts where
  tls13 : Nat
  tls12 : Nat
  tls11 : Nat
  tls10 : Nat
  ssl30 : Nat
  legacyEndpoints : Nat
  deriving DecidableEq, Repr

/-- The protocol counts of `GetTLSPostureReport`: they look at no endpoint. -/
def protocolCounts (profiles : ProfileTable) : TLSProtocolCounts :=
  let ok := profiles.rows.filter (fun p => p.scanError.isNone)
  ⟨ok.countP (fun p => p.tls13), ok.countP (fun p => p.tls12), ok.countP (fun p => p.tls11),
    ok.countP (fun p => p.tls10), ok.countP (fun p => p.ssl30),
    ok.countP (fun p => p.ssl30 || p.tls10 || p.tls11)⟩

/-! ## §2. The database. -/

/-- The tables. -/
structure DB where
  store : Endpoints.DB
  scans : Scans.DB
  tlsProfiles : ProfileTable
  sameEndpoints : ∀ id,
    (∃ e ∈ store.endpoints, e.id = id) ↔ Scans.HasEndpoint scans.endpoints id

namespace DB

/-- `UpsertEndpointTLSProfile`; `none` is the violated foreign key. -/
def upsertTLSProfile (db : DB) (now : Int) (endpointID : String)
    (req : TLSProfileIngestRequest) : Option DB :=
  if Scans.HasEndpoint db.scans.endpoints endpointID then
    some { db with tlsProfiles := db.tlsProfiles.upsert ⟨req, endpointID, now⟩ }
  else none

theorem sameEndpoints_updateEndpoint {db : DB} {id : String} {rec : EndpointRecord}
    {d : Endpoints.DB} (h : db.store.updateEndpoint id rec = .ok d) (id' : String) :
    (∃ e ∈ d.endpoints, e.id = id') ↔ Scans.HasEndpoint db.scans.endpoints id' := by
  rw [(Endpoints.DB.updateEndpoint_ok h).1, Table.exists_mem_update, ← db.sameEndpoints]
  have hid : ∀ e : Endpoint,
      (if decide (e.id = id) = true then Endpoints.DB.withRecord rec e else e).id = e.id := by
    intro e
    split <;> rfl
  simp only [hid]

/-- `UpdateEndpoint`. -/
def updateEndpoint (db : DB) (id : String) (rec : EndpointRecord) : Except StoreError DB :=
  match h : db.store.updateEndpoint id rec with
  | .ok d => .ok { db with store := d, sameEndpoints := sameEndpoints_updateEndpoint h }
  | .error e => .error e

theorem updateEndpoint_eq_ok {db db' : DB} {id : String} {rec : EndpointRecord}
    (h : db.updateEndpoint id rec = .ok db') :
    db.store.updateEndpoint id rec = .ok db'.store ∧ db'.scans = db.scans ∧
      db'.tlsProfiles = db.tlsProfiles := by
  unfold updateEndpoint at h
  split at h
  · next d hd =>
      injection h with h
      subst h
      exact ⟨hd, rfl, rfl⟩
  · exact absurd h (by simp)

/-- The posture report counts the profile of an endpoint that is no host any more. -/
theorem protocolCounts_updateEndpoint {db db' : DB} {id : String} {rec : EndpointRecord}
    (h : db.updateEndpoint id rec = .ok db') :
    protocolCounts db'.tlsProfiles = protocolCounts db.tlsProfiles := by
  rw [(updateEndpoint_eq_ok h).2.2]

end DB

/-- Scans neither create nor delete endpoints. -/
theorem hasEndpoint_scanStep {d d' : Scans.DB} {a : Scans.Action}
    (h : Scans.step d a = some d') (id : String) :
    Scans.HasEndpoint d'.endpoints id ↔ Scans.HasEndpoint d.endpoints id := by
  cases Scans.step_cases h with
  | call hcall =>
      rw [(Scans.DB.recordScanResult_eq_some hcall).endpoints]
      exact Scans.DB.hasEndpoint_scanState
  | cert hcall =>
      obtain ⟨_, _, _, hend, _⟩ := Scans.DB.upsertEndpointCert_eq_some hcall
      rw [hend]
  | callFails => exact Iff.rfl
  | certFails => exact Iff.rfl
  | purge => exact Iff.rfl
  | ingest => exact Iff.rfl

/-! ## §3. Orphans. -/

/-- The certificate uses that belong to one type only. -/
def usesOf (type : String) : List String :=
  if HostType type then ["tls"]
  else if type = "saml" then ["signing", "encryption"]
  else []

/-- The types differ; the empty one is read as host. -/
def Differ (old new : String) : Prop := old ≠ new ∧ ¬ (HostType old ∧ HostType new)

instance (old new : String) : Decidable (Differ old new) := inferInstanceAs (Decidable (_ ∧ _))

/-- The endpoint, which changed from one type to another, has no row of another type. -/
structure NoOrphans (db : DB) (id old new : String) : Prop where
  host : db.store.hosts.find? id ≠ none → HostType new
  profile : db.tlsProfiles.find? id ≠ none → HostType new
  saml : db.store.saml.find? id ≠ none → new = "saml"
  certs : ∀ c ∈ db.scans.endpointCerts, c.endpointID = id → c.isCurrent = true →
    c.certUse ∉ usesOf old

/-- There is nothing scanned to leave behind. -/
structure NothingScanned (db : DB) (id old new : String) : Prop where
  profile : db.tlsProfiles.find? id ≠ none → HostType new
  certs : ∀ c ∈ db.scans.endpointCerts, c.endpointID = id → c.isCurrent = true →
    c.certUse ∉ usesOf old

/-- **One UpdateEndpoint.** -/
theorem noOrphans_updateEndpoint_iff {db db' : DB} {id old : String} {rec : EndpointRecord}
    (h : db.updateEndpoint id rec = .ok db') :
    NoOrphans db' id old rec.type ↔ NothingScanned db id old rec.type := by
  obtain ⟨hstore, hscans, hprofiles⟩ := DB.updateEndpoint_eq_ok h
  obtain ⟨_, _, hhosts, hsaml⟩ := Endpoints.DB.updateEndpoint_ok hstore
  constructor
  · -- the update leaves profiles and certificates alone
    intro hno
    exact ⟨hprofiles ▸ hno.profile, hscans ▸ hno.certs⟩
  · intro hnothing
    refine ⟨?_, hprofiles.symm ▸ hnothing.profile, ?_, hscans.symm ▸ hnothing.certs⟩
    · -- the rows of the other types are deleted
      intro hrow
      rw [hhosts, if_pos rfl] at hrow
      by_contra hnew
      exact hrow (if_neg hnew)
    · intro hrow
      rw [hsaml, if_pos rfl] at hrow
      by_contra hnew
      exact hrow (if_neg hnew)

/-! ## §4. Runs. -/

/-- Scans and certificate links, TLS profiles, and updates of endpoints. -/
inductive Action where
  | scan (a : Scans.Action)
  | upsertTLSProfile (now : Int) (endpointID : String) (req : TLSProfileIngestRequest)
  | updateEndpoint (id : String) (rec : EndpointRecord)

/-- One request; a failed one is rolled back. -/
def step (db : DB) : Action → Option DB
  | .scan a =>
      match h : Scans.step db.scans a with
      | some d => some { db with
          scans := d
          sameEndpoints := fun id =>
            (db.sameEndpoints id).trans (hasEndpoint_scanStep h id).symm }
      | none => none
  | .upsertTLSProfile now endpointID req =>
      some ((db.upsertTLSProfile now endpointID req).getD db)
  | .updateEndpoint id rec =>
      match db.updateEndpoint id rec with
      | .ok db' => some db'
      | .error _ => some db

/-- The action is an accepted UpdateEndpoint of the endpoint, from one type to another. -/
def ChangesType (db : DB) (a : Action) (id old new : String) : Prop :=
  ∃ rec e, a = .updateEndpoint id rec ∧ db.store.Accepted id rec ∧
    db.store.endpoints.find? id = some e ∧ e.type = old ∧ rec.type = new ∧ Differ old new

/-- The step, if it changes a type, leaves no orphans. -/
def LeavesNoOrphans (db : DB) (a : Action) (db' : DB) : Prop :=
  ∀ id old new, ChangesType db a id old new → NoOrphans db' id old new

/-- If the step changes a type, nothing was scanned that it would leave behind. -/
def ChangesUnscanned (db : DB) (a : Action) : Prop :=
  ∀ id old new, ChangesType db a id old new → NothingScanned db id old new

/-- **The step lemma.** -/
theorem leavesNoOrphans_iff {db db' : DB} {a : Action} (h : step db a = some db') :
    LeavesNoOrphans db a db' ↔ ChangesUnscanned db a := by
  unfold LeavesNoOrphans ChangesUnscanned
  refine forall_congr' fun id => forall_congr' fun old => forall_congr' fun new =>
    forall_congr' fun hchange => ?_
  obtain ⟨rec, e, ha, haccepted, _, _, hnew, _⟩ := hchange
  subst ha hnew
  simp only [step] at h
  split at h
  · next db'' hok =>
      injection h with h
      subst h
      exact noOrphans_updateEndpoint_iff hok
  · next err herr =>
      -- an accepted update returns no error
      obtain ⟨d, hd⟩ := Endpoints.DB.updateEndpoint_isOk_iff.mpr haccepted
      unfold DB.updateEndpoint at herr
      split at herr
      · exact absurd herr (by simp)
      · next herr' => exact absurd (hd.symm.trans herr') (by simp)

/-- **Type changes leave no orphans** in a run exactly if each of them finds nothing scanned
that it would leave behind. -/
theorem updateEndpoint_noOrphans_iff {start t : DB} {tr : List (DB × Action)}
    (e : Exec step start tr t) :
    (∀ p ∈ tr, ∀ u, step p.1 p.2 = some u → LeavesNoOrphans p.1 p.2 u) ↔
      ∀ p ∈ tr, ChangesUnscanned p.1 p.2 := by
  have h := e.always_steps_iff (C := ChangesUnscanned) (J := fun _ => True) (P := fun _ => True)
    (Q := LeavesNoOrphans) (fun _ _ _ _ _ => trivial)
    (fun s a u _ _ hstep => by rw [true_and]; exact leavesNoOrphans_iff hstep) trivial trivial
  simpa using h

/-- One host, never scanned, and a certificate. -/
def newHost : DB where
  store :=
    { endpoints := ⟨[⟨"web", "www", "host", true, false, none, none⟩], by decide⟩
      hosts := ⟨[⟨"web", some "www.example.com", none, 443⟩], by decide⟩
      saml := Table.empty
      scanners := Table.empty }
  scans := Scans.newEndpoint
  tlsProfiles := Table.empty
  sameEndpoints := by
    intro id
    show (∃ e ∈ [(⟨"web", "www", "host", true, false, none, none⟩ : Endpoint)], e.id = id) ↔
      ∃ e ∈ [(⟨"web", none, none, none, 0⟩ : Scans.Endpoint)], e.id = id
    simp

/-- The record of an endpoint without a scanner. -/
def record (type : String) : EndpointRecord :=
  ⟨"www", type, "www.example.com", none, 443, some "https://www.example.com/metadata", true,
    false, none, none⟩

/-- A host is scanned, becomes a manual endpoint, and keeps what the scan wrote. -/
theorem updateEndpoint_leaves_orphans :
    ¬ ∀ (start t : DB) (tr : List (DB × Action)), Exec step start tr t →
      ∀ p ∈ tr, ∀ u, step p.1 p.2 = some u → LeavesNoOrphans p.1 p.2 u := by
  intro hclaim
  have e : Exec step newHost (traceFrom step newHost
      [.scan (.recordScanResult 10 "web" (Scans.sawCert "A")),
        .updateEndpoint "web" (record "manual")]) _ := exec_traceFrom rfl
  have hlast := hclaim _ _ _ e _ (.tail _ (.head _)) _ rfl
  have hnothing := (leavesNoOrphans_iff rfl).mp hlast "web" "host" "manual"
    ⟨record "manual", ⟨"web", "www", "host", true, false, none, none⟩, rfl, by decide, rfl, rfl,
      rfl, by decide⟩
  -- the certificate of the scan is still current
  exact hnothing.certs ⟨1, "web", "A", "tls", true, 10, 10⟩ (by decide) rfl rfl (by decide)

/-- A host that was never scanned becomes a SAML endpoint. -/
theorem updateEndpoint_noOrphans_newHost :
    ∃ t, run step newHost [.updateEndpoint "web" (record "saml")] = some t ∧
      LeavesNoOrphans newHost (.updateEndpoint "web" (record "saml")) t := by
  refine ⟨_, rfl, ?_⟩
  have e : Exec step newHost (traceFrom step newHost [.updateEndpoint "web" (record "saml")]) _ :=
    exec_traceFrom rfl
  refine (updateEndpoint_noOrphans_iff e).mpr ?_ _ (.head _) _ rfl
  intro p hp id old new hchange
  have hp' : p = (newHost, .updateEndpoint "web" (record "saml")) := List.mem_singleton.mp hp
  subst hp'
  exact ⟨fun h => absurd rfl h, fun c hc => absurd hc (Table.not_mem_empty c)⟩

end TLSentinel.Endpoints.TypeChange
