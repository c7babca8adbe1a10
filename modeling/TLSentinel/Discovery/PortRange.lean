/-
  TLSentinel.Discovery.PortRange
  ──────────────────────────────
  **WHICH REQUESTS KEEP EVERY PORT BETWEEN 1 AND 65535.**

  Seven requests write ports: Create, Update, Patch and BulkImport of endpoints, the
  promotion of an inbox item, CreateNetwork and UpdateNetwork.  Patch alone looks at
  them.  The system is the tables they write, and for each network the ports that were
  last asked for; reports and deletions go on between the requests.

  Main results:
    * `next_spec`               — one step;
    * `portsInRange_always_iff` — a whole run.
-/
import TLSentinel.Endpoints.HostPorts
import TLSentinel.Discovery.Networks
import TLSentinel.Discovery.Promotion

namespace TLSentinel.Discovery.PortRange

open Foundation
open TLSentinel.Endpoints (Insertion EndpointRecord CreateEndpointRequest UpdateEndpointRequest
  BulkImportRow RawFields ValidPort createRecord updateRecord bulkLoop bulkImport)
open TLSentinel.Endpoints.DB (HostType InsertAccepted ReplaceAccepted)
open TLSentinel.Endpoints.HostPorts

/-! ## §1. The system. -/

section

variable {Addr : Type}

/-- The record that a promotion asks for: the checks of `PromoteInboxItem`, then the item. -/
def promoteAsked (inbox : Inbox Addr) (itemID : Nat)
    (body : Option PromoteDiscoveryInboxRequest) : Except HttpError EndpointRecord :=
  match body with
  | none => .error ⟨400, "invalid request body"⟩
  | some req =>
      if trimSpace req.name = "" then .error ⟨400, "name is required"⟩
      else if trimSpace req.dnsName = "" then .error ⟨400, "dnsName is required"⟩
      else
        match inbox.find? itemID with
        | none => .error ⟨404, "inbox item not found"⟩
        | some item => .ok (promoteRecord item req)

/-- `Handler.PromoteInboxItem`; the item is deleted if its deletion works. -/
def promoteInboxItem (store : Endpoints.DB) (inbox : Inbox Addr) (itemID : Nat) (o : Insertion)
    (deletes : Bool) (body : Option PromoteDiscoveryInboxRequest) :
    Endpoints.DB × Inbox Addr × Except HttpError String :=
  match promoteAsked inbox itemID body with
  | .error e => (store, inbox, .error e)
  | .ok rec =>
      match store.insertRecord o rec with
      | (store', .ok id) => (store', if deletes then inbox.deleteItem itemID else inbox, .ok id)
      | (store', .error _) => (store', inbox, .error ⟨500, "internal server error"⟩)

/-- The tables, and the ports that were last stored for each network, as they were asked
for. -/
structure Sys (Addr : Type) where
  store : Endpoints.DB
  inbox : Inbox Addr
  networks : NetworkTable
  requested : String → List Int

/-- The requests, and what else goes on. -/
inductive Action where
  | create (o : Insertion) (body : Option CreateEndpointRequest)
  | update (endpointID : String) (body : Option UpdateEndpointRequest)
  | patch (endpointID : String) (body : Option RawFields)
  | bulkImport (outcome : Nat → Insertion) (body : Option (List BulkImportRow))
  | promote (itemID : Nat) (o : Insertion) (deletes : Bool)
      (body : Option PromoteDiscoveryInboxRequest)
  | createNetwork (o : Insertion) (body : Option DiscoveryNetworkRequest)
  | updateNetwork (networkID : String) (body : Option DiscoveryNetworkRequest)
  | deleteEndpoint (endpointID : String)
  | deleteNetwork (networkID : String)
  | report (now : Int) (scannerID networkID : String) (items : List DiscoveryReportItem)
  | dismiss (itemID : Nat)
  | deleteItem (itemID : Nat)

/-- The system with a network written. -/
def Sys.withNetwork (s : Sys Addr) (networks : NetworkTable) (id : String)
    (body : Option DiscoveryNetworkRequest) : Sys Addr :=
  { s with
    networks := networks
    requested := Function.update s.requested id ((body.map (·.ports)).getD []) }

/-- The system after a statement that fails or leaves these tables. -/
def Sys.withStore {ε : Type} (s : Sys Addr) (inbox : Inbox Addr) :
    Except ε Endpoints.DB → Sys Addr
  | .error _ => s
  | .ok store => { s with store := store, inbox := inbox }

/-- The tables as a report sees them. -/
def Sys.discoveryDB (s : Sys Addr) : DB Addr where
  store := s.store
  networks := s.networks.rows.map (·.id)
  inbox := s.inbox

/-- `gen_random_uuid()` gives ids that no row has. -/
def FreshAction (s : Sys Addr) : Action → Prop
  | .create o _ => s.store.Unused o.id
  | .bulkImport outcome body => FreshIDs s.store outcome 0 (body.getD []).length
  | .promote _ o _ _ => s.store.Unused o.id
  | .createNetwork o _ => s.networks.find? o.id = none
  | _ => True

instance (s : Sys Addr) : ∀ a, Decidable (FreshAction s a)
  | .create o _ => inferInstanceAs (Decidable (s.store.Unused o.id))
  | .bulkImport outcome body =>
      inferInstanceAs (Decidable (FreshIDs s.store outcome 0 (body.getD []).length))
  | .promote _ o _ _ => inferInstanceAs (Decidable (s.store.Unused o.id))
  | .createNetwork o _ => inferInstanceAs (Decidable (s.networks.find? o.id = none))
  | .update _ _ | .patch _ _ | .updateNetwork _ _ | .deleteEndpoint _ | .deleteNetwork _
  | .report _ _ _ _ | .dismiss _ | .deleteItem _ => .isTrue trivial

section

variable [DecidableEq Addr] (parseInet : String → Option Addr)

/-- The system after an action; a request that fails changes nothing. -/
def next (s : Sys Addr) : Action → Sys Addr
  | .create o body => { s with store := (Endpoints.create s.store o body).1 }
  | .update endpointID body => s.withStore s.inbox (Endpoints.update s.store endpointID body)
  | .patch endpointID body => s.withStore s.inbox (Endpoints.patch s.store endpointID body)
  | .bulkImport outcome body => { s with store := (bulkImport s.store outcome body).1 }
  | .promote itemID o deletes body =>
      let promoted := promoteInboxItem s.store s.inbox itemID o deletes body
      { s with store := promoted.1, inbox := promoted.2.1 }
  | .createNetwork o body =>
      let networks := (createNetwork s.store s.networks o body).1
      if networks.find? o.id = none then s else s.withNetwork networks o.id body
  | .updateNetwork networkID body =>
      match updateNetwork s.store s.networks networkID body with
      | .error _ => s
      | .ok networks => s.withNetwork networks networkID body
  | .deleteEndpoint endpointID =>
      s.withStore (s.inbox.withoutEndpoint endpointID) (s.store.deleteEndpoint endpointID)
  | .deleteNetwork networkID =>
      { s with
        networks := s.networks.delete (fun n => n.id = networkID)
        inbox := s.inbox.delete (fun r => decide (r.networkID = some networkID)) }
  | .report now scannerID networkID items =>
      { s with
        inbox :=
          (reportDiscovery parseInet s.discoveryDB now scannerID networkID items).1.inbox }
  | .dismiss itemID => { s with inbox := s.inbox.dismiss itemID }
  | .deleteItem itemID => { s with inbox := s.inbox.deleteItem itemID }

/-- One step. -/
def step (s : Sys Addr) (a : Action) : Option (Sys Addr) :=
  if FreshAction s a then some (next parseInet s a) else none

end

/-- Every port of a host endpoint is valid; every network has the ports that were asked for,
and they are valid. -/
structure PortsInRange (s : Sys Addr) : Prop where
  hosts : ∀ e ∈ s.store.endpoints, HostType e.type → ∀ eh ∈ s.store.hosts,
    eh.endpointID = e.id → ValidPort eh.port
  networks : ∀ n ∈ s.networks, n.ports.map Int32.toInt = s.requested n.id ∧
    ∀ p ∈ n.ports, ValidPort p.toInt

/-- An accepted request asks for valid ports only; a PATCH may ask for what it likes. -/
def AsksValid (s : Sys Addr) : Action → Prop
  | .create o body => InsertValid s.store o (createRecord body)
  | .update endpointID body => ∀ rec, updateRecord body = .ok rec →
      s.store.ReplaceAccepted endpointID rec → ValidRecord rec
  | .bulkImport outcome body => AllImportsValid s.store outcome 0 (body.getD [])
  | .promote itemID o _ body => InsertValid s.store o (promoteAsked s.inbox itemID body)
  | .createNetwork o body => ∀ req, checkNetwork body = .ok req →
      NetworkAccepted s.store o req → ∀ p ∈ req.ports, ValidPort p
  | .updateNetwork networkID body => ∀ req, checkNetwork body = .ok req →
      NetworkReplaced s.store s.networks networkID req → ∀ p ∈ req.ports, ValidPort p
  | _ => True

/-! ## §2. What a step does to the ports. -/

/-- Every network has the ports that were asked for, and they are valid. -/
def NetworksExact (networks : NetworkTable) (requested : String → List Int) : Prop :=
  ∀ n ∈ networks, n.ports.map Int32.toInt = requested n.id ∧ ∀ p ∈ n.ports, ValidPort p.toInt

theorem portsInRange_iff {s : Sys Addr} :
    PortsInRange s ↔ AllValid s.store ∧ NetworksExact s.networks s.requested := by
  rw [allValid_iff]
  exact ⟨fun h => ⟨h.hosts, h.networks⟩, fun h => ⟨h.1, h.2⟩⟩

/-- The body of a request that passes its checks. -/
theorem body_of_checkNetwork {body : Option DiscoveryNetworkRequest}
    {req : DiscoveryNetworkRequest} (h : checkNetwork body = .ok req) : body = some req := by
  unfold checkNetwork at h
  cases body with
  | none => cases h
  | some req' =>
      dsimp only at h
      repeat' split at h
      all_goals simp_all

/-- **A network that is written** keeps the networks exact exactly if its ports are valid. -/
theorem networksExact_write {networks networks' : NetworkTable} {requested : String → List Int}
    {id : String} {body : Option DiscoveryNetworkRequest} {req : DiscoveryNetworkRequest}
    (hreq : checkNetwork body = .ok req)
    (hmem : ∀ n, n ∈ networks' ↔ (n ∈ networks ∧ n.id ≠ id) ∨ n = networkRow id req)
    (hexact : NetworksExact networks requested) :
    NetworksExact networks' (Function.update requested id ((body.map (·.ports)).getD [])) ↔
      ∀ p ∈ req.ports, ValidPort p := by
  rw [body_of_checkNetwork hreq, Option.map_some, Option.getD_some, ← storedPorts_exact_iff]
  constructor
  · intro h
    have hrow := h (networkRow id req) ((hmem _).mpr (Or.inr rfl))
    rwa [show (networkRow id req).id = id from rfl, Function.update_self] at hrow
  · intro h n hn
    obtain ⟨hn, hne⟩ | rfl := (hmem n).mp hn
    · rw [Function.update_of_ne hne]
      exact hexact n hn
    · rw [show (networkRow id req).id = id from rfl, Function.update_self]
      exact h

/-- The ports after a step that leaves these tables. -/
theorem portsInRange_iff_of_tables {s t : Sys Addr} {db : Endpoints.DB} (h : PortsInRange s)
    (hstore : t.store = db) (hnetworks : t.networks = s.networks)
    (hrequested : t.requested = s.requested) : PortsInRange t ↔ AllValid db := by
  rw [portsInRange_iff, hstore, hnetworks, hrequested]
  exact and_iff_left (portsInRange_iff.mp h).2

theorem portsInRange_withStore {ε : Type} {s : Sys Addr} {db : Endpoints.DB}
    {inbox : Inbox Addr} (h : PortsInRange s) :
    PortsInRange (s.withStore inbox (.ok db : Except ε Endpoints.DB)) ↔ AllValid db :=
  portsInRange_iff_of_tables h rfl rfl rfl

/-- A step that writes a network with these ports. -/
theorem portsInRange_withNetwork {s : Sys Addr} {networks : NetworkTable} {id : String}
    {body : Option DiscoveryNetworkRequest} {req : DiscoveryNetworkRequest}
    (h : PortsInRange s) (hreq : checkNetwork body = .ok req)
    (hmem : ∀ n, n ∈ networks ↔ (n ∈ s.networks ∧ n.id ≠ id) ∨ n = networkRow id req) :
    PortsInRange (s.withNetwork networks id body) ↔ ∀ p ∈ req.ports, ValidPort p := by
  obtain ⟨hvalid, hexact⟩ := portsInRange_iff.mp h
  rw [portsInRange_iff, ← networksExact_write hreq hmem hexact]
  exact and_iff_right hvalid

theorem promoteInboxItem_fst (store : Endpoints.DB) (inbox : Inbox Addr) (itemID : Nat)
    (o : Insertion) (deletes : Bool) (body : Option PromoteDiscoveryInboxRequest) :
    (promoteInboxItem store inbox itemID o deletes body).1 =
      written store o (promoteAsked inbox itemID body) := by
  unfold promoteInboxItem written
  cases promoteAsked inbox itemID body with
  | error e => rfl
  | ok rec =>
      dsimp only
      split <;> simp_all

theorem createNetwork_fst {store : Endpoints.DB} {networks : NetworkTable} {o : Insertion}
    {body : Option DiscoveryNetworkRequest} {req : DiscoveryNetworkRequest}
    (h : checkNetwork body = .ok req) :
    (createNetwork store networks o body).1 =
      (insertDiscoveryNetwork store networks o req).1 := by
  unfold createNetwork
  rw [h]
  dsimp only
  split <;> simp_all

/-- A CreateNetwork adds its row, or changes nothing. -/
theorem createNetwork_cases (store : Endpoints.DB) {networks : NetworkTable} {o : Insertion}
    (hid : networks.find? o.id = none) (body : Option DiscoveryNetworkRequest) :
    (∃ req, checkNetwork body = .ok req ∧ NetworkAccepted store o req ∧
        ∀ n, n ∈ (createNetwork store networks o body).1 ↔
          (n ∈ networks ∧ n.id ≠ o.id) ∨ n = networkRow o.id req) ∨
      (∀ req, checkNetwork body = .ok req → ¬NetworkAccepted store o req) ∧
        (createNetwork store networks o body).1 = networks := by
  cases hreq : checkNetwork body with
  | error e =>
      refine Or.inr ⟨fun req h => (by cases h), ?_⟩
      unfold createNetwork
      rw [hreq]
  | ok req =>
      rw [createNetwork_fst hreq]
      obtain ⟨haccepted, hmem⟩ | ⟨hrefused, hsame⟩ :=
        @insertDiscoveryNetwork_cases store networks o hid req
      · refine Or.inl ⟨req, rfl, haccepted, fun n => (hmem n).trans ?_⟩
        have hne : ∀ n ∈ networks, n.id ≠ o.id := Table.find?_eq_none_iff.mp hid
        exact or_congr_left ⟨fun hn => ⟨hn, hne n hn⟩, fun hn => hn.1⟩
      · exact Or.inr ⟨fun req' h => Except.ok.inj h ▸ hrefused, hsame⟩

/-- An UpdateNetwork replaces its row, or fails. -/
theorem updateNetwork_cases (store : Endpoints.DB) (networks : NetworkTable) (id : String)
    (body : Option DiscoveryNetworkRequest) :
    (∃ req networks', checkNetwork body = .ok req ∧ NetworkReplaced store networks id req ∧
        updateNetwork store networks id body = .ok networks' ∧
        ∀ n, n ∈ networks' ↔ (n ∈ networks ∧ n.id ≠ id) ∨ n = networkRow id req) ∨
      (∀ req, checkNetwork body = .ok req → ¬NetworkReplaced store networks id req) ∧
        ∃ e, updateNetwork store networks id body = .error e := by
  unfold updateNetwork
  cases hreq : checkNetwork body with
  | error e => exact Or.inr ⟨fun req h => (by cases h), e, rfl⟩
  | ok req =>
      dsimp only
      obtain ⟨hreplaced, hok⟩ | ⟨hrefused, e, herror⟩ :=
        updateDiscoveryNetwork_cases store networks id req
      · rw [hok]
        exact Or.inl ⟨req, _, rfl, hreplaced, rfl, fun n => Table.mem_upsert⟩
      · rw [herror]
        refine Or.inr ⟨fun req' h => Except.ok.inj h ▸ hrefused, ?_⟩
        cases e <;> exact ⟨_, rfl⟩

/-! ## §3. Runs. -/

variable [DecidableEq Addr] {parseInet : String → Option Addr}

theorem step_eq_some {s t : Sys Addr} {a : Action} (h : step parseInet s a = some t) :
    FreshAction s a ∧ next parseInet s a = t := by
  unfold step at h
  split at h
  · next hfresh => exact ⟨hfresh, Option.some.inj h⟩
  · cases h

/-- What is asked of the record of a request that is accepted. -/
theorem asks_of_ok {ε ρ : Type} (Valid : ρ → Prop) {x : Except ε ρ} {r : ρ}
    {Accepted : ρ → Prop} (hx : x = .ok r) (hr : Accepted r) :
    (∀ r', x = .ok r' → Accepted r' → Valid r') ↔ Valid r := by
  refine ⟨fun h => h r hx hr, fun h r' hx' _ => ?_⟩
  rw [hx] at hx'
  exact Except.ok.inj hx' ▸ h

/-- **One step** keeps the rows of host endpoints, and the ports in range exactly if it asks for
valid ports. -/
theorem next_spec {s : Sys Addr} {a : Action} (hfresh : FreshAction s a)
    (hrows : HostRows s.store) :
    HostRows (next parseInet s a).store ∧
      (PortsInRange s → (PortsInRange (next parseInet s a) ↔ AsksValid s a)) := by
  cases a with
  | create o body =>
      obtain ⟨hvalid, hkeep, -, -⟩ := allValid_written hfresh (createRecord body)
      have hstore : (next parseInet s (.create o body)).store =
          written s.store o (createRecord body) := create_fst s.store o body
      refine ⟨hstore ▸ hkeep hrows, fun h => ?_⟩
      rw [portsInRange_iff_of_tables h hstore rfl rfl, hvalid]
      exact and_iff_right (portsInRange_iff.mp h).1
  | update id body =>
      show HostRows (s.withStore s.inbox (Endpoints.update s.store id body)).store ∧
        (_ → (PortsInRange (s.withStore s.inbox (Endpoints.update s.store id body)) ↔ _))
      obtain ⟨rec, db', hrec, haccepted, hupdate, hok⟩ | ⟨hrefused, e, herror⟩ :=
        update_cases s.store id body
      · rw [hok]
        refine ⟨(allValid_write (hostPort_updateEndpoint hupdate)).2 hrows, fun h => ?_⟩
        rw [portsInRange_withStore h,
          allValid_replaceRecord hupdate (portsInRange_iff.mp h).1]
        exact (asks_of_ok ValidRecord hrec haccepted).symm
      · rw [herror]
        exact ⟨hrows, fun h =>
          ⟨fun _ rec hrec haccepted => absurd haccepted (hrefused rec hrec), fun _ => h⟩⟩
  | patch id body =>
      show HostRows (s.withStore s.inbox (Endpoints.patch s.store id body)).store ∧
        (_ → (PortsInRange (s.withStore s.inbox (Endpoints.patch s.store id body)) ↔ _))
      cases hpatch : Endpoints.patch s.store id body with
      | error e => exact ⟨hrows, fun h => ⟨fun _ => trivial, fun _ => h⟩⟩
      | ok db' =>
          refine ⟨hostRows_patch hrows hpatch, fun h => ⟨fun _ => trivial, fun _ => ?_⟩⟩
          rw [portsInRange_withStore h]
          exact allValid_patch hrows (portsInRange_iff.mp h).1 hpatch
  | bulkImport outcome body =>
      obtain ⟨hvalid, hkeep⟩ := allValid_bulkLoop (body.getD []) 0 s.store ⟨0, 0, []⟩ hfresh
      have hstore : (next parseInet s (.bulkImport outcome body)).store =
          (bulkLoop outcome 0 (body.getD []) (s.store, ⟨0, 0, []⟩)).1 :=
        bulkImport_fst s.store outcome body
      refine ⟨hstore ▸ hkeep hrows, fun h => ?_⟩
      rw [portsInRange_iff_of_tables h hstore rfl rfl, hvalid]
      exact and_iff_right (portsInRange_iff.mp h).1
  | promote itemID o deletes body =>
      obtain ⟨hvalid, hkeep, -, -⟩ := allValid_written hfresh (promoteAsked s.inbox itemID body)
      have hstore : (next parseInet s (.promote itemID o deletes body)).store =
          written s.store o (promoteAsked s.inbox itemID body) :=
        promoteInboxItem_fst s.store s.inbox itemID o deletes body
      refine ⟨hstore ▸ hkeep hrows, fun h => ?_⟩
      rw [portsInRange_iff_of_tables h hstore rfl rfl, hvalid]
      exact and_iff_right (portsInRange_iff.mp h).1
  | createNetwork o body =>
      have hnone : s.networks.find? o.id = none := hfresh
      unfold next
      dsimp only
      obtain ⟨req, hreq, haccepted, hmem⟩ | ⟨hrefused, hsame⟩ :=
        createNetwork_cases s.store hnone body
      · have hfound : (createNetwork s.store s.networks o body).1.find? o.id ≠ none := by
          intro hmissing
          exact Table.find?_eq_none_iff.mp hmissing _ ((hmem _).mpr (Or.inr rfl)) rfl
        rw [if_neg hfound]
        refine ⟨hrows, fun h => ?_⟩
        rw [portsInRange_withNetwork h hreq hmem]
        exact (asks_of_ok (fun req => ∀ p ∈ req.ports, ValidPort p) hreq haccepted).symm
      · rw [hsame, if_pos hnone]
        exact ⟨hrows, fun h =>
          ⟨fun _ req hreq haccepted => absurd haccepted (hrefused req hreq), fun _ => h⟩⟩
  | updateNetwork id body =>
      unfold next
      obtain ⟨req, networks', hreq, hreplaced, hok, hmem⟩ | ⟨hrefused, e, herror⟩ :=
        updateNetwork_cases s.store s.networks id body
      · simp only [hok]
        refine ⟨hrows, fun h => ?_⟩
        rw [portsInRange_withNetwork h hreq hmem]
        exact (asks_of_ok (fun req => ∀ p ∈ req.ports, ValidPort p) hreq hreplaced).symm
      · simp only [herror]
        exact ⟨hrows, fun h =>
          ⟨fun _ req hreq hreplaced => absurd hreplaced (hrefused req hreq), fun _ => h⟩⟩
  | deleteEndpoint id =>
      show HostRows (s.withStore _ (s.store.deleteEndpoint id)).store ∧
        (_ → (PortsInRange (s.withStore _ (s.store.deleteEndpoint id)) ↔ _))
      cases hdelete : s.store.deleteEndpoint id with
      | error e => exact ⟨hrows, fun h => ⟨fun _ => trivial, fun _ => h⟩⟩
      | ok db' =>
          obtain ⟨hvalid, hkeep⟩ := allValid_deleteEndpoint hdelete
          refine ⟨hkeep hrows, fun h => ⟨fun _ => trivial, fun _ => ?_⟩⟩
          rw [portsInRange_withStore h]
          exact hvalid (portsInRange_iff.mp h).1
  | deleteNetwork id =>
      refine ⟨hrows, fun h => ⟨fun _ => trivial, fun _ => ⟨h.hosts, fun n hn => ?_⟩⟩⟩
      exact h.networks n (Table.mem_delete.mp hn).1
  | report now scannerID networkID items =>
      exact ⟨hrows, fun h => ⟨fun _ => trivial, fun _ => ⟨h.hosts, h.networks⟩⟩⟩
  | dismiss itemID => exact ⟨hrows, fun h => ⟨fun _ => trivial, fun _ => ⟨h.hosts, h.networks⟩⟩⟩
  | deleteItem itemID =>
      exact ⟨hrows, fun h => ⟨fun _ => trivial, fun _ => ⟨h.hosts, h.networks⟩⟩⟩

/-- The tables before the first request; scanners are there. -/
def initial (Addr : Type) (scanners : Table Endpoints.Scanner.id) : Sys Addr where
  store :=
    { endpoints := Table.empty
      hosts := Table.empty
      saml := Table.empty
      scanners := scanners }
  inbox := ⟨Table.empty, 0, Table.forall_mem_empty, Table.forall_mem_empty⟩
  networks := Table.empty
  requested := fun _ => []

/-- **Ports stay in range** exactly in the runs whose accepted requests ask for valid ports. -/
theorem portsInRange_always_iff {scanners : Table Endpoints.Scanner.id} {t : Sys Addr}
    {tr : List (Sys Addr × Action)} (e : Exec (step parseInet) (initial Addr scanners) tr t) :
    (∀ u ∈ visited tr t, PortsInRange u) ↔ ∀ p ∈ tr, AsksValid p.1 p.2 := by
  apply e.always_iff (J := fun s => HostRows s.store)
  · intro s a t hrows h
    obtain ⟨hfresh, rfl⟩ := step_eq_some h
    exact (next_spec hfresh hrows).1
  · intro s a t hrows hports h
    obtain ⟨hfresh, rfl⟩ := step_eq_some h
    exact (next_spec hfresh hrows).2 hports
  · intro id
    simp [hostPort, initial, Table.empty, Table.find?]
  · exact ⟨Table.forall_mem_empty, Table.forall_mem_empty⟩

/-- A Create of a host with the port. -/
def createHost (port : Int) : Action :=
  .create ⟨"1", true, true⟩ (some
    { name := "api"
      type := "host"
      dnsName := "api.example.com"
      ipAddress := none
      port := port
      url := none
      scannerID := none
      notes := none })

/-- The run of one such request. -/
theorem exec_createHost (port : Int) :
    Exec (step (some : String → Option String)) (initial String Table.empty)
      [(initial String Table.empty, createHost port)]
      (next some (initial String Table.empty) (createHost port)) :=
  Exec.cons (if_pos ⟨rfl, rfl, rfl⟩) (Exec.refl _)

/-- A port that is asked for in range. -/
theorem portsInRange_always_iff_createHost :
    PortsInRange (next some (initial String Table.empty) (createHost 8443)) := by
  refine (portsInRange_always_iff (exec_createHost 8443)).mpr (fun p hp => ?_) _
    (last_mem_visited _ _)
  rw [List.mem_singleton.mp hp]
  intro rec hrec _ _
  cases hrec
  decide

/-- **Nobody looks at the port of a Create.** -/
theorem portsInRange_broken :
    ¬∀ (tr : List (Sys String × Action)) (t : Sys String),
      Exec (step some) (initial String Table.empty) tr t →
        ∀ u ∈ visited tr t, PortsInRange u := by
  intro h
  have hports := h _ _ (exec_createHost 70000) _ (last_mem_visited _ _)
  exact absurd (hports.hosts ⟨"1", "api", "host", true, false, none, none⟩ (by decide)
    (by decide) ⟨"1", some "api.example.com", none, 70000⟩ (by decide) rfl) (by decide)

end

end TLSentinel.Discovery.PortRange
