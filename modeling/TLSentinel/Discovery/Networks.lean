/-
  TLSentinel.Discovery.Networks
  ─────────────────────────────
  **DISCOVERY NETWORKS: THE CHECKS OF A REQUEST AND WHAT IS STORED.**

  `CreateNetwork` and `UpdateNetwork` of `internal/discovery/handler.go` with the two
  store functions of `internal/db/discovery_store.go`.  The requested ports are ints,
  the stored ones int32s, and the conversion keeps the low 32 bits.

  Main result:
    * `storedPorts_exact_iff` — when the stored ports are the requested ones, and valid.
-/
import TLSentinel.Endpoints.Writes
import TLSentinel.Foundation.NetAddr

namespace TLSentinel.Discovery

open Foundation
open Foundation.NetAddr (parseCIDR parseIP to4)
open TLSentinel.Endpoints (Insertion StoreError ValidPort)

/-! ## §1. Ranges. -/

/-- What `validateRange` answers, by its texts. -/
inductive RangeError where
  /-- "invalid start IP %q in range". -/
  | startIP (startStr : String)
  /-- "invalid end IP %q in range". -/
  | endIP (endStr : String)
  /-- "range start %s must not be greater than range end %s". -/
  | order (startStr endStr : String)
  /-- "range must be CIDR notation (e.g. 10.0.0.0/24) or a hyphenated range
  (e.g. 192.168.1.1-192.168.1.254)". -/
  | form
  deriving DecidableEq, Repr

/-- `validateRange`; `none` is the empty text, a valid range. -/
def validateRange (s : String) : Option RangeError :=
  let s := trimSpace s
  if (parseCIDR s).isSome then none
  else
    -- idx is the length of what stands before the first hyphen
    let before := s.toList.takeWhile (· ≠ '-')
    if '-' ∈ s.toList ∧ before ≠ [] then
      let startStr := trimSpace (String.ofList before)
      let endStr := trimSpace (String.ofList (s.toList.drop (before.length + 1)))
      match (parseIP startStr).bind to4, (parseIP endStr).bind to4 with
      | none, _ => some (.startIP startStr)
      | some _, none => some (.endIP endStr)
      | some startIP, some endIP =>
          if endIP < startIP then some (.order startStr endStr) else none
    else some .form

/-! ## §2. Networks. -/

/-- A row of `tlsentinel.discovery_networks`. -/
structure DiscoveryNetwork where
  id : String
  name : String
  range : String
  ports : List Int32
  scannerID : Option String
  cronExpression : String
  enabled : Bool
  deriving DecidableEq

/-- `tlsentinel.discovery_networks`. -/
abbrev NetworkTable := Table DiscoveryNetwork.id

/-- `models.CreateDiscoveryNetworkRequest`, and `models.UpdateDiscoveryNetworkRequest`, which
has the same fields. -/
structure DiscoveryNetworkRequest where
  name : String
  range : String
  ports : List Int
  scannerID : Option String
  cronExpression : String
  enabled : Bool
  deriving DecidableEq, Repr

/-- The error responses, by their texts. -/
inductive NetworkError where
  /-- 400, "invalid request body". -/
  | body
  /-- 400, "name is required". -/
  | name
  /-- 400, "range is required". -/
  | range
  /-- 400, with the text of the range. -/
  | invalidRange (msg : RangeError)
  /-- 400, "at least one port is required". -/
  | ports
  /-- 400, "cronExpression is required". -/
  | cronExpression
  /-- 404, "discovery network not found". -/
  | notFound
  /-- 500, "internal server error". -/
  | internal
  deriving DecidableEq, Repr

/-- The checks that both handlers make. -/
def checkNetwork (body : Option DiscoveryNetworkRequest) :
    Except NetworkError DiscoveryNetworkRequest :=
  match body with
  | none => .error .body
  | some req =>
      if req.name = "" then .error .name
      else if req.range = "" then .error .range
      else
        match validateRange req.range with
        | some msg => .error (.invalidRange msg)
        | none =>
            if req.ports = [] then .error .ports
            else if req.cronExpression = "" then .error .cronExpression
            else .ok req

/-- The conversion of the ports, `int32(p)`. -/
def storedPorts (ports : List Int) : List Int32 := ports.map Int32.ofInt

/-- The row of a request. -/
def networkRow (id : String) (req : DiscoveryNetworkRequest) : DiscoveryNetwork where
  id := id
  name := req.name
  range := req.range
  ports := storedPorts req.ports
  scannerID := req.scannerID
  cronExpression := req.cronExpression
  enabled := req.enabled

/-- `InsertDiscoveryNetwork`; `store` has the scanners that a network may refer to. -/
def insertDiscoveryNetwork (store : Endpoints.DB) (networks : NetworkTable) (o : Insertion)
    (req : DiscoveryNetworkRequest) : NetworkTable × Except StoreError String :=
  if o.commits = true ∧ store.ScannerExists req.scannerID then
    match networks.insert (networkRow o.id req) with
    | none => (networks, .error .failed)
    | some networks' => (networks', if o.readBack then .ok o.id else .error .failed)
  else (networks, .error .failed)

/-- `UpdateDiscoveryNetwork`. -/
def updateDiscoveryNetwork (store : Endpoints.DB) (networks : NetworkTable) (id : String)
    (req : DiscoveryNetworkRequest) : Except StoreError NetworkTable :=
  if networks.find? id = none then .error .notFound
  else if store.ScannerExists req.scannerID then .ok (networks.upsert (networkRow id req))
  else .error .failed

/-- `Handler.CreateNetwork`: the table, and the id that is answered. -/
def createNetwork (store : Endpoints.DB) (networks : NetworkTable) (o : Insertion)
    (body : Option DiscoveryNetworkRequest) : NetworkTable × Except NetworkError String :=
  match checkNetwork body with
  | .error e => (networks, .error e)
  | .ok req =>
      match insertDiscoveryNetwork store networks o req with
      | (networks', .ok id) => (networks', .ok id)
      | (networks', .error _) => (networks', .error .internal)

/-- `Handler.UpdateNetwork`. -/
def updateNetwork (store : Endpoints.DB) (networks : NetworkTable) (id : String)
    (body : Option DiscoveryNetworkRequest) : Except NetworkError NetworkTable :=
  match checkNetwork body with
  | .error e => .error e
  | .ok req =>
      match updateDiscoveryNetwork store networks id req with
      | .ok networks' => .ok networks'
      | .error .notFound => .error .notFound
      | .error _ => .error .internal

/-! ## §3. What is written. -/

/-- When an InsertDiscoveryNetwork under an unused id is accepted. -/
structure NetworkAccepted (store : Endpoints.DB) (o : Insertion)
    (req : DiscoveryNetworkRequest) : Prop where
  commits : o.commits = true
  scanner : store.ScannerExists req.scannerID

/-- When an UpdateDiscoveryNetwork is accepted. -/
structure NetworkReplaced (store : Endpoints.DB) (networks : NetworkTable) (id : String)
    (req : DiscoveryNetworkRequest) : Prop where
  row : networks.find? id ≠ none
  scanner : store.ScannerExists req.scannerID

/-- **An insert of a network** adds its row, or leaves the table alone. -/
theorem insertDiscoveryNetwork_cases {store : Endpoints.DB} {networks : NetworkTable}
    {o : Insertion} (hid : networks.find? o.id = none) (req : DiscoveryNetworkRequest) :
    (NetworkAccepted store o req ∧ ∀ n,
        n ∈ (insertDiscoveryNetwork store networks o req).1 ↔
          n ∈ networks ∨ n = networkRow o.id req) ∨
      ¬NetworkAccepted store o req ∧
        (insertDiscoveryNetwork store networks o req).1 = networks := by
  unfold insertDiscoveryNetwork
  by_cases hok : o.commits = true ∧ store.ScannerExists req.scannerID
  · rw [if_pos hok]
    obtain ⟨networks', hins⟩ := Table.insert_of_find?_eq_none
      (t := networks) (r := networkRow o.id req) hid
    rw [hins]
    exact Or.inl ⟨⟨hok.1, hok.2⟩, fun n => Table.mem_insert hins⟩
  · rw [if_neg hok]
    exact Or.inr ⟨fun h => hok ⟨h.commits, h.scanner⟩, rfl⟩

/-- **An update of a network** replaces its row, or fails. -/
theorem updateDiscoveryNetwork_cases (store : Endpoints.DB) (networks : NetworkTable)
    (id : String) (req : DiscoveryNetworkRequest) :
    (NetworkReplaced store networks id req ∧
        updateDiscoveryNetwork store networks id req =
          .ok (networks.upsert (networkRow id req))) ∨
      ¬NetworkReplaced store networks id req ∧
        ∃ e, updateDiscoveryNetwork store networks id req = .error e := by
  unfold updateDiscoveryNetwork
  by_cases hrow : networks.find? id = none
  · rw [if_pos hrow]
    exact Or.inr ⟨fun h => h.row hrow, _, rfl⟩
  · rw [if_neg hrow]
    by_cases hscanner : store.ScannerExists req.scannerID
    · rw [if_pos hscanner]
      exact Or.inl ⟨⟨hrow, hscanner⟩, rfl⟩
    · rw [if_neg hscanner]
      exact Or.inr ⟨fun h => hscanner h.scanner, _, rfl⟩

/-! ## §4. Ports. -/

/-- A port number survives the conversion. -/
theorem toInt_ofInt_of_validPort {p : Int} (h : ValidPort p) : (Int32.ofInt p).toInt = p := by
  obtain ⟨hlow, hhigh⟩ := h
  exact Int32.toInt_ofInt_of_le (by omega) (by omega)

/-- **The stored ports are the requested ones and valid** exactly if the requested ones are
valid. -/
theorem storedPorts_exact_iff (ports : List Int) :
    ((storedPorts ports).map Int32.toInt = ports ∧
        ∀ p ∈ storedPorts ports, ValidPort p.toInt) ↔ ∀ p ∈ ports, ValidPort p := by
  constructor
  · intro h p hp
    rw [← h.1, List.mem_map] at hp
    obtain ⟨q, hq, rfl⟩ := hp
    exact h.2 q hq
  · intro h
    refine ⟨?_, fun q hq => ?_⟩
    · rw [storedPorts, List.map_map]
      refine (List.map_congr_left fun p hp => ?_).trans (List.map_id ports)
      exact toInt_ofInt_of_validPort (h p hp)
    · obtain ⟨p, hp, rfl⟩ := List.mem_map.mp hq
      rw [toInt_ofInt_of_validPort (h p hp)]
      exact h p hp

/-- The conversion keeps no other port. -/
example : storedPorts [4294967376, 443] = [80, 443] := by decide

end TLSentinel.Discovery
