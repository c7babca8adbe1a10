/-
  TLSentinel.Discovery.Store
  ──────────────────────────
  **THE DISCOVERY INBOX, AND THE STATEMENTS THAT WRITE IT.**

  `tlsentinel.discovery_inbox` holds one row for each address and port that a sweep
  found (UNIQUE (ip, port)); `internal/db/discovery_store.go` reads, dismisses and
  deletes a row by its id, and records a report in one multi-row
  INSERT ... ON CONFLICT DO UPDATE.

  Addresses are values of any type `Addr`, `parseInet` is the input function of
  PostgreSQL's `inet`.  An id that was given once is never given again (uuid), so the
  table counts the ids it gave.

  Main results:
    * `upsertDiscoveryInboxItems_isSome_iff` — when a report is recorded;
    * `upsertDiscoveryInboxItems_eq_some`    — which targets have a row afterwards, and
                                               what is left of the rows there were.
-/
import TLSentinel.Endpoints.Store
import TLSentinel.Foundation.Loops

namespace TLSentinel.Discovery

open Foundation
open TLSentinel.Endpoints (EndpointHost)

/-! ## §1. Rows. -/

/-- `models.DiscoveryReportItem`: an ip and port found during a sweep. -/
structure DiscoveryReportItem where
  ip : String
  port : Int
  rdns : Option String
  fingerprint : Option String
  commonName : Option String
  sans : List String
  notAfter : Option Int
  deriving DecidableEq, Repr

/-- A row of `tlsentinel.discovery_inbox`. -/
structure DiscoveryInboxItem (Addr : Type) where
  id : Nat
  networkID : Option String
  scannerID : Option String
  ip : Addr
  rdns : Option String
  port : Int
  fingerprint : Option String
  commonName : Option String
  sans : List String
  notAfter : Option Int
  status : String
  endpointID : Option String
  firstSeenAt : Int
  lastSeenAt : Int
  deriving DecidableEq, Repr

variable {Addr : Type}

/-- UNIQUE (ip, port). -/
def DiscoveryInboxItem.target (r : DiscoveryInboxItem Addr) : Addr × Int := (r.ip, r.port)

/-- The column `port` is an int4. -/
def int4 (n : Int) : Bool := decide (-2147483648 ≤ n ∧ n ≤ 2147483647)

/-- Where a report item would be stored; `none` is a value that its column refuses. -/
def DiscoveryReportItem.target (parseInet : String → Option Addr) (item : DiscoveryReportItem) :
    Option (Addr × Int) :=
  if int4 item.port then (parseInet item.ip).map (fun a => (a, item.port)) else none

/-- The row that an item is inserted as, with the defaults of the table. -/
def newInboxItem (now : Int) (scannerID networkID : String) (id : Nat) (t : Addr × Int)
    (item : DiscoveryReportItem) : DiscoveryInboxItem Addr where
  id := id
  networkID := some networkID
  scannerID := some scannerID
  ip := t.1
  rdns := item.rdns
  port := t.2
  fingerprint := item.fingerprint
  commonName := item.commonName
  sans := item.sans
  notAfter := item.notAfter
  status := "new"
  endpointID := none
  firstSeenAt := now
  lastSeenAt := now

/-- The SET clauses of the ON CONFLICT branch. -/
def refreshed (now : Int) (scannerID networkID : String) (item : DiscoveryReportItem)
    (r : DiscoveryInboxItem Addr) : DiscoveryInboxItem Addr :=
  { r with
    lastSeenAt := now
    scannerID := some scannerID
    networkID := some networkID
    rdns := item.rdns
    fingerprint := item.fingerprint
    commonName := item.commonName
    sans := item.sans
    notAfter := item.notAfter }

theorem refreshed_target (now : Int) (scannerID networkID : String) (item : DiscoveryReportItem)
    (r : DiscoveryInboxItem Addr) :
    (refreshed now scannerID networkID item r).target = r.target := rfl

/-- `SET status = 'dismissed'`. -/
def dismissed (r : DiscoveryInboxItem Addr) : DiscoveryInboxItem Addr :=
  { r with status := "dismissed" }

theorem dismissed_target (r : DiscoveryInboxItem Addr) : (dismissed r).target = r.target := rfl

/-- What a report does not change of a row. -/
structure SameEntry (r s : DiscoveryInboxItem Addr) : Prop where
  id : s.id = r.id
  target : s.target = r.target
  status : s.status = r.status
  firstSeenAt : s.firstSeenAt = r.firstSeenAt
  endpointID : s.endpointID = r.endpointID

theorem SameEntry.refl (r : DiscoveryInboxItem Addr) : SameEntry r r := ⟨rfl, rfl, rfl, rfl, rfl⟩

theorem SameEntry.trans {r s t : DiscoveryInboxItem Addr} (h : SameEntry r s)
    (h' : SameEntry s t) : SameEntry r t :=
  ⟨h'.id.trans h.id, h'.target.trans h.target, h'.status.trans h.status,
    h'.firstSeenAt.trans h.firstSeenAt, h'.endpointID.trans h.endpointID⟩

theorem sameEntry_refreshed (now : Int) (scannerID networkID : String)
    (item : DiscoveryReportItem) (r : DiscoveryInboxItem Addr) :
    SameEntry r (refreshed now scannerID networkID item r) := ⟨rfl, rfl, rfl, rfl, rfl⟩

/-! ## §2. The inbox. -/

/-- `tlsentinel.discovery_inbox`, and how many ids it has given. -/
structure Inbox (Addr : Type) where
  rows : Table (@DiscoveryInboxItem.target Addr)
  nextID : Nat
  /-- Ids are given one after the other. -/
  fresh : ∀ r ∈ rows, r.id < nextID
  /-- The primary key. -/
  unique : ∀ r ∈ rows, ∀ s ∈ rows, r.id = s.id → r = s

namespace Inbox

/-- The item is in the inbox. -/
def Has (inbox : Inbox Addr) (id : Nat) : Prop := ∃ r ∈ inbox.rows, r.id = id

instance (inbox : Inbox Addr) (id : Nat) : Decidable (inbox.Has id) :=
  inferInstanceAs (Decidable (∃ r ∈ inbox.rows, r.id = id))

/-- The address and port have a row. -/
def HasTarget (inbox : Inbox Addr) (t : Addr × Int) : Prop := ∃ r ∈ inbox.rows, r.target = t

instance [DecidableEq Addr] (inbox : Inbox Addr) (t : Addr × Int) :
    Decidable (inbox.HasTarget t) :=
  inferInstanceAs (Decidable (∃ r ∈ inbox.rows, r.target = t))

/-- `GetDiscoveryInboxItem`. -/
def find? (inbox : Inbox Addr) (id : Nat) : Option (DiscoveryInboxItem Addr) :=
  inbox.rows.rows.find? (fun r => decide (r.id = id))

/-- `UPDATE ... SET f WHERE p`, for a row function that keeps id and target. -/
def update (inbox : Inbox Addr) (p : DiscoveryInboxItem Addr → Bool)
    (f : DiscoveryInboxItem Addr → DiscoveryInboxItem Addr)
    (htarget : ∀ r, (f r).target = r.target) (hid : ∀ r, (f r).id = r.id) : Inbox Addr where
  rows := inbox.rows.update p f htarget
  nextID := inbox.nextID
  fresh := Table.forall_mem_update.mpr fun s hs => by
    split
    · rw [hid]
      exact inbox.fresh s hs
    · exact inbox.fresh s hs
  unique := by
    intro r hr s hs hrs
    obtain ⟨r', hr', rfl⟩ := Table.mem_update.mp hr
    obtain ⟨s', hs', rfl⟩ := Table.mem_update.mp hs
    have hsame : ∀ q : DiscoveryInboxItem Addr, (if p q then f q else q).id = q.id := by
      intro q
      split
      · exact hid q
      · rfl
    rw [hsame, hsame] at hrs
    rw [inbox.unique r' hr' s' hs' hrs]

/-- `DELETE ... WHERE p`. -/
def delete (inbox : Inbox Addr) (p : DiscoveryInboxItem Addr → Bool) : Inbox Addr where
  rows := inbox.rows.delete p
  nextID := inbox.nextID
  fresh := fun r hr => inbox.fresh r (Table.mem_delete.mp hr).1
  unique := fun r hr s hs =>
    inbox.unique r (Table.mem_delete.mp hr).1 s (Table.mem_delete.mp hs).1

/-- `INSERT` of a row with the next id; `none` if its target is taken. -/
def insert [DecidableEq Addr] (inbox : Inbox Addr) (r : DiscoveryInboxItem Addr)
    (hid : r.id = inbox.nextID) : Option (Inbox Addr) :=
  match hins : inbox.rows.insert r with
  | none => none
  | some rows => some
      { rows := rows
        nextID := inbox.nextID + 1
        fresh := by
          intro s hs
          rcases (Table.mem_insert hins).mp hs with hs | hs
          · exact Nat.lt_succ_of_lt (inbox.fresh s hs)
          · rw [hs, hid]
            exact Nat.lt_succ_self _
        unique := by
          -- the new id is larger than every stored one
          intro s hs u hu hsu
          rcases (Table.mem_insert hins).mp hs with hs | hs
          · rcases (Table.mem_insert hins).mp hu with hu | hu
            · exact inbox.unique s hs u hu hsu
            · have hlt := inbox.fresh s hs
              rw [hsu, hu, hid] at hlt
              exact absurd hlt (Nat.lt_irrefl _)
          · rcases (Table.mem_insert hins).mp hu with hu | hu
            · have hlt := inbox.fresh u hu
              rw [← hsu, hs, hid] at hlt
              exact absurd hlt (Nat.lt_irrefl _)
            · rw [hs, hu] }

/-- `DismissDiscoveryInboxItem`. -/
def dismiss (inbox : Inbox Addr) (id : Nat) : Inbox Addr :=
  inbox.update (fun r => decide (r.id = id)) dismissed dismissed_target (fun _ => rfl)

/-- `DeleteDiscoveryInboxItem`. -/
def deleteItem (inbox : Inbox Addr) (id : Nat) : Inbox Addr :=
  inbox.delete (fun r => decide (r.id = id))

theorem find?_eq_some {inbox : Inbox Addr} {id : Nat} {r : DiscoveryInboxItem Addr}
    (h : inbox.find? id = some r) : r ∈ inbox.rows ∧ r.id = id := by
  unfold find? at h
  have hid := @List.find?_some _ (fun r : DiscoveryInboxItem Addr => decide (r.id = id)) _ _ h
  exact ⟨List.mem_of_find?_eq_some h, of_decide_eq_true hid⟩

theorem has_deleteItem {inbox : Inbox Addr} {id id' : Nat} :
    (inbox.deleteItem id).Has id' ↔ inbox.Has id' ∧ id' ≠ id := by
  unfold Has
  show (∃ r ∈ inbox.rows.delete _, r.id = id') ↔ _
  simp only [Table.mem_delete, decide_eq_false_iff_not]
  constructor
  · intro h
    obtain ⟨r, ⟨hr, hne⟩, hid⟩ := h
    exact ⟨⟨r, hr, hid⟩, fun heq => hne (hid.trans heq)⟩
  · intro h
    obtain ⟨⟨r, hr, hid⟩, hne⟩ := h
    exact ⟨r, ⟨hr, fun heq => hne (hid.symm.trans heq)⟩, hid⟩

theorem mem_update {inbox : Inbox Addr} {p : DiscoveryInboxItem Addr → Bool}
    {f : DiscoveryInboxItem Addr → DiscoveryInboxItem Addr}
    {htarget : ∀ r, (f r).target = r.target} {hid : ∀ r, (f r).id = r.id}
    {s : DiscoveryInboxItem Addr} :
    s ∈ (inbox.update p f htarget hid).rows ↔
      ∃ r ∈ inbox.rows, (if p r = true then f r else r) = s :=
  @Table.mem_update _ _ _ inbox.rows p f htarget s

theorem has_update {inbox : Inbox Addr} {p : DiscoveryInboxItem Addr → Bool}
    {f : DiscoveryInboxItem Addr → DiscoveryInboxItem Addr}
    {htarget : ∀ r, (f r).target = r.target} {hid : ∀ r, (f r).id = r.id} {id : Nat} :
    (inbox.update p f htarget hid).Has id ↔ inbox.Has id := by
  have hsame : ∀ q : DiscoveryInboxItem Addr, (if p q = true then f q else q).id = q.id := by
    intro q
    split
    · exact hid q
    · rfl
  unfold Has
  constructor
  · intro h
    obtain ⟨s, hs, heq⟩ := h
    obtain ⟨r, hr, rfl⟩ := mem_update.mp hs
    exact ⟨r, hr, (hsame r).symm.trans heq⟩
  · intro h
    obtain ⟨r, hr, heq⟩ := h
    exact ⟨_, mem_update.mpr ⟨r, hr, rfl⟩, (hsame r).trans heq⟩

/-- `INSERT` refuses a taken target, and adds the row otherwise. -/
theorem insert_cases [DecidableEq Addr] {inbox : Inbox Addr} {r : DiscoveryInboxItem Addr}
    {hid : r.id = inbox.nextID} :
    (inbox.insert r hid = none ∧ inbox.HasTarget r.target) ∨
      ∃ inbox', inbox.insert r hid = some inbox' ∧ inbox'.nextID = inbox.nextID + 1 ∧
        ∀ s, s ∈ inbox'.rows ↔ s ∈ inbox.rows ∨ s = r := by
  unfold insert
  split
  · next hins =>
      obtain ⟨s, hs, hkey⟩ := Table.insert_eq_none_iff.mp hins
      exact .inl ⟨rfl, s, hs, hkey⟩
  · next rows hins => exact .inr ⟨_, rfl, rfl, fun s => Table.mem_insert hins⟩

/-! ## §3. The rows of one statement. -/

/-- What rows for these targets leave of an inbox. -/
structure Upserted (inbox inbox' : Inbox Addr) (ts : List (Addr × Int)) : Prop where
  target : ∀ t, inbox'.HasTarget t ↔ inbox.HasTarget t ∨ t ∈ ts
  kept : ∀ r ∈ inbox.rows, ∃ s ∈ inbox'.rows, SameEntry r s
  nextID : inbox.nextID ≤ inbox'.nextID
  /-- A row that was not there has a new id. -/
  origin : ∀ s ∈ inbox'.rows, (∃ r ∈ inbox.rows, SameEntry r s) ∨ inbox.nextID ≤ s.id

theorem Upserted.refl (inbox : Inbox Addr) : Upserted inbox inbox [] :=
  ⟨fun t => by simp, fun r hr => ⟨r, hr, SameEntry.refl r⟩, Nat.le_refl _,
    fun s hs => .inl ⟨s, hs, SameEntry.refl s⟩⟩

theorem Upserted.trans {a b c : Inbox Addr} {ts us : List (Addr × Int)} (h : Upserted a b ts)
    (h' : Upserted b c us) : Upserted a c (ts ++ us) := by
  refine ⟨fun t => ?_, fun r hr => ?_, Nat.le_trans h.nextID h'.nextID, fun s hs => ?_⟩
  · rw [h'.target, h.target, List.mem_append, or_assoc]
  · obtain ⟨s, hs, hrs⟩ := h.kept r hr
    obtain ⟨u, hu, hsu⟩ := h'.kept s hs
    exact ⟨u, hu, hrs.trans hsu⟩
  · -- new in the first, or new in the second
    rcases h'.origin s hs with ⟨r, hr, hrs⟩ | hlater
    · rcases h.origin r hr with ⟨q, hq, hqr⟩ | hnew
      · exact .inl ⟨q, hq, hqr.trans hrs⟩
      · exact .inr (hrs.id ▸ hnew)
    · exact .inr (Nat.le_trans h.nextID hlater)

/-- An insert of a new row. -/
theorem upserted_insert {inbox inbox' : Inbox Addr} {r : DiscoveryInboxItem Addr}
    (hid : r.id = inbox.nextID) (hnext : inbox'.nextID = inbox.nextID + 1)
    (hmem : ∀ s, s ∈ inbox'.rows ↔ s ∈ inbox.rows ∨ s = r) :
    Upserted inbox inbox' [r.target] := by
  refine ⟨fun t => ?_, fun s hs => ?_, by omega, fun s hs => ?_⟩
  · unfold HasTarget
    rw [List.mem_singleton]
    constructor
    · intro h
      obtain ⟨s, hs, hst⟩ := h
      rcases (hmem s).mp hs with hs | hs
      · exact .inl ⟨s, hs, hst⟩
      · exact .inr (hst.symm.trans (congrArg _ hs))
    · intro h
      rcases h with ⟨s, hs, hst⟩ | ht
      · exact ⟨s, (hmem s).mpr (.inl hs), hst⟩
      · exact ⟨r, (hmem r).mpr (.inr rfl), ht.symm⟩
  · exact ⟨s, (hmem s).mpr (.inl hs), SameEntry.refl s⟩
  · rcases (hmem s).mp hs with hs | hs
    · exact .inl ⟨s, hs, SameEntry.refl s⟩
    · exact .inr (Nat.le_of_eq (by rw [hs, hid]))

/-- An update that keeps the entries, for a target that is there. -/
theorem upserted_update {inbox : Inbox Addr} {p : DiscoveryInboxItem Addr → Bool}
    {f : DiscoveryInboxItem Addr → DiscoveryInboxItem Addr}
    {htarget : ∀ r, (f r).target = r.target} {hid : ∀ r, (f r).id = r.id}
    (hf : ∀ r, SameEntry r (f r)) {t : Addr × Int} (ht : inbox.HasTarget t) :
    Upserted inbox (inbox.update p f htarget hid) [t] := by
  have hsame : ∀ r, SameEntry r (if p r = true then f r else r) := by
    intro r
    split
    · exact hf r
    · exact SameEntry.refl r
  refine ⟨fun u => ?_, fun r hr => ⟨_, mem_update.mpr ⟨r, hr, rfl⟩, hsame r⟩, Nat.le_refl _,
    fun s hs => ?_⟩
  · rw [List.mem_singleton]
    constructor
    · intro h
      obtain ⟨s, hs, hsu⟩ := h
      obtain ⟨r, hr, rfl⟩ := mem_update.mp hs
      exact .inl ⟨r, hr, (hsame r).target.symm.trans hsu⟩
    · intro h
      have hbefore : inbox.HasTarget u := by
        rcases h with h | h
        · exact h
        · exact h ▸ ht
      obtain ⟨r, hr, hru⟩ := hbefore
      exact ⟨_, mem_update.mpr ⟨r, hr, rfl⟩, (hsame r).target.trans hru⟩
  · obtain ⟨r, hr, rfl⟩ := mem_update.mp hs
    exact .inl ⟨r, hr, hsame r⟩

variable [DecidableEq Addr]

/-- One row of the INSERT: an existing row of its target is updated. -/
def upsertRow (now : Int) (scannerID networkID : String) (inbox : Inbox Addr)
    (row : (Addr × Int) × DiscoveryReportItem) : Inbox Addr :=
  match inbox.insert (newInboxItem now scannerID networkID inbox.nextID row.1 row.2) rfl with
  | some inbox' => inbox'
  | none => inbox.update (fun r => decide (r.target = row.1))
      (refreshed now scannerID networkID row.2) (refreshed_target now scannerID networkID row.2)
      (fun _ => rfl)

variable {now : Int} {scannerID networkID : String}

/-- **One row of the INSERT.** -/
theorem upserted_upsertRow (inbox : Inbox Addr) (row : (Addr × Int) × DiscoveryReportItem) :
    Upserted inbox (upsertRow now scannerID networkID inbox row) [row.1] := by
  have hrow : (newInboxItem now scannerID networkID inbox.nextID row.1 row.2).target = row.1 := rfl
  unfold upsertRow
  rcases @insert_cases Addr _ inbox
    (newInboxItem now scannerID networkID inbox.nextID row.1 row.2) rfl with
    ⟨hnone, htaken⟩ | ⟨inbox', hsome, hnext, hmem⟩
  · -- ON CONFLICT (ip, port)
    rw [hnone]
    exact upserted_update (fun r => sameEntry_refreshed now scannerID networkID row.2 r) htaken
  · rw [hsome]
    exact upserted_insert rfl hnext hmem

/-- The INSERT of several rows, one after the other; it may not affect a row twice. -/
def upsertRows (now : Int) (scannerID networkID : String) (inbox : Inbox Addr)
    (rows : List ((Addr × Int) × DiscoveryReportItem)) : Option (Inbox Addr) :=
  if (rows.map Prod.fst).Nodup then some (rows.foldl (upsertRow now scannerID networkID) inbox)
  else none

/-- **What the statement leaves.** -/
theorem upserted_foldl (inbox : Inbox Addr) (rows : List ((Addr × Int) × DiscoveryReportItem)) :
    Upserted inbox (rows.foldl (upsertRow now scannerID networkID) inbox)
      (rows.map Prod.fst) := by
  -- by induction on the rows of the statement
  induction rows generalizing inbox with
  | nil => exact Upserted.refl inbox
  | cons row rows ih =>
      rw [List.foldl_cons, List.map_cons]
      exact (upserted_upsertRow inbox row).trans (ih _)

end Inbox

/-! ## §4. Reports. -/

/-- The tables. -/
structure DB (Addr : Type) where
  store : Endpoints.DB
  /-- The ids of `tlsentinel.discovery_networks`. -/
  networks : List String
  inbox : Inbox Addr

/-- `endpointExistsForTarget`. -/
def endpointExistsForTarget (hosts : Table EndpointHost.endpointID) (ip : String)
    (rdns : Option String) (port : Int) : Bool :=
  hosts.rows.any (fun eh => decide (eh.port = port) &&
    (decide (eh.ipAddress = some ip) || decide (eh.dnsName = some ip) ||
      (rdns.isSome && decide (eh.dnsName = rdns))))

namespace DB

variable (parseInet : String → Option Addr)

/-- The items that no monitored endpoint covers. -/
def uncovered (db : DB Addr) (items : List DiscoveryReportItem) : List DiscoveryReportItem :=
  items.filter (fun item => !endpointExistsForTarget db.store.hosts item.ip item.rdns item.port)

/-- The rows of the INSERT. -/
def reportRows (items : List DiscoveryReportItem) : List ((Addr × Int) × DiscoveryReportItem) :=
  items.filterMap (fun item => (item.target parseInet).map fun t => (t, item))

/-- The network and the scanner of a report exist. -/
def ReportRefs (db : DB Addr) (scannerID networkID : String) : Prop :=
  networkID ∈ db.networks ∧ ∃ s ∈ db.store.scanners, s.id = scannerID

instance (db : DB Addr) (scannerID networkID : String) :
    Decidable (db.ReportRefs scannerID networkID) := inferInstanceAs (Decidable (_ ∧ _))

/-- `UpsertDiscoveryInboxItems`; `none` is an error, and nothing is written. -/
def upsertDiscoveryInboxItems [DecidableEq Addr] (db : DB Addr) (now : Int)
    (scannerID networkID : String) (items : List DiscoveryReportItem) : Option (DB Addr) :=
  let filtered := db.uncovered items
  if filtered = [] then some db
  -- a value that its column refuses, or a foreign key
  else if (∀ item ∈ filtered, (item.target parseInet).isSome = true) ∧
      db.ReportRefs scannerID networkID then
    (db.inbox.upsertRows now scannerID networkID (reportRows parseInet filtered)).map
      fun inbox => { db with inbox := inbox }
  else none

/-- What the INSERT of a report needs. -/
structure Accepted (db : DB Addr) (scannerID networkID : String)
    (items : List DiscoveryReportItem) : Prop where
  /-- Every uncovered item has an address and a port that the columns take. -/
  valid : ∀ item ∈ db.uncovered items, (item.target parseInet).isSome = true
  refs : db.ReportRefs scannerID networkID
  /-- No two uncovered items have the same address and port. -/
  distinct : ((db.uncovered items).filterMap (DiscoveryReportItem.target parseInet)).Nodup

variable {parseInet}

theorem map_fst_reportRows (items : List DiscoveryReportItem) :
    (reportRows parseInet items).map Prod.fst =
      items.filterMap (DiscoveryReportItem.target parseInet) := by
  unfold reportRows
  rw [List.map_filterMap]
  apply List.filterMap_congr
  intro item _
  cases item.target parseInet with
  | none => rfl
  | some t => rfl

variable [DecidableEq Addr]

/-- **When a report is recorded.** -/
theorem upsertDiscoveryInboxItems_isSome_iff {db : DB Addr} {now : Int}
    {scannerID networkID : String} {items : List DiscoveryReportItem} :
    (db.upsertDiscoveryInboxItems parseInet now scannerID networkID items).isSome = true ↔
      db.uncovered items = [] ∨ db.Accepted parseInet scannerID networkID items := by
  unfold upsertDiscoveryInboxItems Inbox.upsertRows
  simp only [map_fst_reportRows]
  by_cases hnil : db.uncovered items = []
  · simp only [hnil, if_true, Option.isSome_some, true_or]
  · rw [if_neg hnil]
    by_cases hvalid : (∀ item ∈ db.uncovered items, (item.target parseInet).isSome = true) ∧
        db.ReportRefs scannerID networkID
    · -- what is left is that no row is affected twice
      rw [if_pos hvalid, Option.isSome_map]
      constructor
      · intro h
        split at h
        · next hnodup => exact .inr ⟨hvalid.1, hvalid.2, hnodup⟩
        · exact absurd h (by simp)
      · intro h
        rcases h with h | h
        · exact absurd h hnil
        · rw [if_pos h.distinct, Option.isSome_some]
    · rw [if_neg hvalid]
      constructor
      · intro h
        exact absurd h (by simp)
      · intro h
        rcases h with h | h
        · exact absurd h hnil
        · exact absurd ⟨h.valid, h.refs⟩ hvalid

/-- **A recorded report.** -/
theorem upsertDiscoveryInboxItems_eq_some {db db' : DB Addr} {now : Int}
    {scannerID networkID : String} {items : List DiscoveryReportItem}
    (h : db.upsertDiscoveryInboxItems parseInet now scannerID networkID items = some db') :
    db'.store = db.store ∧ db'.networks = db.networks ∧
      Inbox.Upserted db.inbox db'.inbox
        ((db.uncovered items).filterMap (DiscoveryReportItem.target parseInet)) := by
  unfold upsertDiscoveryInboxItems at h
  simp only at h
  split at h
  · next hnil =>
      injection h with h
      subst h
      rw [hnil]
      exact ⟨rfl, rfl, Inbox.Upserted.refl db.inbox⟩
  · split at h
    · obtain ⟨inbox, hinbox, hdb⟩ := Option.map_eq_some_iff.mp h
      subst hdb
      unfold Inbox.upsertRows at hinbox
      split at hinbox
      · injection hinbox with hinbox
        subst hinbox
        rw [← map_fst_reportRows]
        exact ⟨rfl, rfl, Inbox.upserted_foldl db.inbox _⟩
      · exact absurd hinbox (by simp)
    · exact absurd h (by simp)

end DB

end TLSentinel.Discovery
