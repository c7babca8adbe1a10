/-
  TLSentinel.Discovery.Report
  ───────────────────────────
  **WHETHER A REPORT IS RECORDED ITEM BY ITEM.**

  `ReportDiscovery` of `internal/probe/handler.go` hands the whole batch to one
  INSERT.  If the database takes it, every item that no monitored endpoint covers has
  a row afterwards, and the rows that were there keep their status and the time they
  were first seen.  If it does not, no item is recorded.

  Main result:
    * `itemByItem_iff` — when a report is recorded item by item.
-/
import TLSentinel.Discovery.Store

namespace TLSentinel.Discovery

open Foundation

variable {Addr : Type} [DecidableEq Addr] (parseInet : String → Option Addr)

/-! ## §1. The handler. -/

/-- `ReportDiscovery`: the tables, and the error response if there is one. -/
def reportDiscovery (db : DB Addr) (now : Int) (scannerID networkID : String)
    (items : List DiscoveryReportItem) : DB Addr × Option HttpError :=
  if items = [] then (db, none)
  else
    match db.upsertDiscoveryInboxItems parseInet now scannerID networkID items with
    | none => (db, some ⟨500, "failed to record discovery results"⟩)
    | some db' => (db', none)

variable {parseInet} {db : DB Addr} {now : Int} {scannerID networkID : String}
  {items : List DiscoveryReportItem}

/-- A report that is not recorded changes nothing; without uncovered items there is nothing
to record. -/
theorem reportDiscovery_cases :
    (∃ db', db.upsertDiscoveryInboxItems parseInet now scannerID networkID items = some db' ∧
      (reportDiscovery parseInet db now scannerID networkID items).1 = db') ∨
    (db.upsertDiscoveryInboxItems parseInet now scannerID networkID items = none ∧
      (reportDiscovery parseInet db now scannerID networkID items).1 = db) := by
  unfold reportDiscovery
  by_cases hnil : items = []
  · refine .inl ⟨db, ?_, ?_⟩
    · rw [hnil]
      rfl
    · rw [if_pos hnil]
  · rw [if_neg hnil]
    cases h : db.upsertDiscoveryInboxItems parseInet now scannerID networkID items with
    | none => exact .inr ⟨rfl, rfl⟩
    | some db' => exact .inl ⟨db', rfl, rfl⟩

/-! ## §2. Item by item. -/

variable (parseInet) in
/-- Every uncovered item whose address and port can be stored has a row afterwards, and
every row there was keeps its status and the time it was first seen. -/
structure ItemByItem (db db' : DB Addr) (items : List DiscoveryReportItem) : Prop where
  recorded : ∀ item ∈ db.uncovered items, ∀ t, item.target parseInet = some t →
    db'.inbox.HasTarget t
  kept : ∀ r ∈ db.inbox.rows, ∃ s ∈ db'.inbox.rows, SameEntry r s

variable (parseInet) in
/-- Every uncovered item that can be stored has a row already. -/
def AllKnown (db : DB Addr) (items : List DiscoveryReportItem) : Prop :=
  ∀ item ∈ db.uncovered items, ∀ t, item.target parseInet = some t → db.inbox.HasTarget t

/-- **When a report is recorded item by item.** -/
theorem itemByItem_iff (parseInet : String → Option Addr) (db : DB Addr) (now : Int)
    (scannerID networkID : String) (items : List DiscoveryReportItem) :
    ItemByItem parseInet db (reportDiscovery parseInet db now scannerID networkID items).1 items ↔
      db.Accepted parseInet scannerID networkID items ∨ AllKnown parseInet db items := by
  rcases @reportDiscovery_cases Addr _ parseInet db now scannerID networkID items with
    ⟨db', hdb', hresult⟩ | ⟨hnone, hresult⟩
  · -- the INSERT was taken
    rw [hresult]
    obtain ⟨_, _, hinbox⟩ := DB.upsertDiscoveryInboxItems_eq_some hdb'
    constructor
    · intro _
      rcases DB.upsertDiscoveryInboxItems_isSome_iff.mp (Option.isSome_of_eq_some hdb') with
        hnil | haccepted
      · refine .inr fun item hitem => ?_
        rw [hnil] at hitem
        exact absurd hitem List.not_mem_nil
      · exact .inl haccepted
    · intro _
      refine ⟨fun item hitem t ht => ?_, hinbox.kept⟩
      exact (hinbox.target t).mpr (.inr (List.mem_filterMap.mpr ⟨item, hitem, ht⟩))
  · -- the INSERT failed
    rw [hresult]
    constructor
    · intro h
      exact .inr h.recorded
    · intro h
      rcases h with haccepted | hknown
      · have hsome := @DB.upsertDiscoveryInboxItems_isSome_iff Addr parseInet _ db now scannerID
          networkID items
        rw [hnone] at hsome
        exact absurd (hsome.mpr (.inr haccepted)) (by simp)
      · exact ⟨hknown, fun r hr => ⟨r, hr, SameEntry.refl r⟩⟩

/-! ## §3. A repeated item. -/

/-- One scanner, one network, no endpoints, and an empty inbox. -/
def emptyInbox : DB String where
  store :=
    { endpoints := Table.empty
      hosts := Table.empty
      saml := Table.empty
      scanners := ⟨[⟨"probe", "probe", "0 * * * *", 5⟩], by decide⟩ }
  networks := ["lan"]
  inbox := ⟨Table.empty, 0, Table.forall_mem_empty, Table.forall_mem_empty⟩

/-- An item without a certificate. -/
def found (ip : String) : DiscoveryReportItem := ⟨ip, 443, none, none, none, [], none⟩

/-- A batch that names one address twice loses the other one. -/
theorem repeated_item_loses_others :
    ¬ ∀ (parseInet : String → Option String) (db : DB String) (now : Int)
      (scannerID networkID : String) (items : List DiscoveryReportItem),
      ItemByItem parseInet db (reportDiscovery parseInet db now scannerID networkID items).1
        items := by
  intro h
  have hrecorded := (h some emptyInbox 10 "probe" "lan"
    [found "10.0.0.1", found "10.0.0.1", found "10.0.0.2"]).recorded
  exact absurd (hrecorded (found "10.0.0.2") (by decide) ("10.0.0.2", 443) (by decide)) (by decide)

end TLSentinel.Discovery
