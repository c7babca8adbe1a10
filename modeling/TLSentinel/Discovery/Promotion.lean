/-
  TLSentinel.Discovery.Promotion
  ──────────────────────────────
  **PROMOTING INBOX ITEMS, STATEMENT BY STATEMENT.**

  `PromoteDiscoveryInboxItem` of `internal/db/discovery_store.go` reads an item,
  inserts an endpoint with the item's port, and deletes the item; no transaction spans
  the three, and what becomes of the delete is ignored.  Any number of promotions may
  be under way, and between any two of their statements items may be dismissed,
  deleted or reported, and endpoints and networks edited.

  The system remembers which endpoints were created from which item, and which of them
  nobody has edited since.

  Main results:
    * `step_cases`    — what a step does to the inbox and to the promotions;
    * `promoted_once` — when at most one endpoint is created from an item.
-/
import TLSentinel.Discovery.Report
import TLSentinel.Foundation.Runs
import Mathlib.Logic.Function.Basic

namespace TLSentinel.Discovery

open Foundation
open TLSentinel.Endpoints (EndpointRecord StoreError)

variable {Addr : Type}

/-! ## §1. The system. -/

/-- `models.PromoteDiscoveryInboxRequest`. -/
structure PromoteDiscoveryInboxRequest where
  name : String
  dnsName : String
  enabled : Bool
  scannerID : Option String
  deriving DecidableEq, Repr

/-- The record that an item is promoted with. -/
def promoteRecord (item : DiscoveryInboxItem Addr) (req : PromoteDiscoveryInboxRequest) :
    EndpointRecord where
  name := req.name
  type := "host"
  dnsName := req.dnsName
  ipAddress := none
  port := item.port
  url := none
  enabled := req.enabled
  scanExempt := false
  scannerID := req.scannerID
  notes := none

/-- Where a promotion stands. -/
inductive Pc (Addr : Type) where
  | idle
  /-- It has read the item; InsertEndpoint. -/
  | read (item : DiscoveryInboxItem Addr) (req : PromoteDiscoveryInboxRequest)
  /-- The endpoint is there; DeleteDiscoveryInboxItem. -/
  | inserted (itemID : Nat)
  /-- It is over, and has not deleted the item that it created an endpoint from. -/
  | left (itemID : Nat)
  | done
  deriving DecidableEq, Repr

/-- The item that a promotion has created an endpoint from and not deleted. -/
def Pc.holds : Pc Addr → Option Nat
  | .inserted itemID => some itemID
  | .left itemID => some itemID
  | _ => none

/-- An endpoint that was created from an item. -/
structure Promoted (Addr : Type) where
  itemID : Nat
  target : Addr × Int
  endpointID : String
  dnsName : String
  /-- It was neither edited nor deleted since. -/
  intact : Bool
  deriving DecidableEq, Repr

/-- The endpoint was edited or deleted. -/
def Promoted.touch (endpointID : String) (c : Promoted Addr) : Promoted Addr :=
  if c.endpointID = endpointID then { c with intact := false } else c

/-- The tables, the promotions, and the endpoints that were created from items. -/
structure Sys (Addr : Type) where
  db : DB Addr
  promotions : Nat → Pc Addr
  created : List (Promoted Addr)

/-- Move promotion `p` to `pc`. -/
def Sys.goto (s : Sys Addr) (p : Nat) (pc : Pc Addr) : Sys Addr :=
  { s with promotions := Function.update s.promotions p pc }

/-- What can happen next. -/
inductive Action where
  /-- GetDiscoveryInboxItem of a promotion. -/
  | get (p : Nat) (itemID : Nat) (req : PromoteDiscoveryInboxRequest)
  /-- InsertEndpoint of a promotion; reading the new endpoint back may fail. -/
  | insert (p : Nat) (endpointID : String) (readBack : Bool)
  /-- DeleteDiscoveryInboxItem of a promotion, which may fail. -/
  | remove (p : Nat) (ok : Bool)
  | dismiss (itemID : Nat)
  | deleteItem (itemID : Nat)
  | report (now : Int) (scannerID networkID : String) (items : List DiscoveryReportItem)
  | insertEndpoint (id : String) (rec : EndpointRecord)
  | updateEndpoint (id : String) (rec : EndpointRecord)
  | deleteEndpoint (id : String)
  /-- DeleteDiscoveryNetwork. -/
  | deleteNetwork (id : String)

/-- An endpoint row is gone (ON DELETE SET NULL). -/
def forgetEndpoint (r : DiscoveryInboxItem Addr) : DiscoveryInboxItem Addr :=
  { r with endpointID := none }

theorem forgetEndpoint_target (r : DiscoveryInboxItem Addr) :
    (forgetEndpoint r).target = r.target := rfl

/-- The inbox after an endpoint was deleted. -/
def Inbox.withoutEndpoint (inbox : Inbox Addr) (id : String) : Inbox Addr :=
  inbox.update (fun r => decide (r.endpointID = some id)) forgetEndpoint forgetEndpoint_target
    (fun _ => rfl)

/-- The tables after DeleteDiscoveryNetwork; its items go with it (ON DELETE CASCADE). -/
def DB.deleteNetwork (db : DB Addr) (id : String) : DB Addr :=
  { db with
    networks := db.networks.filter (fun n => !decide (n = id))
    inbox := db.inbox.delete (fun r => decide (r.networkID = some id)) }

/-! ## §2. What statements leave of the inbox and of the promotions. -/

/-- Nothing comes into the inbox. -/
structure Inbox.Shrinks (inbox inbox' : Inbox Addr) : Prop where
  nextID : inbox'.nextID = inbox.nextID
  has : ∀ id, inbox'.Has id → inbox.Has id
  target : ∀ t, inbox'.HasTarget t → inbox.HasTarget t

theorem Inbox.Shrinks.refl (inbox : Inbox Addr) : inbox.Shrinks inbox :=
  ⟨rfl, fun _ h => h, fun _ h => h⟩

theorem Inbox.shrinks_update {inbox : Inbox Addr} {p : DiscoveryInboxItem Addr → Bool}
    {f : DiscoveryInboxItem Addr → DiscoveryInboxItem Addr}
    {htarget : ∀ r, (f r).target = r.target} {hid : ∀ r, (f r).id = r.id} :
    inbox.Shrinks (inbox.update p f htarget hid) := by
  refine ⟨rfl, fun _ h => Inbox.has_update.mp h, fun t h => ?_⟩
  obtain ⟨s, hs, hst⟩ := h
  obtain ⟨r, hr, rfl⟩ := Inbox.mem_update.mp hs
  refine ⟨r, hr, ?_⟩
  split at hst
  · exact (htarget r).symm.trans hst
  · exact hst

theorem Inbox.shrinks_dismiss (inbox : Inbox Addr) (itemID : Nat) :
    inbox.Shrinks (inbox.dismiss itemID) := Inbox.shrinks_update

theorem Inbox.shrinks_withoutEndpoint (inbox : Inbox Addr) (id : String) :
    inbox.Shrinks (inbox.withoutEndpoint id) := Inbox.shrinks_update

theorem Inbox.shrinks_delete {inbox : Inbox Addr} {p : DiscoveryInboxItem Addr → Bool} :
    inbox.Shrinks (inbox.delete p) := by
  refine ⟨rfl, fun id h => ?_, fun t h => ?_⟩
  · obtain ⟨r, hr, hrid⟩ := h
    exact ⟨r, (Table.mem_delete.mp hr).1, hrid⟩
  · obtain ⟨r, hr, hrt⟩ := h
    exact ⟨r, (Table.mem_delete.mp hr).1, hrt⟩

/-- Ids are given once: an item that was not there has a new one. -/
structure Inbox.Later (inbox inbox' : Inbox Addr) : Prop where
  nextID : inbox.nextID ≤ inbox'.nextID
  origin : ∀ id, inbox'.Has id → inbox.Has id ∨ inbox.nextID ≤ id

theorem Inbox.Shrinks.later {inbox inbox' : Inbox Addr} (h : inbox.Shrinks inbox') :
    inbox.Later inbox' := ⟨Nat.le_of_eq h.nextID.symm, fun id hid => .inl (h.has id hid)⟩

theorem Inbox.Upserted.later {inbox inbox' : Inbox Addr} {ts : List (Addr × Int)}
    (h : Inbox.Upserted inbox inbox' ts) : inbox.Later inbox' := by
  refine ⟨h.nextID, fun id hid => ?_⟩
  obtain ⟨s, hs, hsid⟩ := hid
  rcases h.origin s hs with ⟨r, hr, hrs⟩ | hnew
  · exact .inl ⟨r, hr, hrs.id.symm.trans hsid⟩
  · exact .inr (hsid ▸ hnew)

theorem map_touch_itemID (created : List (Promoted Addr)) (id : String) :
    (created.map (Promoted.touch id)).map Promoted.itemID = created.map Promoted.itemID := by
  rw [List.map_map]
  apply List.map_congr_left
  intro c _
  show (Promoted.touch id c).itemID = c.itemID
  unfold Promoted.touch
  split
  · rfl
  · rfl

/-- The promotions after one of them moved. -/
theorem goto_promotions (s : Sys Addr) (p q : Nat) (pc : Pc Addr) :
    (s.goto p pc).promotions q = if q = p then pc else s.promotions q := by
  show Function.update s.promotions p pc q = _
  by_cases hqp : q = p
  · rw [if_pos hqp, hqp, Function.update_self]
  · rw [if_neg hqp, Function.update_of_ne hqp]

/-- A move of a promotion that holds no item before keeps the held items held. -/
theorem exists_holds_goto {s : Sys Addr} {p : Nat} {pc : Pc Addr} {id : Nat}
    (hp : (s.promotions p).holds = none ∨ pc.holds = (s.promotions p).holds)
    (h : ∃ q, (s.promotions q).holds = some id) :
    ∃ q, ((s.goto p pc).promotions q).holds = some id := by
  obtain ⟨q, hq⟩ := h
  refine ⟨q, ?_⟩
  rw [goto_promotions]
  split
  · next hqp =>
      subst hqp
      rcases hp with hp | hp
      · rw [hp] at hq
        exact absurd hq (by simp)
      · rw [hp, hq]
  · exact hq

/-- What a move of a promotion leaves of the items read. -/
theorem read_goto {s : Sys Addr} {p : Nat} {pc : Pc Addr} {n : Nat}
    (h : ∀ p item req, s.promotions p = .read item req → item.id < n)
    (hpc : ∀ item req, pc = .read item req → item.id < n) :
    ∀ q item req, (s.goto p pc).promotions q = .read item req → item.id < n := by
  intro q item req hq
  rw [goto_promotions] at hq
  split at hq
  · exact hpc item req hq
  · exact h q item req hq

/-! ## §3. Promotions of one item. -/

/-- The condition: an endpoint is inserted only for an item that is still in the inbox, and
of which no other promotion has created an endpoint without deleting the item. -/
def InsertsOnce (s : Sys Addr) (a : Action) : Prop :=
  ∀ p endpointID readBack item req, a = .insert p endpointID readBack →
    s.promotions p = .read item req →
    (∃ store, s.db.store.insertEndpoint endpointID (promoteRecord item req) = .ok store) →
    s.db.inbox.Has item.id ∧ ∀ q, q ≠ p → (s.promotions q).holds ≠ some item.id

/-- What the condition keeps up. -/
structure OnceInv (s : Sys Addr) : Prop where
  once : (s.created.map Promoted.itemID).Nodup
  /-- Items that were promoted or read had been given an id. -/
  given : ∀ id ∈ s.created.map Promoted.itemID, id < s.db.inbox.nextID
  read : ∀ p item req, s.promotions p = .read item req → item.id < s.db.inbox.nextID
  /-- An item that was promoted and is still there is held by a promotion. -/
  held : ∀ id ∈ s.created.map Promoted.itemID, s.db.inbox.Has id →
    ∃ q, (s.promotions q).holds = some id

/-- Before any promotion. -/
def Sys.start (db : DB Addr) : Sys Addr := ⟨db, fun _ => .idle, []⟩

theorem onceInv_start (db : DB Addr) : OnceInv (Sys.start db) :=
  ⟨List.nodup_nil, fun _ h => absurd h List.not_mem_nil,
    fun _ _ _ h => absurd h (by simp [Sys.start]), fun _ h => absurd h List.not_mem_nil⟩

/-- How many endpoints were created from an item. -/
def Sys.promotedTimes (s : Sys Addr) (itemID : Nat) : Nat :=
  s.created.countP (fun c => decide (c.itemID = itemID))

theorem OnceInv.promotedTimes_le {s : Sys Addr} (h : OnceInv s) (itemID : Nat) :
    s.promotedTimes itemID ≤ 1 := by
  have hcount := List.nodup_iff_count_le_one.mp h.once itemID
  rw [List.count_eq_countP, List.countP_map] at hcount
  refine Nat.le_trans (Nat.le_of_eq ?_) hcount
  unfold Sys.promotedTimes
  apply List.countP_congr
  intro c _
  simp

/-- Other requests keep the invariant. -/
theorem onceInv_later {s t : Sys Addr} (hs : OnceInv s) (hlater : s.db.inbox.Later t.db.inbox)
    (hitems : t.created.map Promoted.itemID = s.created.map Promoted.itemID)
    (hpromotions : t.promotions = s.promotions) : OnceInv t := by
  refine ⟨hitems ▸ hs.once, ?_, ?_, ?_⟩
  · intro id hid
    exact Nat.lt_of_lt_of_le (hs.given id (hitems ▸ hid)) hlater.nextID
  · intro p item req hp
    rw [hpromotions] at hp
    exact Nat.lt_of_lt_of_le (hs.read p item req hp) hlater.nextID
  · intro id hid hhas
    have hid' : id ∈ s.created.map Promoted.itemID := hitems ▸ hid
    rw [hpromotions]
    rcases hlater.origin id hhas with hhas | hnew
    · exact hs.held id hid' hhas
    · -- an item that is new was not promoted
      exact absurd (hs.given id hid') (Nat.not_lt.mpr hnew)

/-- **An endpoint for an item** that is still there and that no other promotion holds. -/
theorem onceInv_inserted {s : Sys Addr} (hs : OnceInv s) {p : Nat} {endpointID : String}
    {item : DiscoveryInboxItem Addr} {req : PromoteDiscoveryInboxRequest}
    {store : Endpoints.DB} {pc : Pc Addr} (hread : s.promotions p = .read item req)
    (hholds : pc.holds = some item.id) (hhas : s.db.inbox.Has item.id)
    (hothers : ∀ q, q ≠ p → (s.promotions q).holds ≠ some item.id) :
    OnceInv { s.goto p pc with
      db := { s.db with store := store }
      created := s.created ++ [⟨item.id, item.target, endpointID, req.dnsName, true⟩] } := by
  have hnone : (s.promotions p).holds = none := by rw [hread]; rfl
  -- a promoted item that is still there is held, and not by this promotion
  have hnew : item.id ∉ s.created.map Promoted.itemID := by
    intro hmem
    obtain ⟨q, hq⟩ := hs.held item.id hmem hhas
    by_cases hqp : q = p
    · rw [hqp, hnone] at hq
      exact absurd hq (by simp)
    · exact hothers q hqp hq
  have hitems : ∀ c : Promoted Addr, c.itemID = item.id →
      (s.created ++ [c]).map Promoted.itemID = s.created.map Promoted.itemID ++ [item.id] := by
    intro c hc
    rw [List.map_append, List.map_singleton, hc]
  refine ⟨?_, ?_, ?_, ?_⟩
  · show ((s.created ++ [_]).map Promoted.itemID).Nodup
    rw [hitems _ rfl, List.nodup_append]
    refine ⟨hs.once, List.nodup_singleton _, fun id hid id' hid' heq => ?_⟩
    have hitem : id = item.id := heq.trans (List.mem_singleton.mp hid')
    exact hnew (hitem ▸ hid)
  · intro id hid
    rw [hitems _ rfl, List.mem_append, List.mem_singleton] at hid
    rcases hid with hid | hid
    · exact hs.given id hid
    · rw [hid]
      exact hs.read p item req hread
  · -- it has inserted, so it is at no item that it read
    refine read_goto hs.read (fun item' req' hpc => ?_)
    rw [hpc] at hholds
    exact absurd hholds (by simp [Pc.holds])
  · intro id hid hhas'
    rw [hitems _ rfl, List.mem_append, List.mem_singleton] at hid
    rcases hid with hid | hid
    · exact exists_holds_goto (.inl hnone) (hs.held id hid hhas')
    · -- the new endpoint's item is held by this promotion
      refine ⟨p, ?_⟩
      show ((s.goto p pc).promotions p).holds = some id
      rw [goto_promotions, if_pos rfl, hholds, hid]

/-- **A promoted item is deleted**: the others are held as before. -/
theorem onceInv_removed {s : Sys Addr} (hs : OnceInv s) {p itemID : Nat}
    (hpc : s.promotions p = .inserted itemID) :
    OnceInv { s.goto p .done with
      db := { s.db with inbox := s.db.inbox.deleteItem itemID } } := by
  refine ⟨hs.once, hs.given, read_goto hs.read (fun _ _ hpc => absurd hpc (by simp)), ?_⟩
  intro id hid hhas
  obtain ⟨hhas, hne⟩ := Inbox.has_deleteItem.mp hhas
  obtain ⟨q, hq⟩ := hs.held id hid hhas
  refine ⟨q, ?_⟩
  show ((s.goto p .done).promotions q).holds = some id
  rw [goto_promotions]
  split
  · next hqp =>
      -- it held the item that is gone
      rw [hqp, hpc] at hq
      exact absurd (Option.some.inj hq).symm hne
  · exact hq

/-! ## §4. What a step does. -/

variable [DecidableEq Addr] (parseInet : String → Option Addr)

/-- One step; a request that fails changes nothing. -/
def step (s : Sys Addr) : Action → Option (Sys Addr)
  | .get p itemID req =>
      match s.promotions p with
      | .idle =>
          if trimSpace req.name = "" ∨ trimSpace req.dnsName = "" then some (s.goto p .done)
          else
            match s.db.inbox.find? itemID with
            | none => some (s.goto p .done)
            | some item => some (s.goto p (.read item req))
      | _ => none
  | .insert p endpointID readBack =>
      match s.promotions p with
      | .read item req =>
          match s.db.store.insertEndpoint endpointID (promoteRecord item req) with
          | .error _ => some (s.goto p .done)
          | .ok store =>
              -- InsertEndpoint ends with a GetEndpoint after its transaction
              let pc := if readBack then .inserted item.id else .left item.id
              some { s.goto p pc with
                db := { s.db with store := store }
                created := s.created ++ [⟨item.id, item.target, endpointID, req.dnsName, true⟩] }
      | _ => none
  | .remove p ok =>
      match s.promotions p with
      | .inserted itemID =>
          if ok then
            some { s.goto p .done with
              db := { s.db with inbox := s.db.inbox.deleteItem itemID } }
          else some (s.goto p (.left itemID))
      | _ => none
  | .dismiss itemID => some { s with db := { s.db with inbox := s.db.inbox.dismiss itemID } }
  | .deleteItem itemID => some { s with db := { s.db with inbox := s.db.inbox.deleteItem itemID } }
  | .report now scannerID networkID items =>
      some { s with db := (reportDiscovery parseInet s.db now scannerID networkID items).1 }
  | .insertEndpoint id rec =>
      match s.db.store.insertEndpoint id rec with
      | .error _ => some s
      | .ok store => some { s with db := { s.db with store := store } }
  | .updateEndpoint id rec =>
      match s.db.store.updateEndpoint id rec with
      | .error _ => some s
      | .ok store => some
          { s with
            db := { s.db with store := store }
            created := s.created.map (Promoted.touch id) }
  | .deleteEndpoint id =>
      match s.db.store.deleteEndpoint id with
      | .error _ => some s
      | .ok store => some
          { s with
            db := { s.db with store := store, inbox := s.db.inbox.withoutEndpoint id }
            created := s.created.map (Promoted.touch id) }
  | .deleteNetwork id => some { s with db := s.db.deleteNetwork id }

variable {parseInet}

theorem later_report {db : DB Addr} {now : Int} {scannerID networkID : String}
    {items : List DiscoveryReportItem} :
    db.inbox.Later (reportDiscovery parseInet db now scannerID networkID items).1.inbox := by
  rcases @reportDiscovery_cases Addr _ parseInet db now scannerID networkID items with
    ⟨db', hdb', hresult⟩ | ⟨_, hresult⟩
  · rw [hresult]
    exact (DB.upsertDiscoveryInboxItems_eq_some hdb').2.2.later
  · rw [hresult]
    exact (Inbox.Shrinks.refl _).later

/-- What a step can do to the inbox, the promotions and the endpoints created. -/
inductive Effect (parseInet : String → Option Addr) (s : Sys Addr) (a : Action) :
    Sys Addr → Prop
  /-- Nobody promotes, and nothing is found. -/
  | quiet {db : DB Addr} {created : List (Promoted Addr)} : s.db.inbox.Shrinks db.inbox →
      created.map Promoted.itemID = s.created.map Promoted.itemID →
      Effect parseInet s a { s with db := db, created := created }
  | reported {now : Int} {scannerID networkID : String} {items : List DiscoveryReportItem} :
      a = .report now scannerID networkID items →
      Effect parseInet s a
        { s with db := (reportDiscovery parseInet s.db now scannerID networkID items).1 }
  /-- A promotion ends before its InsertEndpoint, or in it. -/
  | failed {p : Nat} : (s.promotions p).holds = none → Effect parseInet s a (s.goto p .done)
  | read {p : Nat} {item : DiscoveryInboxItem Addr} {req : PromoteDiscoveryInboxRequest} :
      (s.promotions p).holds = none → item ∈ s.db.inbox.rows →
      Effect parseInet s a (s.goto p (.read item req))
  | inserted {p : Nat} {endpointID : String} {readBack : Bool}
      {item : DiscoveryInboxItem Addr} {req : PromoteDiscoveryInboxRequest}
      {store : Endpoints.DB} {pc : Pc Addr} :
      a = .insert p endpointID readBack → s.promotions p = .read item req →
      s.db.store.insertEndpoint endpointID (promoteRecord item req) = .ok store →
      pc.holds = some item.id →
      Effect parseInet s a { s.goto p pc with
        db := { s.db with store := store }
        created := s.created ++ [⟨item.id, item.target, endpointID, req.dnsName, true⟩] }
  | removed {p itemID : Nat} : s.promotions p = .inserted itemID →
      Effect parseInet s a { s.goto p .done with
        db := { s.db with inbox := s.db.inbox.deleteItem itemID } }
  | kept {p itemID : Nat} : s.promotions p = .inserted itemID →
      Effect parseInet s a (s.goto p (.left itemID))

/-- **A step has one of these effects.** -/
theorem step_cases {s t : Sys Addr} {a : Action} (h : step parseInet s a = some t) :
    Effect parseInet s a t := by
  cases a with
  | get p itemID req =>
      simp only [step] at h
      split at h
      · next hpc =>
          have hnone : (s.promotions p).holds = none := by rw [hpc]; rfl
          split at h
          · injection h with h
            exact h ▸ .failed hnone
          · split at h
            · injection h with h
              exact h ▸ .failed hnone
            · next item hitem =>
                injection h with h
                exact h ▸ .read hnone (Inbox.find?_eq_some hitem).1
      · exact absurd h (by simp)
  | insert p endpointID readBack =>
      simp only [step] at h
      split at h
      · next item req hpc =>
          split at h
          · injection h with h
            exact h ▸ .failed (by rw [hpc]; rfl)
          · next store hstore =>
              injection h with h
              subst h
              refine .inserted rfl hpc hstore ?_
              cases readBack with
              | true => rfl
              | false => rfl
      · exact absurd h (by simp)
  | remove p ok =>
      simp only [step] at h
      split at h
      · next itemID hpc =>
          split at h
          · injection h with h
            exact h ▸ .removed hpc
          · injection h with h
            exact h ▸ .kept hpc
      · exact absurd h (by simp)
  | dismiss itemID =>
      injection h with h
      exact h ▸ .quiet (Inbox.shrinks_dismiss s.db.inbox itemID) rfl
  | deleteItem itemID =>
      injection h with h
      exact h ▸ .quiet Inbox.shrinks_delete rfl
  | report now scannerID networkID items =>
      injection h with h
      exact h ▸ .reported rfl
  | insertEndpoint id rec =>
      simp only [step] at h
      split at h
      · injection h with h
        exact h ▸ .quiet (Inbox.Shrinks.refl _) rfl
      · injection h with h
        exact h ▸ .quiet (Inbox.Shrinks.refl _) rfl
  | updateEndpoint id rec =>
      simp only [step] at h
      split at h
      · injection h with h
        exact h ▸ .quiet (Inbox.Shrinks.refl _) rfl
      · injection h with h
        exact h ▸ .quiet (Inbox.Shrinks.refl _) (map_touch_itemID _ _)
  | deleteEndpoint id =>
      simp only [step] at h
      split at h
      · injection h with h
        exact h ▸ .quiet (Inbox.Shrinks.refl _) rfl
      · injection h with h
        exact h ▸ .quiet (Inbox.shrinks_withoutEndpoint s.db.inbox id) (map_touch_itemID _ _)
  | deleteNetwork id =>
      injection h with h
      exact h ▸ .quiet Inbox.shrinks_delete rfl

/-! ## §5. At most one endpoint. -/

/-- **The step lemma.** -/
theorem onceInv_step {s t : Sys Addr} {a : Action} (hs : OnceInv s) (hC : InsertsOnce s a)
    (h : step parseInet s a = some t) : OnceInv t := by
  cases step_cases h with
  | @quiet db created hshrinks hitems =>
      exact onceInv_later (t := { s with db := db, created := created }) hs hshrinks.later hitems
        rfl
  | @reported now scannerID networkID items _ =>
      exact onceInv_later hs later_report rfl rfl
  | @failed p hnone =>
      -- it created nothing, and holds nothing
      refine ⟨hs.once, hs.given, read_goto hs.read (fun _ _ hpc => absurd hpc (by simp)), ?_⟩
      intro id hid hhas
      exact exists_holds_goto (.inl hnone) (hs.held id hid hhas)
  | @read p item req hnone hitem =>
      refine ⟨hs.once, hs.given, read_goto hs.read ?_, ?_⟩
      · intro item' req' hpc
        injection hpc with hitem' _
        exact hitem' ▸ s.db.inbox.fresh item hitem
      · intro id hid hhas
        exact exists_holds_goto (.inl hnone) (hs.held id hid hhas)
  | @inserted p endpointID readBack item req store pc ha hread hstore hholds =>
      obtain ⟨hhas, hothers⟩ := hC p endpointID readBack item req ha hread ⟨store, hstore⟩
      exact onceInv_inserted hs hread hholds hhas hothers
  | @removed p itemID hpc => exact onceInv_removed hs hpc
  | @kept p itemID hpc =>
      -- it goes on holding the item that it could not delete
      refine ⟨hs.once, hs.given, read_goto hs.read (fun _ _ hpc => absurd hpc (by simp)), ?_⟩
      intro id hid hhas
      exact exists_holds_goto (.inr (by rw [hpc]; rfl)) (hs.held id hid hhas)

/-- **At most one endpoint is created from an item**, in every state of a run whose steps meet
the condition. -/
theorem promoted_once {db : DB Addr} {t : Sys Addr} {tr : List (Sys Addr × Action)}
    (e : Exec (step parseInet) (Sys.start db) tr t) (hC : ∀ q ∈ tr, InsertsOnce q.1 q.2) :
    ∀ u ∈ visited tr t, ∀ itemID, u.promotedTimes itemID ≤ 1 := by
  intro u hu itemID
  have hinv := e.preserves (C := InsertsOnce) (I := OnceInv)
    (fun _ _ _ hs hC h => onceInv_step hs hC h) (onceInv_start db) hC u hu
  exact hinv.promotedTimes_le itemID

/-- What a user asks for. -/
def asWeb : PromoteDiscoveryInboxRequest := ⟨"www", "www.example.com", true, none⟩

/-- An item is found, and two promotions read it before either has deleted it. -/
def promotedTwice : List Action :=
  [.report 10 "probe" "lan" [found "10.0.0.1"], .get 0 0 asWeb, .get 1 0 asWeb,
    .insert 0 "web" true, .insert 1 "www" true]

/-- Two endpoints are created from the item. -/
theorem item_promoted_twice :
    ¬ ∀ (parseInet : String → Option String) (db : DB String) (t : Sys String)
      (tr : List (Sys String × Action)), Exec (step parseInet) (Sys.start db) tr t →
      ∀ u ∈ visited tr t, ∀ itemID, u.promotedTimes itemID ≤ 1 := by
  intro h
  have e : Exec (step some) (Sys.start emptyInbox)
      (traceFrom (step some) (Sys.start emptyInbox) promotedTwice) _ := exec_traceFrom rfl
  exact absurd (h _ _ _ _ e _ (last_mem_visited _ _) 0) (by decide)

/-- The second promotion reads after the first is over. -/
def promotedInTurn : List Action :=
  [.report 10 "probe" "lan" [found "10.0.0.1"], .get 0 0 asWeb, .insert 0 "web" true,
    .remove 0 true, .get 1 0 asWeb]

/-- One after the other, the second promotion does not find the item. -/
theorem promoted_once_inTurn :
    ∃ t, run (step some) (Sys.start emptyInbox) promotedInTurn = some t ∧
      ∀ u ∈ visited (traceFrom (step some) (Sys.start emptyInbox) promotedInTurn) t,
        ∀ itemID, u.promotedTimes itemID ≤ 1 := by
  refine ⟨_, rfl, ?_⟩
  refine promoted_once (exec_traceFrom rfl) ?_
  refine List.forall_mem_cons.mpr ⟨fun _ _ _ _ _ ha => absurd ha (by simp), ?_⟩
  refine List.forall_mem_cons.mpr ⟨fun _ _ _ _ _ ha => absurd ha (by simp), ?_⟩
  refine List.forall_mem_cons.mpr ⟨?_, ?_⟩
  · -- the only insert
    intro p endpointID readBack item req ha hread _
    injection ha with hp _ _
    subst hp
    have hitem : item.id = 0 := by
      injection hread with hitem _
      exact (congrArg DiscoveryInboxItem.id hitem).symm
    rw [hitem]
    refine ⟨by decide, fun q hq => ?_⟩
    show ((Function.update (fun _ => Pc.idle) 0 _ : Nat → Pc String) q).holds ≠ some 0
    rw [Function.update_of_ne hq]
    decide
  · refine List.forall_mem_cons.mpr ⟨fun _ _ _ _ _ ha => absurd ha (by simp), ?_⟩
    refine List.forall_mem_cons.mpr ⟨fun _ _ _ _ _ ha => absurd ha (by simp), ?_⟩
    exact fun _ h => absurd h List.not_mem_nil

end TLSentinel.Discovery
