/-
  TLSentinel.Discovery.Coverage
  ─────────────────────────────
  **WHETHER MONITORED TARGETS STAY OUT OF THE INBOX.**

  A promotion gives its endpoint the name that the user typed and the port of the
  item, and no address.  A later report compares the text of its items with the text
  of `endpoint_hosts`: the ip with `ip_address` and `dns_name`, the reverse name with
  `dns_name`.  So whether a monitored address and port comes back depends on how it
  is spelled and on its reverse name.

  Main results:
    * `promoted_host`           — what is stored of a promoted endpoint that nobody edited;
    * `monitored_stay_out_iff`  — when monitored targets stay out of the inbox.
-/
import TLSentinel.Discovery.Promotion

namespace TLSentinel.Discovery

open Foundation
open TLSentinel.Endpoints (EndpointHost EndpointRecord)

variable {Addr : Type}

/-! ## §1. What is monitored, and what a report recognises. -/

/-- The address and port belong to an item that was promoted to an endpoint nobody edited,
or are those of a monitored host. -/
def Monitored (parseInet : String → Option Addr) (s : Sys Addr) (t : Addr × Int) : Prop :=
  (∃ c ∈ s.created, c.intact = true ∧ c.target = t) ∨
    ∃ eh ∈ s.db.store.hosts, eh.ipAddress.bind parseInet = some t.1 ∧ eh.port = t.2

/-- Some host has the item's port, and is spelled as its ip or as its reverse name. -/
def Recognised (hosts : Table EndpointHost.endpointID) (item : DiscoveryReportItem) : Prop :=
  ∃ eh ∈ hosts, eh.port = item.port ∧
    (eh.ipAddress = some item.ip ∨ eh.dnsName = some item.ip ∨
      ∃ name, item.rdns = some name ∧ eh.dnsName = some name)

theorem endpointExistsForTarget_iff {hosts : Table EndpointHost.endpointID}
    {item : DiscoveryReportItem} :
    endpointExistsForTarget hosts item.ip item.rdns item.port = true ↔ Recognised hosts item := by
  unfold endpointExistsForTarget Recognised
  rw [List.any_eq_true]
  simp only [Bool.and_eq_true, Bool.or_eq_true, decide_eq_true_eq, Table.mem_def]
  refine exists_congr fun eh => and_congr_right fun _ => and_congr_right fun _ => ?_
  rw [or_assoc]
  refine or_congr_right (or_congr_right ?_)
  constructor
  · intro h
    obtain ⟨name, hname⟩ := Option.isSome_iff_exists.mp h.1
    exact ⟨name, hname, h.2.trans hname⟩
  · intro h
    obtain ⟨name, hname, hdns⟩ := h
    exact ⟨by rw [hname]; rfl, hdns.trans hname.symm⟩

theorem mem_uncovered {db : DB Addr} {items : List DiscoveryReportItem}
    {item : DiscoveryReportItem} :
    item ∈ db.uncovered items ↔ item ∈ items ∧ ¬ Recognised db.store.hosts item := by
  unfold DB.uncovered
  rw [List.mem_filter, Bool.not_eq_true', ← Bool.not_eq_true, endpointExistsForTarget_iff]

/-- The step lets no monitored address and port into the inbox. -/
def KeepsOut (parseInet : String → Option Addr) (s s' : Sys Addr) : Prop :=
  ∀ t, Monitored parseInet s t → s'.db.inbox.HasTarget t → s.db.inbox.HasTarget t

/-- The condition: a report that is recorded recognises every item whose address and port are
monitored, unless they have a row already. -/
def ReportsRecognise (parseInet : String → Option Addr) (s : Sys Addr) (a : Action) : Prop :=
  ∀ now scannerID networkID items, a = .report now scannerID networkID items →
    s.db.Accepted parseInet scannerID networkID items →
    ∀ item ∈ items, ∀ t, item.target parseInet = some t → Monitored parseInet s t →
      ¬ s.db.inbox.HasTarget t → Recognised s.db.store.hosts item

/-! ## §2. What a promotion stores. -/

/-- The endpoint of an item that nobody edited: the name that the user typed, the item's
port, and no address. -/
def PromotedHost (s : Sys Addr) (c : Promoted Addr) : Prop :=
  (∃ e ∈ s.db.store.endpoints, e.id = c.endpointID) ∧
    s.db.store.hosts.find? c.endpointID = some ⟨c.endpointID, some c.dnsName, none, c.target.2⟩

/-- All of them. -/
def PromotedHosts (s : Sys Addr) : Prop := ∀ c ∈ s.created, c.intact = true → PromotedHost s c

/-- An endpoint that is inserted is another one. -/
theorem promotedHosts_insertEndpoint {s : Sys Addr} {store : Endpoints.DB} {id : String}
    {rec : EndpointRecord} (hs : PromotedHosts s)
    (h : s.db.store.insertEndpoint id rec = .ok store) (c : Promoted Addr) (hc : c ∈ s.created)
    (hintact : c.intact = true) :
    (∃ e ∈ store.endpoints, e.id = c.endpointID) ∧
      store.hosts.find? c.endpointID = some ⟨c.endpointID, some c.dnsName, none, c.target.2⟩ := by
  obtain ⟨_, _, hfresh, hmem, hhosts, _⟩ := Endpoints.DB.insertEndpoint_ok h
  obtain ⟨⟨e, he, heid⟩, hfind⟩ := hs c hc hintact
  refine ⟨⟨e, (hmem e).mpr (.inl he), heid⟩, ?_⟩
  -- its id was free, and this one's is not
  rw [hhosts, if_neg, hfind]
  intro hnew
  exact hfresh e he (heid.trans hnew.2.symm)

theorem promotedHosts_congr {s t : Sys Addr} (hstore : t.db.store = s.db.store)
    (hcreated : t.created = s.created) (hs : PromotedHosts s) : PromotedHosts t := by
  intro c hc hintact
  unfold PromotedHost
  rw [hstore]
  exact hs c (hcreated ▸ hc) hintact

/-- What is intact after an endpoint was edited was so before, and is another endpoint's. -/
theorem touch_intact {id : String} {c : Promoted Addr} (h : (c.touch id).intact = true) :
    c.touch id = c ∧ c.endpointID ≠ id := by
  unfold Promoted.touch at h ⊢
  by_cases hid : c.endpointID = id
  · rw [if_pos hid] at h
    exact absurd h (by simp)
  · rw [if_neg hid]
    exact ⟨rfl, hid⟩

/-- Editing or deleting one endpoint leaves the others. -/
theorem promotedHosts_touch {s : Sys Addr} {db : DB Addr} {id : String} (hs : PromotedHosts s)
    (hendpoints : ∀ e ∈ s.db.store.endpoints, e.id ≠ id →
      ∃ e' ∈ db.store.endpoints, e'.id = e.id)
    (hhosts : ∀ id', id' ≠ id → db.store.hosts.find? id' = s.db.store.hosts.find? id') :
    PromotedHosts { s with db := db, created := s.created.map (Promoted.touch id) } := by
  intro c hc hintact
  obtain ⟨c', hc', rfl⟩ := List.mem_map.mp hc
  obtain ⟨hsame, hne⟩ := touch_intact hintact
  rw [hsame] at hintact ⊢
  obtain ⟨⟨e, he, heid⟩, hfind⟩ := hs c' hc' hintact
  obtain ⟨e', he', heid'⟩ := hendpoints e he (fun h => hne (heid.symm.trans h))
  exact ⟨⟨e', he', heid'.trans heid⟩, (hhosts c'.endpointID hne).trans hfind⟩

/-- So a promoted target is recognised by the name that the user typed, as the reverse name
or as the ip. -/
theorem PromotedHosts.recognised {s : Sys Addr} (hs : PromotedHosts s) {c : Promoted Addr}
    (hc : c ∈ s.created) (hintact : c.intact = true) {item : DiscoveryReportItem}
    (hport : item.port = c.target.2)
    (hname : item.rdns = some c.dnsName ∨ item.ip = c.dnsName) :
    Recognised s.db.store.hosts item := by
  obtain ⟨_, hfind⟩ := hs c hc hintact
  refine ⟨_, Table.mem_of_find? hfind, hport.symm, ?_⟩
  rcases hname with hrdns | hip
  · exact .inr (.inr ⟨c.dnsName, hrdns, rfl⟩)
  · exact .inr (.inl (by rw [hip]))

variable [DecidableEq Addr] {parseInet : String → Option Addr}

theorem store_report {db : DB Addr} {now : Int} {scannerID networkID : String}
    {items : List DiscoveryReportItem} :
    (reportDiscovery parseInet db now scannerID networkID items).1.store = db.store := by
  rcases @reportDiscovery_cases Addr _ parseInet db now scannerID networkID items with
    ⟨db', hdb', hresult⟩ | ⟨_, hresult⟩
  · rw [hresult]
    exact (DB.upsertDiscoveryInboxItems_eq_some hdb').1
  · rw [hresult]

/-- **The step lemma.** -/
theorem promotedHosts_step {s t : Sys Addr} {a : Action} (hs : PromotedHosts s)
    (h : step parseInet s a = some t) : PromotedHosts t := by
  cases a with
  | get p itemID req =>
      simp only [step] at h
      split at h
      · split at h
        · injection h with h
          exact h ▸ promotedHosts_congr rfl rfl hs
        · split at h
          · injection h with h
            exact h ▸ promotedHosts_congr rfl rfl hs
          · injection h with h
            exact h ▸ promotedHosts_congr rfl rfl hs
      · exact absurd h (by simp)
  | insert p endpointID readBack =>
      simp only [step] at h
      split at h
      · next item req _ =>
          split at h
          · injection h with h
            exact h ▸ promotedHosts_congr rfl rfl hs
          · next store hstore =>
              injection h with h
              subst h
              intro c hc hintact
              rcases List.mem_append.mp hc with hc | hc
              · exact promotedHosts_insertEndpoint hs hstore c hc hintact
              · -- the endpoint that was just created
                obtain ⟨_, _, _, hmem, hhosts, _⟩ := Endpoints.DB.insertEndpoint_ok hstore
                rw [List.mem_singleton] at hc
                subst hc
                refine ⟨⟨_, (hmem _).mpr (.inr rfl), rfl⟩, ?_⟩
                show store.hosts.find? endpointID = _
                rw [hhosts, if_pos ⟨.inl rfl, rfl⟩]
                rfl
      · exact absurd h (by simp)
  | remove p ok =>
      simp only [step] at h
      split at h
      · split at h
        · injection h with h
          exact h ▸ promotedHosts_congr rfl rfl hs
        · injection h with h
          exact h ▸ promotedHosts_congr rfl rfl hs
      · exact absurd h (by simp)
  | dismiss itemID =>
      injection h with h
      exact h ▸ promotedHosts_congr rfl rfl hs
  | deleteItem itemID =>
      injection h with h
      exact h ▸ promotedHosts_congr rfl rfl hs
  | report now scannerID networkID items =>
      injection h with h
      exact h ▸ promotedHosts_congr store_report rfl hs
  | insertEndpoint id rec =>
      simp only [step] at h
      split at h
      · injection h with h
        exact h ▸ hs
      · next store hstore =>
          injection h with h
          exact h ▸ fun c hc hintact => promotedHosts_insertEndpoint hs hstore c hc hintact
  | updateEndpoint id rec =>
      simp only [step] at h
      split at h
      · injection h with h
        exact h ▸ hs
      · next store hstore =>
          injection h with h
          subst h
          obtain ⟨hendpoints, _, hhosts, _⟩ := Endpoints.DB.updateEndpoint_ok hstore
          refine promotedHosts_touch hs (fun e he hne => ⟨e, ?_, rfl⟩) (fun id' hne => ?_)
          · -- the row of another endpoint is not touched
            show e ∈ store.endpoints
            have hmem := @Table.update_mem _ _ _ _ (fun h => decide (h.id = id))
              (Endpoints.DB.withRecord rec) (Endpoints.DB.withRecord_id rec) _ he
            rw [if_neg (by simpa using hne)] at hmem
            rw [hendpoints]
            exact hmem
          · show store.hosts.find? id' = _
            rw [hhosts, if_neg hne]
  | deleteEndpoint id =>
      simp only [step] at h
      split at h
      · injection h with h
        exact h ▸ hs
      · next store hstore =>
          injection h with h
          subst h
          obtain ⟨_, hmem, hhosts, _⟩ := Endpoints.DB.deleteEndpoint_ok hstore
          refine promotedHosts_touch hs (fun e he hne => ⟨e, (hmem e).mpr ⟨he, hne⟩, rfl⟩)
            (fun id' hne => ?_)
          show store.hosts.find? id' = _
          rw [hhosts, if_neg hne]
  | deleteNetwork id =>
      injection h with h
      exact h ▸ promotedHosts_congr rfl rfl hs

/-- **What is stored of a promoted endpoint** that nobody edited, in every state reached. -/
theorem promoted_host {db : DB Addr} {t : Sys Addr} {tr : List (Sys Addr × Action)}
    (e : Exec (step parseInet) (Sys.start db) tr t) : ∀ u ∈ visited tr t, PromotedHosts u :=
  e.preserves (C := fun _ _ => True) (I := PromotedHosts)
    (fun _ _ _ hs _ h => promotedHosts_step hs h) (fun _ h => absurd h List.not_mem_nil)
    (fun _ _ => trivial)

/-! ## §3. What enters the inbox. -/

/-- A step that is no report lets nothing in. -/
theorem hasTarget_step {s t : Sys Addr} {a : Action} (h : step parseInet s a = some t)
    (ha : ∀ now scannerID networkID items, a ≠ .report now scannerID networkID items) :
    ∀ k, t.db.inbox.HasTarget k → s.db.inbox.HasTarget k := by
  intro k hk
  cases step_cases h with
  | quiet hshrinks _ => exact hshrinks.target k hk
  | reported hreport => exact absurd hreport (ha _ _ _ _)
  | failed _ => exact hk
  | read _ _ => exact hk
  | inserted _ _ _ _ => exact hk
  | removed _ => exact Inbox.shrinks_delete.target k hk
  | kept _ => exact hk

/-- **One report.** -/
theorem keepsOut_report_iff {s : Sys Addr} {now : Int} {scannerID networkID : String}
    {items : List DiscoveryReportItem} :
    KeepsOut parseInet s
        { s with db := (reportDiscovery parseInet s.db now scannerID networkID items).1 } ↔
      ReportsRecognise parseInet s (.report now scannerID networkID items) := by
  have hsome := @DB.upsertDiscoveryInboxItems_isSome_iff Addr parseInet _ s.db now scannerID
    networkID items
  constructor
  · intro hkeeps now' scannerID' networkID' items' ha haccepted item hitem t ht hmonitored hnew
    injection ha with _ hscanner hnetwork hitems
    subst hscanner hnetwork hitems
    by_contra hnot
    -- otherwise the item is uncovered, and has a row afterwards
    obtain ⟨db', hdb'⟩ := Option.isSome_iff_exists.mp (hsome.mpr (.inr haccepted))
    rcases @reportDiscovery_cases Addr _ parseInet s.db now scannerID networkID items with
      ⟨db'', hdb'', hresult⟩ | ⟨hnone, _⟩
    · have hrow := ((DB.upsertDiscoveryInboxItems_eq_some hdb'').2.2.target t).mpr
        (.inr (List.mem_filterMap.mpr ⟨item, mem_uncovered.mpr ⟨hitem, hnot⟩, ht⟩))
      refine hnew (hkeeps t hmonitored ?_)
      show (reportDiscovery parseInet s.db now scannerID networkID items).1.inbox.HasTarget t
      rw [hresult]
      exact hrow
    · exact absurd (hnone.symm.trans hdb') (by simp)
  · intro hrecognise t hmonitored hrow
    have hrow' : (reportDiscovery parseInet s.db now scannerID networkID items).1.inbox.HasTarget
      t := hrow
    rcases @reportDiscovery_cases Addr _ parseInet s.db now scannerID networkID items with
      ⟨db', hdb', hresult⟩ | ⟨_, hresult⟩
    · rw [hresult] at hrow'
      rcases ((DB.upsertDiscoveryInboxItems_eq_some hdb').2.2.target t).mp hrow' with hold | hnew
      · exact hold
      · -- the row would be that of an item that the report does not recognise
        by_contra hno
        obtain ⟨item, hitem, ht⟩ := List.mem_filterMap.mp hnew
        obtain ⟨hmem, hnot⟩ := mem_uncovered.mp hitem
        rcases hsome.mp (Option.isSome_of_eq_some hdb') with hnil | haccepted
        · rw [hnil] at hitem
          exact absurd hitem List.not_mem_nil
        · exact hnot (hrecognise now scannerID networkID items rfl haccepted item hmem t ht
            hmonitored hno)
    · rw [hresult] at hrow'
      exact hrow'

/-- The step lemma. -/
theorem keepsOut_iff {s t : Sys Addr} {a : Action} (h : step parseInet s a = some t) :
    KeepsOut parseInet s t ↔ ReportsRecognise parseInet s a := by
  by_cases ha : ∃ now scannerID networkID items, a = .report now scannerID networkID items
  · obtain ⟨now, scannerID, networkID, items, rfl⟩ := ha
    injection h with h
    rw [← h]
    exact keepsOut_report_iff
  · constructor
    · intro _ now scannerID networkID items hreport
      exact absurd ⟨now, scannerID, networkID, items, hreport⟩ ha
    · intro _ k _ hk
      exact hasTarget_step h
        (fun now scannerID networkID items hreport =>
          ha ⟨now, scannerID, networkID, items, hreport⟩) k hk

/-- **Monitored targets stay out of the inbox** in a run exactly if every report that is
recorded recognises those of its items that are monitored. -/
theorem monitored_stay_out_iff {db : DB Addr} {t : Sys Addr} {tr : List (Sys Addr × Action)}
    (e : Exec (step parseInet) (Sys.start db) tr t) :
    (∀ p ∈ tr, ∀ u, step parseInet p.1 p.2 = some u → KeepsOut parseInet p.1 u) ↔
      ∀ p ∈ tr, ReportsRecognise parseInet p.1 p.2 := by
  have h := e.always_steps_iff (C := ReportsRecognise parseInet) (J := fun _ => True)
    (P := fun _ => True) (Q := fun s _ u => KeepsOut parseInet s u) (fun _ _ _ _ _ => trivial)
    (fun s a u _ _ hstep => by rw [true_and]; exact keepsOut_iff hstep) trivial trivial
  simpa using h

/-! ## §4. A promoted item is found again. -/

/-- An item is found, promoted under the name that the user types, and found again. -/
def promotedThenFound (item : DiscoveryReportItem) : List Action :=
  [.report 10 "probe" "lan" [item], .get 0 0 asWeb, .insert 0 "web" true, .remove 0 true,
    .report 20 "probe" "lan" [item]]

/-- Without a reverse name it is in the inbox again. -/
theorem promoted_item_comes_back :
    ¬ ∀ (parseInet : String → Option String) (db : DB String) (t : Sys String)
      (tr : List (Sys String × Action)), Exec (step parseInet) (Sys.start db) tr t →
      ∀ p ∈ tr, ∀ u, step parseInet p.1 p.2 = some u → KeepsOut parseInet p.1 u := by
  intro h
  have e : Exec (step some) (Sys.start emptyInbox)
      (traceFrom (step some) (Sys.start emptyInbox) (promotedThenFound (found "10.0.0.1"))) _ :=
    exec_traceFrom rfl
  -- the last step, which is the second report
  have hlast := h _ _ _ _ e _ (.tail _ (.tail _ (.tail _ (.tail _ (.head _))))) _ rfl
  have hback := hlast ("10.0.0.1", 443)
    (.inl ⟨⟨0, ("10.0.0.1", 443), "web", "www.example.com", true⟩, by decide, rfl, rfl⟩)
    (by decide)
  exact absurd hback (by decide)

/-- An item whose reverse name is the one that the user types. -/
def foundByName : DiscoveryReportItem :=
  { found "10.0.0.1" with rdns := some "www.example.com" }

/-- With that reverse name it stays out. -/
theorem promoted_item_stays_out :
    ∃ t, run (step some) (Sys.start emptyInbox) (promotedThenFound foundByName) = some t ∧
      ∀ p ∈ traceFrom (step some) (Sys.start emptyInbox) (promotedThenFound foundByName),
        ∀ u, step some p.1 p.2 = some u → KeepsOut some p.1 u := by
  refine ⟨_, rfl, (monitored_stay_out_iff (exec_traceFrom rfl)).mpr ?_⟩
  refine List.forall_mem_cons.mpr ⟨?_, ?_⟩
  · -- nothing is monitored yet
    intro _ _ _ _ _ _ _ _ _ _ hmonitored _
    rcases hmonitored with ⟨c, hc, _⟩ | ⟨eh, heh, _⟩
    · exact absurd hc List.not_mem_nil
    · exact absurd heh (Table.not_mem_empty eh)
  refine List.forall_mem_cons.mpr ⟨fun _ _ _ _ ha => absurd ha (by simp), ?_⟩
  refine List.forall_mem_cons.mpr ⟨fun _ _ _ _ ha => absurd ha (by simp), ?_⟩
  refine List.forall_mem_cons.mpr ⟨fun _ _ _ _ ha => absurd ha (by simp), ?_⟩
  refine List.forall_mem_cons.mpr ⟨?_, fun _ h => absurd h List.not_mem_nil⟩
  -- the second report
  intro _ _ _ items ha _ item hitem _ _ _ _
  injection ha with _ _ _ hitems
  rw [← hitems, List.mem_singleton] at hitem
  subst hitem
  exact endpointExistsForTarget_iff.mp (by decide)

end TLSentinel.Discovery
