/-
  TLSentinel.Scans.Ledger
  ───────────────────────
  **THE SCAN HISTORY IS A CHANGE LOG, WHATEVER RETENTION DOES TO IT.**

  RecordScanResult compares a result with the newest surviving row of the
  endpoint; PurgeScanHistory deletes rows by age in between.  On the rows of one
  endpoint the two are `record` and `prune` of a change log, so

    * after every committed call the newest row shows what that call reported,
      and neighbouring rows show different things;
    * two runs that differ only in their purges write the same rows.

  Main result: `scanHistory_ledger`.
-/
import TLSentinel.Scans.Store

namespace TLSentinel.Scans

open Foundation

/-! ## §1. The calls of a run. -/

/-- What a row of the history shows. -/
def HistoryRow.shows (r : HistoryRow) : Observation := r.toScanRecord.observation

/-- When a row of the history was written. -/
def HistoryRow.time (r : HistoryRow) : Int := r.scannedAt

/-- The committed RecordScanResult call on an endpoint that a step is. -/
def committedCall (hostID : String) (p : DB × Action) : Option (Int × ScanResultRequest) :=
  match p.2 with
  | .recordScanResult now h req =>
      if h = hostID ∧ (p.1.recordScanResult now h req).isSome then some (now, req) else none
  | _ => none

/-- The committed calls on an endpoint, in order. -/
def calls (hostID : String) (tr : List (DB × Action)) : List (Int × ScanResultRequest) :=
  tr.filterMap (committedCall hostID)

@[simp] theorem calls_nil (hostID : String) : calls hostID [] = [] := rfl

theorem calls_cons (hostID : String) (p : DB × Action) (tr : List (DB × Action)) :
    calls hostID (p :: tr) = (committedCall hostID p).toList ++ calls hostID tr := by
  unfold calls
  cases h : committedCall hostID p <;> simp [h]

theorem calls_concat (hostID : String) (p : DB × Action) (tr : List (DB × Action)) :
    calls hostID (tr ++ [p]) = calls hostID tr ++ (committedCall hostID p).toList := by
  unfold calls
  rw [List.filterMap_append]
  cases h : committedCall hostID p <;> simp [h]

/-- The times of an endpoint's calls increase strictly. -/
def Increasing (calls : List (Int × ScanResultRequest)) : Prop :=
  calls.Pairwise (fun a b => a.1 < b.1)

instance (calls : List (Int × ScanResultRequest)) : Decidable (Increasing calls) :=
  inferInstanceAs (Decidable (calls.Pairwise (fun a b => a.1 < b.1)))

/-! ## §2. One transaction, on the history of one endpoint. -/

@[simp] theorem shows_newHistoryRow (db : DB) (req : ScanResultRequest) (hostID : String)
    (now : Int) : (db.newHistoryRow (req.toRecord hostID now)).shows = req.observation := rfl

/-- The guard of the insert, as a change log has it. -/
theorem lastHistory_changed_iff (db : DB) (hostID : String) (req : ScanResultRequest) :
    scanResultChanged ((db.lastHistory hostID).map HistoryRow.toScanRecord) req = true ↔
      (ChangeLog.newest HistoryRow.time (db.history hostID)).map HistoryRow.shows
        ≠ some req.observation := by
  rw [scanResultChanged_iff, Option.map_map]
  rfl

/-- **RecordScanResult records a change.** -/
theorem history_recordScanResult {db db' : DB} {now : Int} {host hostID : String}
    {req : ScanResultRequest} (h : db.recordScanResult now host req = some db') :
    db'.history hostID =
      if host = hostID then
        ChangeLog.record HistoryRow.time HistoryRow.shows (db.history hostID)
          (db.newHistoryRow (req.toRecord host now))
      else db.history hostID := by
  have hrows := (DB.recordScanResult_eq_some h).scanHistory
  have hnew : (db.newHistoryRow (req.toRecord host now)).endpointID = host := rfl
  by_cases hhost : host = hostID
  · subst hhost
    have hguard := lastHistory_changed_iff db host req
    rw [if_pos rfl, ChangeLog.record, shows_newHistoryRow]
    by_cases hsame : (ChangeLog.newest HistoryRow.time (db.history host)).map
        HistoryRow.shows = some req.observation
    · rw [if_neg (fun hc => hguard.mp hc hsame)] at hrows
      rw [if_pos hsame, DB.history, hrows]
      rfl
    · rw [if_pos (hguard.mpr hsame)] at hrows
      rw [if_neg hsame, DB.history, hrows, List.filter_append]
      simp [DB.history, hnew]
  · rw [if_neg hhost, DB.history, hrows]
    split
    · simp [DB.history, hnew, hhost]
    · rfl

/-- UpsertEndpointCert does not touch the history. -/
theorem history_upsertEndpointCert {db db' : DB} {now : Int}
    {endpointID fingerprint certUse : String}
    (h : db.upsertEndpointCert now endpointID fingerprint certUse = some db')
    (hostID : String) : db'.history hostID = db.history hostID := by
  obtain ⟨_, _, _, _, _, hhist⟩ := DB.upsertEndpointCert_eq_some h
  unfold DB.history
  rw [hhist]

/-- The log that a step leaves of an endpoint's history. -/
def historyAfter (hostID : String) (db : DB) (a : Action) : List HistoryRow :=
  match a with
  | .recordScanResult now _ req =>
      if (committedCall hostID (db, a)).isSome then
        ChangeLog.record HistoryRow.time HistoryRow.shows (db.history hostID)
          (db.newHistoryRow (req.toRecord hostID now))
      else db.history hostID
  | .purgeScanHistory now days =>
      ChangeLog.prune HistoryRow.time (now - days * day) (db.history hostID)
  | _ => db.history hostID

/-- **One step on the history of an endpoint**: record, prune, or nothing. -/
theorem history_step {db db' : DB} {a : Action} (h : step db a = some db')
    (hostID : String) : db'.history hostID = historyAfter hostID db a := by
  cases step_cases h with
  | @call now host req db' hcall =>
      simp only [historyAfter, committedCall, hcall, Option.isSome_some, and_true]
      rw [history_recordScanResult hcall]
      by_cases hhost : host = hostID
      · subst hhost
        simp
      · simp [hhost]
  | callFails hcall => simp [historyAfter, committedCall, hcall]
  | cert hcall => exact history_upsertEndpointCert hcall hostID
  | certFails _ => rfl
  | purge => exact db.history_purgeScanHistory _ _ hostID
  | ingest => rfl

/-- The call that a step is, when it is one. -/
theorem committedCall_eq_some {hostID : String} {db : DB} {a : Action} {now : Int}
    {req : ScanResultRequest} (h : committedCall hostID (db, a) = some (now, req)) :
    a = .recordScanResult now hostID req ∧
      (db.recordScanResult now hostID req).isSome := by
  unfold committedCall at h
  split at h
  · next now' host' req' ha =>
      split at h
      · next hcond =>
          injection h with h
          injection h with h₁ h₂
          obtain ⟨hhost, hok⟩ := hcond
          subst h₁ h₂ hhost
          exact ⟨ha, hok⟩
      · exact absurd h (by simp)
  · exact absurd h (by simp)

theorem historyAfter_of_call {hostID : String} {db : DB} {a : Action} {now : Int}
    {req : ScanResultRequest} (h : committedCall hostID (db, a) = some (now, req)) :
    historyAfter hostID db a =
      ChangeLog.record HistoryRow.time HistoryRow.shows (db.history hostID)
        (db.newHistoryRow (req.toRecord hostID now)) := by
  obtain ⟨ha, hok⟩ := committedCall_eq_some h
  subst ha
  simp only [historyAfter, committedCall, hok, and_self, if_true, Option.isSome_some]

/-- A step that is no committed call of the endpoint only prunes its history, if that. -/
theorem historyAfter_of_not_call {hostID : String} {db : DB} {a : Action}
    (h : committedCall hostID (db, a) = none) :
    historyAfter hostID db a = db.history hostID ∨
      ∃ cutoff, historyAfter hostID db a
        = ChangeLog.prune HistoryRow.time cutoff (db.history hostID) := by
  cases a with
  | recordScanResult now host req => exact .inl (by simp [historyAfter, h])
  | upsertEndpointCert now endpointID fingerprint certUse => exact .inl rfl
  | purgeScanHistory now days => exact .inr ⟨_, rfl⟩
  | insertCertificate fingerprint => exact .inl rfl

/-! ## §3. The ledger of an endpoint. -/

/-- What the history of an endpoint owes to the calls made. -/
structure Ledger (calls : List (Int × ScanResultRequest)) (log : List HistoryRow) : Prop where
  chronological : ChangeLog.Chronological HistoryRow.time log
  compressed : ChangeLog.Compressed HistoryRow.shows log
  newest : (ChangeLog.newest HistoryRow.time log).map HistoryRow.shows
    = calls.getLast?.map (fun c => c.2.observation)
  times : ∀ r ∈ log, ∃ c ∈ calls, c.1 = r.time

namespace Ledger

variable {cs : List (Int × ScanResultRequest)} {log : List HistoryRow}

theorem empty : Ledger [] [] :=
  ⟨List.Pairwise.nil, List.isChain_nil, rfl, fun _ h => absurd h List.not_mem_nil⟩

/-- A later call keeps the ledger. -/
theorem record (h : Ledger cs log) {now : Int} {req : ScanResultRequest} {row : HistoryRow}
    (htime : row.time = now) (hshows : row.shows = req.observation)
    (hlater : ∀ c ∈ cs, c.1 < now) :
    Ledger (cs ++ [(now, req)])
      (ChangeLog.record HistoryRow.time HistoryRow.shows log row) := by
  have hold : ∀ s ∈ log, s.time < row.time := by
    intro s hs
    obtain ⟨c, hc, hcs⟩ := h.times s hs
    rw [htime, ← hcs]
    exact hlater c hc
  refine ⟨h.chronological.record hold, h.compressed.record h.chronological, ?_, ?_⟩
  · rw [ChangeLog.newest_record hold, hshows, List.getLast?_concat, Option.map_some]
  · intro s hs
    rcases ChangeLog.mem_record hs with hs | hs
    · obtain ⟨c, hc, hcs⟩ := h.times s hs
      exact ⟨c, List.mem_append_left _ hc, hcs⟩
    · exact ⟨(now, req), by simp, hs ▸ htime.symm⟩

/-- Pruning keeps the ledger. -/
theorem prune (h : Ledger cs log) (cutoff : Int) :
    Ledger cs (ChangeLog.prune HistoryRow.time cutoff log) := by
  refine ⟨h.chronological.prune, h.compressed.prune h.chronological, ?_, ?_⟩
  · rw [ChangeLog.newest_prune h.chronological]
    exact h.newest
  · intro s hs
    exact h.times s (List.mem_of_mem_filter hs)

end Ledger

/-- Calls that increase end with the latest one. -/
theorem Increasing.later {cs : List (Int × ScanResultRequest)} {now : Int}
    {req : ScanResultRequest} (h : Increasing (cs ++ [(now, req)])) : ∀ c ∈ cs, c.1 < now :=
  fun c hc => (List.pairwise_append.mp h).2.2 c hc (now, req) (List.mem_singleton_self _)

/-- **The step lemma**: every transaction keeps every endpoint's ledger. -/
theorem ledger_step {hostID : String} {tr : List (DB × Action)} {db db' : DB} {a : Action}
    (hstep : step db a = some db') (hinc : Increasing (calls hostID (tr ++ [(db, a)])))
    (h : Ledger (calls hostID tr) (db.history hostID)) :
    Ledger (calls hostID (tr ++ [(db, a)])) (db'.history hostID) := by
  rw [calls_concat] at hinc ⊢
  rw [history_step hstep]
  cases hcall : committedCall hostID (db, a) with
  | none =>
      rw [Option.toList_none, List.append_nil]
      rcases historyAfter_of_not_call hcall with hafter | ⟨cutoff, hafter⟩
      · rw [hafter]
        exact h
      · rw [hafter]
        exact h.prune cutoff
  | some c =>
      obtain ⟨now, req⟩ := c
      rw [hcall, Option.toList_some] at hinc
      rw [historyAfter_of_call hcall, Option.toList_some]
      exact h.record rfl rfl hinc.later

/-- **The run lemma.** -/
theorem ledger_of_exec {hostID : String} {start t : DB} {tr : List (DB × Action)}
    (e : Exec step start tr t) (hnew : start.history hostID = [])
    (hinc : Increasing (calls hostID tr)) : Ledger (calls hostID tr) (t.history hostID) := by
  refine e.history (P := fun tr t => Increasing (calls hostID tr) →
    Ledger (calls hostID tr) (t.history hostID)) ?_ ?_ hinc
  · intro _
    rw [hnew]
    exact Ledger.empty
  · intro tr u a v _ ih hstep hinc
    -- the calls so far are a prefix of an increasing list
    have hbefore : Increasing (calls hostID tr) := by
      rw [calls_concat] at hinc
      exact (List.pairwise_append.mp hinc).1
    exact ledger_step hstep hinc (ih hbefore)

/-! ## §4. What the calls append. -/

/-- PurgeScanHistory runs. -/
def Action.isPurge : Action → Bool
  | .purgeScanHistory _ _ => true
  | _ => false

/-- RecordScanResult calls on an endpoint. -/
def Action.isCallOn (hostID : String) : Action → Bool
  | .recordScanResult _ h _ => decide (h = hostID)
  | _ => false

/-- The actions of a run, its purges left out. -/
def unpurged (tr : List (DB × Action)) : List Action :=
  (tr.map Prod.snd).filter (fun a => !a.isPurge)

/-- The rows that a step adds to the history, without their random ids. -/
def appendedBy (db : DB) (a : Action) : List ScanRecord :=
  match step db a with
  | some db' =>
      (db'.scanHistory.rows.filter (fun r => decide (r ∉ db.scanHistory.rows))).map
        HistoryRow.toScanRecord
  | none => []

/-- For each call on the endpoint, the rows it appended. -/
def appends (hostID : String) (tr : List (DB × Action)) : List (List ScanRecord) :=
  (tr.filter (fun p => p.2.isCallOn hostID)).map (fun p => appendedBy p.1 p.2)

/-- **A call appends its result exactly when it commits and shows something new.** -/
theorem appendedBy_call (db : DB) (now : Int) (hostID : String) (req : ScanResultRequest) :
    appendedBy db (.recordScanResult now hostID req) =
      if (db.recordScanResult now hostID req).isSome ∧
          (ChangeLog.newest HistoryRow.time (db.history hostID)).map HistoryRow.shows
            ≠ some req.observation
      then [req.toRecord hostID now] else [] := by
  simp only [appendedBy, step]
  rcases Option.eq_none_or_eq_some (db.recordScanResult now hostID req) with hcall | hcall
  · simp [hcall]
  · obtain ⟨db', hcall⟩ := hcall
    simp only [hcall, Option.getD_some, Option.isSome_some, true_and]
    have hrows := (DB.recordScanResult_eq_some hcall).scanHistory
    have hold : db.scanHistory.rows.filter (fun r => decide (r ∉ db.scanHistory.rows)) = [] := by
      rw [List.filter_eq_nil_iff]
      intro r hr
      simp [hr]
    simp only [← lastHistory_changed_iff]
    by_cases hchanged :
        scanResultChanged ((db.lastHistory hostID).map HistoryRow.toScanRecord) req = true
    · rw [if_pos hchanged] at hrows
      have hfresh : db.newHistoryRow (req.toRecord hostID now) ∉ db.scanHistory.rows := by
        intro hmem
        have hid : (db.newHistoryRow (req.toRecord hostID now)).id
            ≠ freshID HistoryRow.id db.scanHistory.rows := freshID_ne hmem
        exact hid rfl
      rw [if_pos hchanged, hrows, List.filter_append, hold, List.nil_append,
        List.filter_cons_of_pos (by simpa using hfresh)]
      rfl
    · rw [if_neg hchanged] at hrows
      rw [if_neg hchanged, hrows, hold]
      rfl

/-! ## §5. Two runs that differ in their purges. -/

/-- Two databases in which the same calls commit. -/
structure SameRefs (db db' : DB) : Prop where
  endpoints : ∀ id, HasEndpoint db.endpoints id ↔ HasEndpoint db'.endpoints id
  certificates : db.certificates = db'.certificates

/-- The newest row of an endpoint shows the same. -/
def SameNewest (hostID : String) (db db' : DB) : Prop :=
  (ChangeLog.newest HistoryRow.time (db.history hostID)).map HistoryRow.shows
    = (ChangeLog.newest HistoryRow.time (db'.history hostID)).map HistoryRow.shows

/-- No step adds or removes an endpoint. -/
theorem hasEndpoint_step {db db' : DB} {a : Action} (h : step db a = some db')
    (id : String) : HasEndpoint db'.endpoints id ↔ HasEndpoint db.endpoints id := by
  cases step_cases h with
  | call hcall =>
      rw [(DB.recordScanResult_eq_some hcall).endpoints]
      exact DB.hasEndpoint_scanState
  | callFails _ => rfl
  | cert hcall =>
      obtain ⟨_, _, _, hend, _⟩ := DB.upsertEndpointCert_eq_some hcall
      rw [hend]
  | certFails _ => rfl
  | purge => rfl
  | ingest => rfl

/-- The certificates that a step ingests. -/
def Action.ingested : Action → List String
  | .insertCertificate fingerprint => [fingerprint]
  | _ => []

theorem certificates_step {db db' : DB} {a : Action} (h : step db a = some db') :
    db'.certificates = a.ingested ++ db.certificates := by
  cases step_cases h with
  | call hcall => exact (DB.recordScanResult_eq_some hcall).certificates
  | callFails _ => rfl
  | cert hcall =>
      obtain ⟨_, _, _, _, hcert, _⟩ := DB.upsertEndpointCert_eq_some hcall
      exact hcert
  | certFails _ => rfl
  | purge => rfl
  | ingest => rfl

namespace SameRefs

variable {hostID : String} {db db' u u' : DB} {a : Action}

/-- The same calls commit. -/
theorem isSome_recordScanResult (h : SameRefs db db') (now : Int) (host : String)
    (req : ScanResultRequest) :
    (db.recordScanResult now host req).isSome = (db'.recordScanResult now host req).isSome := by
  rw [Bool.eq_iff_iff, DB.recordScanResult_isSome_iff, DB.recordScanResult_isSome_iff,
    h.endpoints, h.certificates]

theorem committedCall_eq (h : SameRefs db db') (hostID : String) (a : Action) :
    committedCall hostID (db, a) = committedCall hostID (db', a) := by
  unfold committedCall
  cases a with
  | recordScanResult now host req => simp only [h.isSome_recordScanResult]
  | upsertEndpointCert now endpointID fingerprint certUse => rfl
  | purgeScanHistory now days => rfl
  | insertCertificate fingerprint => rfl

/-- Two databases stay alike under the same step. -/
theorem step (h : SameRefs db db') (hs : Scans.step db a = some u)
    (hs' : Scans.step db' a = some u') : SameRefs u u' := by
  refine ⟨fun id => ?_, ?_⟩
  · rw [hasEndpoint_step hs, hasEndpoint_step hs', h.endpoints]
  · rw [certificates_step hs, certificates_step hs', h.certificates]

/-- Two databases stay alike when one of them is purged. -/
theorem purge (h : SameRefs db db') (ha : a.isPurge = true) (hs : Scans.step db a = some u) :
    SameRefs u db' := by
  cases a with
  | purgeScanHistory now days =>
      injection hs with hs
      subst hs
      exact ⟨h.endpoints, h.certificates⟩
  | recordScanResult now host req => exact absurd ha (by simp [Action.isPurge])
  | upsertEndpointCert now endpointID fingerprint certUse =>
      exact absurd ha (by simp [Action.isPurge])
  | insertCertificate fingerprint => exact absurd ha (by simp [Action.isPurge])

/-- **The same rows are appended.** -/
theorem appendedBy_eq (h : SameRefs db db') (hn : SameNewest hostID db db')
    (ha : a.isCallOn hostID = true) : appendedBy db a = appendedBy db' a := by
  cases a with
  | recordScanResult now host req =>
      have hhost : host = hostID := by simpa [Action.isCallOn] using ha
      subst hhost
      rw [appendedBy_call, appendedBy_call, hn, h.isSome_recordScanResult]
  | upsertEndpointCert now endpointID fingerprint certUse =>
      exact absurd ha (by simp [Action.isCallOn])
  | purgeScanHistory now days => exact absurd ha (by simp [Action.isCallOn])
  | insertCertificate fingerprint => exact absurd ha (by simp [Action.isCallOn])

end SameRefs

/-- A chronological history that ends before every one of the calls to come. -/
structure Ready (log : List HistoryRow) (coming : List (Int × ScanResultRequest)) : Prop where
  chronological : ChangeLog.Chronological HistoryRow.time log
  earlier : ∀ r ∈ log, ∀ c ∈ coming, r.time < c.1

section Ready

variable {hostID : String} {db db' u u' : DB} {a : Action}
  {coming : List (Int × ScanResultRequest)}

/-- A step leaves the history ready for the calls after it. -/
theorem Ready.step
    (h : Ready (db.history hostID) ((committedCall hostID (db, a)).toList ++ coming))
    (hinc : Increasing ((committedCall hostID (db, a)).toList ++ coming))
    (hs : Scans.step db a = some u) : Ready (u.history hostID) coming := by
  rw [history_step hs]
  cases hcall : committedCall hostID (db, a) with
  | none =>
      rw [hcall, Option.toList_none, List.nil_append] at h
      rcases historyAfter_of_not_call hcall with hafter | ⟨cutoff, hafter⟩
      · rw [hafter]
        exact h
      · rw [hafter]
        exact ⟨h.chronological.prune, fun r hr => h.earlier r (List.mem_of_mem_filter hr)⟩
  | some c =>
      obtain ⟨now, req⟩ := c
      rw [hcall, Option.toList_some] at h hinc
      rw [historyAfter_of_call hcall]
      have hold : ∀ r ∈ db.history hostID, r.time < now :=
        fun r hr => h.earlier r hr (now, req) (by simp)
      refine ⟨h.chronological.record hold, ?_⟩
      intro r hr c hc
      rcases ChangeLog.mem_record hr with hr | hr
      · exact h.earlier r hr c (by simp [hc])
      · -- the new row has the time of this call
        rw [hr]
        exact (List.pairwise_append.mp hinc).2.2 (now, req) (by simp) c hc

/-- Only a committed call of the endpoint changes which row is its newest. -/
theorem newest_of_not_call
    (hchron : ChangeLog.Chronological HistoryRow.time (db.history hostID))
    (hcall : committedCall hostID (db, a) = none) :
    ChangeLog.newest HistoryRow.time (historyAfter hostID db a)
      = ChangeLog.newest HistoryRow.time (db.history hostID) := by
  rcases historyAfter_of_not_call hcall with hafter | ⟨cutoff, hafter⟩
  · rw [hafter]
  · rw [hafter, ChangeLog.newest_prune hchron]

/-- The newest rows go on showing the same under the same step. -/
theorem SameNewest.step (hrefs : SameRefs db db') (h : SameNewest hostID db db')
    (hr : Ready (db.history hostID) ((committedCall hostID (db, a)).toList ++ coming))
    (hr' : Ready (db'.history hostID) ((committedCall hostID (db, a)).toList ++ coming))
    (hs : Scans.step db a = some u) (hs' : Scans.step db' a = some u') :
    SameNewest hostID u u' := by
  have hsame := hrefs.committedCall_eq hostID a
  unfold SameNewest
  rw [history_step hs, history_step hs']
  cases hcall : committedCall hostID (db, a) with
  | none =>
      rw [newest_of_not_call hr.chronological hcall,
        newest_of_not_call hr'.chronological (hsame ▸ hcall)]
      exact h
  | some c =>
      obtain ⟨now, req⟩ := c
      rw [hcall, Option.toList_some] at hr hr'
      rw [historyAfter_of_call hcall, historyAfter_of_call (hsame ▸ hcall),
        ChangeLog.newest_record (fun r hm => hr.earlier r hm (now, req) (by simp)),
        ChangeLog.newest_record (fun r hm => hr'.earlier r hm (now, req) (by simp))]
      rfl

/-- The newest row goes on showing the same when it is not this database that is purged. -/
theorem SameNewest.purge (h : SameNewest hostID db db')
    (hchron : ChangeLog.Chronological HistoryRow.time (db.history hostID))
    (hcall : committedCall hostID (db, a) = none) (hs : Scans.step db a = some u) :
    SameNewest hostID u db' := by
  unfold SameNewest
  rw [history_step hs, newest_of_not_call hchron hcall]
  exact h

end Ready

/-! ## §6. Runs. -/

/-- A purge is no call. -/
theorem committedCall_of_isPurge {hostID : String} {db : DB} {a : Action}
    (h : a.isPurge = true) : committedCall hostID (db, a) = none ∧ a.isCallOn hostID = false := by
  cases a with
  | purgeScanHistory now days => exact ⟨rfl, rfl⟩
  | recordScanResult now host req => exact absurd h (by simp [Action.isPurge])
  | upsertEndpointCert now endpointID fingerprint certUse =>
      exact absurd h (by simp [Action.isPurge])
  | insertCertificate fingerprint => exact absurd h (by simp [Action.isPurge])

theorem unpurged_cons_of_purge {db : DB} {a : Action} {tr : List (DB × Action)}
    (h : a.isPurge = true) : unpurged ((db, a) :: tr) = unpurged tr := by
  simp [unpurged, h]

theorem unpurged_cons_of_not_purge {db : DB} {a : Action} {tr : List (DB × Action)}
    (h : a.isPurge = false) : unpurged ((db, a) :: tr) = a :: unpurged tr := by
  simp [unpurged, h]

theorem appends_cons {hostID : String} {db : DB} {a : Action} {tr : List (DB × Action)} :
    appends hostID ((db, a) :: tr) =
      (if a.isCallOn hostID then [appendedBy db a] else []) ++ appends hostID tr := by
  unfold appends
  by_cases h : a.isCallOn hostID = true <;> simp [h]

/-- There is a run of any transactions: none blocks. -/
theorem exists_exec (as : List Action) :
    ∀ db : DB, ∃ tr t, Exec step db tr t ∧ tr.map Prod.snd = as := by
  induction as with
  | nil => intro db; exact ⟨[], db, Exec.refl db, rfl⟩
  | cons a as ih =>
      intro db
      obtain ⟨u, hu⟩ : ∃ u, step db a = some u := by cases a <;> exact ⟨_, rfl⟩
      obtain ⟨tr, t, e, hmap⟩ := ih u
      exact ⟨(db, a) :: tr, t, Exec.cons hu e, by rw [List.map_cons, hmap]⟩

/-- A run, and the run of its transactions without the purges: the same calls commit. -/
theorem calls_unpurged {hostID : String} {db t : DB} {tr : List (DB × Action)}
    (e : Exec step db tr t) : ∀ {db₀ t₀ : DB} {tr₀ : List (DB × Action)},
      Exec step db₀ tr₀ t₀ → tr₀.map Prod.snd = unpurged tr → SameRefs db db₀ →
      calls hostID tr = calls hostID tr₀ := by
  induction e with
  | refl db =>
      intro db₀ t₀ tr₀ _ hacts _
      rw [List.map_eq_nil_iff.mp hacts]
  | @cons db u t a tr hs e ih =>
      intro db₀ t₀ tr₀ e₀ hacts hrefs
      cases hp : a.isPurge with
      | true =>
          -- the purge has no counterpart
          rw [unpurged_cons_of_purge hp] at hacts
          rw [calls_cons, (committedCall_of_isPurge hp).1]
          exact ih e₀ hacts (hrefs.purge hp hs)
      | false =>
          rw [unpurged_cons_of_not_purge hp] at hacts
          cases e₀ with
          | refl _ => exact absurd hacts (by simp)
          | @cons _ u₀ _ b tr₀ hs₀ e₀ =>
              rw [List.map_cons, List.cons.injEq] at hacts
              obtain ⟨hba, hacts⟩ := hacts
              subst hba
              rw [calls_cons, calls_cons, hrefs.committedCall_eq hostID,
                ih e₀ hacts (hrefs.step hs hs₀)]

/-- **The simulation**: a run, and the run without the purges, append the same rows. -/
theorem appends_unpurged {hostID : String} {db t : DB} {tr : List (DB × Action)}
    (e : Exec step db tr t) : ∀ {db₀ t₀ : DB} {tr₀ : List (DB × Action)},
      Exec step db₀ tr₀ t₀ → tr₀.map Prod.snd = unpurged tr → SameRefs db db₀ →
      SameNewest hostID db db₀ → Increasing (calls hostID tr) →
      Ready (db.history hostID) (calls hostID tr) →
      Ready (db₀.history hostID) (calls hostID tr) →
      appends hostID tr = appends hostID tr₀ := by
  induction e with
  | refl db =>
      intro db₀ t₀ tr₀ _ hacts _ _ _ _ _
      rw [List.map_eq_nil_iff.mp hacts]
  | @cons db u t a tr hs e ih =>
      intro db₀ t₀ tr₀ e₀ hacts hrefs hnew hinc hready hready₀
      rw [calls_cons] at hinc hready hready₀
      have hrest : Increasing (calls hostID tr) := (List.pairwise_append.mp hinc).2.1
      cases hp : a.isPurge with
      | true =>
          obtain ⟨hcall, hon⟩ : committedCall hostID (db, a) = none ∧
              a.isCallOn hostID = false := committedCall_of_isPurge hp
          rw [unpurged_cons_of_purge hp] at hacts
          rw [appends_cons, hon]
          have hnext := hready.step hinc hs
          rw [hcall, Option.toList_none, List.nil_append] at hready₀
          exact ih e₀ hacts (hrefs.purge hp hs) (hnew.purge hready.chronological hcall hs) hrest
            hnext hready₀
      | false =>
          rw [unpurged_cons_of_not_purge hp] at hacts
          cases e₀ with
          | refl _ => exact absurd hacts (by simp)
          | @cons _ u₀ _ b tr₀ hs₀ e₀ =>
              rw [List.map_cons, List.cons.injEq] at hacts
              obtain ⟨hba, hacts⟩ := hacts
              simp only at hba
              subst hba
              -- this call appends the same, and the rest does by induction
              have hsame := hrefs.committedCall_eq hostID b
              have htail := ih e₀ hacts (hrefs.step hs hs₀)
                (hnew.step hrefs hready hready₀ hs hs₀) hrest (hready.step hinc hs)
                (Ready.step (hsame ▸ hready₀) (hsame ▸ hinc) hs₀)
              rw [appends_cons, appends_cons, htail]
              by_cases hon : b.isCallOn hostID = true
              · rw [if_pos hon, if_pos hon, hrefs.appendedBy_eq hnew hon]
              · rw [if_neg hon, if_neg hon]

/-- **The scan-history ledger.**  In every run over an endpoint without history whose
committed calls carry increasing times, whatever else happens and however often the history
is purged: the rows that remain are in order, the newest shows what the last call reported,
and neighbours show different things.  Every other run of the same transactions, with
purges left out or put in anywhere, makes the same calls append the same rows. -/
theorem scanHistory_ledger {hostID : String} {start t : DB} {tr : List (DB × Action)}
    (e : Exec step start tr t) (hnew : start.history hostID = [])
    (hinc : Increasing (calls hostID tr)) :
    ((t.history hostID).Pairwise (fun r s => r.scannedAt < s.scannedAt) ∧
      (t.lastHistory hostID).map (fun r => r.toScanRecord.observation)
        = (calls hostID tr).getLast?.map (fun c => c.2.observation) ∧
      (t.history hostID).IsChain
        (fun r s => r.toScanRecord.observation ≠ s.toScanRecord.observation)) ∧
    ∀ tr' t', Exec step start tr' t' → unpurged tr' = unpurged tr →
      appends hostID tr' = appends hostID tr := by
  constructor
  · have hledger := ledger_of_exec e hnew hinc
    exact ⟨hledger.chronological, hledger.newest, hledger.compressed⟩
  · intro tr' t' e' hacts
    -- both runs are compared with the run of the transactions alone
    obtain ⟨tr₀, t₀, e₀, hacts₀⟩ := exists_exec (unpurged tr) start
    have hrefs : SameRefs start start := ⟨fun _ => Iff.rfl, rfl⟩
    have hcalls : calls hostID tr = calls hostID tr₀ := calls_unpurged e e₀ hacts₀ hrefs
    have hcalls' : calls hostID tr' = calls hostID tr₀ :=
      calls_unpurged e' e₀ (hacts₀.trans hacts.symm) hrefs
    have hready : ∀ cs, Ready (start.history hostID) cs := by
      intro cs
      rw [hnew]
      exact ⟨List.Pairwise.nil, fun r hr => absurd hr List.not_mem_nil⟩
    have hinc' : Increasing (calls hostID tr') := by
      rw [hcalls', ← hcalls]
      exact hinc
    rw [appends_unpurged e e₀ hacts₀ hrefs rfl hinc (hready _) (hready _)]
    exact appends_unpurged e' e₀ (hacts₀.trans hacts.symm) hrefs rfl hinc' (hready _) (hready _)

/-- A certificate, seen twice, a purge, and two failures. -/
def purgedScans : List Action :=
  [.recordScanResult 10 "web" (sawCert "A"), .recordScanResult 20 "web" (sawCert "A"),
    .recordScanResult 30 "web" (sawCert "B"), .purgeScanHistory 1000 0,
    .recordScanResult 40 "web" (sawError "timeout"),
    .recordScanResult 50 "web" (sawError "refused")]

/-- Two rows remain, and leaving the purge out changes no append. -/
theorem scanHistory_ledger_purgedScans :
    ∃ t, run step newEndpoint purgedScans = some t ∧ (t.history "web").length = 2 ∧
      ((t.history "web").Pairwise (fun r s => r.scannedAt < s.scannedAt) ∧
        (t.lastHistory "web").map (fun r => r.toScanRecord.observation)
          = (calls "web" (traceFrom step newEndpoint purgedScans)).getLast?.map
              (fun c => c.2.observation) ∧
        (t.history "web").IsChain
          (fun r s => r.toScanRecord.observation ≠ s.toScanRecord.observation)) ∧
      ∀ tr' t', Exec step newEndpoint tr' t' →
        unpurged tr' = unpurged (traceFrom step newEndpoint purgedScans) →
        appends "web" tr' = appends "web" (traceFrom step newEndpoint purgedScans) := by
  refine ⟨_, rfl, by decide, ?_⟩
  exact scanHistory_ledger (exec_traceFrom rfl) rfl (by decide)

end TLSentinel.Scans
