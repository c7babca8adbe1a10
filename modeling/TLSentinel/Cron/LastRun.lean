/-
  TLSentinel.Cron.LastRun
  ───────────────────────
  **WHICH CRON ENTRIES RECORD `last_run`.**

  `loadScheduledJobs` hands the engine a callback that performs the job and then
  calls UpdateJobLastRun; the PUT handler hands `Reload` the registered function
  as it is.  So an entry records its runs as long as startup owns it, and stops
  doing so the moment an update puts it back.

  `recordsLastRun_iff`: in a run of startup and any requests, every live entry
  performs a job and then records it in every state reached, if and only if no
  request installs an entry (`Installs`).
-/
import TLSentinel.Cron.Consistency

namespace TLSentinel.Cron

open Foundation

variable {E : CronEngine}

/-! ## §1. What a completed invocation leaves in `scheduled_jobs`. -/

/-- The run columns of a row of `scheduled_jobs`. -/
structure JobRun where
  name : String
  lastRunAt : Option Int
  lastRunStatus : Option String
  deriving DecidableEq, Repr

/-- The run columns, by job. -/
abbrev JobRunTable := Table JobRun.name

/-- The assignments of `UpdateJobLastRun`. -/
def JobRun.ranAt (now : Int) (status : String) (r : JobRun) : JobRun :=
  { r with lastRunAt := some now, lastRunStatus := some status }

theorem JobRun.ranAt_name (now : Int) (status : String) (r : JobRun) :
    (r.ranAt now status).name = r.name := rfl

/-- `UpdateJobLastRun`. -/
def updateJobLastRun (t : JobRunTable) (now : Int) (name status : String) : JobRunTable :=
  t.update (fun r => decide (r.name = name)) (JobRun.ranAt now status)
    (JobRun.ranAt_name now status)

/-- One effect of a callback on the run columns. -/
def JobEffect.apply (now : Int) (t : JobRunTable) : JobEffect → JobRunTable
  | .perform _ => t
  | .updateJobLastRun job status => Cron.updateJobLastRun t now job status

/-- The run columns after one completed invocation. -/
def JobFunc.complete (fn : JobFunc) (now : Int) (t : JobRunTable) : JobRunTable :=
  fn.foldl (JobEffect.apply now) t

/-- The entry performs a job and then records the run under that job's name. -/
def Entry.Records (e : Entry) : Prop :=
  ∃ job, e.fn = [JobEffect.perform job, JobEffect.updateJobLastRun job "success"]

/-- **A recording entry leaves its mark**: the row of the job it runs shows the run. -/
theorem Entry.Records.find?_complete {e : Entry} (h : e.Records) {job : String}
    (hjob : e.runs job = true) (now : Int) (t : JobRunTable) :
    (e.fn.complete now t).find? job = (t.find? job).map (JobRun.ranAt now "success") := by
  obtain ⟨name, hfn⟩ := h
  have hname : job = name := by simpa [Entry.runs, hfn] using hjob
  subst hname
  rw [hfn]
  show (updateJobLastRun t now job "success").find? job = _
  rw [updateJobLastRun, Table.find?_update]
  cases hrow : t.find? job with
  | none => rfl
  | some row => simp [show row.name = job from Table.key_of_find? hrow]

/-- **The property**: every live entry performs a job and records it. -/
def RecordsLastRun (s : Server E) : Prop := ∀ e ∈ s.sched.entries, e.Records

/-! ## §2. The two paths. -/

/-- `Add` keeps the property exactly if its callback records or its spec is rejected. -/
theorem records_add_iff {s : Scheduler E} (hs : ∀ e ∈ s.entries, e.Records)
    (spec name : String) (fn : JobFunc) :
    (∀ e ∈ (s.add spec name fn).entries, e.Records) ↔
      (E.parses spec = true → ∀ id, Entry.Records ⟨id, spec, fn⟩) := by
  rcases add_cases s spec name fn with ⟨hp, heq⟩ | ⟨hp, c, id, hent, _, heq⟩
  · rw [heq]
    exact ⟨fun _ hparse => absurd hparse (by simp [hp]), fun _ => hs⟩
  · have hentries : (s.add spec name fn).entries = s.entries ++ [⟨id, spec, fn⟩] := by
      rw [heq]
      exact hent
    rw [hentries, hp]
    constructor
    · intro h _ id'
      exact h ⟨id, spec, fn⟩ (by simp)
    · intro h e he
      rcases List.mem_append.mp he with he | he
      · exact hs e he
      · rw [List.mem_singleton.mp he]
        exact h rfl id

/-- The removal half of `Reload` keeps the property. -/
theorem records_unlink {s : Scheduler E} (hs : ∀ e ∈ s.entries, e.Records) (name : String) :
    ∀ e ∈ (s.unlink name).entries, e.Records := by
  intro e he
  rw [unlink_entries] at he
  exact hs e (List.mem_of_mem_filter he)

/-- **The reload path**: `Reload` with the registered function keeps the property exactly if
it adds nothing. -/
theorem records_reload_iff {s : Scheduler E} (hs : ∀ e ∈ s.entries, e.Records)
    (name spec : String) (enabled : Bool) :
    (∀ e ∈ (s.reload name spec enabled [JobEffect.perform name]).entries, e.Records) ↔
      ¬ (enabled = true ∧ E.parses spec = true) := by
  have hbare : ∀ id, ¬ Entry.Records ⟨id, spec, [JobEffect.perform name]⟩ := by
    intro id h
    obtain ⟨job, hfn⟩ := h
    exact absurd (congrArg List.length hfn) (by simp)
  unfold Scheduler.reload
  cases enabled with
  | false => simpa using records_unlink hs name
  | true =>
      rw [if_pos rfl, records_add_iff (records_unlink hs name)]
      constructor
      · intro h hand
        exact hbare 0 (h hand.2 0)
      · intro h hp
        exact absurd ⟨rfl, hp⟩ h

/-- **The startup path**: every callback it adds records. -/
theorem records_loadScheduledJob {s : Scheduler E} (hs : ∀ e ∈ s.entries, e.Records)
    (job : ScheduledJob) : ∀ e ∈ (loadScheduledJob s job).entries, e.Records := by
  unfold loadScheduledJob
  split
  · cases hfn : s.func job.name with
    | none => exact hs
    | some fn =>
        refine (records_add_iff hs _ _ _).mpr (fun _ id => ⟨job.name, ?_⟩)
        unfold Scheduler.func at hfn
        split at hfn
        · injection hfn with hfn
          rw [← hfn]
          rfl
        · exact absurd hfn (by simp)
  · exact hs

theorem records_foldl_load (rows : List ScheduledJob) {s : Scheduler E}
    (hs : ∀ e ∈ s.entries, e.Records) :
    ∀ e ∈ (rows.foldl loadScheduledJob s).entries, e.Records := by
  induction rows generalizing s with
  | nil => exact hs
  | cons r rows ih => exact ih (records_loadScheduledJob hs r)

/-! ## §3. Requests. -/

/-- The server after startup; the query for the jobs may fail. -/
def bootServer (E : CronEngine) (collate : String → String → Bool) (registry : List String)
    (jobs : JobTable) (listed : Bool) : Server E :=
  ⟨jobs, loadScheduledJobs (if listed then some (listScheduledJobs collate jobs) else none)
    (Scheduler.new registry)⟩

/-- One PUT request, of any body and for any name; a rejected one changes nothing. -/
def requestStep (s : Server E) (a : String × Option UpdateScheduledJobRequest) :
    Option (Server E) :=
  match updateScheduledJob s a.1 a.2 with
  | .ok (t, _) => some t
  | .error _ => some s

/-- The request makes the server install a cron entry: it enables an existing job that has a
registered function, with a schedule that parses. -/
def Installs (s : Server E) (a : String × Option UpdateScheduledJobRequest) : Prop :=
  ∃ req, a.2 = some req ∧ req.cronExpression ≠ "" ∧ (∃ row ∈ s.jobs, row.name = a.1) ∧
    a.1 ∈ s.sched.registry ∧ req.enabled = true ∧ E.parses req.cronExpression = true

/-- Everything a request can do to the scheduler: nothing, or a reload of an existing
registered job. -/
theorem requestStep_cases {s t : Server E} {a : String × Option UpdateScheduledJobRequest}
    (h : requestStep s a = some t) :
    (t.sched = s.sched ∧ ¬ Installs s a) ∨
      ∃ req, a.2 = some req ∧ req.cronExpression ≠ "" ∧ (∃ row ∈ s.jobs, row.name = a.1) ∧
        a.1 ∈ s.sched.registry ∧
        t.sched = s.sched.reload a.1 req.cronExpression req.enabled [JobEffect.perform a.1] := by
  obtain ⟨name, body⟩ := a
  unfold requestStep updateScheduledJob upsertScheduledJob at h
  cases body with
  | none =>
      -- a body that does not decode
      injection h with h
      refine .inl ⟨by rw [h], fun hi => ?_⟩
      obtain ⟨req, hreq, _⟩ := hi
      exact absurd hreq (by simp)
  | some req =>
      by_cases hempty : req.cronExpression = ""
      · simp only [hempty, if_true, Option.some.injEq] at h
        subst h
        refine .inl ⟨rfl, fun hi => ?_⟩
        obtain ⟨req', hreq, hne, _⟩ := hi
        injection hreq with hreq
        exact hne (hreq ▸ hempty)
      · cases hrow : s.jobs.find? name with
        | none =>
            simp only [hempty, if_false, hrow, Option.some.injEq] at h
            subst h
            refine .inl ⟨rfl, fun hi => ?_⟩
            obtain ⟨_, _, _, ⟨row, hmem, hname⟩, _⟩ := hi
            exact Table.find?_eq_none_iff.mp hrow row hmem hname
        | some row =>
            have hexists : ∃ row ∈ s.jobs, row.name = name :=
              ⟨row, Table.mem_of_find? hrow, Table.key_of_find? hrow⟩
            by_cases hreg : name ∈ s.sched.registry
            · simp only [hempty, if_false, hrow, Scheduler.func, hreg, if_true,
                Option.some.injEq] at h
              subst h
              exact .inr ⟨req, rfl, hempty, hexists, hreg, rfl⟩
            · -- a job without a handler is only persisted
              simp only [hempty, if_false, hrow, Scheduler.func, hreg, Option.some.injEq] at h
              subst h
              refine .inl ⟨rfl, fun hi => ?_⟩
              obtain ⟨_, _, _, _, hreg', _⟩ := hi
              exact hreg hreg'

/-- **One request, exactly**: it keeps the property if and only if it installs nothing. -/
theorem recordsLastRun_step_iff {s t : Server E}
    {a : String × Option UpdateScheduledJobRequest} (hs : RecordsLastRun s)
    (h : requestStep s a = some t) : RecordsLastRun t ↔ ¬ Installs s a := by
  rcases requestStep_cases h with ⟨hsched, hno⟩ | ⟨req, hbody, hspec, hrow, hreg, hsched⟩
  · unfold RecordsLastRun
    rw [hsched]
    exact ⟨fun _ => hno, fun _ => hs⟩
  · unfold RecordsLastRun
    rw [hsched, records_reload_iff hs]
    refine not_congr ⟨fun hand => ⟨req, hbody, hspec, hrow, hreg, hand⟩, fun hi => ?_⟩
    obtain ⟨req', hreq, _, _, _, hand⟩ := hi
    rw [hbody, Option.some.injEq] at hreq
    rw [hreq]
    exact hand

theorem recordsLastRun_bootServer (collate : String → String → Bool) (registry : List String)
    (jobs : JobTable) (listed : Bool) :
    RecordsLastRun (bootServer E collate registry jobs listed) := by
  have hnil : ∀ e ∈ (Scheduler.new registry : Scheduler E).entries, e.Records := by
    intro e he
    have hno : (Scheduler.new registry : Scheduler E).entries = [] := E.entries_new
    rw [hno] at he
    exact absurd he List.not_mem_nil
  unfold RecordsLastRun bootServer loadScheduledJobs
  cases listed with
  | false => exact hnil
  | true => exact records_foldl_load _ hnil

/-- **WHEN EVERY RUN IS RECORDED.**  In a run of startup and any PUT requests, in every state
reached every live entry performs a job and then calls UpdateJobLastRun for it, if and only
if no request installed an entry. -/
theorem recordsLastRun_iff (collate : String → String → Bool) (registry : List String)
    (jobs : JobTable) (listed : Bool) {t : Server E}
    {tr : List (Server E × (String × Option UpdateScheduledJobRequest))}
    (r : Exec requestStep (bootServer E collate registry jobs listed) tr t) :
    (∀ u ∈ visited tr t, RecordsLastRun u) ↔ ∀ p ∈ tr, ¬ Installs p.1 p.2 :=
  r.always_iff (J := fun _ => True) (fun _ _ _ _ _ => trivial)
    (fun _ _ _ _ hs h => recordsLastRun_step_iff hs h) trivial
    (recordsLastRun_bootServer collate registry jobs listed)

/-- The fresh server with the seeded row. -/
def bootedServer : Server hourlyCron :=
  bootServer hourlyCron (fun a b => decide (a ≤ b)) buildJobRegistry expiryAlertsTable true

/-- A PUT that saves the job as it is. -/
def saveExpiryAlerts : String × Option UpdateScheduledJobRequest :=
  ("expiry_alerts", some ⟨"0 * * * *", true⟩)

/-- The exact condition on a concrete run: it fails for saving the seeded job. -/
theorem recordsLastRun_iff_seeded :
    ∃ t, run requestStep bootedServer [saveExpiryAlerts] = some t ∧
      ((∀ u ∈ visited (traceFrom requestStep bootedServer [saveExpiryAlerts]) t,
          RecordsLastRun u) ↔
        ∀ p ∈ traceFrom requestStep bootedServer [saveExpiryAlerts], ¬ Installs p.1 p.2) := by
  refine ⟨_, rfl, ?_⟩
  exact recordsLastRun_iff _ _ expiryAlertsTable true (exec_traceFrom rfl)

/-- **Saving a job once is enough**: the entry that `Reload` installs only performs the
job. -/
theorem reloaded_entry_does_not_record :
    ¬ ∀ (t : Server hourlyCron) (tr : List (Server hourlyCron × _)),
        Exec requestStep bootedServer tr t → ∀ u ∈ visited tr t, RecordsLastRun u := by
  intro hall
  have hrun : ∃ t, run requestStep bootedServer [saveExpiryAlerts] = some t ∧
      ⟨1, "0 * * * *", [JobEffect.perform "expiry_alerts"]⟩ ∈ t.sched.entries :=
    ⟨_, rfl, by decide⟩
  obtain ⟨t, hrun, hmem⟩ := hrun
  obtain ⟨job, hfn⟩ := hall t _ (exec_traceFrom hrun) t (last_mem_visited _ _) _ hmem
  exact absurd (congrArg List.length hfn) (by simp)

end TLSentinel.Cron
