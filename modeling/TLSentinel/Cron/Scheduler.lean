/-
  TLSentinel.Cron.Scheduler
  ─────────────────────────
  **THE JOB SCHEDULER: THREE CODE PATHS OVER ONE CRON ENGINE.**

  `internal/scheduler/scheduler.go` wraps go-cron: `Add` hands a callback to the
  engine and remembers the entry id under a name, `Reload` removes the entry it
  remembers under a name and adds a new one.  The entries come from two places:

      loadScheduledJobs   (internal/app/jobs.go)           at startup
      UpdateScheduledJob  (internal/settings/handler.go)   on every PUT

  and the schedule they follow is kept in `tlsentinel.scheduled_jobs`, which the
  second one rewrites through `UpsertScheduledJob`.

  go-cron itself is not part of the repository: `CronEngine` is what the server
  relies on, with its laws as fields, and `counterCron` is an engine that has
  them (a counter hands out the ids, as the library does).
-/
import Mathlib.Data.List.Sort
import TLSentinel.Base
import TLSentinel.Foundation.Runs
import TLSentinel.Foundation.Tables

namespace TLSentinel.Cron

open Foundation

/-! ## §1. The cron engine. -/

/-- `cron.EntryID`. -/
abbrev EntryID := Nat

/-- One effect of a completed invocation of a cron callback. -/
inductive JobEffect where
  /-- The function registered under `job` runs. -/
  | perform (job : String)
  /-- `Store.UpdateJobLastRun(job, status)`. -/
  | updateJobLastRun (job status : String)
  deriving DecidableEq, Repr

/-- A callback, as the effects of one completed invocation in their order. -/
abbrev JobFunc := List JobEffect

/-- An entry of the cron engine. -/
structure Entry where
  id : EntryID
  spec : String
  fn : JobFunc
  deriving DecidableEq, Repr

/-- The entry belongs to the job: its callback runs the job's function. -/
def Entry.runs (e : Entry) (job : String) : Bool := decide (JobEffect.perform job ∈ e.fn)

/-- What the server relies on in go-cron: `AddFunc` appends one entry under an id
no live entry has, or rejects a spec that does not parse; `Remove` deletes
exactly the entry with that id. -/
structure CronEngine where
  /-- `*cron.Cron`. -/
  State : Type
  new : State
  entries : State → List Entry
  /-- The spec parser's verdict. -/
  parses : String → Bool
  addFunc : State → String → JobFunc → Option (State × EntryID)
  remove : State → EntryID → State
  entries_new : entries new = []
  addFunc_eq_none : ∀ c spec fn, addFunc c spec fn = none ↔ parses spec = false
  addFunc_eq_some : ∀ c spec fn c' id, addFunc c spec fn = some (c', id) →
    entries c' = entries c ++ [⟨id, spec, fn⟩] ∧ ∀ e ∈ entries c, e.id ≠ id
  entries_remove : ∀ c id,
    entries (remove c id) = (entries c).filter (fun e => decide (e.id ≠ id))

/-- A cron whose ids come from a counter. -/
structure CounterCron where
  entries : List Entry
  nextID : EntryID
  /-- Every id handed out is below the counter. -/
  below : ∀ e ∈ entries, e.id < nextID

/-- **The laws are satisfiable**: the engine that hands out ids from a counter. -/
def counterCron (parses : String → Bool) : CronEngine where
  State := CounterCron
  new := ⟨[], 0, by simp⟩
  entries := CounterCron.entries
  parses := parses
  addFunc := fun c spec fn =>
    if parses spec then
      some (⟨c.entries ++ [⟨c.nextID, spec, fn⟩], c.nextID + 1, by
        intro e he
        rcases List.mem_append.mp he with he | he
        · exact Nat.lt_succ_of_lt (c.below e he)
        · simp only [List.mem_singleton] at he
          simp [he]⟩, c.nextID)
    else none
  remove := fun c id =>
    ⟨c.entries.filter (fun e => decide (e.id ≠ id)), c.nextID,
      fun e he => c.below e (List.mem_filter.mp he).1⟩
  entries_new := rfl
  addFunc_eq_none := by
    intro c spec fn
    by_cases h : parses spec <;> simp [h]
  addFunc_eq_some := by
    intro c spec fn c' id h
    split at h
    · simp only [Option.some.injEq, Prod.mk.injEq] at h
      obtain ⟨rfl, rfl⟩ := h
      exact ⟨rfl, fun e he => Nat.ne_of_lt (c.below e he)⟩
    · exact absurd h (by simp)
  entries_remove := fun _ _ => rfl

/-! ## §2. `scheduler.Scheduler`. -/

/-- The scheduler: the engine, the entry ids by name and the registry, which maps
a name to the function that performs that job. -/
structure Scheduler (E : CronEngine) where
  c : E.State
  entryIDs : String → Option EntryID
  registry : List String

variable {E : CronEngine}

namespace Scheduler

/-- `New(registry)`. -/
def new (registry : List String) : Scheduler E := ⟨E.new, fun _ => none, registry⟩

/-- The live cron entries. -/
def entries (s : Scheduler E) : List Entry := E.entries s.c

/-- `Func(name)`: the registered function, or nil. -/
def func (s : Scheduler E) (name : String) : Option JobFunc :=
  if name ∈ s.registry then some [JobEffect.perform name] else none

/-- `Add(spec, name, fn)`: a rejected spec is logged and leaves the scheduler as
it was. -/
def add (s : Scheduler E) (spec name : String) (fn : JobFunc) : Scheduler E :=
  match E.addFunc s.c spec fn with
  | none => s
  | some (c, id) => { s with c := c, entryIDs := Function.update s.entryIDs name (some id) }

/-- The first half of `Reload`: remove the entry remembered under `name`. -/
def unlink (s : Scheduler E) (name : String) : Scheduler E :=
  match s.entryIDs name with
  | some id =>
      { s with c := E.remove s.c id, entryIDs := Function.update s.entryIDs name none }
  | none => s

/-- `Reload(name, spec, enabled, fn)`. -/
def reload (s : Scheduler E) (name spec : String) (enabled : Bool) (fn : JobFunc) :
    Scheduler E :=
  if enabled then (s.unlink name).add spec name fn else s.unlink name

end Scheduler

/-! ## §3. `tlsentinel.scheduled_jobs`. -/

/-- A row of `scheduled_jobs`. -/
structure ScheduledJob where
  name : String
  displayName : String
  cronExpression : String
  enabled : Bool
  deriving DecidableEq, Repr

/-- The table; `name` is its primary key. -/
abbrev JobTable := Table ScheduledJob.name

/-- `ListScheduledJobs`: ORDER BY name under the database's collation. -/
def listScheduledJobs (collate : String → String → Bool) (jobs : JobTable) :
    List ScheduledJob :=
  jobs.rows.insertionSort (fun a b => collate a.name b.name = true)

/-- `UpsertScheduledJob`: `none` is ErrNotFound. -/
def upsertScheduledJob (jobs : JobTable) (name cronExpression : String) (enabled : Bool) :
    Option (JobTable × ScheduledJob) :=
  match jobs.find? name with
  | none => none
  | some row =>
      some (jobs.update (fun r => r.name = name)
          (fun r => { r with cronExpression := cronExpression, enabled := enabled })
          (fun _ => rfl),
        { row with cronExpression := cronExpression, enabled := enabled })

/-! ## §4. Startup and the PUT handler. -/

/-- One iteration of the loop in `loadScheduledJobs`: a disabled or unregistered
job is skipped; the others are added under their DISPLAY name, with a callback
that also records the run. -/
def loadScheduledJob (sched : Scheduler E) (job : ScheduledJob) : Scheduler E :=
  if job.enabled then
    match sched.func job.name with
    | none => sched
    | some fn =>
        sched.add job.cronExpression job.displayName
          (fn ++ [JobEffect.updateJobLastRun job.name "success"])
  else sched

/-- `loadScheduledJobs`; `none` stands for a failed query, which registers
nothing. -/
def loadScheduledJobs (dbJobs : Option (List ScheduledJob)) (sched : Scheduler E) :
    Scheduler E :=
  match dbJobs with
  | none => sched
  | some rows => rows.foldl loadScheduledJob sched

/-- The names `buildJobRegistry` registers. -/
def buildJobRegistry : List String :=
  ["expiry_alerts", "purge_scan_history", "purge_expiry_alerts",
    "purge_unreferenced_certs", "refresh_root_stores", "purge_audit_logs"]

/-- The server: the persisted schedule and the running scheduler. -/
structure Server (E : CronEngine) where
  jobs : JobTable
  sched : Scheduler E

/-- The server after startup. -/
def startServer (E : CronEngine) (collate : String → String → Bool)
    (registry : List String) (jobs : JobTable) : Server E :=
  ⟨jobs, loadScheduledJobs (some (listScheduledJobs collate jobs)) (Scheduler.new registry)⟩

/-- The body of PUT /maintenance/scheduled-jobs/{name}. -/
structure UpdateScheduledJobRequest where
  cronExpression : String
  enabled : Bool
  deriving DecidableEq, Repr

/-- `UpdateScheduledJob`; a body that does not decode is `none`. -/
def updateScheduledJob (s : Server E) (name : String)
    (body : Option UpdateScheduledJobRequest) : Except HttpError (Server E × ScheduledJob) :=
  match body with
  | none => .error ⟨400, "invalid request body"⟩
  | some req =>
      if req.cronExpression = "" then .error ⟨400, "cronExpression is required"⟩
      else
        match upsertScheduledJob s.jobs name req.cronExpression req.enabled with
        | none => .error ⟨404, "job not found"⟩
        | some (jobs, job) =>
            match s.sched.func name with
            | none => .ok (⟨jobs, s.sched⟩, job)
            | some fn =>
                .ok (⟨jobs, s.sched.reload name req.cronExpression req.enabled fn⟩, job)

/-- One accepted update of an existing, registered job. -/
def serverStep (s : Server E) (a : String × UpdateScheduledJobRequest) : Option (Server E) :=
  if a.1 ∈ s.sched.registry then
    match updateScheduledJob s a.1 (some a.2) with
    | .ok (t, _) => some t
    | .error _ => none
  else none

end TLSentinel.Cron
