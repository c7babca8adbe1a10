/-
  TLSentinel.Cron.Consistency
  ───────────────────────────
  **WHEN THE CRON ENGINE FOLLOWS `scheduled_jobs`.**

  The schedule is consistent when every registered job has exactly one live entry
  with its persisted spec if its row is enabled, and none if it is disabled.

  `Reload(name)` removes the entry the scheduler remembers under the job's NAME;
  `loadScheduledJobs` remembers its entries under the DISPLAY name.  So an update
  of a job that was loaded at startup finds nothing to remove (or another job's
  entry), and a spec the engine rejects leaves an enabled row without an entry.
  `scheduler_consistent_iff` says that these are the only two ways to go wrong:
  a run keeps the schedule consistent exactly if every enabled row that startup
  or an update installs has a spec that parses, and every update finds under the
  job's name the job's own entry and no other (`ReloadOK`).
-/
import TLSentinel.Cron.Scheduler

namespace TLSentinel.Cron

open Foundation

variable {E : CronEngine}

/-! ## §1. The property. -/

/-- The specs of the live entries of a job. -/
def Scheduler.specsFor (s : Scheduler E) (job : String) : List String :=
  (s.entries.filter (fun e => e.runs job)).map Entry.spec

/-- **Consistency**: an enabled registered job has exactly one entry, with its
persisted spec; a disabled one has none. -/
def Consistent (s : Server E) : Prop :=
  ∀ job ∈ s.jobs, job.name ∈ s.sched.registry →
    s.sched.specsFor job.name = if job.enabled then [job.cronExpression] else []

/-- The condition on one update, in the state it finds: an enabling spec parses,
and the entry remembered under the job's name is the job's entry — if it has one
— and nobody else's. -/
def ReloadOK (s : Server E) (a : String × UpdateScheduledJobRequest) : Prop :=
  (a.2.enabled = true → E.parses a.2.cronExpression = true)
    ∧ ∀ e ∈ s.sched.entries, e.runs a.1 = true ↔ s.sched.entryIDs a.1 = some e.id

/-! ## §2. What `Add` and `Reload` do to the entries. -/

/-- Everything `Add` can do: nothing, on a spec the engine rejects, or one new
entry under a fresh id. -/
theorem add_cases (s : Scheduler E) (spec name : String) (fn : JobFunc) :
    (E.parses spec = false ∧ s.add spec name fn = s)
      ∨ (E.parses spec = true ∧ ∃ c id,
          E.entries c = s.entries ++ [⟨id, spec, fn⟩]
          ∧ (∀ e ∈ s.entries, e.id ≠ id)
          ∧ s.add spec name fn
            = { s with c := c, entryIDs := Function.update s.entryIDs name (some id) }) := by
  cases h : E.addFunc s.c spec fn with
  | none =>
      left
      exact ⟨(E.addFunc_eq_none _ _ _).mp h, by simp [Scheduler.add, h]⟩
  | some r =>
      right
      obtain ⟨c, id⟩ := r
      obtain ⟨hent, hfresh⟩ := E.addFunc_eq_some _ _ _ _ _ h
      have hparse : E.parses spec = true := by
        cases hp : E.parses spec with
        | true => rfl
        | false => simp [(E.addFunc_eq_none s.c spec fn).mpr hp] at h
      exact ⟨hparse, c, id, hent, hfresh, by simp [Scheduler.add, h]⟩

@[simp] theorem add_registry (s : Scheduler E) (spec name : String) (fn : JobFunc) :
    (s.add spec name fn).registry = s.registry := by
  rcases add_cases s spec name fn with ⟨_, h⟩ | ⟨_, c, id, _, _, h⟩ <;> rw [h]

/-- `Add` appends to the entries of the jobs its callback runs, if the spec
parses. -/
theorem specsFor_add (s : Scheduler E) (spec name job : String) (fn : JobFunc) :
    (s.add spec name fn).specsFor job
      = s.specsFor job
        ++ if JobEffect.perform job ∈ fn ∧ E.parses spec = true then [spec] else [] := by
  rcases add_cases s spec name fn with ⟨hp, h⟩ | ⟨hp, c, id, hent, _, h⟩
  · simp [h, hp]
  · have hnew : (s.add spec name fn).entries = s.entries ++ [⟨id, spec, fn⟩] := by
      rw [h]
      exact hent
    simp only [Scheduler.specsFor, hnew, List.filter_append, List.map_append, hp, and_true]
    by_cases hm : JobEffect.perform job ∈ fn <;> simp [Entry.runs, hm]

@[simp] theorem unlink_registry (s : Scheduler E) (name : String) :
    (s.unlink name).registry = s.registry := by
  unfold Scheduler.unlink
  split <;> rfl

/-- The removal half of `Reload` keeps the entries whose id is not the one
remembered under the name. -/
theorem unlink_entries (s : Scheduler E) (name : String) :
    (s.unlink name).entries
      = s.entries.filter (fun e => decide (s.entryIDs name ≠ some e.id)) := by
  unfold Scheduler.unlink
  split
  · next id h =>
      show E.entries (E.remove s.c id) = _
      rw [E.entries_remove, h]
      apply List.filter_congr
      intro e _
      simp [eq_comm]
  · next h => simp [h]

/-- After the removal half, nothing is remembered under the name. -/
theorem unlink_entryIDs (s : Scheduler E) (name : String) :
    (s.unlink name).entryIDs = Function.update s.entryIDs name none := by
  unfold Scheduler.unlink
  split
  · rfl
  · next h => rw [← h, Function.update_eq_self]

theorem specsFor_unlink (s : Scheduler E) (name job : String) :
    (s.unlink name).specsFor job
      = ((s.entries.filter (fun e => e.runs job)).filter
          (fun e => decide (s.entryIDs name ≠ some e.id))).map Entry.spec := by
  simp only [Scheduler.specsFor, unlink_entries, List.filter_filter, Bool.and_comm]

/-- `Reload`, seen by one job: what the removal leaves of its entries, plus the
new entry if the job is the reloaded one, enabled, and its spec parses. -/
theorem specsFor_reload (s : Scheduler E) (name spec job : String) (enabled : Bool) :
    (s.reload name spec enabled [JobEffect.perform name]).specsFor job
      = (s.unlink name).specsFor job
        ++ if job = name ∧ enabled = true ∧ E.parses spec = true then [spec] else [] := by
  unfold Scheduler.reload
  cases enabled with
  | false => simp
  | true => simp [specsFor_add]

/-! ## §3. Entries and the id map stay linked. -/

/-- The background invariant: ids are distinct, every remembered id is live and
remembered once, and every entry runs exactly one job that `owner` accepts, on a
spec that parses. -/
structure Linked (owner : String → Prop) (s : Scheduler E) : Prop where
  ids : (s.entries.map Entry.id).Nodup
  live : ∀ name id, s.entryIDs name = some id → ∃ e ∈ s.entries, e.id = id
  once : ∀ name name' id,
    s.entryIDs name = some id → s.entryIDs name' = some id → name = name'
  owned : ∀ e ∈ s.entries,
    E.parses e.spec = true ∧ ∃ job, owner job ∧ ∀ m, e.runs m = true ↔ m = job

theorem linked_new (owner : String → Prop) (registry : List String) :
    Linked owner (Scheduler.new registry : Scheduler E) := by
  have hnil : (Scheduler.new registry : Scheduler E).entries = [] := E.entries_new
  refine ⟨by simp [hnil], ?_, ?_, by simp [hnil]⟩ <;> simp [Scheduler.new]

theorem Linked.add {owner : String → Prop} {s : Scheduler E} (h : Linked owner s)
    {job : String} (hjob : owner job) {fn : JobFunc}
    (hfn : ∀ m, JobEffect.perform m ∈ fn ↔ m = job) (spec name : String) :
    Linked owner (s.add spec name fn) := by
  rcases add_cases s spec name fn with ⟨_, heq⟩ | ⟨hparse, c, id, hent, hfresh, heq⟩
  · rw [heq]
    exact h
  · have hentries : (s.add spec name fn).entries = s.entries ++ [⟨id, spec, fn⟩] := by
      rw [heq]
      exact hent
    have hids : (s.add spec name fn).entryIDs = Function.update s.entryIDs name (some id) := by
      rw [heq]
    -- the new id is fresh, so no name remembers it yet
    have hunused : ∀ n, s.entryIDs n ≠ some id := by
      intro n hn
      obtain ⟨e, he, hid⟩ := h.live n id hn
      exact hfresh e he hid
    refine ⟨?_, ?_, ?_, ?_⟩
    · rw [hentries, List.map_append, List.nodup_append]
      refine ⟨h.ids, by simp, ?_⟩
      intro a ha b hb hab
      obtain ⟨e, he, rfl⟩ := List.mem_map.mp ha
      simp only [List.map_cons, List.map_nil, List.mem_singleton] at hb
      exact hfresh e he (hab.trans hb)
    · intro n i hn
      rw [hids] at hn
      rw [hentries]
      by_cases hnn : n = name
      · subst hnn
        simp only [Function.update_self, Option.some.injEq] at hn
        exact ⟨⟨id, spec, fn⟩, by simp, hn⟩
      · rw [Function.update_of_ne hnn] at hn
        obtain ⟨e, he, hid⟩ := h.live n i hn
        exact ⟨e, List.mem_append_left _ he, hid⟩
    · intro n n' i hn hn'
      rw [hids] at hn hn'
      -- two names for one id: both new, one of them new, or both old
      by_cases h1 : n = name <;> by_cases h2 : n' = name
      · exact h1.trans h2.symm
      · subst h1
        simp only [Function.update_self, Option.some.injEq] at hn
        rw [Function.update_of_ne h2] at hn'
        exact absurd (hn ▸ hn') (hunused n')
      · subst h2
        simp only [Function.update_self, Option.some.injEq] at hn'
        rw [Function.update_of_ne h1] at hn
        exact absurd (hn' ▸ hn) (hunused n)
      · rw [Function.update_of_ne h1] at hn
        rw [Function.update_of_ne h2] at hn'
        exact h.once n n' i hn hn'
    · intro e he
      rw [hentries] at he
      rcases List.mem_append.mp he with he | he
      · exact h.owned e he
      · simp only [List.mem_singleton] at he
        subst he
        exact ⟨hparse, job, hjob, fun m => by simp [Entry.runs, hfn]⟩

theorem Linked.unlink {owner : String → Prop} {s : Scheduler E} (h : Linked owner s)
    (name : String) : Linked owner (s.unlink name) := by
  refine ⟨?_, ?_, ?_, ?_⟩
  · rw [unlink_entries]
    exact (List.filter_sublist.map _).nodup h.ids
  · intro n id hn
    rw [unlink_entryIDs] at hn
    by_cases hnn : n = name
    · subst hnn
      simp at hn
    · rw [Function.update_of_ne hnn] at hn
      obtain ⟨e, he, hid⟩ := h.live n id hn
      refine ⟨e, ?_, hid⟩
      rw [unlink_entries, List.mem_filter]
      refine ⟨he, ?_⟩
      simp only [ne_eq, decide_not, Bool.not_eq_true', decide_eq_false_iff_not]
      intro hname
      exact hnn (h.once n name id hn (hid ▸ hname))
  · intro n n' id hn hn'
    rw [unlink_entryIDs] at hn hn'
    have hne : ∀ m, Function.update s.entryIDs name none m = some id → s.entryIDs m = some id := by
      intro m hm
      by_cases hmn : m = name
      · subst hmn
        simp at hm
      · rwa [Function.update_of_ne hmn] at hm
    exact h.once n n' id (hne n hn) (hne n' hn')
  · intro e he
    rw [unlink_entries] at he
    exact h.owned e (List.mem_filter.mp he).1

theorem Linked.reload {owner : String → Prop} {s : Scheduler E} (h : Linked owner s)
    {name : String} (hname : owner name) (spec : String) (enabled : Bool) :
    Linked owner (s.reload name spec enabled [JobEffect.perform name]) := by
  unfold Scheduler.reload
  cases enabled with
  | false => simpa using h.unlink name
  | true =>
      have hfn : ∀ m, JobEffect.perform m ∈ [JobEffect.perform name] ↔ m = name := by simp
      simpa using (h.unlink name).add hname hfn spec name

/-! ## §4. Startup. -/

/-- A row `loadScheduledJobs` turns into an entry. -/
def loads (E : CronEngine) (registry : List String) (job : ScheduledJob) : Bool :=
  job.enabled && decide (job.name ∈ registry) && E.parses job.cronExpression

@[simp] theorem loadScheduledJob_registry (s : Scheduler E) (job : ScheduledJob) :
    (loadScheduledJob s job).registry = s.registry := by
  unfold loadScheduledJob
  split
  · split <;> simp
  · rfl

theorem foldl_load_registry (rows : List ScheduledJob) (s : Scheduler E) :
    (rows.foldl loadScheduledJob s).registry = s.registry := by
  induction rows generalizing s with
  | nil => rfl
  | cons r rows ih => rw [List.foldl_cons, ih, loadScheduledJob_registry]

/-- One iteration of the startup loop, seen by one job. -/
theorem specsFor_loadScheduledJob (s : Scheduler E) (row : ScheduledJob) (job : String) :
    (loadScheduledJob s row).specsFor job
      = s.specsFor job
        ++ if row.name = job ∧ loads E s.registry row = true then [row.cronExpression]
           else [] := by
  unfold loadScheduledJob
  have hm : JobEffect.perform job
      ∈ [JobEffect.perform row.name] ++ [JobEffect.updateJobLastRun row.name "success"]
        ↔ row.name = job := by
    simp [eq_comm]
  by_cases hen : row.enabled = true
  · by_cases hreg : row.name ∈ s.registry
    · simp only [hen, Scheduler.func, hreg, if_true, specsFor_add, hm, loads, decide_true,
        Bool.and_true, Bool.true_and]
    · simp [hen, Scheduler.func, hreg, loads]
  · simp [hen, loads]

/-- **The startup loop, seen by one job**: it appends one entry for each of the
job's rows that loads. -/
theorem specsFor_foldl_load (rows : List ScheduledJob) (s : Scheduler E) (job : String) :
    (rows.foldl loadScheduledJob s).specsFor job
      = s.specsFor job
        ++ (rows.filter (fun r => decide (r.name = job) && loads E s.registry r)).map
            ScheduledJob.cronExpression := by
  induction rows generalizing s with
  | nil => simp
  | cons r rows ih =>
      rw [List.foldl_cons, ih, specsFor_loadScheduledJob, loadScheduledJob_registry,
        List.append_assoc]
      congr 1
      by_cases h : r.name = job ∧ loads E s.registry r = true
      · simp [h.1, h.2]
      · have hf : (decide (r.name = job) && loads E s.registry r) = false := by
          simpa [Bool.and_eq_false_iff, not_and] using h
        simp [h, hf]

theorem linked_foldl_load {owner : String → Prop} (rows : List ScheduledJob)
    (s : Scheduler E) (h : Linked owner s)
    (howner : ∀ r ∈ rows, r.name ∈ s.registry → owner r.name) :
    Linked owner (rows.foldl loadScheduledJob s) := by
  -- by induction on the rows still to be loaded
  induction rows generalizing s with
  | nil => exact h
  | cons r rows ih =>
      have hstep : Linked owner (loadScheduledJob s r) := by
        unfold loadScheduledJob
        split
        · split
          · exact h
          · next fn hfn =>
              have hreg : r.name ∈ s.registry := by
                by_contra hne
                simp [Scheduler.func, hne] at hfn
              simp only [Scheduler.func, hreg, if_true, Option.some.injEq] at hfn
              subst hfn
              exact h.add (howner r List.mem_cons_self hreg) (by simp) _ _
        · exact h
      rw [List.foldl_cons]
      refine ih _ hstep (fun q hq hreg => ?_)
      rw [loadScheduledJob_registry] at hreg
      exact howner q (List.mem_cons_of_mem _ hq) hreg

/-- Who may own an entry: a registered job with a row. -/
def Server.owner (s : Server E) (job : String) : Prop :=
  job ∈ s.sched.registry ∧ ∃ row ∈ s.jobs, row.name = job

/-- Selecting by a key that occurs leaves the one row with it. -/
theorem filter_name_and {rows : List ScheduledJob} (h : (rows.map ScheduledJob.name).Nodup)
    {row : ScheduledJob} (hrow : row ∈ rows) (p : ScheduledJob → Bool) :
    rows.filter (fun r => decide (r.name = row.name) && p r) = if p row then [row] else [] := by
  induction rows with
  | nil => simp at hrow
  | cons r rows ih =>
      obtain ⟨hnew, htail⟩ := List.nodup_cons.mp h
      rcases List.mem_cons.mp hrow with rfl | hmem
      · have hnone : rows.filter (fun r => decide (r.name = row.name) && p r) = [] := by
          rw [List.filter_eq_nil_iff]
          intro q hq
          have hne : q.name ≠ row.name := fun he => hnew (he ▸ List.mem_map_of_mem hq)
          simp [hne]
        by_cases hp : p row <;> simp [hp, hnone]
      · have hne : r.name ≠ row.name := fun he => hnew (he ▸ List.mem_map_of_mem hmem)
        simp [hne, ih htail hmem]

theorem linked_startServer (collate : String → String → Bool) (registry : List String)
    (jobs : JobTable) :
    Linked (startServer E collate registry jobs).owner
      (startServer E collate registry jobs).sched := by
  refine linked_foldl_load _ _ (linked_new _ registry) (fun r hr hreg => ?_)
  refine ⟨?_, r, ?_, rfl⟩
  · show r.name ∈ (List.foldl loadScheduledJob _ _).registry
    rw [foldl_load_registry]
    exact hreg
  · exact (List.perm_insertionSort _ jobs.rows).mem_iff.mp hr

/-- **Startup**: the schedule is consistent exactly if every enabled registered
row has a spec the engine accepts. -/
theorem consistent_startServer_iff (collate : String → String → Bool)
    (registry : List String) (jobs : JobTable) :
    Consistent (startServer E collate registry jobs)
      ↔ ∀ job ∈ jobs, job.name ∈ registry → job.enabled = true →
          E.parses job.cronExpression = true := by
  -- the loop runs over the sorted rows, one of which is the job's
  have hspecs : ∀ job ∈ jobs, (startServer E collate registry jobs).sched.specsFor job.name
      = if loads E registry job then [job.cronExpression] else [] := by
    intro job hjob
    have hperm := List.perm_insertionSort
      (fun a b : ScheduledJob => collate a.name b.name = true) jobs.rows
    have hnodup : ((listScheduledJobs collate jobs).map ScheduledJob.name).Nodup :=
      (hperm.map ScheduledJob.name).nodup_iff.mpr jobs.nodup
    have hmem : job ∈ listScheduledJobs collate jobs := hperm.mem_iff.mpr hjob
    have hnew : (Scheduler.new registry : Scheduler E).specsFor job.name = [] := by
      have hnil : (Scheduler.new registry : Scheduler E).entries = [] := E.entries_new
      simp [Scheduler.specsFor, hnil]
    show (List.foldl loadScheduledJob _ _).specsFor job.name = _
    rw [specsFor_foldl_load, hnew, List.nil_append,
      show (Scheduler.new registry : Scheduler E).registry = registry from rfl,
      filter_name_and hnodup hmem (loads E registry)]
    by_cases hl : loads E registry job = true <;> simp [hl]
  have hreg : (startServer E collate registry jobs).sched.registry = registry :=
    foldl_load_registry _ _
  unfold Consistent
  rw [hreg]
  refine forall₂_congr (fun job hjob => ?_)
  rw [hspecs job hjob]
  unfold loads
  by_cases hr : job.name ∈ registry <;> cases job.enabled <;>
    cases E.parses job.cronExpression <;> simp [hr]

/-! ## §5. One update. -/

/-- Everything an accepted update does: the row of the named job takes the new
values and the scheduler reloads the job. -/
theorem serverStep_cases {s t : Server E} {a : String × UpdateScheduledJobRequest}
    (h : serverStep s a = some t) :
    a.1 ∈ s.sched.registry ∧ (∃ row ∈ s.jobs, row.name = a.1)
      ∧ t.jobs = s.jobs.update (fun r => r.name = a.1)
          (fun r => { r with cronExpression := a.2.cronExpression, enabled := a.2.enabled })
          (fun _ => rfl)
      ∧ t.sched = s.sched.reload a.1 a.2.cronExpression a.2.enabled
          [JobEffect.perform a.1] := by
  unfold serverStep at h
  split at h
  · next hreg =>
      unfold updateScheduledJob upsertScheduledJob at h
      by_cases hempty : a.2.cronExpression = ""
      · simp [hempty] at h
      · cases hrow : s.jobs.find? a.1 with
        | none => simp [hempty, hrow] at h
        | some row =>
            simp only [hempty, hrow, if_false, Scheduler.func, hreg, if_true,
              Option.some.injEq] at h
            subst h
            exact ⟨hreg, ⟨row, Table.mem_of_find? hrow, Table.key_of_find? hrow⟩, rfl, rfl⟩
  · exact absurd h (by simp)

theorem serverStep_owner {s t : Server E} {a : String × UpdateScheduledJobRequest}
    (h : serverStep s a = some t) : t.owner = s.owner := by
  obtain ⟨_, _, hjobs, hsched⟩ := serverStep_cases h
  have hreg : t.sched.registry = s.sched.registry := by
    rw [hsched]
    unfold Scheduler.reload
    split <;> simp
  funext job
  unfold Server.owner
  rw [hreg, hjobs, Table.exists_mem_update]
  refine propext (and_congr_right fun _ => exists_congr fun row => and_congr_right fun _ => ?_)
  by_cases hr : row.name = a.1 <;> simp [hr]

theorem serverStep_linked {s t : Server E} {a : String × UpdateScheduledJobRequest}
    (hs : Linked s.owner s.sched) (h : serverStep s a = some t) :
    Linked t.owner t.sched := by
  rw [serverStep_owner h]
  obtain ⟨hreg, hrow, _, hsched⟩ := serverStep_cases h
  rw [hsched]
  exact hs.reload ⟨hreg, hrow⟩ _ _

/-- The removal leaves the named job without entries exactly if the remembered
entry is the only one it had. -/
theorem specsFor_unlink_eq_nil (s : Scheduler E) (name : String) :
    (s.unlink name).specsFor name = []
      ↔ ∀ e ∈ s.entries, e.runs name = true → s.entryIDs name = some e.id := by
  rw [specsFor_unlink, List.map_eq_nil_iff, List.filter_eq_nil_iff]
  constructor
  · intro h e he hr
    have := h e (List.mem_filter.mpr ⟨he, hr⟩)
    simpa using this
  · intro h e he
    obtain ⟨he, hr⟩ := List.mem_filter.mp he
    simp [h e he hr]

/-- The removal leaves another job's entries alone exactly if the remembered
entry is none of them. -/
theorem specsFor_unlink_eq (s : Scheduler E) (name job : String) :
    (s.unlink name).specsFor job = s.specsFor job
      ↔ ∀ e ∈ s.entries, e.runs job = true → s.entryIDs name ≠ some e.id := by
  rw [specsFor_unlink]
  unfold Scheduler.specsFor
  constructor
  · intro h e he hr
    have hlen := congrArg List.length h
    rw [List.length_map, List.length_map, List.length_filter_eq_length_iff] at hlen
    simpa using hlen e (List.mem_filter.mpr ⟨he, hr⟩)
  · intro h
    congr 1
    rw [List.filter_eq_self]
    intro e he
    obtain ⟨he, hr⟩ := List.mem_filter.mp he
    simpa using h e he hr

/-- The reloaded job itself is as persisted exactly if the enabling spec parses
and the removal emptied the job's entries. -/
theorem specsFor_reload_own_iff {owner : String → Prop} {s : Scheduler E}
    (hs : Linked owner s) (name spec : String) (enabled : Bool) :
    (s.reload name spec enabled [JobEffect.perform name]).specsFor name
        = (if enabled then [spec] else [])
      ↔ (enabled = true → E.parses spec = true)
        ∧ ∀ e ∈ s.entries, e.runs name = true → s.entryIDs name = some e.id := by
  rw [specsFor_reload, ← specsFor_unlink_eq_nil]
  cases enabled with
  | false => simp
  | true =>
      cases hp : E.parses spec with
      | true => simp
      | false =>
          -- a leftover entry cannot carry a spec that the engine rejects
          have hno : (s.unlink name).specsFor name ≠ [spec] := by
            intro h
            have hmem : spec ∈ (s.unlink name).specsFor name := by simp [h]
            obtain ⟨e, he, hspec⟩ := List.mem_map.mp hmem
            have := ((hs.unlink name).owned e (List.mem_filter.mp he).1).1
            simp [hspec, hp] at this
          simpa using hno

/-- **One update, exactly**: from a consistent state an update leads to a
consistent state if and only if it is `ReloadOK`. -/
theorem consistent_step_iff {s t : Server E} {a : String × UpdateScheduledJobRequest}
    (hs : Linked s.owner s.sched) (hc : Consistent s) (h : serverStep s a = some t) :
    Consistent t ↔ ReloadOK s a := by
  obtain ⟨hreg, ⟨row, hrow, hname⟩, hjobs, hsched⟩ := serverStep_cases h
  have hregt : t.sched.registry = s.sched.registry := by
    rw [hsched]
    unfold Scheduler.reload
    split <;> simp
  -- the updated job and the others, separately
  have hsplit : Consistent t
      ↔ (t.sched.specsFor a.1 = if a.2.enabled then [a.2.cronExpression] else [])
        ∧ ∀ job ∈ s.jobs, job.name ≠ a.1 → job.name ∈ s.sched.registry →
            (s.sched.unlink a.1).specsFor job.name = s.sched.specsFor job.name := by
    unfold Consistent
    rw [hjobs, Table.forall_mem_update, hregt]
    constructor
    · intro hall
      refine ⟨by simpa [hname, hreg] using hall row hrow, fun job hjob hne hjr => ?_⟩
      have hj := hall job hjob
      simp only [hne, decide_false, Bool.false_eq_true, if_false] at hj
      rw [hc job hjob hjr, ← hj hjr, hsched, specsFor_reload]
      simp [hne]
    · intro h job hjob
      obtain ⟨hown, hothers⟩ := h
      by_cases hjn : job.name = a.1
      · simpa [hjn] using fun _ => hown
      · simp only [hjn, decide_false, Bool.false_eq_true, if_false]
        intro hjr
        rw [← hc job hjob hjr, ← hothers job hjob hjn hjr, hsched, specsFor_reload]
        simp [hjn]
  rw [hsplit, hsched, specsFor_reload_own_iff hs]
  simp only [specsFor_unlink_eq]
  constructor
  · intro h
    obtain ⟨⟨hparse, hown⟩, hothers⟩ := h
    refine ⟨hparse, fun e he => ⟨hown e he, fun hid => ?_⟩⟩
    -- the remembered entry has an owner: were it another job, that job would lose it
    obtain ⟨_, job, ⟨hjr, r, hr, hrn⟩, hruns⟩ := hs.owned e he
    by_cases hja : job = a.1
    · exact (hruns a.1).mpr hja.symm
    · have := hothers r hr (hrn ▸ hja) (hrn ▸ hjr) e he ((hruns r.name).mpr hrn)
      exact absurd hid this
  · intro h
    obtain ⟨hparse, hown⟩ := h
    refine ⟨⟨hparse, fun e he => (hown e he).mp⟩, fun job _ hne _ e he hr hid => ?_⟩
    obtain ⟨_, owner, _, hruns⟩ := hs.owned e he
    -- an entry of another job is not the remembered one: it would run both jobs
    have h1 : job.name = owner := (hruns _).mp hr
    have h2 : a.1 = owner := (hruns _).mp ((hown e he).mpr hid)
    exact hne (h1.trans h2.symm)

/-! ## §6. Runs. -/

/-- **WHEN THE CRON ENGINE FOLLOWS THE PERSISTED SCHEDULE.**  In a run of startup
and accepted updates, every state reached is consistent if and only if every
enabled registered row had a spec that parses at startup and every update met
`ReloadOK` in the state it found. -/
theorem scheduler_consistent_iff (collate : String → String → Bool)
    (registry : List String) (jobs : JobTable) {t : Server E}
    {tr : List (Server E × (String × UpdateScheduledJobRequest))}
    (r : Exec serverStep (startServer E collate registry jobs) tr t) :
    (∀ u ∈ visited tr t, Consistent u)
      ↔ (∀ job ∈ jobs, job.name ∈ registry → job.enabled = true →
            E.parses job.cronExpression = true)
        ∧ ∀ p ∈ tr, ReloadOK p.1 p.2 := by
  rw [← consistent_startServer_iff (E := E) collate registry jobs]
  constructor
  · intro hall
    have h0 := hall _ r.start_mem_visited
    exact ⟨h0, (r.always_iff (J := fun s => Linked s.owner s.sched)
      (fun s a t hs h => serverStep_linked hs h)
      (fun s a t hs hc h => consistent_step_iff hs hc h)
      (linked_startServer collate registry jobs) h0).mp hall⟩
  · intro h
    obtain ⟨h0, hok⟩ := h
    exact (r.always_iff (J := fun s => Linked s.owner s.sched)
      (fun s a t hs h => serverStep_linked hs h)
      (fun s a t hs hc h => consistent_step_iff hs hc h)
      (linked_startServer collate registry jobs) h0).mpr hok

/-- The engine of the examples: it accepts the two specs they use. -/
def hourlyCron : CronEngine :=
  counterCron (fun spec => spec == "0 * * * *" || spec == "30 * * * *")

/-- The seeded row of the expiry alerts job (migration 000029). -/
def expiryAlertsJob : ScheduledJob :=
  ⟨"expiry_alerts", "Certificate Expiry Alerts", "0 * * * *", true⟩

/-- The table of one row. -/
def expiryAlertsTable : JobTable := ⟨[expiryAlertsJob], by decide⟩

/-- The fresh server with that table. -/
def seededServer : Server hourlyCron :=
  startServer hourlyCron (fun a b => decide (a ≤ b)) buildJobRegistry expiryAlertsTable

/-- The disabling update. -/
def disableExpiryAlerts : String × UpdateScheduledJobRequest :=
  ("expiry_alerts", ⟨"0 * * * *", false⟩)

/-- **Disabling a job that startup loaded leaves it running**: its entry is
remembered under the display name, so `Reload` finds nothing to remove. -/
theorem scheduler_disable_keeps_entry :
    ¬ ∀ (t : Server hourlyCron) (tr : List (Server hourlyCron × _)),
        Exec serverStep seededServer tr t → ∀ u ∈ visited tr t, Consistent u := by
  intro hall
  have hrun : ∃ t, run serverStep seededServer [disableExpiryAlerts] = some t
      ∧ t.sched.specsFor "expiry_alerts" = ["0 * * * *"]
      ∧ t.jobs.rows = [{ expiryAlertsJob with enabled := false }]
      ∧ t.sched.registry = buildJobRegistry :=
    ⟨_, rfl, by decide, by decide, rfl⟩
  obtain ⟨t, hrun, hspecs, hrows, hreg⟩ := hrun
  have hc := hall t _ (exec_traceFrom hrun) t (last_mem_visited _ _)
  have := hc { expiryAlertsJob with enabled := false }
    (by rw [Table.mem_def, hrows]; simp) (by rw [hreg]; decide)
  rw [show ({ expiryAlertsJob with enabled := false } : ScheduledJob).name
    = "expiry_alerts" from rfl, hspecs] at this
  simp at this

/-- The exact condition on a concrete run: it fails for the disabling update of
the seeded job. -/
theorem scheduler_consistent_iff_seeded :
    ∃ t, run serverStep seededServer [disableExpiryAlerts] = some t
      ∧ ((∀ u ∈ visited (traceFrom serverStep seededServer [disableExpiryAlerts]) t,
            Consistent u)
          ↔ (∀ job ∈ expiryAlertsTable, job.name ∈ buildJobRegistry → job.enabled = true →
                hourlyCron.parses job.cronExpression = true)
            ∧ ∀ p ∈ traceFrom serverStep seededServer [disableExpiryAlerts],
                ReloadOK p.1 p.2) := by
  refine ⟨_, rfl, ?_⟩
  exact scheduler_consistent_iff _ _ expiryAlertsTable (exec_traceFrom rfl)

end TLSentinel.Cron
