/-
  Foundation.ChangeLog
  ────────────────────
  **LOGS THAT RECORD CHANGES ONLY, UNDER RETENTION.**

  A log is a list of entries in the order they were written.  `record` appends
  an entry only when its observation differs from that of the newest entry;
  `prune` deletes the entries older than a cutoff, except the newest.

  Main results, for a log whose times increase strictly:
    * `newest_record`, `Compressed.record` — after `record` the newest entry
      shows the last observation, and neighbours still differ;
    * `prune_suffix`, `newest_prune`       — what `prune` leaves is a suffix with
      the same newest entry, so that whether the next entry is written does not
      depend on any `prune` before it.
-/
import Mathlib.Data.List.MinMax
import Mathlib.Data.List.Chain

namespace Foundation.ChangeLog

variable {ρ τ β : Type*} [LinearOrder τ] {time : ρ → τ} {obs : ρ → β}

/-! ## §1. Entries in order, and the newest one. -/

/-- Every entry is later than those before it. -/
def Chronological (time : ρ → τ) (log : List ρ) : Prop :=
  log.Pairwise (fun r s => time r < time s)

/-- Neighbours show different observations. -/
def Compressed (obs : ρ → β) (log : List ρ) : Prop :=
  log.IsChain (fun r s => obs r ≠ obs s)

/-- An entry of maximal time: `ORDER BY time DESC LIMIT 1`. -/
def newest (time : ρ → τ) (log : List ρ) : Option ρ := log.argmax time

theorem newest_mem {log : List ρ} {r : ρ} (h : newest time log = some r) : r ∈ log :=
  List.argmax_mem h

theorem newest_eq_none_iff {log : List ρ} : newest time log = none ↔ log = [] :=
  List.argmax_eq_none

/-- A later entry at the end is the newest. -/
theorem newest_append {log : List ρ} {r : ρ} (h : ∀ s ∈ log, time s < time r) :
    newest time (log ++ [r]) = some r := by
  rw [newest, List.argmax_concat]
  cases hn : log.argmax time with
  | none => rfl
  | some s => simp [h s (List.argmax_mem hn)]

/-- **In a chronological log the newest entry is the last one.** -/
theorem newest_eq_getLast? {log : List ρ} (h : Chronological time log) :
    newest time log = log.getLast? := by
  induction log using List.reverseRecOn with
  | nil => rfl
  | append_singleton log r _ =>
      rw [List.getLast?_concat]
      apply newest_append
      intro s hs
      exact (List.pairwise_append.mp h).2.2 s hs r (List.mem_singleton_self r)

/-- The newest entry of a longer log is that of its tail. -/
theorem newest_cons_cons {log : List ρ} {r s : ρ} (h : Chronological time (r :: s :: log)) :
    newest time (r :: s :: log) = newest time (s :: log) := by
  rw [newest_eq_getLast? h, newest_eq_getLast? (List.Pairwise.of_cons h),
    List.getLast?_cons_cons]

theorem Chronological.append {log : List ρ} {r : ρ} (h : Chronological time log)
    (hr : ∀ s ∈ log, time s < time r) : Chronological time (log ++ [r]) := by
  refine List.pairwise_append.mpr ⟨h, List.pairwise_singleton _ r, ?_⟩
  intro s hs x hx
  rw [List.mem_singleton.mp hx]
  exact hr s hs

/-! ## §2. Recording changes. -/

/-- Write an entry when it shows something else than the newest one. -/
def record [DecidableEq β] (time : ρ → τ) (obs : ρ → β) (log : List ρ) (r : ρ) : List ρ :=
  if (newest time log).map obs = some (obs r) then log else log ++ [r]

section Record

variable [DecidableEq β]

theorem mem_record {log : List ρ} {r s : ρ} (h : s ∈ record time obs log r) :
    s ∈ log ∨ s = r := by
  unfold record at h
  split at h
  · exact .inl h
  · simpa using h

theorem Chronological.record {log : List ρ} {r : ρ} (h : Chronological time log)
    (hr : ∀ s ∈ log, time s < time r) : Chronological time (record time obs log r) := by
  unfold ChangeLog.record
  split
  · exact h
  · exact h.append hr

/-- **The newest entry shows the last observation**, written or not. -/
theorem newest_record {log : List ρ} {r : ρ} (hr : ∀ s ∈ log, time s < time r) :
    (newest time (record time obs log r)).map obs = some (obs r) := by
  unfold record
  split
  · assumption
  · rw [newest_append hr, Option.map_some]

/-- **Only changes are written.** -/
theorem Compressed.record {log : List ρ} {r : ρ} (hlog : Chronological time log)
    (h : Compressed obs log) : Compressed obs (record time obs log r) := by
  unfold ChangeLog.record
  split
  · exact h
  · next hnew =>
      rw [newest_eq_getLast? hlog] at hnew
      refine List.isChain_append.mpr ⟨h, List.isChain_singleton r, ?_⟩
      intro s hs x hx hsx
      -- the last entry shows what the new one shows, against the guard
      have hxr : x = r := by simpa using hx.symm
      apply hnew
      rw [hs, Option.map_some, hsx, hxr]

end Record

/-! ## §3. Retention. -/

/-- Delete what is older than the cutoff, but never the newest entry. -/
def prune [DecidableEq ρ] (time : ρ → τ) (cutoff : τ) (log : List ρ) : List ρ :=
  log.filter (fun r => decide (cutoff ≤ time r) || decide (newest time log = some r))

section Prune

variable [DecidableEq ρ]

/-- **What is left is a suffix of the log.** -/
theorem prune_suffix {cutoff : τ} {log : List ρ} (h : Chronological time log) :
    prune time cutoff log <:+ log := by
  -- by induction on the log: either its head goes, or the whole log stays
  induction log with
  | nil => exact List.suffix_refl []
  | cons r log ih =>
      obtain ⟨hr, hlog⟩ := List.pairwise_cons.mp h
      by_cases hc : cutoff ≤ time r
      · have hall : prune time cutoff (r :: log) = r :: log := by
          refine List.filter_eq_self.mpr ?_
          intro s hs
          rcases List.mem_cons.mp hs with hs | hs
          · simp [hs, hc]
          · simp [hc.trans (hr s hs).le]
        exact ⟨[], by rw [hall, List.nil_append]⟩
      · cases log with
        | nil =>
            have hnew : newest time [r] = some r := rfl
            simp [prune, hnew]
        | cons s log =>
            -- the head is old and, with an entry after it, not the newest
            have hnew : newest time (r :: s :: log) ≠ some r := by
              rw [newest_cons_cons h]
              intro hn
              exact (hr r (newest_mem hn)).false
            have htail : prune time cutoff (r :: s :: log) = prune time cutoff (s :: log) := by
              unfold prune
              rw [List.filter_cons_of_neg (by simp [hc, hnew]), newest_cons_cons h]
            rw [htail]
            exact (ih hlog).trans (List.suffix_cons r _)

theorem Chronological.prune {cutoff : τ} {log : List ρ} (h : Chronological time log) :
    Chronological time (prune time cutoff log) :=
  h.sublist List.filter_sublist

theorem Compressed.prune {cutoff : τ} {log : List ρ} (hlog : Chronological time log)
    (h : Compressed obs log) : Compressed obs (prune time cutoff log) :=
  List.IsChain.suffix h (prune_suffix hlog)

/-- **The newest entry outlives every pruning.** -/
theorem newest_prune {cutoff : τ} {log : List ρ} (h : Chronological time log) :
    newest time (prune time cutoff log) = newest time log := by
  cases hn : newest time log with
  | none =>
      rw [newest_eq_none_iff] at hn
      subst hn
      rfl
  | some r =>
      rw [newest_eq_getLast? h] at hn
      rw [newest_eq_getLast? h.prune]
      obtain ⟨old, hold⟩ : ChangeLog.prune time cutoff log <:+ log := prune_suffix h
      -- the newest entry is kept, so the suffix is not empty and ends with it
      have hmem : r ∈ ChangeLog.prune time cutoff log := by
        refine List.mem_filter.mpr ⟨List.mem_of_getLast? hn, ?_⟩
        simp [newest_eq_getLast? h, hn]
      rw [← hold, List.getLast?_append_of_ne_nil _ (List.ne_nil_of_mem hmem)] at hn
      exact hn

end Prune

end Foundation.ChangeLog
