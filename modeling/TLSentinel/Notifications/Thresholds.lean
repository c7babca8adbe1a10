/-
  TLSentinel.Notifications.Thresholds
  ───────────────────────────────────
  **WHICH THRESHOLD A CERTIFICATE HAS REACHED.**

  The settings page saves a list of thresholds, largest first, and the alert job sorts
  what it loads once more.  On a sorted list the loop of `alertThreshold` ends with the
  least threshold that the days left do not exceed (`alertThreshold_spec`); whatever is
  said of whole runs of the job follows from that.

  Main results:
    * `setAlertThresholds_ok_iff` — which requests are accepted;
    * `alertThreshold_mono`       — fewer days, a smaller threshold;
    * `alertThreshold_selects`    — the life of an accepted list.
-/
import TLSentinel.Foundation.Loops
import TLSentinel.Notifications.Delivery

namespace TLSentinel.Notifications

open Foundation

/-! ## §1. The settings. -/

/-- The loop over the thresholds of a request, which remembers those it has seen. -/
def checkThresholds (seen : List Int) : List Int → Except String Unit
  | [] => .ok ()
  | t :: rest =>
      if t < 1 ∨ 365 < t then .error "each threshold must be between 1 and 365 days"
      else if t ∈ seen then .error "thresholds must be unique"
      else checkThresholds (t :: seen) rest

/-- Descending. -/
def sortDescending (thresholds : List Int) : List Int :=
  thresholds.insertionSort (fun a b => b ≤ a)

/-- `SetAlertThresholds`, on the decoded body, with the tables after it; `saves` says
whether the store took the setting. -/
def setAlertThresholds (db : DB) (body : Option (List Int)) (saves : Bool) :
    DB × Except (Nat × String) (List Int) :=
  match body with
  | none => (db, .error (400, "invalid request body"))
  | some thresholds =>
      if thresholds = [] then
        (db, .error (400, "thresholds must contain at least one value"))
      else
        match checkThresholds [] thresholds with
        | .error text => (db, .error (400, text))
        | .ok () =>
            let sorted := sortDescending thresholds
            if saves then
              (db.edit { db.settings with alertThresholds := some (some sorted) }, .ok sorted)
            else (db, .error (500, "failed to save alert thresholds"))

theorem perm_sortDescending (thresholds : List Int) :
    (sortDescending thresholds).Perm thresholds :=
  List.perm_insertionSort _ _

theorem sortDescending_sorted (thresholds : List Int) :
    (sortDescending thresholds).Pairwise (fun a b => b ≤ a) :=
  List.pairwise_insertionSort _ _

/-- The loop ends well when all are in bounds and none is seen twice. -/
theorem checkThresholds_ok_iff {seen thresholds : List Int} :
    checkThresholds seen thresholds = .ok () ↔
      (∀ t ∈ thresholds, 1 ≤ t ∧ t ≤ 365) ∧ thresholds.Nodup ∧ ∀ t ∈ thresholds, t ∉ seen := by
  induction thresholds generalizing seen with
  | nil => simp [checkThresholds]
  | cons t rest ih =>
      unfold checkThresholds
      by_cases hbounds : t < 1 ∨ 365 < t
      · simp only [hbounds, if_true, reduceCtorEq, false_iff]
        rintro ⟨h, -, -⟩
        have := h t List.mem_cons_self
        omega
      · by_cases hseen : t ∈ seen
        · simp [hbounds, hseen]
        · rw [if_neg hbounds, if_neg hseen, ih, List.forall_mem_cons, List.forall_mem_cons,
            List.nodup_cons]
          constructor
          · rintro ⟨hrest, hnodup, hfresh⟩
            exact ⟨⟨by omega, hrest⟩, ⟨fun ht => hfresh t ht List.mem_cons_self, hnodup⟩, hseen,
              fun u hu hus => hfresh u hu (List.mem_cons_of_mem t hus)⟩
          · rintro ⟨⟨-, hrest⟩, ⟨ht, hnodup⟩, -, hfresh⟩
            refine ⟨hrest, hnodup, fun u hu hus => ?_⟩
            rcases List.mem_cons.mp hus with rfl | hus
            · exact ht hu
            · exact hfresh u hu hus

/-- **Which requests are accepted.** -/
theorem setAlertThresholds_ok_iff {db : DB} {thresholds sorted : List Int} :
    (setAlertThresholds db (some thresholds) true).2 = .ok sorted ↔
      (thresholds ≠ [] ∧ (∀ t ∈ thresholds, 1 ≤ t ∧ t ≤ 365) ∧ thresholds.Nodup) ∧
        sorted = sortDescending thresholds := by
  unfold setAlertThresholds
  by_cases hnil : thresholds = []
  · simp [hnil]
  · cases hcheck : checkThresholds [] thresholds with
    | error text =>
        have hbad : ¬((∀ t ∈ thresholds, 1 ≤ t ∧ t ≤ 365) ∧ thresholds.Nodup) := by
          intro ⟨hbounds, hnodup⟩
          rw [checkThresholds_ok_iff.mpr ⟨hbounds, hnodup, by simp⟩] at hcheck
          cases hcheck
        simp [hnil, hcheck, hbad]
    | ok u =>
        obtain ⟨hbounds, hnodup, -⟩ := checkThresholds_ok_iff.mp hcheck
        have hsaved : (setAlertThresholds db (some thresholds) true).2 =
            .ok (sortDescending thresholds) := by
          simp [setAlertThresholds, hnil, hcheck]
        unfold setAlertThresholds at hsaved
        rw [hsaved]
        constructor
        · intro h
          injection h with h
          exact ⟨⟨hnil, hbounds, hnodup⟩, h.symm⟩
        · rintro ⟨-, rfl⟩
          rfl

/-! ## §2. The threshold that is reached. -/

section Selection

variable {days days' : Int} {thresholds : List Int}

/-- The loop keeps the last threshold that the days left do not exceed. -/
theorem alertThreshold_eq_last :
    alertThreshold days thresholds =
      ((thresholds.filter fun t => decide (days ≤ t)).getLast?).getD 0 :=
  foldl_last (fun t => days ≤ t) thresholds 0

theorem alertThreshold_none (h : ∀ t ∈ thresholds, t < days) :
    alertThreshold days thresholds = 0 := by
  have hfilter : (thresholds.filter fun t => decide (days ≤ t)) = [] := by
    rw [List.filter_eq_nil_iff]
    intro t ht
    have := h t ht
    simp [this]
  rw [alertThreshold_eq_last, hfilter]
  rfl

/-- **On a sorted list the last is the least.** -/
theorem alertThreshold_spec (hsorted : thresholds.Pairwise (fun a b => b ≤ a))
    (h : ∃ t ∈ thresholds, days ≤ t) :
    alertThreshold days thresholds ∈ thresholds ∧ days ≤ alertThreshold days thresholds ∧
      ∀ t ∈ thresholds, days ≤ t → alertThreshold days thresholds ≤ t := by
  have hne : (thresholds.filter fun t => decide (days ≤ t)) ≠ [] := by
    obtain ⟨t, ht, hdays⟩ := h
    exact List.ne_nil_of_mem (List.mem_filter.mpr ⟨ht, decide_eq_true hdays⟩)
  have heq : alertThreshold days thresholds =
      (thresholds.filter fun t => decide (days ≤ t)).getLast hne := by
    rw [alertThreshold_eq_last, List.getLast?_eq_some_getLast hne]
    rfl
  have hmem := List.mem_filter.mp (List.getLast_mem hne)
  refine ⟨heq ▸ hmem.1, heq ▸ of_decide_eq_true hmem.2, fun t ht hdays => ?_⟩
  rw [heq]
  -- every threshold that qualifies stands before the last or is the last
  have hpair := hsorted.filter (fun t => decide (days ≤ t))
  rw [← List.dropLast_append_getLast hne, List.pairwise_append] at hpair
  have htmem : t ∈ thresholds.filter fun t => decide (days ≤ t) :=
    List.mem_filter.mpr ⟨ht, decide_eq_true hdays⟩
  rw [← List.dropLast_append_getLast hne, List.mem_append, List.mem_singleton] at htmem
  rcases htmem with hbefore | rfl
  · exact hpair.2.2 t hbefore _ List.mem_cons_self
  · exact le_rfl

theorem alertThreshold_eq_zero_iff (hsorted : thresholds.Pairwise (fun a b => b ≤ a))
    (hpos : ∀ t ∈ thresholds, 1 ≤ t) :
    alertThreshold days thresholds = 0 ↔ ∀ t ∈ thresholds, t < days := by
  refine ⟨fun hzero t ht => ?_, alertThreshold_none⟩
  by_contra hdays
  have hmem := (alertThreshold_spec hsorted ⟨t, ht, not_lt.mp hdays⟩).1
  have := hpos _ hmem
  omega

/-- A certificate with as many days left as a threshold says has reached that one. -/
theorem alertThreshold_of_mem (hsorted : thresholds.Pairwise (fun a b => b ≤ a))
    (h : days ∈ thresholds) : alertThreshold days thresholds = days := by
  obtain ⟨-, hdays, hleast⟩ := alertThreshold_spec hsorted ⟨days, h, le_rfl⟩
  exact le_antisymm (hleast days h le_rfl) hdays

/-- **Fewer days, a smaller threshold.** -/
theorem alertThreshold_mono (hsorted : thresholds.Pairwise (fun a b => b ≤ a))
    (hle : days' ≤ days) (h : alertThreshold days thresholds ≠ 0) :
    alertThreshold days' thresholds ≤ alertThreshold days thresholds := by
  have hreached : ∃ t ∈ thresholds, days ≤ t := by
    by_contra hnone
    push Not at hnone
    exact h (alertThreshold_none hnone)
  obtain ⟨hmem, hdays, -⟩ := alertThreshold_spec hsorted hreached
  exact (alertThreshold_spec hsorted ⟨_, hmem, hle.trans hdays⟩).2.2 _ hmem (hle.trans hdays)

/-! ## §3. Pass after pass. -/

/-- While the days fall, the thresholds that are reached do not rise. -/
theorem alertThresholds_nonincreasing (hsorted : thresholds.Pairwise (fun a b => b ≤ a))
    {passes : List Int} (h : passes.Pairwise (fun a b => b ≤ a)) :
    ((passes.map fun days => alertThreshold days thresholds).filter
      fun t => decide (t ≠ 0)).Pairwise (fun a b => b ≤ a) := by
  induction passes with
  | nil => exact List.Pairwise.nil
  | cons days passes ih =>
      obtain ⟨hdays, hrest⟩ := List.pairwise_cons.mp h
      rw [List.map_cons]
      by_cases hzero : alertThreshold days thresholds = 0
      · rw [List.filter_cons_of_neg (by simpa using hzero)]
        exact ih hrest
      · rw [List.filter_cons_of_pos (by simpa using hzero)]
        refine List.pairwise_cons.mpr ⟨fun t ht => ?_, ih hrest⟩
        obtain ⟨days', hdays', rfl⟩ := List.mem_map.mp (List.mem_of_mem_filter ht)
        exact alertThreshold_mono hsorted (hdays days' hdays') hzero

/-- **No threshold is skipped.** -/
theorem alertThreshold_visits (hsorted : thresholds.Pairwise (fun a b => b ≤ a))
    {passes : List Int} (h : passes.IsChain fun a b => a - 1 ≤ b) {first last t : Int}
    (hfirst : passes.head? = some first) (hlast : passes.getLast? = some last) (ht : t ≤ first)
    (ht' : last ≤ t) (hmem : t ∈ thresholds) :
    t ∈ passes.map fun days => alertThreshold days thresholds :=
  List.mem_map.mpr
    ⟨t, mem_of_countdown h hfirst hlast ht ht', alertThreshold_of_mem hsorted hmem⟩

end Selection

/-- What a pass loads after a request was accepted. -/
theorem loaded_of_accepted {db : DB} {requested stored : List Int}
    (h : (setAlertThresholds db (some requested) true).2 = .ok stored) (sendCfg : Config) :
    sortThresholds sendCfg (setAlertThresholds db (some requested) true).1.getAlertThresholds =
      .recipients ⟨sendCfg, stored⟩ := by
  obtain ⟨⟨hnil, hbounds, hnodup⟩, rfl⟩ := setAlertThresholds_ok_iff.mp h
  have hcheck : checkThresholds [] requested = .ok () :=
    checkThresholds_ok_iff.mpr ⟨hbounds, hnodup, by simp⟩
  have hloaded : (setAlertThresholds db (some requested) true).1.getAlertThresholds =
      some (sortDescending requested) := by
    simp [setAlertThresholds, hnil, hcheck, DB.getAlertThresholds, DB.edit]
  have hne : sortDescending requested ≠ [] := by
    intro hempty
    exact hnil ((hempty ▸ perm_sortDescending requested).symm.eq_nil)
  rw [hloaded, sortThresholds]
  simp only [hne, if_false]
  rw [(sortDescending_sorted requested).insertionSort_eq]

/-- **Which threshold is alerted, from the settings to the runs of the job.**  Of an
accepted list every pass loads the same numbers, largest first; a certificate gets the
least of them that its days left do not exceed, and none exactly when they exceed all;
while the days fall the thresholds do not rise, and when they fall by at most one from
pass to pass every threshold has its turn. -/
theorem alertThreshold_selects {db : DB} {requested stored : List Int}
    (h : (setAlertThresholds db (some requested) true).2 = .ok stored) :
    (∀ sendCfg, sortThresholds sendCfg
        (setAlertThresholds db (some requested) true).1.getAlertThresholds =
      .recipients ⟨sendCfg, stored⟩) ∧
    (∀ days, (alertThreshold days stored = 0 ↔ ∀ t ∈ requested, t < days) ∧
      ((∃ t ∈ requested, days ≤ t) →
        alertThreshold days stored ∈ requested ∧ days ≤ alertThreshold days stored ∧
          ∀ t ∈ requested, days ≤ t → alertThreshold days stored ≤ t)) ∧
    (∀ passes : List Int, passes.Pairwise (fun a b => b ≤ a) →
      ((passes.map fun days => alertThreshold days stored).filter
        fun t => decide (t ≠ 0)).Pairwise (fun a b => b ≤ a)) ∧
    ∀ (passes : List Int) (first last : Int), passes.head? = some first →
      passes.getLast? = some last → (∀ t ∈ requested, t < first) → (∀ t ∈ requested, last < t) →
      passes.IsChain (fun a b => a - 1 ≤ b) →
      ∀ t ∈ requested, t ∈ passes.map fun days => alertThreshold days stored := by
  obtain ⟨⟨-, hbounds, -⟩, hstored⟩ := setAlertThresholds_ok_iff.mp h
  have hsorted : stored.Pairwise (fun a b => b ≤ a) := hstored ▸ sortDescending_sorted requested
  have hmem : ∀ t, t ∈ stored ↔ t ∈ requested := fun t =>
    hstored ▸ (perm_sortDescending requested).mem_iff
  have hpos : ∀ t ∈ stored, 1 ≤ t := fun t ht => (hbounds t ((hmem t).mp ht)).1
  refine ⟨loaded_of_accepted h, fun days => ⟨?_, ?_⟩, ?_, ?_⟩
  · have hzero : alertThreshold days stored = 0 ↔ ∀ t ∈ stored, t < days :=
      alertThreshold_eq_zero_iff hsorted hpos
    simpa only [hmem] using hzero
  · intro ⟨t, ht, hdays⟩
    obtain ⟨hreached, hle, hleast⟩ := alertThreshold_spec hsorted ⟨t, (hmem t).mpr ht, hdays⟩
    exact ⟨(hmem _).mp hreached, hle, fun u hu => hleast u ((hmem u).mpr hu)⟩
  · exact fun passes hpasses => alertThresholds_nonincreasing hsorted hpasses
  · intro passes first last hfirst hlast habove hbelow hchain t ht
    exact alertThreshold_visits hsorted hchain hfirst hlast (habove t ht).le (hbelow t ht).le
      ((hmem t).mpr ht)

/-- Three thresholds, and one pass a day. -/
theorem alertThreshold_selects_daily :
    (setAlertThresholds (oneEndpoint "web").db (some [3, 7, 1]) true).2 = .ok [7, 3, 1] ∧
      ∀ t ∈ [3, 7, 1], t ∈ ([8, 7, 6, 5, 4, 3, 2, 1, 0] : List Int).map
        fun days => alertThreshold days [7, 3, 1] := by
  have haccepted : (setAlertThresholds (oneEndpoint "web").db (some [3, 7, 1]) true).2 =
      .ok [7, 3, 1] :=
    setAlertThresholds_ok_iff.mpr (by decide)
  exact ⟨haccepted, (alertThreshold_selects haccepted).2.2.2 [8, 7, 6, 5, 4, 3, 2, 1, 0] 8 0 rfl rfl
    (by decide) (by decide) (by decide)⟩

end TLSentinel.Notifications
