/-
  Foundation.Grouping
  ───────────────────
  **COUNTING ROWS BY A LABEL.**

  `SELECT label, COUNT(DISTINCT id) ... GROUP BY label` on pairs of a label and an id:
  every label that occurs has one group (`groupCounts`), and its count is the number of
  ids it occurs with, however often (`countFor_groupCounts`).  Rows of two tables that have
  the same keys are as many (`countP_eq_of_same_keys`).

  Main results:
    * `countFor_groupCounts`   — the count of a label, 0 where it has no group;
    * `countP_eq_of_same_keys` — a count in a table and in one that refers to it.
-/
import TLSentinel.Foundation.Tables
import Mathlib.Data.List.Dedup

namespace Foundation

variable {κ ι : Type*} [DecidableEq κ] [DecidableEq ι]

/-! ## §1. Groups. -/

/-- `COUNT(DISTINCT id)` of the group of a label. -/
def countDistinct (pairs : List (κ × ι)) (label : κ) : Nat :=
  ((pairs.filter fun row => decide (row.1 = label)).map Prod.snd).dedup.length

/-- The groups, in no particular order. -/
def groupCounts (pairs : List (κ × ι)) : List (κ × Nat) :=
  (pairs.map Prod.fst).dedup.map fun label => (label, countDistinct pairs label)

/-- The count that an answer shows for a label. -/
def countFor (groups : List (κ × Nat)) (label : κ) : Nat := (groups.lookup label).getD 0

theorem mem_groupCounts {pairs : List (κ × ι)} {row : κ × Nat} :
    row ∈ groupCounts pairs ↔
      row.2 = countDistinct pairs row.1 ∧ ∃ id, (row.1, id) ∈ pairs := by
  unfold groupCounts
  rw [List.mem_map]
  constructor
  · rintro ⟨label, hlabel, rfl⟩
    obtain ⟨pair, hpair, rfl⟩ := List.mem_map.mp (List.mem_dedup.mp hlabel)
    exact ⟨rfl, pair.2, hpair⟩
  · rintro ⟨hcount, id, hid⟩
    exact ⟨row.1, List.mem_dedup.mpr (List.mem_map.mpr ⟨_, hid, rfl⟩), Prod.ext rfl hcount.symm⟩

/-- A label has one group. -/
theorem nodup_groupCounts (pairs : List (κ × ι)) :
    ((groupCounts pairs).map Prod.fst).Nodup := by
  have hfst : (groupCounts pairs).map Prod.fst = (pairs.map Prod.fst).dedup := by
    unfold groupCounts
    rw [List.map_map]
    exact List.map_id _
  rw [hfst]
  exact List.nodup_dedup _

/-- A label without pairs counts nothing. -/
theorem countDistinct_eq_zero {pairs : List (κ × ι)} {label : κ}
    (h : ∀ id, (label, id) ∉ pairs) : countDistinct pairs label = 0 := by
  unfold countDistinct
  have hfilter : (pairs.filter fun row => decide (row.1 = label)) = [] := by
    rw [List.filter_eq_nil_iff]
    intro row hrow hlabel
    have heq : row.1 = label := of_decide_eq_true hlabel
    exact h row.2 (heq ▸ hrow)
  rw [hfilter]
  rfl

/-- A row of a list with one row a label. -/
theorem lookup_eq_some {rows : List (κ × Nat)} (hnodup : (rows.map Prod.fst).Nodup) {label : κ}
    {n : Nat} (h : (label, n) ∈ rows) : rows.lookup label = some n := by
  induction rows with
  | nil => exact absurd h List.not_mem_nil
  | cons row rows ih =>
      rw [List.map_cons, List.nodup_cons] at hnodup
      rw [List.lookup_cons]
      rcases List.mem_cons.mp h with rfl | h
      · rw [beq_self_eq_true]
      · have hne : label ≠ row.1 := fun heq =>
          hnodup.1 (heq ▸ List.mem_map.mpr ⟨_, h, rfl⟩)
        rw [beq_eq_false_iff_ne.mpr hne]
        exact ih hnodup.2 h

/-- **The count of a label**, in whatever order the groups are listed. -/
theorem countFor_groupCounts {pairs : List (κ × ι)} {groups : List (κ × Nat)}
    (hperm : groups.Perm (groupCounts pairs)) (label : κ) :
    countFor groups label = countDistinct pairs label := by
  unfold countFor
  by_cases h : ∃ id, (label, id) ∈ pairs
  · have hrow : (label, countDistinct pairs label) ∈ groups :=
      hperm.mem_iff.mpr (mem_groupCounts.mpr ⟨rfl, h⟩)
    have hnodup : (groups.map Prod.fst).Nodup :=
      (hperm.map Prod.fst).nodup_iff.mpr (nodup_groupCounts pairs)
    rw [lookup_eq_some hnodup hrow]
    rfl
  · have hnone : ∀ n, (label, n) ∉ groups := fun n hn =>
      h (mem_groupCounts.mp (hperm.mem_iff.mp hn)).2
    have hlookup : groups.lookup label = none := by
      refine List.lookup_eq_none_iff.mpr fun row hrow => bne_iff_ne.mpr fun heq => ?_
      exact hnone row.2 (heq ▸ hrow)
    rw [hlookup, countDistinct_eq_zero fun id hid => h ⟨id, hid⟩]
    rfl

/-- The distinct ids of a group are those of any list that has each of them once. -/
theorem countDistinct_eq {pairs : List (κ × ι)} {label : κ} {ids : List ι} (hids : ids.Nodup)
    (h : ∀ id, (label, id) ∈ pairs ↔ id ∈ ids) : countDistinct pairs label = ids.length := by
  unfold countDistinct
  refine List.Perm.length_eq ((List.perm_ext_iff_of_nodup (List.nodup_dedup _) hids).mpr
    fun id => ?_)
  rw [List.mem_dedup, ← h id, List.mem_map]
  constructor
  · rintro ⟨row, hrow, rfl⟩
    obtain ⟨hmem, hlabel⟩ := List.mem_filter.mp hrow
    exact of_decide_eq_true hlabel ▸ hmem
  · exact fun hid => ⟨_, List.mem_filter.mpr ⟨hid, decide_eq_true rfl⟩, rfl⟩

/-! ## §2. Rows with the same keys. -/

/-- **Rows of two tables that have the same keys are as many.** -/
theorem countP_eq_of_same_keys {ρ ρ' κ' : Type*} {key : ρ → κ'} {key' : ρ' → κ'}
    {t : Table key} {u : Table key'} {p : ρ → Bool} {q : ρ' → Bool}
    (h : ∀ k, (∃ r ∈ t, p r = true ∧ key r = k) ↔ ∃ r ∈ u, q r = true ∧ key' r = k) :
    t.rows.countP p = u.rows.countP q := by
  have hkeys : ((t.rows.filter p).map key).Perm ((u.rows.filter q).map key') := by
    refine (List.perm_ext_iff_of_nodup ?_ ?_).mpr fun k => ?_
    · exact (List.filter_sublist.map key).nodup t.nodup
    · exact (List.filter_sublist.map key').nodup u.nodup
    · simp only [List.mem_map, List.mem_filter, and_assoc]
      exact h k
  have hlength := hkeys.length_eq
  rwa [List.length_map, List.length_map, ← List.countP_eq_length_filter,
    ← List.countP_eq_length_filter] at hlength

end Foundation
