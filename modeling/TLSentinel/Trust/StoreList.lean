/-
  TLSentinel.Trust.StoreList
  ──────────────────────────
  **THE STORES THAT THE EVALUATOR HAS POOLS FOR, IN ORDER.**

  `Stores` of `internal/trust/evaluator.go` appends the keys of `rootPools` as `range`
  yields them, which is in any order, and sorts them in place with two loops.  Go compares
  strings by their bytes; for UTF-8 that is the order of the code points.

  Main result: `stores_sorted` — the ids of the stores, each once, strictly ascending,
  whatever the order of the iteration.
-/
import Mathlib.Data.String.Basic
import TLSentinel.Foundation.InsertionSort
import TLSentinel.Trust.Store

namespace TLSentinel.Trust.Evaluator

open Foundation

variable {X : X509}

/-- `range e.rootPools` may yield the keys in this order. -/
structure Yields (e : Evaluator X) (order : List String) : Prop where
  once : order.Nodup
  keys : ∀ id, id ∈ order ↔ ∃ roots, (id, roots) ∈ e.rootPools

/-- `Stores`, for keys in some order; `none` is an index outside the slice. -/
def stores (order : List String) : Option (List String) :=
  InsertionSort.sort (order.foldl (fun out id => out ++ [id]) [])

theorem foldl_concat (order out : List String) :
    order.foldl (fun out id => out ++ [id]) out = out ++ order := by
  induction order generalizing out with
  | nil => rw [List.append_nil]; rfl
  | cons id order ih => rw [List.foldl_cons, ih, List.append_assoc, List.singleton_append]

/-- **The ids of the stores**: whatever the order of the iteration, no index is outside the
slice, none is lost and none repeated, and they ascend strictly. -/
theorem stores_sorted {e : Evaluator X} {order : List String} (h : e.Yields order) :
    ∃ out, stores order = some out ∧ out.Perm order ∧ out.Pairwise (· < ·) ∧
      ∀ id, id ∈ out ↔ ∃ roots, (id, roots) ∈ e.rootPools := by
  obtain ⟨out, hout, hperm, hpair⟩ := InsertionSort.sort_strict h.once
  refine ⟨out, ?_, hperm, hpair, fun id => hperm.mem_iff.trans (h.keys id)⟩
  rw [stores, foldl_concat, List.nil_append, hout]

/-- Two iterations give the same list. -/
theorem stores_eq_of_yields {e : Evaluator X} {order order' : List String} (h : e.Yields order)
    (h' : e.Yields order') : stores order = stores order' := by
  have hsame : order.Perm order' :=
    (List.perm_ext_iff_of_nodup h.once h'.once).mpr fun id => (h.keys id).trans (h'.keys id).symm
  obtain ⟨out, hout, hperm, hpair⟩ := InsertionSort.sort_strict h.once
  obtain ⟨out', hout', hperm', hpair'⟩ := InsertionSort.sort_strict h'.once
  have heq : out = out' :=
    (hperm.trans (hsame.trans hperm'.symm)).eq_of_pairwise
      (fun _ _ _ _ hlt hgt => absurd hgt (not_lt.mpr (le_of_lt hlt))) hpair hpair'
  rw [stores, stores, foldl_concat, foldl_concat, List.nil_append, List.nil_append, hout, hout',
    heq]

/-- Three stores, yielded out of order. -/
theorem stores_three : ∃ out, stores ["mozilla", "apple", "microsoft"] = some out ∧
    out.Perm ["mozilla", "apple", "microsoft"] ∧ out.Pairwise (· < ·) ∧
      ∀ id, id ∈ out ↔ ∃ roots, (id, roots) ∈
        (⟨[("apple", []), ("microsoft", []), ("mozilla", [])], []⟩ :
          Evaluator samplePKI).rootPools :=
  stores_sorted
    { once := by decide
      keys := by
        intro id
        simp only [List.mem_cons, List.not_mem_nil, or_false, Prod.mk.injEq]
        constructor
        · rintro (rfl | rfl | rfl)
          · exact ⟨[], by simp⟩
          · exact ⟨[], by simp⟩
          · exact ⟨[], by simp⟩
        · rintro ⟨roots, ⟨rfl, -⟩ | ⟨rfl, -⟩ | ⟨rfl, -⟩⟩
          · exact Or.inr (Or.inl rfl)
          · exact Or.inr (Or.inr rfl)
          · exact Or.inl rfl }

end TLSentinel.Trust.Evaluator
