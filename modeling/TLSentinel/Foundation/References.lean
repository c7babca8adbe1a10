/-
  Foundation.References
  ─────────────────────
  **FOREIGN KEYS, AND WHAT BECOMES OF THEM WHEN A ROW IS DELETED.**

  A foreign key is a column of the child rows, NULL or the key of a parent row that is
  stored (`References`).  When the parent with key `k` is deleted, the children that
  refer to it go with it (ON DELETE CASCADE, `Table.cascade`), or the statement is
  refused while there are any (NO ACTION, `references_deleteKey_iff`).

  After a DELETE that is accepted nothing refers to the key
  (`References.not_refersTo`).
-/
import TLSentinel.Foundation.Tables

namespace Foundation

variable {π κ ρ κ' : Type*} {key : π → κ} {key' : ρ → κ'} {col : ρ → Option κ}

/-- What the column points to is stored. -/
def References (parents : Table key) (col : ρ → Option κ) (children : List ρ) : Prop :=
  ∀ r ∈ children, ∀ k, col r = some k → ∃ p ∈ parents, key p = k

/-- Fewer children refer to no more. -/
theorem References.of_subset {parents : Table key} {children children' : List ρ}
    (h : References parents col children) (hsub : children' ⊆ children) :
    References parents col children' :=
  fun r hr => h r (hsub hr)

variable [DecidableEq κ]

instance (parents : Table key) (col : ρ → Option κ) (children : List ρ) :
    Decidable (References parents col children) :=
  decidable_of_iff (∀ r ∈ children, (col r).all (fun k => (parents.find? k).isSome) = true) <| by
    refine forall₂_congr fun r _ => ?_
    rw [Option.all_eq_true_iff_get]
    constructor
    · intro h k hk
      obtain ⟨p, hp⟩ := Option.isSome_iff_exists.mp (h (by simp [hk]))
      obtain ⟨hmem, hkey⟩ := Table.find?_eq_some_iff.mp hp
      exact ⟨p, hmem, hkey.trans (by simp [hk])⟩
    · intro h hsome
      obtain ⟨p, hp, hkey⟩ := h _ (Option.some_get hsome).symm
      exact Option.isSome_iff_exists.mpr ⟨p, Table.find?_eq_some_iff.mpr ⟨hp, hkey⟩⟩

/-- The row refers to the key. -/
def refersTo (col : ρ → Option κ) (k : κ) (r : ρ) : Bool := decide (col r = some k)

theorem refersTo_eq_false_iff {k : κ} {r : ρ} : refersTo col k r = false ↔ col r ≠ some k :=
  decide_eq_false_iff_not

/-- `DELETE ... WHERE key = k`. -/
def Table.deleteKey (t : Table key) (k : κ) : Table key := t.delete fun p => decide (key p = k)

theorem Table.mem_deleteKey {t : Table key} {k : κ} {p : π} :
    p ∈ t.deleteKey k ↔ p ∈ t ∧ key p ≠ k := by
  unfold Table.deleteKey
  rw [Table.mem_delete, decide_eq_false_iff_not]

/-- The children that refer to the key are deleted. -/
def Table.cascade (t : Table key') (col : ρ → Option κ) (k : κ) : Table key' :=
  t.delete (refersTo col k)

theorem Table.mem_cascade {t : Table key'} {k : κ} {r : ρ} :
    r ∈ t.cascade col k ↔ r ∈ t ∧ col r ≠ some k := by
  unfold Table.cascade
  rw [Table.mem_delete, refersTo_eq_false_iff]

/-- Nothing refers to a key that is gone. -/
theorem References.not_refersTo {parents : Table key} {children : List ρ} {k : κ}
    (h : References (parents.deleteKey k) col children) : ∀ r ∈ children, col r ≠ some k := by
  intro r hr hk
  obtain ⟨p, hp, hkey⟩ := h r hr k hk
  exact (Table.mem_deleteKey.mp hp).2 hkey

/-- **NO ACTION**: the row can go exactly if nothing refers to it. -/
theorem references_deleteKey_iff {parents : Table key} {children : List ρ} {k : κ}
    (h : References parents col children) :
    References (parents.deleteKey k) col children ↔ ∀ r ∈ children, col r ≠ some k := by
  refine ⟨References.not_refersTo, fun hnone r hr j hj => ?_⟩
  obtain ⟨p, hp, hkey⟩ := h r hr j hj
  refine ⟨p, Table.mem_deleteKey.mpr ⟨hp, fun hpk => ?_⟩, hkey⟩
  exact hnone r hr (hj.trans (congrArg some (hkey.symm.trans hpk)))

/-- **ON DELETE CASCADE**: the row can go with the rows that refer to it. -/
theorem References.cascade {parents : Table key} {t : Table key'} (k : κ)
    (h : References parents col t.rows) :
    References (parents.deleteKey k) col (t.cascade col k).rows := by
  have hkept : References parents col (t.cascade col k).rows :=
    h.of_subset fun r hr => (Table.mem_cascade.mp hr).1
  exact (references_deleteKey_iff hkept).mpr fun r hr => (Table.mem_cascade.mp hr).2

end Foundation
