/-
  Foundation.UniqueColumn
  ───────────────────────
  **TABLES WITH A PRIMARY KEY AND ONE MORE UNIQUE COLUMN.**

  A lookup by the unique column (`lookup`) is answered by the one row that has
  the value, if there is one (`lookup_eq_some_iff`).
-/
import TLSentinel.Foundation.Tables

namespace Foundation

/-- Rows `ρ` under a primary key and a unique column. -/
structure UniqueTable {ρ κ β : Type*} (key : ρ → κ) (col : ρ → β) where
  table : Table key
  /-- The UNIQUE constraint. -/
  unique : (table.rows.map col).Nodup

namespace UniqueTable

variable {ρ κ β : Type*} {key : ρ → κ} {col : ρ → β}

instance : Membership ρ (UniqueTable key col) := ⟨fun t r => r ∈ t.table⟩

theorem mem_def {t : UniqueTable key col} {r : ρ} : r ∈ t ↔ r ∈ t.table := Iff.rfl

/-! ## §1. Statements. -/

/-- The table without rows. -/
def empty : UniqueTable key col := ⟨Table.empty, List.nodup_nil⟩

/-- `SELECT ... WHERE key = k`. -/
def find? [DecidableEq κ] (t : UniqueTable key col) (k : κ) : Option ρ := t.table.find? k

/-- `SELECT ... WHERE col = v`. -/
def lookup [DecidableEq β] (t : UniqueTable key col) (v : β) : Option ρ :=
  t.table.rows.find? (fun r => col r = v)

/-- `INSERT`, refused when the key or the value is taken. -/
def insert [DecidableEq κ] [DecidableEq β] (t : UniqueTable key col) (r : ρ) :
    Option (UniqueTable key col) :=
  match t.table.insert r with
  | none => none
  | some u => if h : (u.rows.map col).Nodup then some ⟨u, h⟩ else none

/-- `DELETE ... WHERE p`. -/
def delete (t : UniqueTable key col) (p : ρ → Bool) : UniqueTable key col :=
  ⟨t.table.delete p, (List.filter_sublist.map col).nodup t.unique⟩

/-- `UPDATE ... SET f WHERE p`, for a row function that keeps key and column. -/
def modify (t : UniqueTable key col) (p : ρ → Bool) (f : ρ → ρ) (hf : ∀ r, key (f r) = key r)
    (hcol : ∀ r, col (f r) = col r) : UniqueTable key col :=
  ⟨t.table.update p f hf, by
    have hsame : col ∘ (fun r => if p r then f r else r) = col := by
      funext r
      by_cases h : p r <;> simp [h, hcol]
    show ((t.table.rows.map (fun r => if p r then f r else r)).map col).Nodup
    rw [List.map_map, hsame]
    exact t.unique⟩

/-- `UPDATE ... SET f WHERE p`, refused when it would store a value twice. -/
def set [DecidableEq β] (t : UniqueTable key col) (p : ρ → Bool) (f : ρ → ρ)
    (hf : ∀ r, key (f r) = key r) : Option (UniqueTable key col) :=
  if h : ((t.table.update p f hf).rows.map col).Nodup then some ⟨t.table.update p f hf, h⟩
  else none

/-! ## §2. Rows and lookups. -/

/-- **The value identifies the row.** -/
theorem eq_of_col {t : UniqueTable key col} {r s : ρ} (hr : r ∈ t) (hs : s ∈ t)
    (h : col r = col s) : r = s :=
  List.inj_on_of_nodup_map t.unique hr hs h

theorem mem_modify {t : UniqueTable key col} {p : ρ → Bool} {f : ρ → ρ}
    {hf : ∀ r, key (f r) = key r} {hcol : ∀ r, col (f r) = col r} {s : ρ} :
    s ∈ t.modify p f hf hcol ↔ ∃ r ∈ t, (if p r then f r else r) = s := by
  show s ∈ t.table.update p f hf ↔ _
  exact Table.mem_update

theorem mem_delete {t : UniqueTable key col} {p : ρ → Bool} {r : ρ} :
    r ∈ t.delete p ↔ r ∈ t ∧ p r = false := Table.mem_delete

variable [DecidableEq β]

/-- An accepted SET is one of the table. -/
theorem mem_set {t u : UniqueTable key col} {p : ρ → Bool} {f : ρ → ρ}
    {hf : ∀ r, key (f r) = key r} (h : t.set p f hf = some u) {s : ρ} :
    s ∈ u ↔ ∃ r ∈ t, (if p r then f r else r) = s := by
  unfold set at h
  split at h
  · injection h with h
    rw [← h]
    show s ∈ t.table.update p f hf ↔ _
    exact Table.mem_update
  · exact absurd h (by simp)

theorem lookup_eq_some_iff {t : UniqueTable key col} {v : β} {r : ρ} :
    t.lookup v = some r ↔ r ∈ t ∧ col r = v := by
  constructor
  · intro h
    exact ⟨List.mem_of_find?_eq_some h, by simpa using List.find?_some h⟩
  · intro h
    obtain ⟨hr, hv⟩ := h
    cases hf : t.lookup v with
    | none => exact absurd hv (by simpa using List.find?_eq_none.mp hf r hr)
    | some s =>
        have hs : s ∈ t := List.mem_of_find?_eq_some hf
        have hsv : col s = v := by simpa using List.find?_some hf
        rw [eq_of_col hs hr (hsv.trans hv.symm)]

/-- An accepted insert is one into the table. -/
theorem table_insert [DecidableEq κ] {t u : UniqueTable key col} {r : ρ}
    (h : t.insert r = some u) : t.table.insert r = some u.table := by
  unfold insert at h
  split at h
  · exact absurd h (by simp)
  · next v hv =>
      split at h
      · injection h with h
        rw [hv, ← h]
      · exact absurd h (by simp)

theorem mem_insert [DecidableEq κ] {t u : UniqueTable key col} {r : ρ}
    (h : t.insert r = some u) {s : ρ} : s ∈ u ↔ s ∈ t ∨ s = r :=
  Table.mem_insert (table_insert h)

end UniqueTable

end Foundation
