/-
  Foundation.Tables
  ─────────────────
  **TABLES WITH A PRIMARY KEY.**

  A table is the list of its rows together with the proof that no two rows share
  a key, so the key constraint of the database cannot be broken by construction:
  `insert` refuses a duplicate key, `update` only takes row functions that leave
  the key alone, `delete` and `update` range over all rows that satisfy a WHERE
  clause, exactly as the SQL statements they stand for.

  The list order is the storage order.  A query without ORDER BY may return the
  rows in any order; who needs that says so with `List.Perm`.
-/
import Mathlib.Data.List.Nodup
import Mathlib.Data.List.Perm.Basic

namespace Foundation

/-- Rows `ρ` under a primary key. -/
structure Table {ρ κ : Type*} (key : ρ → κ) where
  /-- The stored rows. -/
  rows : List ρ
  /-- The primary-key constraint. -/
  nodup : (rows.map key).Nodup

namespace Table

variable {ρ κ : Type*} {key : ρ → κ}

instance : Membership ρ (Table key) := ⟨fun t r => r ∈ t.rows⟩

theorem mem_def {t : Table key} {r : ρ} : r ∈ t ↔ r ∈ t.rows := Iff.rfl

@[ext] theorem ext {t u : Table key} (h : t.rows = u.rows) : t = u := by
  cases t
  cases u
  simpa using h

instance [DecidableEq ρ] : DecidableEq (Table key) := fun t u =>
  decidable_of_iff (t.rows = u.rows) ⟨ext, congrArg rows⟩

instance [DecidableEq ρ] (r : ρ) (t : Table key) : Decidable (r ∈ t) :=
  inferInstanceAs (Decidable (r ∈ t.rows))

instance (t : Table key) (p : ρ → Prop) [DecidablePred p] : Decidable (∀ r ∈ t, p r) :=
  inferInstanceAs (Decidable (∀ r ∈ t.rows, p r))

instance (t : Table key) (p : ρ → Prop) [DecidablePred p] : Decidable (∃ r ∈ t, p r) :=
  inferInstanceAs (Decidable (∃ r ∈ t.rows, p r))

/-! ## §1. Statements. -/

/-- The table without rows. -/
def empty : Table key := ⟨[], List.nodup_nil⟩

/-- `SELECT ... WHERE key = k`. -/
def find? [DecidableEq κ] (t : Table key) (k : κ) : Option ρ :=
  t.rows.find? (fun r => key r = k)

/-- `DELETE ... WHERE p`. -/
def delete (t : Table key) (p : ρ → Bool) : Table key :=
  ⟨t.rows.filter (fun r => !p r), (List.filter_sublist.map key).nodup t.nodup⟩

/-- `UPDATE ... SET f WHERE p`, for a row function that keeps the key. -/
def update (t : Table key) (p : ρ → Bool) (f : ρ → ρ) (hf : ∀ r, key (f r) = key r) :
    Table key :=
  ⟨t.rows.map (fun r => if p r then f r else r), by
    rw [List.map_map]
    have hkey : key ∘ (fun r => if p r then f r else r) = key := by
      funext r
      by_cases h : p r <;> simp [h, hf]
    rw [hkey]
    exact t.nodup⟩

/-- `INSERT`, refused when the key is taken. -/
def insert [DecidableEq κ] (t : Table key) (r : ρ) : Option (Table key) :=
  if h : key r ∈ t.rows.map key then none
  else some ⟨t.rows ++ [r], by
    rw [List.map_append, List.nodup_append]
    refine ⟨t.nodup, by simp, ?_⟩
    intro a ha b hb hab
    simp only [List.map_cons, List.map_nil, List.mem_singleton] at hb
    exact h (hb ▸ hab ▸ ha)⟩

/-- `INSERT ... ON CONFLICT (key) DO UPDATE SET` every other column. -/
def upsert [DecidableEq κ] (t : Table key) (r : ρ) : Table key :=
  ⟨t.rows.filter (fun s => decide (key s ≠ key r)) ++ [r], by
    rw [List.map_append, List.nodup_append]
    refine ⟨(List.filter_sublist.map key).nodup t.nodup, by simp, ?_⟩
    intro a ha b hb hab
    obtain ⟨s, hs, rfl⟩ := List.mem_map.mp ha
    simp only [List.map_cons, List.map_nil, List.mem_singleton] at hb
    have hne := (List.mem_filter.mp hs).2
    simp [hab, hb] at hne⟩

/-- Fewer columns under the same key. -/
def project {ρ' : Type*} {key' : ρ' → κ} (t : Table key) (f : ρ → ρ')
    (hf : ∀ r, key' (f r) = key r) : Table key' :=
  ⟨t.rows.map f, by
    rw [List.map_map]
    have hkey : key' ∘ f = key := funext hf
    rw [hkey]
    exact t.nodup⟩

/-- `SELECT f ... WHERE` there is a result: rows that keep the key keep the constraint. -/
def select {ρ' : Type*} {key' : ρ' → κ} (t : Table key) (f : ρ → Option ρ')
    (hf : ∀ r r', f r = some r' → key' r' = key r) : Table key' :=
  ⟨t.rows.filterMap f, by
    have hkeys : ((t.rows.filterMap f).map key').Sublist (t.rows.map key) := by
      induction t.rows with
      | nil => exact List.Sublist.refl _
      | cons r rows ih =>
          cases hr : f r with
          | none =>
              rw [List.filterMap_cons_none hr, List.map_cons]
              exact ih.cons _
          | some r' =>
              rw [List.filterMap_cons_some hr, List.map_cons, List.map_cons, hf r r' hr]
              exact ih.cons_cons _
    exact hkeys.nodup t.nodup⟩

/-- How many rows an UPDATE or DELETE with this WHERE clause affects. -/
def rowsAffected (t : Table key) (p : ρ → Bool) : Nat := t.rows.countP p

/-! ## §2. Which rows a statement leaves. -/

@[simp] theorem not_mem_empty (r : ρ) : r ∉ (empty : Table key) := List.not_mem_nil

/-- A table without rows has every property of rows. -/
theorem forall_mem_empty {P : ρ → Prop} : ∀ r ∈ (empty : Table key), P r :=
  fun r h => absurd h (not_mem_empty r)

@[simp] theorem mem_delete {t : Table key} {p : ρ → Bool} {r : ρ} :
    r ∈ t.delete p ↔ r ∈ t ∧ p r = false := by
  simp [mem_def, delete, List.mem_filter]

/-- A statement affects no row exactly if its WHERE clause holds of none. -/
theorem rowsAffected_eq_zero_iff {t : Table key} {p : ρ → Bool} :
    t.rowsAffected p = 0 ↔ ∀ r ∈ t, p r = false := by
  unfold rowsAffected
  rw [List.countP_eq_zero]
  exact forall₂_congr fun _ _ => Bool.not_eq_true _ ▸ Iff.rfl

/-- A WHERE clause on the key affects a row exactly if the key is stored. -/
theorem rowsAffected_key_ne_zero_iff [DecidableEq κ] {t : Table key} {k : κ} :
    t.rowsAffected (fun r => decide (key r = k)) ≠ 0 ↔ ∃ r ∈ t, key r = k := by
  unfold rowsAffected
  rw [← Nat.pos_iff_ne_zero, List.countP_pos_iff]
  simp [mem_def]

theorem mem_update {t : Table key} {p : ρ → Bool} {f : ρ → ρ}
    {hf : ∀ r, key (f r) = key r} {r : ρ} :
    r ∈ t.update p f hf ↔ ∃ s ∈ t, (if p s then f s else s) = r := by
  simp [mem_def, update, List.mem_map]

/-- The image of a stored row is stored after the update. -/
theorem update_mem {t : Table key} {p : ρ → Bool} {f : ρ → ρ}
    {hf : ∀ r, key (f r) = key r} {s : ρ} (hs : s ∈ t) :
    (if p s then f s else s) ∈ t.update p f hf :=
  mem_update.mpr ⟨s, hs, rfl⟩

theorem update_mem_of_pos {t : Table key} {p : ρ → Bool} {f : ρ → ρ}
    {hf : ∀ r, key (f r) = key r} {s : ρ} (hs : s ∈ t) (hp : p s = true) :
    f s ∈ t.update p f hf :=
  mem_update.mpr ⟨s, hs, if_pos hp⟩

theorem update_mem_of_neg {t : Table key} {p : ρ → Bool} {f : ρ → ρ}
    {hf : ∀ r, key (f r) = key r} {s : ρ} (hs : s ∈ t) (hp : p s = false) :
    s ∈ t.update p f hf :=
  mem_update.mpr ⟨s, hs, if_neg (by simp [hp])⟩

/-- What holds of every row after an update. -/
theorem forall_mem_update {t : Table key} {p : ρ → Bool} {f : ρ → ρ}
    {hf : ∀ r, key (f r) = key r} {P : ρ → Prop} :
    (∀ r ∈ t.update p f hf, P r) ↔ ∀ s ∈ t, P (if p s then f s else s) := by
  constructor
  · intro h s hs
    exact h _ (update_mem hs)
  · intro h r hr
    obtain ⟨s, hs, rfl⟩ := mem_update.mp hr
    exact h s hs

/-- What holds of some row after an update. -/
theorem exists_mem_update {t : Table key} {p : ρ → Bool} {f : ρ → ρ}
    {hf : ∀ r, key (f r) = key r} {P : ρ → Prop} :
    (∃ r ∈ t.update p f hf, P r) ↔ ∃ s ∈ t, P (if p s then f s else s) := by
  constructor
  · intro h
    obtain ⟨r, hr, hP⟩ := h
    obtain ⟨s, hs, rfl⟩ := mem_update.mp hr
    exact ⟨s, hs, hP⟩
  · intro h
    obtain ⟨s, hs, hP⟩ := h
    exact ⟨_, update_mem hs, hP⟩

theorem mem_project {ρ' : Type*} {key' : ρ' → κ} {t : Table key} {f : ρ → ρ'}
    {hf : ∀ r, key' (f r) = key r} {r' : ρ'} :
    r' ∈ (t.project f hf : Table key') ↔ ∃ r ∈ t, f r = r' := by
  simp [mem_def, project, List.mem_map]

theorem mem_select {ρ' : Type*} {key' : ρ' → κ} {t : Table key} {f : ρ → Option ρ'}
    {hf : ∀ r r', f r = some r' → key' r' = key r} {r' : ρ'} :
    r' ∈ (t.select f hf : Table key') ↔ ∃ r ∈ t, f r = some r' := by
  simp [mem_def, select, List.mem_filterMap]

/-- No row is stored twice. -/
theorem rows_nodup (t : Table key) : t.rows.Nodup := t.nodup.of_map key

theorem mem_insert [DecidableEq κ] {t u : Table key} {r : ρ} (h : t.insert r = some u)
    {s : ρ} : s ∈ u ↔ s ∈ t ∨ s = r := by
  unfold insert at h
  split at h
  · exact absurd h (by simp)
  · injection h with h
    subst h
    simp [mem_def]

/-- The new row is stored last. -/
theorem insert_rows [DecidableEq κ] {t u : Table key} {r : ρ} (h : t.insert r = some u) :
    u.rows = t.rows ++ [r] := by
  unfold insert at h
  split at h
  · exact absurd h (by simp)
  · injection h with h
    exact h ▸ rfl

/-- An update that leaves alone what satisfies `q`, and makes nothing else satisfy it. -/
theorem filter_update {t : Table key} {p q : ρ → Bool} {f : ρ → ρ}
    (hf : ∀ r, key (f r) = key r) (hq : ∀ r ∈ t, p r = true → q r = false ∧ q (f r) = false) :
    (t.update p f hf).rows.filter q = t.rows.filter q := by
  show (t.rows.map (fun r => if p r then f r else r)).filter q = _
  rw [List.filter_map]
  have hfilter : t.rows.filter (q ∘ fun r => if p r then f r else r) = t.rows.filter q := by
    refine List.filter_congr fun r hr => ?_
    by_cases hp : p r = true
    · simp [hp, hq r hr hp]
    · simp [hp]
  rw [hfilter]
  conv_rhs => rw [← List.map_id (t.rows.filter q)]
  refine List.map_congr_left fun r hr => ?_
  obtain ⟨hr, hqr⟩ := List.mem_filter.mp hr
  have hp : ¬ p r = true := fun hp => by simp [hq r hr hp] at hqr
  simp [hp]

/-- A DELETE that spares what satisfies `q`. -/
theorem filter_delete {t : Table key} {p q : ρ → Bool} (hq : ∀ r ∈ t, p r = true → q r = false) :
    (t.delete p).rows.filter q = t.rows.filter q := by
  show (t.rows.filter _).filter q = _
  rw [List.filter_filter]
  refine List.filter_congr fun r hr => ?_
  by_cases hp : p r = true
  · simp [hp, hq r hr hp]
  · simp [hp]

/-- An insert of a row that does not satisfy `q`. -/
theorem filter_insert [DecidableEq κ] {t u : Table key} {r : ρ} {q : ρ → Bool}
    (h : t.insert r = some u) (hr : q r = false) : u.rows.filter q = t.rows.filter q := by
  rw [insert_rows h, List.filter_append]
  simp [hr]

/-- An insert is refused exactly when the key is taken. -/
theorem insert_eq_none_iff [DecidableEq κ] {t : Table key} {r : ρ} :
    t.insert r = none ↔ ∃ s ∈ t, key s = key r := by
  unfold insert
  split
  · next hk =>
      obtain ⟨s, hs, hsr⟩ := List.mem_map.mp hk
      exact ⟨fun _ => ⟨s, hs, hsr⟩, fun _ => rfl⟩
  · next hk =>
      refine ⟨fun h => absurd h (by simp), ?_⟩
      intro h
      obtain ⟨s, hs, hsr⟩ := h
      exact absurd (hsr ▸ List.mem_map_of_mem hs) hk

/-- After an upsert its row is stored, and every row with another key. -/
theorem mem_upsert [DecidableEq κ] {t : Table key} {r s : ρ} :
    s ∈ t.upsert r ↔ (s ∈ t ∧ key s ≠ key r) ∨ s = r := by
  simp [mem_def, upsert, List.mem_filter]

/-- An accepted insert had a new key. -/
theorem key_ne_of_insert [DecidableEq κ] {t u : Table key} {r : ρ}
    (h : t.insert r = some u) {s : ρ} (hs : s ∈ t) : key s ≠ key r := by
  unfold insert at h
  split at h
  · exact absurd h (by simp)
  · next hk =>
      intro he
      exact hk (he ▸ List.mem_map_of_mem hs)

/-- An update whose WHERE clause matches nothing changes nothing. -/
theorem update_eq_self {t : Table key} {p : ρ → Bool} {f : ρ → ρ}
    (hf : ∀ r, key (f r) = key r) (h : ∀ r ∈ t, p r = false) : t.update p f hf = t := by
  apply ext
  show t.rows.map (fun r => if p r then f r else r) = t.rows
  conv_rhs => rw [← List.map_id t.rows]
  apply List.map_congr_left
  intro r hr
  simp [h r hr]

/-! ## §3. Lookups. -/

/-- **The key identifies the row.** -/
theorem eq_of_key {t : Table key} {r s : ρ} (hr : r ∈ t) (hs : s ∈ t)
    (h : key r = key s) : r = s :=
  List.inj_on_of_nodup_map t.nodup hr hs h

theorem find?_eq_some_iff [DecidableEq κ] {t : Table key} {k : κ} {r : ρ} :
    t.find? k = some r ↔ r ∈ t ∧ key r = k := by
  constructor
  · intro h
    exact ⟨List.mem_of_find?_eq_some h, by simpa using List.find?_some h⟩
  · intro h
    obtain ⟨hr, hk⟩ := h
    cases hf : t.find? k with
    | none =>
        have := List.find?_eq_none.mp hf r hr
        simp [hk] at this
    | some s =>
        have hs : s ∈ t := List.mem_of_find?_eq_some hf
        have hsk : key s = k := by simpa using List.find?_some hf
        rw [eq_of_key hs hr (hsk.trans hk.symm)]

theorem find?_eq_none_iff [DecidableEq κ] {t : Table key} {k : κ} :
    t.find? k = none ↔ ∀ r ∈ t, key r ≠ k := by
  simp [find?, mem_def, List.find?_eq_none]

theorem mem_of_find? [DecidableEq κ] {t : Table key} {k : κ} {r : ρ}
    (h : t.find? k = some r) : r ∈ t :=
  (find?_eq_some_iff.mp h).1

theorem key_of_find? [DecidableEq κ] {t : Table key} {k : κ} {r : ρ}
    (h : t.find? k = some r) : key r = k :=
  (find?_eq_some_iff.mp h).2

/-- A lookup depends on the rows with its key alone. -/
theorem find?_congr [DecidableEq κ] {t u : Table key} {k : κ}
    (h : ∀ r, key r = k → (r ∈ t ↔ r ∈ u)) : t.find? k = u.find? k := by
  apply Option.ext
  intro r
  rw [find?_eq_some_iff, find?_eq_some_iff]
  exact and_congr_left (h r)

/-- A lookup after an insert finds the new row or an old one. -/
theorem find?_insert [DecidableEq κ] {t u : Table key} {r : ρ} (h : t.insert r = some u)
    (k : κ) : u.find? k = if key r = k then some r else t.find? k := by
  by_cases hk : key r = k
  · rw [if_pos hk, find?_eq_some_iff]
    exact ⟨(mem_insert h).mpr (.inr rfl), hk⟩
  · rw [if_neg hk]
    cases hf : t.find? k with
    | none =>
        rw [find?_eq_none_iff] at hf ⊢
        intro s hs
        rcases (mem_insert h).mp hs with hs | rfl
        · exact hf s hs
        · exact hk
    | some s =>
        rw [find?_eq_some_iff] at hf ⊢
        exact ⟨(mem_insert h).mpr (.inl hf.1), hf.2⟩

/-- A lookup after an upsert finds its row, or an old one. -/
theorem find?_upsert [DecidableEq κ] (t : Table key) (r : ρ) (k : κ) :
    (t.upsert r).find? k = if key r = k then some r else t.find? k := by
  by_cases hk : key r = k
  · rw [if_pos hk, find?_eq_some_iff]
    exact ⟨mem_upsert.mpr (.inr rfl), hk⟩
  · rw [if_neg hk]
    cases hf : t.find? k with
    | none =>
        rw [find?_eq_none_iff] at hf ⊢
        intro s hs
        rcases mem_upsert.mp hs with ⟨hs, _⟩ | rfl
        · exact hf s hs
        · exact hk
    | some s =>
        rw [find?_eq_some_iff] at hf ⊢
        obtain ⟨hs, hsk⟩ := hf
        exact ⟨mem_upsert.mpr (.inl ⟨hs, fun heq => hk (heq.symm.trans hsk)⟩), hsk⟩

/-- A lookup after a DELETE by key. -/
theorem find?_delete_key [DecidableEq κ] (t : Table key) (k k' : κ) :
    (t.delete (fun r => decide (key r = k))).find? k' = if k' = k then none else t.find? k' := by
  by_cases hk : k' = k
  · rw [if_pos hk, find?_eq_none_iff]
    intro s hs hsk
    rw [mem_delete] at hs
    simp [hsk, hk] at hs
  · rw [if_neg hk]
    cases hf : t.find? k' with
    | none =>
        rw [find?_eq_none_iff] at hf ⊢
        intro s hs
        exact hf s (mem_delete.mp hs).1
    | some s =>
        rw [find?_eq_some_iff] at hf ⊢
        obtain ⟨hs, hsk⟩ := hf
        exact ⟨mem_delete.mpr ⟨hs, by simp [hsk, hk]⟩, hsk⟩

/-- A lookup after an update finds the updated row. -/
theorem find?_update [DecidableEq κ] (t : Table key) (p : ρ → Bool) (f : ρ → ρ)
    (hf : ∀ r, key (f r) = key r) (k : κ) :
    (t.update p f hf).find? k = (t.find? k).map (fun r => if p r then f r else r) := by
  cases h : t.find? k with
  | none =>
      rw [Option.map_none, find?_eq_none_iff, forall_mem_update]
      intro s hs
      have hk : key s ≠ k := find?_eq_none_iff.mp h s hs
      by_cases hp : p s <;> simp [hp, hf, hk]
  | some r =>
      obtain ⟨hr, hk⟩ := find?_eq_some_iff.mp h
      rw [Option.map_some, find?_eq_some_iff]
      refine ⟨update_mem hr, ?_⟩
      by_cases hp : p r <;> simp [hp, hf, hk]

/-! ## §4. Several rows at a time. -/

/-- `INSERT` of several rows, refused when a key is taken or given twice. -/
def insertAll [DecidableEq κ] (t : Table key) : List ρ → Option (Table key)
  | [] => some t
  | r :: rs =>
      match t.insert r with
      | none => none
      | some u => u.insertAll rs

theorem mem_insertAll [DecidableEq κ] {rs : List ρ} {s : ρ} :
    ∀ {t u : Table key}, t.insertAll rs = some u → (s ∈ u ↔ s ∈ t ∨ s ∈ rs) := by
  induction rs with
  | nil =>
      intro t u h
      injection h with h
      simp [h]
  | cons r rs ih =>
      intro t u h
      unfold insertAll at h
      split at h
      · cases h
      · next v hins => rw [ih h, mem_insert hins, List.mem_cons, or_assoc]

/-- An insert under a new key is accepted. -/
theorem insert_of_find?_eq_none [DecidableEq κ] {t : Table key} {r : ρ}
    (h : t.find? (key r) = none) : ∃ u, t.insert r = some u := by
  cases hins : t.insert r with
  | some u => exact ⟨u, rfl⟩
  | none =>
      obtain ⟨s, hs, hkey⟩ := insert_eq_none_iff.mp hins
      exact absurd hkey (find?_eq_none_iff.mp h s hs)

/-- **Several inserts are accepted** when their keys are new and different. -/
theorem exists_insertAll [DecidableEq κ] {rs : List ρ} :
    ∀ {t : Table key}, (rs.map key).Nodup → (∀ r ∈ rs, ∀ s ∈ t, key s ≠ key r) →
      ∃ u, t.insertAll rs = some u := by
  induction rs with
  | nil =>
      intro t _ _
      exact ⟨t, rfl⟩
  | cons r rs ih =>
      intro t hnodup hnew
      rw [List.map_cons, List.nodup_cons] at hnodup
      obtain ⟨u, hins⟩ := insert_of_find?_eq_none (t := t) (r := r)
        (find?_eq_none_iff.mpr (hnew r List.mem_cons_self))
      have hrest : ∀ r' ∈ rs, ∀ s ∈ u, key s ≠ key r' := by
        intro r' hr' s hs
        obtain hs | rfl := (mem_insert hins).mp hs
        · exact hnew r' (List.mem_cons_of_mem _ hr') s hs
        · exact fun heq => hnodup.1 (heq ▸ List.mem_map_of_mem hr')
      obtain ⟨v, hv⟩ := ih hnodup.2 hrest
      refine ⟨v, ?_⟩
      unfold insertAll
      rw [hins]
      exact hv

/-- **Counting the rows with one of these keys** counts the keys exactly if all have a row. -/
theorem rowsAffected_mem_eq_length_iff [DecidableEq κ] {t : Table key} {ks : List κ}
    (hks : ks.Nodup) :
    t.rowsAffected (fun r => decide (key r ∈ ks)) = ks.length ↔ ∀ k ∈ ks, ∃ r ∈ t, key r = k := by
  have hcount : t.rowsAffected (fun r => decide (key r ∈ ks)) =
      ((t.rows.map key).filter (· ∈ ks)).length := by
    unfold rowsAffected
    rw [← List.countP_eq_length_filter, List.countP_map]
    rfl
  have hnodup : ((t.rows.map key).filter (· ∈ ks)).Nodup := t.nodup.filter _
  have hsub : (t.rows.map key).filter (· ∈ ks) ⊆ ks := by
    intro k hk
    simpa using (List.mem_filter.mp hk).2
  rw [hcount]
  constructor
  · intro hlen k hk
    -- as many different keys of the list as it has are all of them
    have hperm := (List.subperm_of_subset hnodup hsub).perm_of_length_le (Nat.le_of_eq hlen.symm)
    obtain ⟨r, hr, hkey⟩ := List.mem_map.mp (List.mem_filter.mp (hperm.mem_iff.mpr hk)).1
    exact ⟨r, hr, hkey⟩
  · intro hall
    have hsup : ks ⊆ (t.rows.map key).filter (· ∈ ks) := by
      intro k hk
      obtain ⟨r, hr, hkey⟩ := hall k hk
      exact List.mem_filter.mpr ⟨hkey ▸ List.mem_map_of_mem hr, by simpa using hk⟩
    exact Nat.le_antisymm (List.subperm_of_subset hnodup hsub).length_le
      (List.subperm_of_subset hks hsup).length_le

end Table

end Foundation
