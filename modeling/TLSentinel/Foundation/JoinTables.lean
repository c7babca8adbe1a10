/-
  Foundation.JoinTables
  ─────────────────────
  **ROWS THAT ARE REPLACED AS A SET, AND ROWS THAT ARE INSERTED UNLESS THERE.**

  Two statements over a table with a primary key that go beyond one row:

      DELETE ... WHERE p;  INSERT of the rows rs        (`Table.replace`)
      INSERT of the rows rs ... ON CONFLICT DO NOTHING  (`Table.insertNew`)

  The first is refused when two of the new rows share a key, and only then, if `p`
  is a condition on the key that the new rows meet.  The second is never refused:
  of the rows with a key, the first one stays.

  In a join table the key is the whole row (`KeyIsRow`), so that both come down to
  operations on sets.
-/
import TLSentinel.Foundation.Tables

namespace Foundation.Table

variable {ρ κ : Type*} {key : ρ → κ} [DecidableEq κ]

/-! ## §1. Replacing rows. -/

/-- DELETE of the rows with `p`, and INSERT of others. -/
def replace (t : Table key) (p : ρ → Bool) (rs : List ρ) : Option (Table key) :=
  (t.delete p).insertAll rs

/-- The rows after it. -/
theorem mem_replace {t u : Table key} {p : ρ → Bool} {rs : List ρ}
    (h : t.replace p rs = some u) {r : ρ} : r ∈ u ↔ (r ∈ t ∧ p r = false) ∨ r ∈ rs := by
  rw [mem_insertAll h, mem_delete]

/-- Rows that are inserted one after the other have different keys. -/
theorem nodup_of_insertAll {rs : List ρ} :
    ∀ {t u : Table key}, t.insertAll rs = some u →
      (rs.map key).Nodup ∧ ∀ r ∈ rs, ∀ s ∈ t, key s ≠ key r := by
  induction rs with
  | nil =>
      intro t u _
      exact ⟨List.nodup_nil, fun r hr => absurd hr List.not_mem_nil⟩
  | cons r rs ih =>
      intro t u h
      unfold insertAll at h
      split at h
      · cases h
      · next v hins =>
          obtain ⟨hnodup, hnew⟩ := ih h
          have hr : r ∈ v := (mem_insert hins).mpr (Or.inr rfl)
          refine ⟨?_, ?_⟩
          · rw [List.map_cons, List.nodup_cons]
            refine ⟨fun hmem => ?_, hnodup⟩
            obtain ⟨r', hr', hkey⟩ := List.mem_map.mp hmem
            exact hnew r' hr' r hr hkey.symm
          · intro r' hr' s hs
            obtain rfl | hr' := List.mem_cons.mp hr'
            · exact key_ne_of_insert hins hs
            · exact hnew r' hr' s ((mem_insert hins).mpr (Or.inl hs))

/-- **A replacement is refused** exactly if two of the new rows share a key. -/
theorem replace_isSome_iff {t : Table key} {p : ρ → Bool} {rs : List ρ}
    (hp : ∀ r s, key r = key s → p r = p s) (hrs : ∀ r ∈ rs, p r = true) :
    (∃ u, t.replace p rs = some u) ↔ (rs.map key).Nodup := by
  constructor
  · rintro ⟨u, h⟩
    exact (nodup_of_insertAll h).1
  · intro hnodup
    refine exists_insertAll hnodup fun r hr s hs hkey => ?_
    -- a row that was not deleted has none of the new keys
    obtain ⟨-, hnot⟩ := mem_delete.mp hs
    rw [hp s r hkey, hrs r hr] at hnot
    cases hnot

/-! ## §2. Inserting unless there. -/

/-- INSERT ... ON CONFLICT DO NOTHING. -/
def insertNew (t : Table key) (r : ρ) : Table key := (t.insert r).getD t

/-- The same for several rows of one statement. -/
def insertNewAll (t : Table key) (rs : List ρ) : Table key := rs.foldl insertNew t

/-- **The first row with a key stays.** -/
theorem find?_insertNew (t : Table key) (r : ρ) (k : κ) :
    (t.insertNew r).find? k = (t.find? k).or (if key r = k then some r else none) := by
  unfold insertNew
  cases hins : t.insert r with
  | none =>
      obtain ⟨s, hs, hkey⟩ := insert_eq_none_iff.mp hins
      by_cases hk : key r = k
      · rw [find?_eq_some_iff.mpr ⟨hs, hkey.trans hk⟩] at *
        simp [find?_eq_some_iff.mpr ⟨hs, hkey.trans hk⟩]
      · simp [hk]
  | some u =>
      rw [Option.getD_some, find?_insert hins]
      by_cases hk : key r = k
      · have hnone : t.find? k = none :=
          find?_eq_none_iff.mpr fun s hs hsk => key_ne_of_insert hins hs (hsk.trans hk.symm)
        simp [hk, hnone]
      · simp [hk]

theorem mem_insertNew_of_mem {t : Table key} {r s : ρ} (hs : s ∈ t) : s ∈ t.insertNew r := by
  unfold insertNew
  cases hins : t.insert r with
  | none => exact hs
  | some u => exact (mem_insert hins).mpr (Or.inl hs)

/-- What is there was there before, or is the new row. -/
theorem mem_of_mem_insertNew {t : Table key} {r s : ρ} (hs : s ∈ t.insertNew r) :
    s ∈ t ∨ s = r := by
  unfold insertNew at hs
  cases hins : t.insert r with
  | none =>
      rw [hins] at hs
      exact Or.inl hs
  | some u =>
      rw [hins] at hs
      exact (mem_insert hins).mp hs

/-- The key determines the row, as in a join table. -/
def KeyIsRow (key : ρ → κ) : Prop := ∀ r s, key r = key s → r = s

/-- **In a join table an insert adds its row to the set.** -/
theorem mem_insertNew {t : Table key} (hkey : KeyIsRow key) {r s : ρ} :
    s ∈ t.insertNew r ↔ s ∈ t ∨ s = r := by
  refine ⟨mem_of_mem_insertNew, ?_⟩
  rintro (hs | rfl)
  · exact mem_insertNew_of_mem hs
  · unfold insertNew
    cases hins : t.insert s with
    | none =>
        obtain ⟨s', hs', heq⟩ := insert_eq_none_iff.mp hins
        exact hkey s' s heq ▸ hs'
    | some u => exact (mem_insert hins).mpr (Or.inr rfl)

theorem mem_insertNewAll (hkey : KeyIsRow key) {rs : List ρ} {s : ρ} :
    ∀ {t : Table key}, s ∈ t.insertNewAll rs ↔ s ∈ t ∨ s ∈ rs := by
  induction rs with
  | nil =>
      intro t
      simp [insertNewAll]
  | cons r rs ih =>
      intro t
      show s ∈ (t.insertNew r).insertNewAll rs ↔ _
      rw [ih, mem_insertNew hkey, List.mem_cons, or_assoc]

/-- **Of the rows with a key the first one is kept**, an old one before the new ones. -/
theorem find?_insertNewAll (rs : List ρ) (k : κ) :
    ∀ t : Table key, (t.insertNewAll rs).find? k =
      (t.find? k).or (rs.find? fun r => decide (key r = k)) := by
  induction rs with
  | nil =>
      intro t
      simp [insertNewAll]
  | cons r rs ih =>
      intro t
      show ((t.insertNew r).insertNewAll rs).find? k = _
      rw [ih, find?_insertNew, Option.or_assoc]
      by_cases hk : key r = k
      · simp [hk]
      · simp [hk]

end Foundation.Table
