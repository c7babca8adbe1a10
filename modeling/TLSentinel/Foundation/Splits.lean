/-
  Foundation.Splits
  ─────────────────
  **TEXTS CUT AT A SEPARATOR.**

  A text that has a separator is cut at the first one in one way only: what stands
  before it has none.

  Main results:
    * `append_cons_inj` — a cut text determines its two parts;
    * `cut_eq_iff`      — what `cut` answers.
-/
import Mathlib.Data.List.TakeWhile

namespace Foundation.Splits

variable {α : Type*} [DecidableEq α] {c : α} {a a' b b' s : List α}

theorem takeWhile_ne_eq_self (h : c ∉ a) : a.takeWhile (fun d => decide (d ≠ c)) = a := by
  refine List.takeWhile_eq_self_iff.mpr fun d hd => decide_eq_true ?_
  rintro rfl
  exact h hd

theorem dropWhile_ne_eq_nil (h : c ∉ a) : a.dropWhile (fun d => decide (d ≠ c)) = [] := by
  refine List.dropWhile_eq_nil_iff.mpr fun d hd => decide_eq_true ?_
  rintro rfl
  exact h hd

/-- What stands before the first separator. -/
theorem takeWhile_ne_append (h : c ∉ a) :
    (a ++ c :: b).takeWhile (fun d => decide (d ≠ c)) = a := by
  have hkeep : ∀ d ∈ a, decide (d ≠ c) = true := by
    refine fun d hd => decide_eq_true ?_
    rintro rfl
    exact h hd
  rw [List.takeWhile_append_of_pos hkeep, List.takeWhile_cons_of_neg (by simp), List.append_nil]

/-- What is left from the first separator on. -/
theorem dropWhile_ne_append (h : c ∉ a) :
    (a ++ c :: b).dropWhile (fun d => decide (d ≠ c)) = c :: b := by
  have hkeep : ∀ d ∈ a, decide (d ≠ c) = true := by
    refine fun d hd => decide_eq_true ?_
    rintro rfl
    exact h hd
  rw [List.dropWhile_append_of_pos hkeep, List.dropWhile_cons_of_neg (by simp)]

/-- **A cut text determines its two parts.** -/
theorem append_cons_inj (h : c ∉ a) (h' : c ∉ a') (heq : a ++ c :: b = a' ++ c :: b') :
    a = a' ∧ b = b' := by
  have htake := congrArg (List.takeWhile fun d => decide (d ≠ c)) heq
  rw [takeWhile_ne_append h, takeWhile_ne_append h'] at htake
  refine ⟨htake, ?_⟩
  rw [htake, List.append_cancel_left_eq, List.cons.injEq] at heq
  exact heq.2

/-! ## Cutting. -/

/-- What stands before the first separator, and what after it if there is one. -/
def cut (c : α) (s : List α) : List α × Option (List α) :=
  (s.takeWhile fun d => decide (d ≠ c),
    match s.dropWhile fun d => decide (d ≠ c) with
    | [] => none
    | _ :: rest => some rest)

/-- A separator and what stands after it, or nothing. -/
def tail (c : α) : Option (List α) → List α
  | none => []
  | some rest => c :: rest

/-- **What `cut` answers.** -/
theorem cut_eq_iff {o : Option (List α)} : cut c s = (a, o) ↔ c ∉ a ∧ s = a ++ tail c o := by
  constructor
  · intro h
    injection h with ha ho
    have hnot : c ∉ a := by
      rw [← ha]
      intro hmem
      have hne := List.all_eq_true.mp List.all_takeWhile c hmem
      exact of_decide_eq_true hne rfl
    refine ⟨hnot, ?_⟩
    rw [← List.takeWhile_append_dropWhile (p := fun d => decide (d ≠ c)) (l := s), ha, ← ho]
    cases hdrop : s.dropWhile fun d => decide (d ≠ c) with
    | nil => rfl
    | cons d rest =>
        have hhead := List.head?_dropWhile_not (fun d => decide (d ≠ c)) s
        rw [hdrop] at hhead
        have hd : d = c := by simpa using hhead
        rw [hd]
        rfl
  · rintro ⟨hnot, rfl⟩
    unfold cut
    cases o with
    | none =>
        show (List.takeWhile _ (a ++ []), _) = _
        rw [List.append_nil, takeWhile_ne_eq_self hnot]
        unfold tail
        rw [List.append_nil, dropWhile_ne_eq_nil hnot]
    | some rest =>
        unfold tail
        rw [takeWhile_ne_append hnot, dropWhile_ne_append hnot]

theorem cut_spec (c : α) (s : List α) : c ∉ (cut c s).1 ∧ s = (cut c s).1 ++ tail c (cut c s).2 :=
  cut_eq_iff.mp rfl

/-- What stands before a text without separators stays before the cut. -/
theorem cut_append (h : c ∉ a) (s : List α) : cut c (a ++ s) = (a ++ (cut c s).1, (cut c s).2) := by
  obtain ⟨hnot, hs⟩ := cut_spec c s
  refine cut_eq_iff.mpr ⟨?_, ?_⟩
  · rw [List.mem_append, not_or]
    exact ⟨h, hnot⟩
  · rw [List.append_assoc, ← hs]

end Foundation.Splits
