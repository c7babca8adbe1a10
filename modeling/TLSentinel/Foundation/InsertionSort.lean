/-
  Foundation.InsertionSort
  ────────────────────────
  **INSERTION SORT IN PLACE, BY EXCHANGES.**

  Two nested loops over a slice: the outer one grows a sorted part from the left, the
  inner one lets the next item sink into it by exchanges with its left neighbour.  Every
  read and write is checked: `none` is an index outside the slice.

  Main result: `sort_spec` — no index is outside, and what comes out is sorted and has
  the same items.
-/
import Mathlib.Data.List.Perm.Basic
import Mathlib.Data.List.Induction
import Mathlib.Order.Lattice

namespace Foundation.InsertionSort

variable {α : Type} [LinearOrder α]

/-! ## §1. The loops. -/

/-- The inner loop: the item at `j` sinks while the one before it is greater. -/
def sink : Nat → List α → Option (List α)
  | 0, out => some out
  | j + 1, out =>
      match out[j]?, out[j + 1]? with
      | some a, some b => if b < a then sink j ((out.set j b).set (j + 1) a) else some out
      | _, _ => none

/-- The outer loop from `i` on, with at most so many turns. -/
def sortFrom : Nat → Nat → List α → Option (List α)
  | 0, _, out => some out
  | n + 1, i, out => if i < out.length then (sink i out).bind (sortFrom n (i + 1)) else some out

/-- Both loops. -/
def sort (out : List α) : Option (List α) := sortFrom out.length 1 out

/-! ## §2. What an item leaves when it has sunk. -/

omit [LinearOrder α] in
/-- An exchange of neighbours. -/
theorem set_set_append (l post : List α) (a x : α) :
    ((l ++ a :: x :: post).set l.length x).set (l.length + 1) a = l ++ x :: a :: post := by
  rw [List.set_append_right l.length x (Nat.le_refl _), Nat.sub_self, List.set_cons_zero,
    List.set_append_right (l.length + 1) a (Nat.le_succ _), Nat.add_sub_cancel_left]
  rfl

/-- An item between smaller and greater ones. -/
theorem pairwise_middle {l r : List α} {x : α} (h : (l ++ r).Pairwise (· ≤ ·))
    (hl : ∀ y ∈ l, y ≤ x) (hr : ∀ y ∈ r, x ≤ y) : (l ++ x :: r).Pairwise (· ≤ ·) := by
  obtain ⟨hleft, hright, hcross⟩ := List.pairwise_append.mp h
  refine List.pairwise_append.mpr ⟨hleft, List.pairwise_cons.mpr ⟨hr, hright⟩, ?_⟩
  intro y hy
  exact List.forall_mem_cons.mpr ⟨hl y hy, hcross y hy⟩

/-- **One item.**  What is left of it and right of it is sorted, and nothing right of it
is smaller: then it finds its place, and what follows is as it was. -/
theorem sink_spec {l r : List α} {x : α} (hsorted : (l ++ r).Pairwise (· ≤ ·))
    (hr : ∀ y ∈ r, x ≤ y) (post : List α) :
    ∃ s, sink l.length (l ++ x :: (r ++ post)) = some (s ++ post) ∧
      s.Perm (x :: (l ++ r)) ∧ s.Pairwise (· ≤ ·) := by
  induction l using List.reverseRecOn generalizing r with
  | nil => exact ⟨x :: r, rfl, List.Perm.refl _, List.pairwise_cons.mpr ⟨hr, hsorted⟩⟩
  | append_singleton l a ih =>
      have hlen : (l ++ [a]).length = l.length + 1 := List.length_append
      have hsplit : l ++ [a] ++ x :: (r ++ post) = l ++ a :: x :: (r ++ post) := by
        rw [List.append_assoc, List.singleton_append]
      have hleft : (l ++ a :: x :: (r ++ post))[l.length]? = some a := by
        rw [List.getElem?_append_right (Nat.le_refl _), Nat.sub_self]
        rfl
      have hright : (l ++ a :: x :: (r ++ post))[l.length + 1]? = some x := by
        rw [List.getElem?_append_right (Nat.le_add_right _ 1), Nat.add_sub_cancel_left]
        rfl
      rw [hlen, hsplit, sink, hleft, hright]
      dsimp only
      rw [List.append_assoc, List.singleton_append] at hsorted
      split
      · next hlt =>
          rw [set_set_append]
          have hle : ∀ y ∈ a :: r, x ≤ y := List.forall_mem_cons.mpr ⟨le_of_lt hlt, hr⟩
          obtain ⟨s, hs, hperm, hpair⟩ := ih hsorted hle
          rw [List.cons_append] at hs
          refine ⟨s, hs, ?_, hpair⟩
          rw [List.append_assoc, List.singleton_append]
          exact hperm
      · next hnot =>
          have hax : a ≤ x := not_lt.mp hnot
          -- the sorted part before `x` ends with `a`
          have hle : ∀ y ∈ l ++ [a], y ≤ x := by
            have hcross := (List.pairwise_append.mp hsorted).2.2
            refine List.forall_mem_append.mpr ⟨fun y hy => ?_, List.forall_mem_singleton.mpr hax⟩
            exact le_trans (hcross y hy a List.mem_cons_self) hax
          have hinit : (l ++ [a] ++ r).Pairwise (· ≤ ·) := by
            rwa [List.append_assoc, List.singleton_append]
          refine ⟨l ++ [a] ++ x :: r, ?_, List.perm_middle, pairwise_middle hinit hle hr⟩
          rw [List.append_assoc, List.append_assoc]
          rfl

/-! ## §3. The whole slice. -/

/-- **The run**: the sorted part grows to the end. -/
theorem sortFrom_spec {n : Nat} {s post : List α} (hs : s.Pairwise (· ≤ ·))
    (hn : post.length ≤ n) :
    ∃ out, sortFrom n s.length (s ++ post) = some out ∧ out.Perm (s ++ post) ∧
      out.Pairwise (· ≤ ·) := by
  induction n generalizing s post with
  | zero =>
      have hnil : post = [] := List.length_eq_zero_iff.mp (Nat.le_zero.mp hn)
      rw [hnil, List.append_nil]
      exact ⟨s, rfl, List.Perm.refl _, hs⟩
  | succ n ih =>
      rw [sortFrom]
      cases post with
      | nil =>
          rw [List.append_nil, if_neg (Nat.lt_irrefl _)]
          exact ⟨s, rfl, List.Perm.refl _, hs⟩
      | cons x post =>
          have hroom : s.length < (s ++ x :: post).length := by
            rw [List.length_append, List.length_cons]
            omega
          rw [if_pos hroom]
          have hinit : (s ++ []).Pairwise (· ≤ ·) := by rwa [List.append_nil]
          have hnone : ∀ y ∈ ([] : List α), x ≤ y := fun _ hy => absurd hy List.not_mem_nil
          obtain ⟨t, ht, hperm, hpair⟩ := sink_spec hinit hnone post
          rw [List.nil_append] at ht
          rw [List.append_nil] at hperm
          have hlen : t.length = s.length + 1 := by
            rw [hperm.length_eq, List.length_cons]
          have hleft : post.length ≤ n := by
            rw [List.length_cons] at hn
            omega
          obtain ⟨out, hout, houtPerm, houtPair⟩ := ih hpair hleft
          rw [hlen] at hout
          refine ⟨out, by rw [ht, Option.bind_some, hout], ?_, houtPair⟩
          exact houtPerm.trans ((hperm.append_right post).trans List.perm_middle.symm)

/-- **What comes out** is sorted and has the same items, and no index is outside. -/
theorem sort_spec (l : List α) :
    ∃ out, sort l = some out ∧ out.Perm l ∧ out.Pairwise (· ≤ ·) := by
  cases l with
  | nil => exact ⟨[], rfl, List.Perm.refl _, List.Pairwise.nil⟩
  | cons x l =>
      have hone : [x].Pairwise (· ≤ ·) := List.pairwise_singleton _ _
      exact sortFrom_spec hone (Nat.le_succ _)

/-- Items without repetitions come out strictly sorted. -/
theorem sort_strict {l : List α} (h : l.Nodup) :
    ∃ out, sort l = some out ∧ out.Perm l ∧ out.Pairwise (· < ·) := by
  obtain ⟨out, hout, hperm, hpair⟩ := sort_spec l
  have hnodup : out.Nodup := hperm.nodup_iff.mpr h
  exact ⟨out, hout, hperm, (hpair.and hnodup).imp fun hy => lt_of_le_of_ne hy.1 hy.2⟩

end Foundation.InsertionSort
