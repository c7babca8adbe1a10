/-
  Foundation.Forest
  ─────────────────
  **ACYCLIC RELATIONS, PARENT MAPS AND PEELING ORDERS.**

  A parent map `p : ν → Option ν` is a graph with at most one edge out of each
  vertex.  Where it has no cycle it is a forest: every path climbs to a vertex
  without a parent.

  Main results:
    * `exists_source`       — a nonempty finite set of vertices of an acyclic
                              relation has a member that none of them points to;
    * `exists_peeling`      — such a set can be listed so that nothing listed
                              later points to what is listed earlier;
    * `acyclic_graft_iff`   — putting a new vertex under a chosen vertex, and
                              chosen parentless vertices under the new one, makes
                              a cycle exactly if the climb from the former ends in
                              one of the latter.
-/
import Mathlib.Data.Set.Finite.Basic
import Mathlib.Logic.Relation
import Mathlib.Order.WellFounded

namespace Foundation

open Relation

variable {ν : Type*}

/-! ## §1. Acyclic relations. -/

/-- No vertex reaches itself by at least one step. -/
def Acyclic (r : ν → ν → Prop) : Prop := ∀ a, ¬ TransGen r a a

/-- A part of an acyclic relation is acyclic. -/
theorem Acyclic.mono {r s : ν → ν → Prop} (hs : Acyclic s) (h : ∀ a b, r a b → s a b) :
    Acyclic r :=
  fun a ha => hs a (TransGen.mono h a a ha)

/-- An acyclic relation relates nothing to itself. -/
theorem Acyclic.irrefl {r : ν → ν → Prop} (hr : Acyclic r) (a : ν) : ¬ r a a :=
  fun h => hr a (TransGen.single h)

/-- A relation that climbs a rank is acyclic. -/
theorem acyclic_of_rank {r : ν → ν → Prop} (rank : ν → Nat)
    (h : ∀ a b, r a b → rank a < rank b) : Acyclic r := by
  intro a ha
  have hlt : ∀ b, TransGen r a b → rank a < rank b := by
    intro b hb
    induction hb with
    | single hab => exact h _ _ hab
    | tail _ hbc ih => exact ih.trans (h _ _ hbc)
  exact absurd (hlt a ha) (Nat.lt_irrefl _)

/-- **A nonempty finite set of vertices of an acyclic relation has a member that
none of them points to.** -/
theorem exists_source {r : ν → ν → Prop} (hr : Acyclic r) {l : List ν} (hl : l ≠ []) :
    ∃ m ∈ l, ∀ x ∈ l, ¬ r x m := by
  -- descend along the transitive closure, which is well-founded on the finite set
  let s : {x // x ∈ l} → {x // x ∈ l} → Prop := fun a b => TransGen r a.1 b.1
  have : Finite {x // x ∈ l} := (List.finite_toSet l).to_subtype
  have : IsTrans {x // x ∈ l} s := ⟨fun _ _ _ h h' => TransGen.trans h h'⟩
  have : Std.Irrefl s := ⟨fun a h => hr a.1 h⟩
  have hwf : WellFounded s := Finite.wellFounded_of_trans_of_irrefl s
  obtain ⟨a, ha⟩ := List.exists_mem_of_ne_nil l hl
  obtain ⟨m, -, hm⟩ := hwf.has_min Set.univ ⟨⟨a, ha⟩, trivial⟩
  exact ⟨m.1, m.2, fun x hx h => hm ⟨x, hx⟩ trivial (TransGen.single h)⟩

/-- **A peeling order**: the vertices can be listed so that nothing listed later
points to what is listed earlier. -/
theorem exists_peeling [DecidableEq ν] {r : ν → ν → Prop} (hr : Acyclic r) (l : List ν) :
    ∃ order : List ν, order.Perm l ∧ order.Pairwise (fun a b => ¬ r b a) := by
  -- by induction on the number of vertices, peeling a source first
  induction hn : l.length generalizing l with
  | zero =>
      have hnil : l = [] := List.length_eq_zero_iff.mp hn
      exact ⟨[], by rw [hnil], List.Pairwise.nil⟩
  | succ n ih =>
      have hne : l ≠ [] := by
        intro h
        simp [h] at hn
      obtain ⟨m, hm, hsrc⟩ := exists_source hr hne
      have hlen : (l.erase m).length = n := by
        rw [List.length_erase_of_mem hm, hn]
        rfl
      obtain ⟨order, hperm, hpair⟩ := ih (l.erase m) hlen
      refine ⟨m :: order, (hperm.cons m).trans (List.perm_cons_erase hm).symm, ?_⟩
      rw [List.pairwise_cons]
      exact ⟨fun b hb => hsrc b (List.mem_of_mem_erase (hperm.mem_iff.mp hb)), hpair⟩

/-! ## §2. Parent maps. -/

/-- The edges of a parent map. -/
def Edge (p : ν → Option ν) (a b : ν) : Prop := p a = some b

/-- Put `n` under `o`, and the vertices of `S` under `n`. -/
def graft [DecidableEq ν] (p : ν → Option ν) (n : ν) (o : Option ν) (S : ν → Bool) :
    ν → Option ν :=
  fun a => if a = n then o else if S a then some n else p a

section Graft

variable [DecidableEq ν] {p : ν → Option ν} {n : ν} {o : Option ν} {S : ν → Bool}

@[simp] theorem graft_self : graft p n o S n = o := by simp [graft]

theorem graft_of_mem {a : ν} (ha : a ≠ n) (hS : S a = true) : graft p n o S a = some n := by
  simp [graft, ha, hS]

theorem graft_of_not_mem {a : ν} (ha : a ≠ n) (hS : S a = false) :
    graft p n o S a = p a := by
  simp [graft, ha, hS]

/-- An edge of the grafted map that starts elsewhere and does not end in the new
vertex was there before. -/
theorem edge_of_graft {a b : ν} (ha : a ≠ n) (hb : b ≠ n) (h : Edge (graft p n o S) a b) :
    Edge p a b := by
  unfold Edge at h ⊢
  cases hS : S a with
  | true =>
      rw [graft_of_mem ha hS] at h
      exact absurd (Option.some.inj h).symm hb
  | false => rwa [graft_of_not_mem ha hS] at h

/-- The grafted parentless vertices lose nothing: old edges stay. -/
theorem graft_of_edge (hn : p n = none) (hS : ∀ a, S a = true → p a = none) {a b : ν}
    (h : Edge p a b) : Edge (graft p n o S) a b := by
  unfold Edge at h ⊢
  have ha : a ≠ n := by
    intro heq
    subst heq
    simp [hn] at h
  have hSa : S a = false := by
    cases hS' : S a with
    | true => simp [hS a hS'] at h
    | false => rfl
  rwa [graft_of_not_mem ha hSa]

/-- A path of the grafted map to the new vertex is an old path to a grafted
vertex, and one more step. -/
theorem exists_last_of_path (hfresh : ∀ a, p a ≠ some n) {i : ν} (hi : i ≠ n)
    (h : ReflTransGen (Edge (graft p n o S)) i n) :
    ∃ r, ReflTransGen (Edge p) i r ∧ S r = true := by
  -- by induction on the path, at its first edge
  induction h using ReflTransGen.head_induction_on with
  | refl => exact absurd rfl hi
  | @head i j hij _ ih =>
      by_cases hj : j = n
      · subst hj
        refine ⟨i, ReflTransGen.refl, ?_⟩
        cases hS : S i with
        | true => rfl
        | false =>
            unfold Edge at hij
            rw [graft_of_not_mem hi hS] at hij
            exact absurd hij (hfresh i)
      · obtain ⟨r, hpath, hr⟩ := ih hj
        exact ⟨r, ReflTransGen.head (edge_of_graft hi hj hij) hpath, hr⟩

/-- A path of the grafted map that is no old path passes the new vertex. -/
theorem path_or_through {a b : ν} (h : TransGen (Edge (graft p n o S)) a b) :
    TransGen (Edge p) a b
      ∨ (ReflTransGen (Edge (graft p n o S)) a n
          ∧ ReflTransGen (Edge (graft p n o S)) n b) := by
  -- by induction on the path, at its last edge
  induction h with
  | @single b hab =>
      by_cases ha : a = n
      · subst ha
        exact .inr ⟨ReflTransGen.refl, ReflTransGen.single hab⟩
      · by_cases hb : b = n
        · subst hb
          exact .inr ⟨ReflTransGen.single hab, ReflTransGen.refl⟩
        · exact .inl (TransGen.single (edge_of_graft ha hb hab))
  | @tail b c hab hbc ih =>
      rcases ih with hold | ⟨h1, h2⟩
      · by_cases hb : b = n
        · subst hb
          exact .inr ⟨hab.to_reflTransGen, ReflTransGen.single hbc⟩
        · by_cases hc : c = n
          · subst hc
            exact .inr ⟨hab.to_reflTransGen.tail hbc, ReflTransGen.refl⟩
          · exact .inl (hold.tail (edge_of_graft hb hc hbc))
      · exact .inr ⟨h1, h2.tail hbc⟩

/-- **When a graft makes a cycle**: on an acyclic map with a new vertex `n` that
goes under `o`, exactly if the climb from `o` reaches a vertex that goes under
`n`. -/
theorem acyclic_graft_iff (hp : Acyclic (Edge p)) (hn : p n = none)
    (hfresh : ∀ a, p a ≠ some n) (ho : o ≠ some n) (hSn : S n = false)
    (hS : ∀ a, S a = true → p a = none) :
    Acyclic (Edge (graft p n o S))
      ↔ ∀ i, o = some i → ∀ r, ReflTransGen (Edge p) i r → S r = false := by
  constructor
  · intro hacyc i hi r hpath
    cases hr : S r with
    | false => rfl
    | true =>
        -- n goes to i, climbs to r, and comes back
        exfalso
        have hrn : r ≠ n := by
          intro heq
          subst heq
          simp [hSn] at hr
        have hni : Edge (graft p n o S) n i := by
          show graft p n o S n = some i
          rw [graft_self, hi]
        have hir : ReflTransGen (Edge (graft p n o S)) i r :=
          ReflTransGen.mono (fun _ _ h => graft_of_edge hn hS h) i r hpath
        have hrn' : Edge (graft p n o S) r n := graft_of_mem hrn hr
        exact hacyc n (TransGen.tail' (ReflTransGen.head hni hir) hrn')
  · intro hclimb a ha
    -- a cycle that is not old passes n, so it starts and ends there
    rcases path_or_through ha with hold | ⟨h1, h2⟩
    · exact hp a hold
    · have hcycle : TransGen (Edge (graft p n o S)) n n := by
        rcases ReflTransGen.cases_head h2 with rfl | ⟨j, hnj, hja⟩
        · exact ha
        · exact TransGen.head' hnj (hja.trans h1)
      obtain ⟨i, hni, hin⟩ := TransGen.head'_iff.mp hcycle
      have hi : o = some i := by
        unfold Edge at hni
        rwa [graft_self] at hni
      have hine : i ≠ n := by
        intro heq
        subst heq
        exact ho hi
      obtain ⟨r, hpath, hr⟩ := exists_last_of_path hfresh hine hin
      have := hclimb i hi r hpath
      simp [hr] at this

end Graft

/-! ## §3. Iterating a shrinking function. -/

/-- A function that shrinks whatever it moves reaches a fixpoint. -/
theorem exists_fixpoint_of_shrinks {α : Type*} (f : α → α) (size : α → Nat)
    (h : ∀ a, f a = a ∨ size (f a) < size a) (a : α) :
    ∃ k, k ≤ size a ∧ f (f^[k] a) = f^[k] a := by
  -- by strong induction on the size: one move, then the rest
  induction hn : size a using Nat.strong_induction_on generalizing a with
  | _ n ih =>
      rcases h a with hfix | hlt
      · exact ⟨0, Nat.zero_le _, hfix⟩
      · obtain ⟨k, hk, hfix⟩ := ih (size (f a)) (hn ▸ hlt) (f a) rfl
        refine ⟨k + 1, ?_, ?_⟩
        · omega
        · simpa [Function.iterate_succ_apply] using hfix

end Foundation
