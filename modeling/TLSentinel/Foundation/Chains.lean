/-
  Foundation.Chains
  ─────────────────
  **CHAINS THROUGH A POOL TO A ROOT, AND THE SEARCH FOR THEM.**

  `S x p` says that `x` is signed by `p`.  A chain starts at `x`, goes from each
  member to one that signed it, stays among the candidates `I` and ends in a root
  `R`; a root is its own chain.  Candidates are not trusted: whatever is among
  them, a chain ends in a root.

  Main results:
    * `verify_iff`          — the depth-first search, which never takes a candidate
                              twice, finds a chain exactly when there is one;
    * `Verified.mono`       — more roots and more candidates verify more;
    * `Verified.of_agree`   — pools that differ only in candidates signed by nothing
                              but themselves verify the same.
-/
import Mathlib.Data.List.Basic

namespace Foundation

variable {ν : Type*}

/-! ## §1. Chains. -/

/-- What signed `x` is a root, or a candidate with such a chain. -/
inductive Signed (S : ν → ν → Prop) (R I : ν → Prop) : ν → Prop
  | root {x r : ν} : S x r → R r → Signed S R I x
  | link {x p : ν} : S x p → I p → Signed S R I p → Signed S R I x

/-- There is a chain from `x`: it is a root, or signed as above. -/
def Verified (S : ν → ν → Prop) (R I : ν → Prop) (x : ν) : Prop := R x ∨ Signed S R I x

variable {S : ν → ν → Prop} {R R' I I' : ν → Prop}

theorem Signed.mono (hR : ∀ x, R x → R' x) (hI : ∀ x, I x → I' x) {x : ν}
    (h : Signed S R I x) : Signed S R' I' x := by
  induction h with
  | root hs hr => exact Signed.root hs (hR _ hr)
  | link hs hp _ ih => exact Signed.link hs (hI _ hp) ih

/-- **More roots and more candidates verify more.** -/
theorem Verified.mono (hR : ∀ x, R x → R' x) (hI : ∀ x, I x → I' x) {x : ν}
    (h : Verified S R I x) : Verified S R' I' x :=
  h.imp (hR x) (Signed.mono hR hI)

/-- A chain avoids a candidate, or the candidate has a chain that avoids itself. -/
theorem Signed.avoid (p : ν) {x : ν} (h : Signed S R I x) :
    Signed S R (fun q => I q ∧ q ≠ p) x ∨ Signed S R (fun q => I q ∧ q ≠ p) p := by
  -- by induction on the chain: where it meets `p`, the rest of it is a chain from `p`
  induction h with
  | root hs hr => exact .inl (Signed.root hs hr)
  | @link x q hs hq _ ih =>
      rcases ih with hold | hp
      · by_cases hqp : q = p
        · subst hqp
          exact .inr hold
        · exact .inl (Signed.link hs ⟨hq, hqp⟩ hold)
      · exact .inr hp

/-! ## §2. Candidates that open nothing. -/

/-- Nothing but `p` itself signed `p`. -/
def SelfSignedOnly (S : ν → ν → Prop) (p : ν) : Prop := ∀ q, S p q → q = p

/-- The chain of such a candidate is itself: it is a root. -/
theorem Signed.root_of_selfSignedOnly {p : ν} (h : Signed S R I p)
    (hp : SelfSignedOnly S p) : R p := by
  induction h with
  | root hs hr => exact hp _ hs ▸ hr
  | @link x q hs _ _ ih =>
      have hq : q = x := hp q hs
      subst hq
      exact ih hp

/-- Candidates signed by nothing but themselves can be left out. -/
theorem Signed.of_agree (hI : ∀ p, I p → I' p ∨ SelfSignedOnly S p) {x : ν}
    (h : Signed S R I x) : Signed S R I' x := by
  induction h with
  | root hs hr => exact Signed.root hs hr
  | @link x p hs hp hchain ih =>
      rcases hI p hp with hp' | hself
      · exact Signed.link hs hp' ih
      · exact Signed.root hs (hchain.root_of_selfSignedOnly hself)

/-- **Pools that differ only in such candidates verify the same.** -/
theorem Verified.of_agree (h : ∀ p, ¬ SelfSignedOnly S p → (I p ↔ I' p)) (x : ν) :
    Verified S R I x ↔ Verified S R I' x := by
  have hsub : ∀ p, I p → I' p ∨ SelfSignedOnly S p := by
    intro p hp
    by_cases hself : SelfSignedOnly S p
    · exact .inr hself
    · exact .inl ((h p hself).mp hp)
  have hsub' : ∀ p, I' p → I p ∨ SelfSignedOnly S p := by
    intro p hp
    by_cases hself : SelfSignedOnly S p
    · exact .inr hself
    · exact .inl ((h p hself).mpr hp)
  exact or_congr_right ⟨Signed.of_agree hsub, Signed.of_agree hsub'⟩

/-! ## §3. The search. -/

section Search

variable [DecidableEq ν] (signed : ν → ν → Bool) (roots : List ν)

/-- Depth-first search from `x`: try the roots, then each candidate that signed
`x`, which the search above it may not use again.  The first argument bounds the
depth. -/
def buildChains : Nat → List ν → ν → Bool
  | 0, _, x => roots.any (signed x)
  | n + 1, pool, x =>
      roots.any (signed x)
        || pool.any (fun p => signed x p && buildChains n (pool.erase p) p)

/-- A root needs no chain; a chain has no more links than the pool has candidates. -/
def verify (pool : List ν) (x : ν) : Bool :=
  decide (x ∈ roots) || buildChains signed roots pool.length pool x

variable {signed roots}

/-- What the search finds is a chain. -/
theorem signed_of_buildChains {n : Nat} {pool : List ν} {x : ν}
    (h : buildChains signed roots n pool x = true) :
    Signed (fun a b => signed a b = true) (· ∈ roots) (· ∈ pool) x := by
  -- by induction on the depth; the smaller pool is part of the pool
  induction n generalizing pool x with
  | zero =>
      obtain ⟨r, hr, hs⟩ := List.any_eq_true.mp h
      exact Signed.root hs hr
  | succ n ih =>
      unfold buildChains at h
      rcases Bool.or_eq_true_iff.mp h with h | h
      · obtain ⟨r, hr, hs⟩ := List.any_eq_true.mp h
        exact Signed.root hs hr
      · obtain ⟨p, hp, hsp⟩ := List.any_eq_true.mp h
        obtain ⟨hs, hrec⟩ := Bool.and_eq_true_iff.mp hsp
        have hchain := (ih hrec).mono (fun _ h => h) (fun _ h => List.mem_of_mem_erase h)
        exact Signed.link hs hp hchain

/-- A chain is found: its first candidate needs no second visit. -/
theorem buildChains_of_signed {n : Nat} {pool : List ν} (hn : pool.length = n) {x : ν}
    (h : Signed (fun a b => signed a b = true) (· ∈ roots) (· ∈ pool) x) :
    buildChains signed roots n pool x = true := by
  -- by induction on the size of the pool, which the first candidate leaves
  induction n generalizing pool x with
  | zero =>
      cases h with
      | root hs hr => exact List.any_eq_true.mpr ⟨_, hr, hs⟩
      | link _ hp _ => simp [List.length_eq_zero_iff.mp hn] at hp
  | succ n ih =>
      unfold buildChains
      cases h with
      | root hs hr =>
          exact Bool.or_eq_true_iff.mpr (.inl (List.any_eq_true.mpr ⟨_, hr, hs⟩))
      | @link _ p hs hp hchain =>
          -- the rest of the chain, cut so that it does not come back to `p`
          have hshort : Signed (fun a b => signed a b = true) (· ∈ roots) (· ∈ pool.erase p) p := by
            have havoid := (hchain.avoid p).elim id id
            exact havoid.mono (fun _ h => h)
              (fun _ hq => (List.mem_erase_of_ne hq.2).mpr hq.1)
          have hlen : (pool.erase p).length = n := by
            rw [List.length_erase_of_mem hp, hn]
            rfl
          refine Bool.or_eq_true_iff.mpr (.inr (List.any_eq_true.mpr ⟨p, hp, ?_⟩))
          exact Bool.and_eq_true_iff.mpr ⟨hs, ih hlen hshort⟩

/-- **The search finds a chain exactly when there is one.** -/
theorem verify_iff {pool : List ν} {x : ν} :
    verify signed roots pool x = true
      ↔ Verified (fun a b => signed a b = true) (· ∈ roots) (· ∈ pool) x := by
  unfold verify Verified
  rw [Bool.or_eq_true_iff, decide_eq_true_eq]
  exact or_congr_right ⟨signed_of_buildChains, buildChains_of_signed rfl⟩

end Search

end Foundation
