/-
  Foundation.Loops
  ────────────────
  **LOOPS OVER A LIST AND THEIR INVARIANT RULES.**

  A loop is a fold; one whose body can be stuck is a fold in `Option`.  Its invariant
  speaks of the items done so far and of the state they led to.

  Main rules:
    * `foldl_invariant`   — what the body keeps holds of all items at the end;
    * `foldlM_invariant`  — the same, where the body can be stuck;
    * `foldl_last`        — a loop that keeps the last item that qualifies;
    * `foldlM_congr`      — bodies that agree on the items of the list;
    * `mapM_eq_some_iff`  — a list of results none of which is missing;
    * `sweep_skip`        — an item that leaves the state as it is could be left out;
    * `mem_of_countdown`  — numbers that fall by at most one pass every value.
-/
import Mathlib.Data.List.Induction

namespace Foundation

variable {σ α : Type*}

/-- **The loop rule.** -/
theorem foldl_invariant {f : σ → α → σ} {P : List α → σ → Prop} {s : σ} (h : P [] s)
    (hstep : ∀ done a u, P done u → P (done ++ [a]) (f u a)) (as : List α) :
    P as (as.foldl f s) := by
  -- at the last item
  induction as using List.reverseRecOn with
  | nil => exact h
  | append_singleton as a ih =>
      rw [List.foldl_append]
      exact hstep as a _ ih

/-- A loop that keeps the last item that qualifies. -/
theorem foldl_last (p : α → Prop) [DecidablePred p] (as : List α) (a : α) :
    as.foldl (fun last b => if p b then b else last) a =
      ((as.filter fun b => decide (p b)).getLast?).getD a := by
  induction as generalizing a with
  | nil => rfl
  | cons b as ih =>
      rw [List.foldl_cons, ih]
      by_cases h : p b
      · simp [h, List.getLast?_cons]
      · simp [h]

/-- **The loop rule, where the body can be stuck.** -/
theorem foldlM_invariant {f : σ → α → Option σ} {P : List α → σ → Prop} {s t : σ} (h : P [] s)
    (hstep : ∀ done a u v, P done u → f u a = some v → P (done ++ [a]) v) {as : List α}
    (hrun : as.foldlM f s = some t) : P as t := by
  induction as using List.reverseRecOn generalizing t with
  | nil => exact Option.some.inj hrun ▸ h
  | append_singleton as a ih =>
      rw [List.foldlM_append] at hrun
      obtain ⟨u, hu, hlast⟩ := Option.bind_eq_some_iff.mp hrun
      obtain ⟨v, hv, hnil⟩ := Option.bind_eq_some_iff.mp (List.foldlM_cons.symm.trans hlast)
      have hvt : v = t := Option.some.inj hnil
      exact hvt ▸ hstep as a u v (ih hu) hv

/-- Loops whose bodies agree on the items. -/
theorem foldlM_congr {f g : σ → α → Option σ} {as : List α}
    (h : ∀ a ∈ as, ∀ s, f s a = g s a) (s : σ) : as.foldlM f s = as.foldlM g s := by
  induction as generalizing s with
  | nil => rfl
  | cons a as ih =>
      rw [List.foldlM_cons, List.foldlM_cons, h a List.mem_cons_self s]
      congr 1
      funext u
      exact ih (fun b hb => h b (List.mem_cons_of_mem _ hb)) u

/-- **A list of results none of which is missing.** -/
theorem mapM_eq_some_iff {β : Type*} {f : α → Option β} {as : List α} {bs : List β} :
    as.mapM f = some bs ↔ as.map f = bs.map some := by
  induction as generalizing bs with
  | nil =>
      rw [List.mapM_nil, List.map_nil]
      cases bs with
      | nil => exact ⟨fun _ => rfl, fun _ => rfl⟩
      | cons b bs => simp
  | cons a as ih =>
      rw [List.mapM_cons, List.map_cons]
      constructor
      · intro h
        obtain ⟨b, hb, hrest⟩ := Option.bind_eq_some_iff.mp h
        obtain ⟨rest, hrest, hnil⟩ := Option.bind_eq_some_iff.mp hrest
        injection hnil with hnil
        rw [← hnil, hb, ih.mp hrest, List.map_cons]
      · intro h
        cases bs with
        | nil => cases h
        | cons b bs =>
            obtain ⟨hb, hrest⟩ := List.cons.inj h
            rw [hb, ih.mpr hrest]
            rfl

theorem exists_mapM_eq_some {β : Type*} {f : α → Option β} {as : List α}
    (h : ∀ a ∈ as, ∃ b, f a = some b) : ∃ bs, as.mapM f = some bs := by
  induction as with
  | nil => exact ⟨[], rfl⟩
  | cons a as ih =>
      obtain ⟨b, hb⟩ := h a List.mem_cons_self
      obtain ⟨bs, hbs⟩ := ih fun a ha => h a (List.mem_cons_of_mem _ ha)
      exact ⟨b :: bs, by rw [List.mapM_cons, hb, hbs]; rfl⟩

/-- A loop that gives a result for each item. -/
def sweep {β : Type*} (f : σ → α → σ × β) : σ → List α → σ × List β
  | s, [] => (s, [])
  | s, a :: as => ((sweep f (f s a).1 as).1, (f s a).2 :: (sweep f (f s a).1 as).2)

theorem sweep_append {β : Type*} (f : σ → α → σ × β) (as bs : List α) (s : σ) :
    sweep f s (as ++ bs) = ((sweep f (sweep f s as).1 bs).1,
      (sweep f s as).2 ++ (sweep f (sweep f s as).1 bs).2) := by
  induction as generalizing s with
  | nil => rfl
  | cons a as ih =>
      rw [List.cons_append, sweep, ih]
      rfl

theorem length_sweep {β : Type*} (f : σ → α → σ × β) (as : List α) (s : σ) :
    (sweep f s as).2.length = as.length := by
  induction as generalizing s with
  | nil => rfl
  | cons a as ih => exact congrArg (· + 1) (ih _)

/-- Each result is that of an item, in some state. -/
theorem mem_sweep {β : Type*} {f : σ → α → σ × β} {as : List α} {s : σ} {r : β}
    (h : r ∈ (sweep f s as).2) : ∃ a ∈ as, ∃ u, r = (f u a).2 := by
  induction as generalizing s with
  | nil => cases h
  | cons a as ih =>
      obtain rfl | h := List.mem_cons.mp h
      · exact ⟨a, List.mem_cons_self, s, rfl⟩
      · obtain ⟨b, hb, hr⟩ := ih h
        exact ⟨b, List.mem_cons_of_mem a hb, hr⟩

/-- What a result says of its item in every state. -/
theorem map_sweep {β γ : Type*} {f : σ → α → σ × β} {g : β → γ} {h : α → γ}
    (hf : ∀ u a, g (f u a).2 = h a) (as : List α) (s : σ) :
    (sweep f s as).2.map g = as.map h := by
  induction as generalizing s with
  | nil => rfl
  | cons a as ih => rw [sweep, List.map_cons, List.map_cons, hf, ih]

/-- **An item that leaves the state as it is** could be left out. -/
theorem sweep_skip {β : Type*} {f : σ → α → σ × β} {s : σ} {as : List α} {a : α}
    (h : (f (sweep f s as).1 a).1 = (sweep f s as).1) (bs : List α) :
    (sweep f s (as ++ a :: bs)).1 = (sweep f s (as ++ bs)).1 ∧
      ((sweep f s (as ++ a :: bs)).2).eraseIdx as.length = (sweep f s (as ++ bs)).2 := by
  have hlength : as.length = (sweep f s as).2.length := (length_sweep f as s).symm
  rw [sweep_append, sweep_append, sweep, h]
  refine ⟨rfl, ?_⟩
  rw [hlength, List.eraseIdx_append_of_length_le (Nat.le_refl _), Nat.sub_self]
  rfl

/-- **Numbers that fall by at most one pass every value between the first and the last.** -/
theorem mem_of_countdown {as : List Int} (h : as.IsChain fun a b => a - 1 ≤ b) {first last t : Int}
    (hfirst : as.head? = some first) (hlast : as.getLast? = some last) (ht : t ≤ first)
    (ht' : last ≤ t) : t ∈ as := by
  induction as generalizing first with
  | nil => cases hfirst
  | cons a as ih =>
      injection hfirst with hfirst
      subst hfirst
      by_cases hat : a = t
      · exact hat ▸ List.mem_cons_self
      · cases as with
        | nil =>
            rw [List.getLast?_singleton] at hlast
            injection hlast with hlast
            omega
        | cons b as =>
            rw [List.isChain_cons_cons] at h
            rw [List.getLast?_cons_cons] at hlast
            exact List.mem_cons_of_mem _ (ih h.2 rfl hlast (by omega))

end Foundation
