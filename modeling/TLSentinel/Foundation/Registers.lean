/-
  Foundation.Registers
  ────────────────────
  **REGISTERS: WHO WROTE LAST.**

  A register is a value `get s` read off the state of a system.  Some steps name
  a new value for it, `named (s, a) = some v`; the others have no business with
  it.  A run respects the register when in every state it passes through the
  register holds the value named last, or the initial one.

  `Exec.respects_iff`: when a single step does its part exactly if it meets `C`,
  a run respects the register if and only if all its steps meet `C`.

  `Exec.shows_last`: what a state shows of a register, where every step does its
  part, it shows of the value named last.
-/
import TLSentinel.Foundation.Runs

namespace Foundation

variable {σ α β : Type*}

/-- The value named last, or the initial one. -/
def lastNamed (named : σ × α → Option β) (init : β) (tr : List (σ × α)) : β :=
  (tr.filterMap named).getLast?.getD init

@[simp] theorem lastNamed_nil (named : σ × α → Option β) (init : β) :
    lastNamed named init [] = init := rfl

theorem lastNamed_concat (named : σ × α → Option β) (init : β) (tr : List (σ × α))
    (p : σ × α) :
    lastNamed named init (tr ++ [p]) = (named p).getD (lastNamed named init tr) := by
  unfold lastNamed
  rw [List.filterMap_append]
  cases h : named p with
  | none => simp [h]
  | some v => simp [h]

/-- In every state that the run passes through, the register holds the value named last. -/
def Respects (step : σ → α → Option σ) (get : σ → β) (named : σ × α → Option β) (s : σ)
    (tr : List (σ × α)) : Prop :=
  ∀ tr₁ tr₂ u, tr = tr₁ ++ tr₂ → Exec step s tr₁ u → get u = lastNamed named (get s) tr₁

/-- The state that a run leads to is determined by its trace. -/
theorem Exec.unique {step : σ → α → Option σ} {s t u : σ} {tr : List (σ × α)}
    (e : Exec step s tr t) (e' : Exec step s tr u) : t = u := by
  induction e with
  | refl s => cases e' with | refl _ => rfl
  | cons h _ ih =>
      cases e' with
      | cons h' e' =>
          rw [h] at h'
          exact ih (Option.some.inj h' ▸ e')

/-- **The register rule**: under a background invariant `J`, if a step leaves in the
register what it names, or else what was there, exactly when it meets `C`, then a run
respects the register exactly when all its steps meet `C`. -/
theorem Exec.respects_iff {step : σ → α → Option σ} {C : σ → α → Prop} {J : σ → Prop}
    {get : σ → β} {named : σ × α → Option β}
    (hJ : ∀ s a t, J s → step s a = some t → J t)
    (hstep : ∀ s a t, J s → step s a = some t →
      (get t = (named (s, a)).getD (get s) ↔ C s a))
    {s t : σ} {tr : List (σ × α)} (e : Exec step s tr t) (hs : J s) :
    Respects step get named s tr ↔ ∀ p ∈ tr, C p.1 p.2 := by
  -- by induction at the end of the run, together with the invariant
  suffices h : J t ∧ (Respects step get named s tr ↔ ∀ p ∈ tr, C p.1 p.2) from h.2
  refine e.history (P := fun tr t => J t ∧ (Respects step get named s tr ↔
    ∀ p ∈ tr, C p.1 p.2)) ⟨hs, ?_⟩ ?_
  · refine ⟨fun _ p hp => absurd hp List.not_mem_nil, fun _ tr₁ tr₂ u htr e₁ => ?_⟩
    obtain ⟨h₁, _⟩ := List.append_eq_nil_iff.mp htr.symm
    subst h₁
    cases e₁ with
    | refl _ => rfl
  · intro tr u a v e ih hv
    obtain ⟨hu, ih⟩ := ih
    have hlast := hstep u a v hu hv
    refine ⟨hJ u a v hu hv, ?_, ?_⟩
    · intro h p hp
      have hinit : Respects step get named s tr := by
        intro tr₁ tr₂ w htr e₁
        exact h tr₁ (tr₂ ++ [(u, a)]) w (by rw [htr, List.append_assoc]) e₁
      rcases List.mem_append.mp hp with hp | hp
      · exact ih.mp hinit p hp
      · rw [List.mem_singleton.mp hp]
        have hget := h (tr ++ [(u, a)]) [] v (List.append_nil _).symm (e.snoc hv)
        rw [lastNamed_concat, ← hinit tr [] u (List.append_nil _).symm e] at hget
        exact hlast.mp hget
    · intro hC tr₁ tr₂ w htr e₁
      have hinit : Respects step get named s tr :=
        ih.mpr (fun p hp => hC p (List.mem_append_left _ hp))
      -- the split is inside the run so far, or at its new end
      rcases List.eq_nil_or_concat tr₂ with htr₂ | ⟨tr₃, q, htr₂⟩
      · rw [htr₂, List.append_nil] at htr
        subst htr
        rw [e₁.unique (e.snoc hv), lastNamed_concat,
          ← hinit tr [] u (List.append_nil _).symm e]
        exact hlast.mpr (hC (u, a) (by simp))
      · rw [htr₂, List.concat_eq_append, ← List.append_assoc] at htr
        obtain ⟨htr, _⟩ := List.append_inj' htr rfl
        exact hinit tr₁ tr₃ w htr e₁

/-- **The reader rule**: if a step from a state that shows `v` ends in one that shows the value
it names, or else `v`, then a run ends in a state that shows the value named last. -/
theorem Exec.shows_last {step : σ → α → Option σ} {R : σ → β → Prop}
    {named : σ × α → Option β} {init : β}
    (hstep : ∀ s a t v, step s a = some t → R s v → R t ((named (s, a)).getD v))
    {s t : σ} {tr : List (σ × α)} (e : Exec step s tr t) (hs : R s init) :
    R t (lastNamed named init tr) := by
  refine e.history (P := fun tr t => R t (lastNamed named init tr)) hs ?_
  intro tr u a v _ ih hv
  rw [lastNamed_concat]
  exact hstep u a v _ hv ih

end Foundation
