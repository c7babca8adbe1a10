/-
  Foundation.Latches
  ──────────────────
  **WHAT HAS BEEN SET AND NOT RESET SINCE.**

  A latch is a condition on the states of a system that some steps set, some
  reset and all others keep.  Whether it holds after a run is then a fact about
  the run: it was set at some step and at none after it reset, or it held at the
  start and was never reset (`Exec.latch_iff`).
-/
import TLSentinel.Foundation.Runs

namespace Foundation

variable {σ α : Type*}

/-- A step that sets, and none after it that resets. -/
def SetSince (sets resets : σ → α → Prop) (tr : List (σ × α)) : Prop :=
  ∃ tr₁ p tr₂, tr = tr₁ ++ p :: tr₂ ∧ sets p.1 p.2 ∧ ∀ q ∈ tr₂, ¬ resets q.1 q.2

theorem not_setSince_nil {sets resets : σ → α → Prop} : ¬ SetSince sets resets [] := by
  intro h
  obtain ⟨tr₁, p, tr₂, htr, _⟩ := h
  simp at htr

/-- One more step: it sets, or it keeps what has been set. -/
theorem setSince_concat {sets resets : σ → α → Prop} {tr : List (σ × α)} {p : σ × α} :
    SetSince sets resets (tr ++ [p]) ↔
      sets p.1 p.2 ∨ (SetSince sets resets tr ∧ ¬ resets p.1 p.2) := by
  constructor
  · intro h
    obtain ⟨tr₁, q, tr₂, htr, hset, hreset⟩ := h
    -- the step that set is the new one, or an earlier one
    rcases List.eq_nil_or_concat tr₂ with rfl | ⟨tr₃, r, rfl⟩
    · obtain ⟨_, hq⟩ := List.append_inj' htr rfl
      rw [List.cons.injEq] at hq
      exact .inl (hq.1 ▸ hset)
    · rw [List.concat_eq_append] at htr hreset
      rw [← List.cons_append, ← List.append_assoc] at htr
      obtain ⟨htr, hr⟩ := List.append_inj' htr rfl
      rw [List.cons.injEq] at hr
      refine .inr ⟨⟨tr₁, q, tr₃, htr, hset, fun x hx => hreset x (List.mem_append_left _ hx)⟩, ?_⟩
      rw [hr.1]
      exact hreset r (by simp)
  · intro h
    rcases h with hset | ⟨⟨tr₁, q, tr₂, rfl, hset, hreset⟩, hnot⟩
    · exact ⟨tr, p, [], rfl, hset, fun x hx => absurd hx List.not_mem_nil⟩
    · refine ⟨tr₁, q, tr₂ ++ [p], by simp, hset, fun x hx => ?_⟩
      rcases List.mem_append.mp hx with hx | hx
      · exact hreset x hx
      · rw [List.mem_singleton.mp hx]
        exact hnot

/-- **The latch rule**: if `L` holds after a step exactly when the step sets it, or it held and
the step does not reset it, then `L` holds after a run exactly when it has been set and not
reset since, or held at the start and was never reset. -/
theorem Exec.latch_iff {step : σ → α → Option σ} {L : σ → Prop} {sets resets : σ → α → Prop}
    (hstep : ∀ s a t, step s a = some t → (L t ↔ sets s a ∨ (L s ∧ ¬ resets s a)))
    {s t : σ} {tr : List (σ × α)} (e : Exec step s tr t) :
    L t ↔ SetSince sets resets tr ∨ (L s ∧ ∀ q ∈ tr, ¬ resets q.1 q.2) := by
  refine e.history (P := fun tr t => L t ↔ SetSince sets resets tr ∨
    (L s ∧ ∀ q ∈ tr, ¬ resets q.1 q.2)) ?_ ?_
  · simp [not_setSince_nil]
  · intro tr u a v _ ih hv
    rw [hstep u a v hv, ih, setSince_concat]
    simp only [List.mem_append, List.mem_singleton, or_imp, forall_and, forall_eq]
    tauto

end Foundation
