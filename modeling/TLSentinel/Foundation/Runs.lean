/-
  Foundation.Runs
  ───────────────
  **RUNS OF A PARTIAL STEP FUNCTION AND THEIR INVARIANT RULES.**

  A system is a function `step : σ → α → Option σ`: the action carries every
  choice the environment makes (which request moves, what the clock says, in
  which order a query returns its rows), `none` means the action is not enabled.

  `Exec step s tr t` is one run from `s` to `t`; its trace `tr` keeps every
  action together with the state it was taken in, so that a condition on
  "the state before the step" is a condition on the members of `tr`.

  Main rules:
    * `Exec.preserves`    — an invariant kept by every step that meets a
                            condition `C` holds in every state of a run whose
                            steps all meet `C`;
    * `Exec.always_iff`   — when a step keeps `P` exactly if it meets `C`, a run
                            satisfies `P` throughout iff all its steps meet `C`
                            (`Exec.always_steps_iff` adds a step property);
    * `Exec.arises`       — what holds at the end held at the start or came up
                            in a step;
    * `Exec.history`      — what relates a state to the run that led to it, one
                            step at the end at a time;
    * `exec_traceFrom`    — a computed run is a run.
-/
import Mathlib.Data.List.Basic

namespace Foundation

variable {σ α : Type*}

/-! ## §1. Runs and their traces. -/

/-- `Exec step s tr t`: the steps recorded in `tr` lead from `s` to `t`. -/
inductive Exec (step : σ → α → Option σ) : σ → List (σ × α) → σ → Prop
  | refl (s : σ) : Exec step s [] s
  | cons {s u t : σ} {a : α} {tr : List (σ × α)} :
      step s a = some u → Exec step u tr t → Exec step s ((s, a) :: tr) t

/-- The states a run passes through, its last one included. -/
def visited (tr : List (σ × α)) (t : σ) : List σ := tr.map Prod.fst ++ [t]

@[simp] theorem visited_nil (t : σ) : visited ([] : List (σ × α)) t = [t] := rfl

@[simp] theorem visited_cons (p : σ × α) (tr : List (σ × α)) (t : σ) :
    visited (p :: tr) t = p.1 :: visited tr t := rfl

theorem last_mem_visited (tr : List (σ × α)) (t : σ) : t ∈ visited tr t := by
  simp [visited]

/-- The state a step was taken in is among the states passed through. -/
theorem mem_visited {tr : List (σ × α)} {p : σ × α} (hp : p ∈ tr) (t : σ) :
    p.1 ∈ visited tr t :=
  List.mem_append_left _ (List.mem_map_of_mem hp)

/-- The first state of a run is among the states it passes through. -/
theorem Exec.start_mem_visited {step : σ → α → Option σ} {s t : σ}
    {tr : List (σ × α)} (e : Exec step s tr t) : s ∈ visited tr t := by
  cases e <;> simp

/-- Every action of a run was enabled. -/
theorem Exec.enabled {step : σ → α → Option σ} {s t : σ} {tr : List (σ × α)} {p : σ × α}
    (e : Exec step s tr t) (hp : p ∈ tr) : ∃ u, step p.1 p.2 = some u := by
  induction e with
  | refl s => exact absurd hp List.not_mem_nil
  | cons h _ ih =>
      rcases List.mem_cons.mp hp with rfl | hp
      · exact ⟨_, h⟩
      · exact ih hp

/-! ## §2. The invariant rules. -/

/-- **The guarded invariant rule**: what every step meeting `C` preserves holds
in every state of a run whose steps all meet `C`. -/
theorem Exec.preserves {step : σ → α → Option σ} {C : σ → α → Prop} {I : σ → Prop}
    (hstep : ∀ s a t, I s → C s a → step s a = some t → I t)
    {s t : σ} {tr : List (σ × α)} (e : Exec step s tr t)
    (hs : I s) (hC : ∀ p ∈ tr, C p.1 p.2) : ∀ u ∈ visited tr t, I u := by
  -- by induction on the run, at its first step
  induction e with
  | refl s =>
      intro u hu
      simp only [visited_nil, List.mem_singleton] at hu
      exact hu ▸ hs
  | @cons s m t a tr h _ ih =>
      have hm : I m := hstep s a m hs (hC (s, a) List.mem_cons_self) h
      intro u hu
      rcases List.mem_cons.mp hu with hu | hu
      · exact hu ▸ hs
      · exact ih hm (fun p hp => hC p (List.mem_cons_of_mem _ hp)) u hu

/-- **The exact rule**: if, under a background invariant `J`, a step from a
`P`-state meets `C` exactly when it ends in a `P`-state and satisfies the step
property `Q`, then a run from a `P`-state satisfies `P` throughout and `Q` at
every step exactly when all its steps meet `C`. -/
theorem Exec.always_steps_iff {step : σ → α → Option σ} {C : σ → α → Prop}
    {J P : σ → Prop} {Q : σ → α → σ → Prop}
    (hJ : ∀ s a t, J s → step s a = some t → J t)
    (hP : ∀ s a t, J s → P s → step s a = some t → (P t ∧ Q s a t ↔ C s a))
    {s t : σ} {tr : List (σ × α)} (e : Exec step s tr t) (hJs : J s) (hPs : P s) :
    ((∀ u ∈ visited tr t, P u) ∧ ∀ p ∈ tr, ∀ u, step p.1 p.2 = some u → Q p.1 p.2 u)
      ↔ ∀ p ∈ tr, C p.1 p.2 := by
  induction e with
  | refl s => simpa using hPs
  | @cons s m t a tr h e ih =>
      have hm : J m := hJ s a m hJs h
      have hiff : P m ∧ Q s a m ↔ C s a := hP s a m hJs hPs h
      simp only [visited_cons, List.forall_mem_cons]
      constructor
      · intro h
        obtain ⟨⟨_, hall⟩, hQ, hQs⟩ := h
        have hPm : P m := hall m e.start_mem_visited
        exact ⟨hiff.mp ⟨hPm, hQ m h⟩, (ih hm hPm).mp ⟨hall, hQs⟩⟩
      · intro h
        obtain ⟨hC, hall⟩ := h
        -- the first step meets the condition, so the rest starts in a good state
        obtain ⟨hPm, hQm⟩ := hiff.mpr hC
        obtain ⟨hvisited, hQs⟩ := (ih hm hPm).mpr hall
        refine ⟨⟨hPs, hvisited⟩, fun u hu => ?_, hQs⟩
        rw [h] at hu
        exact Option.some.inj hu ▸ hQm

/-- The exact rule for a property of states alone. -/
theorem Exec.always_iff {step : σ → α → Option σ} {C : σ → α → Prop}
    {J P : σ → Prop}
    (hJ : ∀ s a t, J s → step s a = some t → J t)
    (hP : ∀ s a t, J s → P s → step s a = some t → (P t ↔ C s a))
    {s t : σ} {tr : List (σ × α)} (e : Exec step s tr t) (hJs : J s) (hPs : P s) :
    (∀ u ∈ visited tr t, P u) ↔ ∀ p ∈ tr, C p.1 p.2 := by
  have h := e.always_steps_iff (Q := fun _ _ _ => True) hJ
    (fun s a t hs hPs h => by simpa using hP s a t hs hPs h) hJs hPs
  simpa using h

/-- **The origin rule**: if `Z` can only come up in a step satisfying `Q`, then
where `Z` holds at the end of a run it held at the start, or some step satisfied
`Q`. -/
theorem Exec.arises {step : σ → α → Option σ} {Z : σ → Prop} {Q : σ → α → Prop}
    (hstep : ∀ s a t, step s a = some t → Z t → Z s ∨ Q s a)
    {s t : σ} {tr : List (σ × α)} (e : Exec step s tr t) (hZ : Z t) :
    Z s ∨ ∃ p ∈ tr, Q p.1 p.2 := by
  induction e with
  | refl s => exact .inl hZ
  | @cons s m t a tr h e ih =>
      rcases ih hZ with hm | ⟨p, hp, hQ⟩
      · rcases hstep s a m h hm with hs | hQ
        · exact .inl hs
        · exact .inr ⟨(s, a), List.mem_cons_self, hQ⟩
      · exact .inr ⟨p, List.mem_cons_of_mem _ hp, hQ⟩

/-! ## §3. Computed runs. -/

/-- Execute a list of actions. -/
def run (step : σ → α → Option σ) : σ → List α → Option σ
  | s, [] => some s
  | s, a :: as =>
      match step s a with
      | some t => run step t as
      | none => none

/-- The trace of a computed run. -/
def traceFrom (step : σ → α → Option σ) : σ → List α → List (σ × α)
  | _, [] => []
  | s, a :: as =>
      (s, a) ::
        match step s a with
        | some t => traceFrom step t as
        | none => []

/-- **A computed run is a run.** -/
theorem exec_traceFrom {step : σ → α → Option σ} :
    ∀ {as : List α} {s t : σ}, run step s as = some t →
      Exec step s (traceFrom step s as) t
  | [], s, t, h => by
      simp only [run, Option.some.injEq] at h
      exact h ▸ Exec.refl s
  | a :: as, s, t, h => by
      cases hs : step s a with
      | none => simp [run, hs] at h
      | some u =>
          simp only [run, hs] at h
          simp only [traceFrom, hs]
          exact Exec.cons hs (exec_traceFrom h)

/-- The actions of a computed run are those it was given. -/
theorem mem_of_mem_traceFrom {step : σ → α → Option σ} :
    ∀ {as : List α} {s : σ} {p : σ × α}, p ∈ traceFrom step s as → p.2 ∈ as
  | [], _, _, h => absurd h List.not_mem_nil
  | a :: as, s, p, h => by
      rw [traceFrom, List.mem_cons] at h
      rcases h with rfl | h
      · exact List.mem_cons_self
      · split at h
        · exact List.mem_cons_of_mem _ (mem_of_mem_traceFrom h)
        · exact absurd h List.not_mem_nil

/-- One more step at the end of a run. -/
theorem Exec.snoc {step : σ → α → Option σ} {s u t : σ} {a : α} {tr : List (σ × α)}
    (e : Exec step s tr u) (h : step u a = some t) : Exec step s (tr ++ [(u, a)]) t := by
  induction e with
  | refl s => exact Exec.cons h (Exec.refl t)
  | cons hs _ ih => exact Exec.cons hs (ih h)

/-- **The history rule**: a relation between a run and its last state that every
further step keeps holds of every run. -/
theorem Exec.history {step : σ → α → Option σ} {P : List (σ × α) → σ → Prop} {s t : σ}
    {tr : List (σ × α)} (e : Exec step s tr t) (hs : P [] s)
    (hstep : ∀ tr u a v, Exec step s tr u → P tr u → step u a = some v →
      P (tr ++ [(u, a)]) v) : P tr t := by
  -- generalised to a run that already led to the state the rest starts in
  have hgen : ∀ {u v : σ} {rest : List (σ × α)}, Exec step u rest v →
      ∀ tr, Exec step s tr u → P tr u → P (tr ++ rest) v := by
    intro u v rest e
    induction e with
    | refl u =>
        intro tr _ h
        rwa [List.append_nil]
    | @cons u m v a rest hstep' _ ih =>
        intro tr e' h
        have hnext := ih (tr ++ [(u, a)]) (e'.snoc hstep') (hstep tr u a m e' h hstep')
        rwa [List.append_assoc] at hnext
  exact hgen e [] (Exec.refl s) hs

end Foundation
