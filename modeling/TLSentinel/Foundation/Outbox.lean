/-
  Foundation.Outbox
  ─────────────────
  **AN OUTBOX: CLAIM A SLOT FIRST, DELIVER AFTERWARDS.**

  Workers `ι` deliver messages with keys `κ`.  A worker takes the slot of a key
  before it delivers, and a slot that is taken is not taken again; slots may be
  forgotten at any time, by somebody else.  Two laws are expected of such a
  design, and neither holds without a condition:

    * `claimedOnce_iff` — nothing is delivered twice, nor about to be, exactly as
                          long as no slot is taken again for a key that was
                          delivered or is about to be;
    * `noneLost_move_iff` — a slot that is taken stands for a delivery, done or
                          still to come, exactly as long as every delivery that
                          fails concerns a key whose slot is gone, that was
                          delivered before, or that another worker holds.
-/
import Mathlib.Data.List.Nodup

namespace Foundation

variable {ι κ : Type*}

/-- The state of an outbox. -/
structure Outbox (ι κ : Type*) where
  /-- The keys whose slot is taken. -/
  taken : κ → Prop
  /-- What each worker is about to deliver. -/
  held : ι → Option κ
  /-- The deliveries, oldest first. -/
  delivered : List κ

namespace Outbox

/-! ## §1. Moves. -/

/-- What can happen to an outbox. -/
inductive Move (ι κ : Type*) where
  /-- Slots are forgotten, or nothing happens. -/
  | forget
  /-- A worker takes the slot of a key. -/
  | claim (i : ι) (k : κ)
  /-- A worker delivers what it holds. -/
  | deliver (i : ι) (k : κ)
  /-- A worker fails to deliver what it holds, and drops it. -/
  | fail (i : ι) (k : κ)

/-- The outcome of a move. -/
inductive Moves [DecidableEq ι] (o : Outbox ι κ) : Move ι κ → Outbox ι κ → Prop
  | forget {o' : Outbox ι κ} (htaken : ∀ k, o'.taken k → o.taken k) (hheld : o'.held = o.held)
      (hdelivered : o'.delivered = o.delivered) : Moves o .forget o'
  | claim {o' : Outbox ι κ} (i : ι) (k : κ) (hfree : ¬ o.taken k) (hidle : o.held i = none)
      (htaken : ∀ l, o'.taken l ↔ o.taken l ∨ l = k)
      (hheld : o'.held = Function.update o.held i (some k))
      (hdelivered : o'.delivered = o.delivered) : Moves o (.claim i k) o'
  | deliver {o' : Outbox ι κ} (i : ι) (k : κ) (hholds : o.held i = some k)
      (htaken : o'.taken = o.taken) (hheld : o'.held = Function.update o.held i none)
      (hdelivered : o'.delivered = o.delivered ++ [k]) : Moves o (.deliver i k) o'
  | fail {o' : Outbox ι κ} (i : ι) (k : κ) (hholds : o.held i = some k)
      (htaken : o'.taken = o.taken) (hheld : o'.held = Function.update o.held i none)
      (hdelivered : o'.delivered = o.delivered) : Moves o (.fail i k) o'

/-! ## §2. At most once. -/

/-- Nothing was delivered twice, and what is about to be delivered has one worker and was
not delivered. -/
structure ClaimedOnce (o : Outbox ι κ) : Prop where
  nodup : o.delivered.Nodup
  fresh : ∀ i k, o.held i = some k → k ∉ o.delivered
  single : ∀ i j k, o.held i = some k → o.held j = some k → i = j

/-- The condition on a move: a slot is taken only for a key that was not delivered and that
nobody holds. -/
def ClaimsFresh (o : Outbox ι κ) : Move ι κ → Prop
  | .claim _ k => k ∉ o.delivered ∧ ∀ i, o.held i ≠ some k
  | _ => True

section Step

variable [DecidableEq ι] {o o' : Outbox ι κ} {m : Move ι κ}

/-- What a worker holds that has dropped its key. -/
theorem held_of_update_none {held : ι → Option κ} {i j : ι} {k : κ}
    (h : Function.update held i none j = some k) : j ≠ i ∧ held j = some k := by
  by_cases hj : j = i
  · subst hj
    rw [Function.update_self] at h
    exact absurd h (by simp)
  · rw [Function.update_of_ne hj] at h
    exact ⟨hj, h⟩

/-- What a worker holds after another one took a slot. -/
theorem held_of_update_some {held : ι → Option κ} {i j : ι} {k l : κ}
    (h : Function.update held i (some k) j = some l) :
    j = i ∧ l = k ∨ j ≠ i ∧ held j = some l := by
  by_cases hj : j = i
  · subst hj
    rw [Function.update_self] at h
    exact .inl ⟨rfl, (Option.some.inj h).symm⟩
  · rw [Function.update_of_ne hj] at h
    exact .inr ⟨hj, h⟩

/-- **At most once, one move.** -/
theorem claimedOnce_iff (ho : o.ClaimedOnce) (h : Moves o m o') :
    o'.ClaimedOnce ↔ o.ClaimsFresh m := by
  cases h with
  | forget _ hheld hdelivered =>
      refine ⟨fun _ => trivial, fun _ => ⟨?_, ?_, ?_⟩⟩
      · exact hdelivered ▸ ho.nodup
      · rw [hheld, hdelivered]
        exact ho.fresh
      · rw [hheld]
        exact ho.single
  | claim i k _ hidle _ hheld hdelivered =>
      constructor
      · intro h'
        have hi : o'.held i = some k := by rw [hheld, Function.update_self]
        refine ⟨hdelivered ▸ h'.fresh i k hi, fun j hj => ?_⟩
        -- another holder of the key would be the claiming worker itself, which was idle
        have hne : j ≠ i := by
          intro hji
          rw [hji, hidle] at hj
          exact absurd hj (by simp)
        have hj' : o'.held j = some k := by rw [hheld, Function.update_of_ne hne, hj]
        exact hne (h'.single j i k hj' hi)
      · intro h'
        obtain ⟨hnew, hnobody⟩ := h'
        refine ⟨hdelivered ▸ ho.nodup, fun j l hj => ?_, fun j₁ j₂ l h₁ h₂ => ?_⟩
        · rw [hheld] at hj
          rw [hdelivered]
          rcases held_of_update_some hj with ⟨_, hl⟩ | ⟨_, hj⟩
          · exact hl ▸ hnew
          · exact ho.fresh j l hj
        · rw [hheld] at h₁ h₂
          rcases held_of_update_some h₁ with ⟨hj₁, hl⟩ | ⟨_, h₁⟩ <;>
            rcases held_of_update_some h₂ with ⟨hj₂, hl'⟩ | ⟨_, h₂⟩
          · rw [hj₁, hj₂]
          · exact absurd (hl ▸ h₂) (hnobody j₂)
          · exact absurd (hl' ▸ h₁) (hnobody j₁)
          · exact ho.single j₁ j₂ l h₁ h₂
  | deliver i k hholds _ hheld hdelivered =>
      refine ⟨fun _ => trivial, fun _ => ⟨?_, fun j l hj => ?_, fun j₁ j₂ l h₁ h₂ => ?_⟩⟩
      · rw [hdelivered, List.nodup_append]
        refine ⟨ho.nodup, List.nodup_singleton k, fun a ha b hb hab => ?_⟩
        rw [List.mem_singleton] at hb
        exact ho.fresh i k hholds (hb ▸ hab ▸ ha)
      · rw [hheld] at hj
        obtain ⟨hne, hj⟩ := held_of_update_none hj
        rw [hdelivered, List.mem_append, List.mem_singleton]
        intro hmem
        rcases hmem with hmem | hl
        · exact ho.fresh j l hj hmem
        · exact hne (ho.single j i l hj (hl ▸ hholds))
      · rw [hheld] at h₁ h₂
        exact ho.single j₁ j₂ l (held_of_update_none h₁).2 (held_of_update_none h₂).2
  | fail i k hholds _ hheld hdelivered =>
      refine ⟨fun _ => trivial, fun _ => ⟨hdelivered ▸ ho.nodup, fun j l hj => ?_,
        fun j₁ j₂ l h₁ h₂ => ?_⟩⟩
      · rw [hheld] at hj
        rw [hdelivered]
        exact ho.fresh j l (held_of_update_none hj).2
      · rw [hheld] at h₁ h₂
        exact ho.single j₁ j₂ l (held_of_update_none h₁).2 (held_of_update_none h₂).2

/-! ## §3. None lost. -/

/-- A slot that is taken stands for a delivery that was made or is about to be. -/
def NoneLost (o : Outbox ι κ) : Prop :=
  ∀ k, o.taken k → k ∈ o.delivered ∨ ∃ i, o.held i = some k

/-- The condition on a move: a delivery fails only for a key whose slot is gone, that was
delivered before, or that another worker holds. -/
def FailsSafely (o : Outbox ι κ) : Move ι κ → Prop
  | .fail i k => o.taken k → k ∈ o.delivered ∨ ∃ j, j ≠ i ∧ o.held j = some k
  | _ => True

/-- Held by a worker that did not move. -/
theorem held_update_of_ne {held : ι → Option κ} {i j : ι} {k : κ}
    {x : Option κ} (hne : j ≠ i) (h : held j = some k) : Function.update held i x j = some k := by
  rw [Function.update_of_ne hne, h]

/-- **None lost, one move.** -/
theorem noneLost_move_iff (ho : o.NoneLost) (h : Moves o m o') : o'.NoneLost ↔ o.FailsSafely m := by
  cases h with
  | forget htaken hheld hdelivered =>
      refine ⟨fun _ => trivial, fun _ k hk => ?_⟩
      rw [hheld, hdelivered]
      exact ho k (htaken k hk)
  | claim i k _ hidle htaken hheld hdelivered =>
      refine ⟨fun _ => trivial, fun _ l hl => ?_⟩
      rw [hheld, hdelivered]
      rcases (htaken l).mp hl with hl | hl
      · rcases ho l hl with hmem | ⟨j, hj⟩
        · exact .inl hmem
        · have hne : j ≠ i := by
            intro hji
            rw [hji, hidle] at hj
            exact absurd hj (by simp)
          exact .inr ⟨j, held_update_of_ne hne hj⟩
      · exact .inr ⟨i, by rw [Function.update_self, hl]⟩
  | deliver i k hholds htaken hheld hdelivered =>
      refine ⟨fun _ => trivial, fun _ l hl => ?_⟩
      rw [hheld, hdelivered, List.mem_append, List.mem_singleton]
      rw [htaken] at hl
      rcases ho l hl with hmem | ⟨j, hj⟩
      · exact .inl (.inl hmem)
      · by_cases hji : j = i
        · -- the key just delivered
          rw [hji, hholds] at hj
          exact .inl (.inr (Option.some.inj hj).symm)
        · exact .inr ⟨j, held_update_of_ne hji hj⟩
  | fail i k hholds htaken hheld hdelivered =>
      constructor
      · intro h' hk
        rcases h' k (by rw [htaken]; exact hk) with hmem | ⟨j, hj⟩
        · exact .inl (hdelivered ▸ hmem)
        · rw [hheld] at hj
          exact .inr ⟨j, held_of_update_none hj⟩
      · intro hsafe l hl
        rw [htaken] at hl
        rw [hheld, hdelivered]
        rcases ho l hl with hmem | ⟨j, hj⟩
        · exact .inl hmem
        · by_cases hji : j = i
          · -- the key just dropped: somebody else has it, or it was delivered
            have hlk : l = k := by
              rw [hji, hholds] at hj
              exact (Option.some.inj hj).symm
            rcases hsafe (hlk ▸ hl) with hmem | ⟨j', hne, hj'⟩
            · exact .inl (hlk ▸ hmem)
            · exact .inr ⟨j', held_update_of_ne hne (hlk ▸ hj')⟩
          · exact .inr ⟨j, held_update_of_ne hji hj⟩

end Step

end Outbox

end Foundation
