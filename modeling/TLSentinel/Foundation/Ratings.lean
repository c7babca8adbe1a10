/-
  Foundation.Ratings
  ──────────────────
  **BEST AND WORST OF A LIST, AND GRADES UNDER CAPS.**

  A loop that keeps the best and the worst value it has seen is a fold; what it ends
  with is known by the values below the worst and above the best, so that it depends
  on the members of the list alone.  A grade under caps is the grade lowered to each
  cap in turn; its rank is the least of all ranks, so that the order of the caps does
  not matter.

  Main results:
    * `extremes_congr`        — neither order nor repetitions count;
    * `extremes_fst_mono`, `extremes_snd_anti` — more members, wider extremes;
    * `le_rank_capped_iff`    — the rank of a capped grade;
    * `capped_mem`            — a capped grade is the grade itself or one of the caps.
-/
import Mathlib.Order.Lattice
import Mathlib.Order.Defs.LinearOrder

namespace Foundation

variable {α β γ : Type*} [LinearOrder β]

/-! ## §1. Best and worst. -/

section Extremes

variable (f : α → β)

/-- One round: a better value replaces the best, a worse one the worst. -/
def extremesStep (bw : β × β) (a : α) : β × β :=
  (if bw.1 < f a then f a else bw.1, if f a < bw.2 then f a else bw.2)

/-- The loop over a list, from what it starts with. -/
def extremes (bw : β × β) (l : List α) : β × β := l.foldl (extremesStep f) bw

variable {f} {bw : β × β} {l l' : List α} {c : β}

theorem extremesStep_fst_le_iff {a : α} :
    (extremesStep f bw a).1 ≤ c ↔ bw.1 ≤ c ∧ f a ≤ c := by
  unfold extremesStep
  by_cases h : bw.1 < f a
  · simp only [h, if_true]
    exact ⟨fun ha => ⟨h.le.trans ha, ha⟩, And.right⟩
  · simp only [h, if_false]
    exact ⟨fun hb => ⟨hb, (not_lt.mp h).trans hb⟩, And.left⟩

theorem le_extremesStep_snd_iff {a : α} :
    c ≤ (extremesStep f bw a).2 ↔ c ≤ bw.2 ∧ c ≤ f a := by
  unfold extremesStep
  by_cases h : f a < bw.2
  · simp only [h, if_true]
    exact ⟨fun ha => ⟨ha.trans h.le, ha⟩, And.right⟩
  · simp only [h, if_false]
    exact ⟨fun hb => ⟨hb, hb.trans (not_lt.mp h)⟩, And.left⟩

/-- **What bounds the best bounds every member.** -/
theorem extremes_fst_le_iff :
    (extremes f bw l).1 ≤ c ↔ bw.1 ≤ c ∧ ∀ a ∈ l, f a ≤ c := by
  unfold extremes
  induction l generalizing bw with
  | nil => simp
  | cons a l ih =>
      rw [List.foldl_cons, ih, extremesStep_fst_le_iff, List.forall_mem_cons, and_assoc]

/-- **What the worst bounds from above, every member does.** -/
theorem le_extremes_snd_iff :
    c ≤ (extremes f bw l).2 ↔ c ≤ bw.2 ∧ ∀ a ∈ l, c ≤ f a := by
  unfold extremes
  induction l generalizing bw with
  | nil => simp
  | cons a l ih =>
      rw [List.foldl_cons, ih, le_extremesStep_snd_iff, List.forall_mem_cons, and_assoc]

theorem le_extremes_fst {a : α} (ha : a ∈ l) : f a ≤ (extremes f bw l).1 :=
  (extremes_fst_le_iff.mp le_rfl).2 a ha

theorem extremes_snd_le {a : α} (ha : a ∈ l) : (extremes f bw l).2 ≤ f a :=
  (le_extremes_snd_iff.mp le_rfl).2 a ha

theorem extremes_fst_mono (h : ∀ a ∈ l, a ∈ l') :
    (extremes f bw l).1 ≤ (extremes f bw l').1 := by
  rw [extremes_fst_le_iff]
  exact ⟨(extremes_fst_le_iff.mp le_rfl).1, fun a ha => le_extremes_fst (h a ha)⟩

theorem extremes_snd_anti (h : ∀ a ∈ l, a ∈ l') :
    (extremes f bw l').2 ≤ (extremes f bw l).2 := by
  rw [le_extremes_snd_iff]
  exact ⟨(le_extremes_snd_iff.mp le_rfl).1, fun a ha => extremes_snd_le (h a ha)⟩

/-- **Neither order nor repetitions count.** -/
theorem extremes_congr (h : ∀ a, a ∈ l ↔ a ∈ l') : extremes f bw l = extremes f bw l' := by
  apply Prod.ext
  · exact le_antisymm (extremes_fst_mono fun a => (h a).mp) (extremes_fst_mono fun a => (h a).mpr)
  · exact le_antisymm (extremes_snd_anti fun a => (h a).mpr) (extremes_snd_anti fun a => (h a).mp)

/-- Seen through a function, a list has the extremes of what is seen. -/
theorem extremes_map (g : γ → α) (f : α → β) (bw : β × β) (l : List γ) :
    extremes f bw (l.map g) = extremes (fun c => f (g c)) bw l := by
  unfold extremes
  rw [List.foldl_map]
  rfl

/-- A member that is no better than another leaves the best as it was. -/
theorem extremes_cons_fst {a b : α} (hb : b ∈ l) (hab : f a ≤ f b) :
    (extremes f bw (a :: l)).1 = (extremes f bw l).1 := by
  apply le_antisymm
  · rw [extremes_fst_le_iff, List.forall_mem_cons]
    obtain ⟨hbw, hl⟩ := extremes_fst_le_iff.mp (le_refl (extremes f bw l).1)
    exact ⟨hbw, hab.trans (hl b hb), hl⟩
  · exact extremes_fst_mono fun c hc => List.mem_cons_of_mem _ hc

/-- The best is what the loop started with or the value of a member. -/
theorem extremes_fst_mem (f : α → β) (bw : β × β) (l : List α) :
    (extremes f bw l).1 = bw.1 ∨ ∃ a ∈ l, (extremes f bw l).1 = f a := by
  induction l generalizing bw with
  | nil => exact Or.inl rfl
  | cons a l ih =>
      have hcons : extremes f bw (a :: l) = extremes f (extremesStep f bw a) l := rfl
      rw [hcons]
      obtain h | ⟨b, hb, h⟩ := ih (extremesStep f bw a)
      · by_cases hlt : bw.1 < f a
        · exact Or.inr ⟨a, List.mem_cons_self, h.trans (if_pos hlt)⟩
        · exact Or.inl (h.trans (if_neg hlt))
      · exact Or.inr ⟨b, List.mem_cons_of_mem _ hb, h⟩

/-- The worst is what the loop started with or the value of a member. -/
theorem extremes_snd_mem (f : α → β) (bw : β × β) (l : List α) :
    (extremes f bw l).2 = bw.2 ∨ ∃ a ∈ l, (extremes f bw l).2 = f a := by
  induction l generalizing bw with
  | nil => exact Or.inl rfl
  | cons a l ih =>
      have hcons : extremes f bw (a :: l) = extremes f (extremesStep f bw a) l := rfl
      rw [hcons]
      obtain h | ⟨b, hb, h⟩ := ih (extremesStep f bw a)
      · by_cases hlt : f a < bw.2
        · exact Or.inr ⟨a, List.mem_cons_self, h.trans (if_pos hlt)⟩
        · exact Or.inl (h.trans (if_neg hlt))
      · exact Or.inr ⟨b, List.mem_cons_of_mem _ hb, h⟩

end Extremes

/-! ## §2. Caps. -/

section Caps

variable (rank : γ → β)

/-- The lower of a grade and a cap; the grade where they are level. -/
def capAt (g c : γ) : γ := if rank c < rank g then c else g

/-- A grade lowered to each cap in turn. -/
def capped (g : γ) (caps : List γ) : γ := caps.foldl (capAt rank) g

variable {rank} {g : γ} {caps : List γ} {n : β}

theorem le_rank_capAt_iff {c : γ} : n ≤ rank (capAt rank g c) ↔ n ≤ rank g ∧ n ≤ rank c := by
  unfold capAt
  by_cases h : rank c < rank g
  · simp only [h, if_true]
    exact ⟨fun hc => ⟨hc.trans h.le, hc⟩, And.right⟩
  · simp only [h, if_false]
    exact ⟨fun hg => ⟨hg, hg.trans (not_lt.mp h)⟩, And.left⟩

/-- **The rank of a capped grade is the least of the ranks.** -/
theorem le_rank_capped_iff :
    n ≤ rank (capped rank g caps) ↔ n ≤ rank g ∧ ∀ c ∈ caps, n ≤ rank c := by
  unfold capped
  induction caps generalizing g with
  | nil => simp
  | cons c caps ih =>
      rw [List.foldl_cons, ih, le_rank_capAt_iff, List.forall_mem_cons, and_assoc]

theorem rank_capped_le : rank (capped rank g caps) ≤ rank g :=
  (le_rank_capped_iff.mp le_rfl).1

theorem rank_capped_le_of_mem {c : γ} (hc : c ∈ caps) : rank (capped rank g caps) ≤ rank c :=
  (le_rank_capped_iff.mp le_rfl).2 c hc

/-- Caps that are no lower than the grade leave it alone. -/
theorem capped_eq_self (h : ∀ c ∈ caps, rank g ≤ rank c) : capped rank g caps = g := by
  unfold capped
  induction caps with
  | nil => rfl
  | cons c caps ih =>
      obtain ⟨hc, hcaps⟩ := List.forall_mem_cons.mp h
      have hg : capAt rank g c = g := if_neg (not_lt.mpr hc)
      rw [List.foldl_cons, hg]
      exact ih hcaps

/-- A capped grade is the grade itself or one of the caps. -/
theorem capped_mem : capped rank g caps ∈ g :: caps := by
  unfold capped
  induction caps generalizing g with
  | nil => exact List.mem_cons_self
  | cons c caps ih =>
      rw [List.foldl_cons]
      obtain h | h := List.mem_cons.mp (ih (g := capAt rank g c))
      · rw [h]
        unfold capAt
        by_cases hlt : rank c < rank g
        · simp [hlt]
        · simp [hlt]
      · exact List.mem_cons_of_mem _ (List.mem_cons_of_mem _ h)

end Caps

end Foundation
