/-
  Foundation.Pieces
  ─────────────────
  **THE PIECES OF A TEXT BETWEEN SEPARATORS, AND SEPARATORS IN A ROW.**

  A text is its pieces, joined.  An empty piece is a separator at either end, or two in a
  row.  A search for two in a row that starts after each find counts them without
  overlaps.

  Main results:
    * `isTight_iff`         — when no piece is empty;
    * `exists_first_double` — the first two separators in a row;
    * `doubles_append`      — what the search counts from there;
    * `isTight_around_iff`  — when nothing is astray around them.
-/
import Mathlib.Data.List.Basic
import Mathlib.Data.List.Infix

namespace Foundation.Pieces

variable {α : Type*} [DecidableEq α] {c : α}

/-! ## §1. Joining and splitting. -/

omit [DecidableEq α] in
theorem intercalate_append {as bs : List (List α)} (ha : as ≠ []) (hb : bs ≠ []) :
    [c].intercalate (as ++ bs) = [c].intercalate as ++ c :: [c].intercalate bs := by
  induction as with
  | nil => exact absurd rfl ha
  | cons a as ih =>
      cases as with
      | nil =>
          obtain ⟨b, bs, rfl⟩ := List.exists_cons_of_ne_nil hb
          rw [List.singleton_append, List.intercalate_cons_cons, List.intercalate_singleton,
            List.append_assoc, List.singleton_append]
      | cons a' as =>
          have hrest := ih (List.cons_ne_nil _ _)
          rw [List.cons_append] at hrest
          rw [List.cons_append, List.cons_append, List.intercalate_cons_cons, hrest,
            List.intercalate_cons_cons, List.append_assoc, List.append_assoc, List.append_assoc]

theorem splitOn_cons_self (c : α) (s : List α) : (c :: s).splitOn c = [] :: s.splitOn c := by
  have happend := List.splitOn_append_cons_self (a := c) [] s
  rwa [List.splitOn_nil] at happend

section Joining

omit [DecidableEq α]

variable {sep : List α} {ps : List (List α)}

theorem mem_intercalate {d : α} (h : d ∈ [c].intercalate ps) : d = c ∨ ∃ p ∈ ps, d ∈ p := by
  induction ps with
  | nil => exact absurd h List.not_mem_nil
  | cons p ps ih =>
      cases ps with
      | nil =>
          rw [List.intercalate_singleton] at h
          exact Or.inr ⟨p, List.mem_cons_self, h⟩
      | cons p' ps =>
          rw [List.intercalate_cons_cons, List.append_assoc, List.mem_append,
            List.singleton_append, List.mem_cons] at h
          rcases h with h | h | h
          · exact Or.inr ⟨p, List.mem_cons_self, h⟩
          · exact Or.inl h
          · exact (ih h).imp_right fun ⟨t, ht, hd⟩ => ⟨t, List.mem_cons_of_mem p ht, hd⟩

/-- Two pieces have a separator between them. -/
theorem sep_mem_intercalate (h : 2 ≤ ps.length) : c ∈ [c].intercalate ps := by
  match ps, h with
  | p :: p' :: ps, _ =>
      rw [List.intercalate_cons_cons, List.append_assoc]
      exact List.mem_append_right _ List.mem_cons_self

/-- A piece stands in the text as it is. -/
theorem infix_intercalate {p : List α} (h : p ∈ ps) : p <:+: sep.intercalate ps := by
  induction ps with
  | nil => exact absurd h List.not_mem_nil
  | cons q ps ih =>
      cases ps with
      | nil =>
          obtain rfl := List.mem_singleton.mp h
          rw [List.intercalate_singleton]
      | cons q' ps =>
          rw [List.intercalate_cons_cons, List.append_assoc]
          rcases List.mem_cons.mp h with rfl | h
          · exact List.infix_append_left
          · exact List.infix_append_of_infix_right (List.infix_append_of_infix_right (ih h))

/-- A separator of which nothing is kept leaves what is kept of the pieces. -/
theorem filter_intercalate {p : α → Bool} (hsep : ∀ d ∈ sep, p d = false) :
    (sep.intercalate ps).filter p = ps.flatMap fun piece => piece.filter p := by
  have hnil : sep.filter p = [] :=
    List.filter_eq_nil_iff.mpr fun d hd => by rw [hsep d hd]; exact Bool.false_ne_true
  induction ps with
  | nil => rfl
  | cons piece ps ih =>
      cases ps with
      | nil => rw [List.intercalate_singleton, List.flatMap_singleton]
      | cons next ps =>
          rw [List.intercalate_cons_cons, List.filter_append, List.filter_append, hnil, ih,
            List.append_nil]
          rfl

theorem map_intercalate {β : Type*} (f : α → β) :
    (sep.intercalate ps).map f = (sep.map f).intercalate (ps.map (List.map f)) := by
  induction ps with
  | nil => rfl
  | cons piece ps ih =>
      cases ps with
      | nil => rw [List.intercalate_singleton, List.map_singleton, List.intercalate_singleton]
      | cons next ps =>
          rw [List.intercalate_cons_cons, List.map_append, List.map_append, ih, List.map_cons,
            List.map_cons, List.map_cons, List.intercalate_cons_cons]

end Joining

/-! ## §2. Texts without empty pieces. -/

/-- No separator at either end, and no two in a row. -/
structure IsTight (c : α) (s : List α) : Prop where
  head : s.head? ≠ some c
  last : s.getLast? ≠ some c
  single : ¬[c, c] <:+: s

/-- **When no piece is empty**, the text without characters apart. -/
theorem isTight_iff {s : List α} : IsTight c s ↔ s = [] ∨ [] ∉ s.splitOn c := by
  constructor
  · intro h
    rw [or_iff_not_imp_right, not_not]
    intro hmem
    obtain ⟨as, bs, hpieces⟩ := List.append_of_mem hmem
    have hs : [c].intercalate (s.splitOn c) = s := List.intercalate_splitOn c
    rw [hpieces] at hs
    by_cases ha : as = []
    · by_cases hb : bs = []
      · rw [ha, hb] at hs
        exact hs.symm
      · obtain ⟨b, bs, rfl⟩ := List.exists_cons_of_ne_nil hb
        rw [ha, List.nil_append, List.intercalate_cons_cons, List.nil_append] at hs
        exact absurd (by rw [← hs]; rfl) h.head
    · rw [intercalate_append ha (List.cons_ne_nil _ _)] at hs
      by_cases hb : bs = []
      · rw [hb, List.intercalate_singleton] at hs
        exact absurd (by rw [← hs, List.getLast?_concat]) h.last
      · obtain ⟨b, bs, rfl⟩ := List.exists_cons_of_ne_nil hb
        rw [List.intercalate_cons_cons, List.nil_append] at hs
        refine absurd ⟨[c].intercalate as, [c].intercalate (b :: bs), ?_⟩ h.single
        rw [← hs, List.append_assoc]
        rfl
  · rintro (rfl | hmem)
    · refine ⟨nofun, nofun, fun h => ?_⟩
      exact absurd (List.eq_nil_of_infix_nil h) (List.cons_ne_nil _ _)
    · refine ⟨fun h => hmem ?_, fun h => hmem ?_, fun h => hmem ?_⟩
      · obtain ⟨t, rfl⟩ := List.head?_eq_some_iff.mp h
        rw [splitOn_cons_self]
        exact List.mem_cons_self
      · obtain ⟨t, rfl⟩ := List.getLast?_eq_some_iff.mp h
        rw [List.splitOn_append_cons_self, List.splitOn_nil]
        exact List.mem_append_right _ List.mem_cons_self
      · obtain ⟨a, b, rfl⟩ := h
        rw [List.append_assoc, List.cons_append, List.cons_append, List.nil_append,
          List.splitOn_append_cons_self, splitOn_cons_self]
        exact List.mem_append_right _ List.mem_cons_self

/-- Pieces that are not empty, joined. -/
theorem isTight_intercalate {ps : List (List α)} (h : ∀ p ∈ ps, p ≠ [] ∧ c ∉ p) :
    IsTight c ([c].intercalate ps) := by
  refine isTight_iff.mpr ?_
  by_cases hps : ps = []
  · rw [hps]
    exact Or.inl rfl
  · rw [List.splitOn_intercalate c (fun p hp => (h p hp).2) hps]
    exact Or.inr fun hmem => (h [] hmem).1 rfl

/-! ## §3. Two separators in a row. -/

/-- How often two separators in a row are found, if the search goes on after them. -/
def doubles (c : α) : List α → Nat
  | a :: b :: s => if a = c ∧ b = c then doubles c s + 1 else doubles c (b :: s)
  | _ => 0

/-- Where the first two stand. -/
theorem exists_first_double {s : List α} (h : [c, c] <:+: s) :
    ∃ a b, s = a ++ c :: c :: b ∧ ¬[c, c] <:+: a ++ [c] := by
  induction s with
  | nil => exact absurd (List.eq_nil_of_infix_nil h) (List.cons_ne_nil _ _)
  | cons d s ih =>
      by_cases hhead : [c, c] <+: d :: s
      · obtain ⟨b, hb⟩ := hhead
        refine ⟨[], b, hb.symm, fun hinfix => ?_⟩
        exact absurd hinfix.length_le (by simp)
      · obtain ⟨a, b, rfl, hfirst⟩ := ih ((List.infix_cons_iff.mp h).resolve_left hhead)
        refine ⟨d :: a, b, rfl, fun hinfix => ?_⟩
        rw [List.cons_append] at hinfix
        rcases List.infix_cons_iff.mp hinfix with hpre | hinfix
        · refine hhead (hpre.trans ?_)
          refine List.cons_prefix_cons.mpr ⟨rfl, ⟨c :: b, ?_⟩⟩
          rw [List.append_assoc]
          rfl
        · exact hfirst hinfix

theorem doubles_eq_zero_iff {s : List α} : doubles c s = 0 ↔ ¬[c, c] <:+: s := by
  fun_induction doubles c s with
  | case1 a b s hab ih =>
      obtain ⟨rfl, rfl⟩ := hab
      refine ⟨fun h => absurd h (Nat.succ_ne_zero _), fun h => absurd ⟨[], s, rfl⟩ h⟩
  | case2 a b s hab ih =>
      rw [ih, List.infix_cons_iff (a := a), not_or]
      refine ⟨fun h => ⟨fun hpre => hab ?_, h⟩, And.right⟩
      obtain ⟨h₁, h₂⟩ := List.cons_prefix_cons.mp hpre
      exact ⟨h₁.symm, (List.cons_prefix_cons.mp h₂).1.symm⟩
  | case3 s hshort =>
      refine ⟨fun _ h => ?_, fun _ => rfl⟩
      have hlen := h.length_le
      match s, hshort with
      | [], _ => exact absurd hlen (by simp)
      | [a], _ => exact absurd hlen (by simp)
      | a :: b :: s, hshort => exact hshort a b s rfl

/-- **What the search counts** from the first two on. -/
theorem doubles_append {a b : List α} (h : ¬[c, c] <:+: a ++ [c]) :
    doubles c (a ++ c :: c :: b) = doubles c b + 1 := by
  induction a with
  | nil =>
      rw [List.nil_append, doubles, if_pos ⟨rfl, rfl⟩]
  | cons d a ih =>
      rw [List.cons_append, List.infix_cons_iff, not_or] at h
      rw [← ih h.2, List.cons_append]
      -- the search passes the first character
      cases a with
      | nil =>
          have hd : d ≠ c := by
            rintro rfl
            exact h.1 (List.prefix_refl _)
          rw [List.nil_append, doubles, if_neg fun hdc => hd hdc.1]
      | cons e a =>
          have hde : ¬(d = c ∧ e = c) := by
            rintro ⟨rfl, rfl⟩
            exact h.1 ⟨a ++ [e], rfl⟩
          rw [List.cons_append, doubles, if_neg hde]

/-! ## §4. Separators at the ends, and three in a row. -/

/-- The separator at the start of a text is not one of two. -/
def StartsAlone (c : α) (s : List α) : Prop := s.head? = some c ∧ ¬[c, c] <+: s

/-- The separator at the end of a text is not one of two. -/
def EndsAlone (c : α) (s : List α) : Prop := s.getLast? = some c ∧ ¬[c, c] <:+ s

omit [DecidableEq α] in
theorem isTight_of_not_double {s : List α} (h : ¬[c, c] <:+: s) (hstarts : ¬StartsAlone c s)
    (hends : ¬EndsAlone c s) : IsTight c s where
  head := fun hhead => hstarts ⟨hhead, fun hpre => h hpre.isInfix⟩
  last := fun hlast => hends ⟨hlast, fun hsuf => h hsuf.isInfix⟩
  single := h

omit [DecidableEq α] in
/-- What stands around two in a row may keep them from being three. -/
theorem not_triple {a b : List α} (ha : ¬[c, c] <:+: a ++ [c]) (hhead : b.head? ≠ some c)
    (hb : ¬[c, c] <:+: b) : ¬[c, c, c] <:+: a ++ c :: c :: b := by
  have hstart : ¬[c, c] <+: c :: b := by
    intro hpre
    obtain ⟨t, rfl⟩ := (List.cons_prefix_cons.mp hpre).2
    exact hhead rfl
  have htwo : [c, c] <+: [c, c, c] := ⟨[c], rfl⟩
  induction a with
  | nil =>
      intro h
      rcases List.infix_cons_iff.mp h with hpre | h
      · exact hstart (List.cons_prefix_cons.mp hpre).2
      · rcases List.infix_cons_iff.mp h with hpre | h
        · exact hstart (htwo.trans hpre)
        · exact hb (htwo.isInfix.trans h)
  | cons d a ih =>
      rw [List.cons_append, List.infix_cons_iff, not_or] at ha
      intro h
      rcases List.infix_cons_iff.mp h with hpre | h
      · refine ha.1 ?_
        obtain ⟨rfl, hrest⟩ := List.cons_prefix_cons.mp hpre
        refine List.cons_prefix_cons.mpr ⟨rfl, ?_⟩
        cases a with
        | nil => exact List.prefix_refl _
        | cons e a =>
            obtain ⟨rfl, -⟩ := List.cons_prefix_cons.mp hrest
            exact ⟨a ++ [c], rfl⟩
      · exact ih ha.2 h

omit [DecidableEq α] in
theorem concat_suffix_concat {s : List α} (h : [c, c] <:+ s ++ [c]) : s.getLast? = some c := by
  obtain ⟨u, hu⟩ := h
  have hends : u ++ [c] ++ [c] = s ++ [c] := by
    rw [List.append_assoc]
    exact hu
  rw [← List.append_cancel_right hends, List.getLast?_concat]

omit [DecidableEq α] in
/-- A separator after a tight text is not one of two. -/
theorem IsTight.first {a : List α} (h : IsTight c a) : ¬[c, c] <:+: a ++ [c] := by
  intro hin
  rcases List.infix_concat_iff.mp hin with hsuf | hin
  · exact h.last (concat_suffix_concat hsuf)
  · exact h.single hin

omit [DecidableEq α] in
/-- **Two in a row with nothing astray around them**: neither end has one alone, and there are
no three, if both sides are tight. -/
theorem isTight_around_iff {a b : List α} (hfirst : ¬[c, c] <:+: a ++ [c]) (hb : ¬[c, c] <:+: b) :
    (¬StartsAlone c (a ++ c :: c :: b) ∧ ¬EndsAlone c (a ++ c :: c :: b) ∧
      ¬[c, c, c] <:+: a ++ c :: c :: b) ↔ IsTight c a ∧ IsTight c b := by
  have ha : ¬[c, c] <:+: a := fun h => hfirst (h.trans (List.prefix_append a [c]).isInfix)
  have hlastA : a.getLast? ≠ some c := by
    intro hlast
    obtain ⟨t, rfl⟩ := List.getLast?_eq_some_iff.mp hlast
    refine hfirst ⟨t, [], ?_⟩
    rw [List.append_nil, List.append_assoc]
    rfl
  constructor
  · rintro ⟨hstarts, hends, htriple⟩
    refine ⟨⟨fun hhead => ?_, hlastA, ha⟩, ⟨fun hhead => ?_, fun hlast => ?_, hb⟩⟩
    · obtain ⟨t, rfl⟩ := List.head?_eq_some_iff.mp hhead
      refine hstarts ⟨rfl, fun hpre => ?_⟩
      cases t with
      | nil => exact hlastA rfl
      | cons d t =>
          obtain ⟨rfl, -⟩ := List.cons_prefix_cons.mp (List.cons_prefix_cons.mp hpre).2
          exact ha ⟨[], t, rfl⟩
    · obtain ⟨t, rfl⟩ := List.head?_eq_some_iff.mp hhead
      refine htriple ⟨a, t, ?_⟩
      rw [List.append_assoc]
      rfl
    · obtain ⟨t, rfl⟩ := List.getLast?_eq_some_iff.mp hlast
      have hend : a ++ c :: c :: (t ++ [c]) = a ++ c :: c :: t ++ [c] := by
        rw [List.append_assoc]
        rfl
      rw [hend] at hends htriple
      refine hends ⟨List.getLast?_concat, fun hsuf => ?_⟩
      have hlastT := concat_suffix_concat hsuf
      rcases List.eq_nil_or_concat' t with rfl | ⟨v, d, rfl⟩
      · exact htriple ⟨a, [], by rw [List.append_nil, List.append_assoc]; rfl⟩
      · rw [← List.cons_append, ← List.cons_append, ← List.append_assoc,
          List.getLast?_concat] at hlastT
        refine hb ⟨v, [], ?_⟩
        rw [List.append_nil, ← Option.some.inj hlastT, List.append_assoc]
        rfl
  · rintro ⟨htightA, htightB⟩
    refine ⟨fun hstarts => ?_, fun hends => ?_, not_triple hfirst htightB.head hb⟩
    · cases a with
      | nil => exact hstarts.2 ⟨b, rfl⟩
      | cons d a => exact htightA.head hstarts.1
    · rcases List.eq_nil_or_concat' b with rfl | ⟨v, d, rfl⟩
      · exact hends.2 ⟨a, rfl⟩
      · have hlast := hends.1
        rw [← List.cons_append, ← List.cons_append, ← List.append_assoc,
          List.getLast?_concat] at hlast
        exact htightB.last (by rw [List.getLast?_concat, hlast])

end Foundation.Pieces
