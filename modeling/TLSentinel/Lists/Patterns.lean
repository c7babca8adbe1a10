/-
  TLSentinel.Lists.Patterns
  ─────────────────────────
  **WHAT A SEARCHED TEXT MATCHES ONCE IT IS SPLICED INTO A PATTERN.**

  Between two `%`, a text that has no `%`, no `_` and no `\` matches the columns that
  contain it; in front of one, those that start with it.  A text that has one of the
  three matches a column that does not even contain it: its own `literal`, in which
  every wildcard stands for as little as it can.

  Main results:
    * `like_infix`, `like_starting` — the patterns of a text without metacharacters;
    * `exists_like_ne_infix`      — a text with one matches something else.
-/
import TLSentinel.Lists.Queries
import Mathlib.Data.List.Infix

namespace TLSentinel.Lists

/-! ## §1. Patterns that are plain texts. -/

/-- The characters that have a meaning in a pattern. -/
def isMeta (c : Char) : Bool := c = '%' || c = '_' || c = '\\'

/-- No character has a meaning. -/
def Unmarked (s : List Char) : Prop := ∀ c ∈ s, isMeta c = false

instance (s : List Char) : Decidable (Unmarked s) :=
  inferInstanceAs (Decidable (∀ c ∈ s, isMeta c = false))

theorem ne_of_not_isMeta {c : Char} (h : isMeta c = false) : c ≠ '%' ∧ c ≠ '_' ∧ c ≠ '\\' := by
  simpa [isMeta, and_assoc] using h

theorem unmarked_cons {c : Char} {s : List Char} :
    Unmarked (c :: s) ↔ isMeta c = false ∧ Unmarked s := List.forall_mem_cons

theorem like_percent {p s : List Char} :
    like ('%' :: p) s = true ↔ ∃ t, t <:+ s ∧ like p t = true := by
  rw [like.eq_2, List.any_eq_true]
  exact exists_congr fun t => and_congr_left' (List.mem_tails t s)

theorem like_cons {c : Char} (hc : isMeta c = false) {p s : List Char} :
    like (c :: p) s = true ↔ ∃ t, s = c :: t ∧ like p t = true := by
  obtain ⟨hpercent, hunderscore, hbackslash⟩ := ne_of_not_isMeta hc
  cases s with
  | nil =>
      rw [like.eq_7 c p hpercent hunderscore fun _ _ h _ => hbackslash h]
      simp
  | cons d s =>
      rw [like.eq_8 c p d s hpercent hunderscore fun _ _ h _ => hbackslash h, Bool.and_eq_true,
        decide_eq_true_eq]
      constructor
      · rintro ⟨rfl, h⟩
        exact ⟨s, rfl, h⟩
      · rintro ⟨t, ht, h⟩
        injection ht with hd hs
        exact ⟨hd.symm, hs ▸ h⟩

theorem like_append {u : List Char} (hu : Unmarked u) {p s : List Char} :
    like (u ++ p) s = true ↔ ∃ t, s = u ++ t ∧ like p t = true := by
  induction u generalizing s with
  | nil =>
      constructor
      · exact fun h => ⟨s, rfl, h⟩
      · rintro ⟨t, rfl, h⟩
        exact h
  | cons c u ih =>
      obtain ⟨hc, hu⟩ := unmarked_cons.mp hu
      rw [List.cons_append, like_cons hc]
      constructor
      · rintro ⟨t, rfl, h⟩
        obtain ⟨t', rfl, h'⟩ := (ih hu).mp h
        exact ⟨t', rfl, h'⟩
      · rintro ⟨t, rfl, h⟩
        exact ⟨u ++ t, rfl, (ih hu).mpr ⟨t, rfl, h⟩⟩

/-- A single `%` matches everything. -/
theorem like_percent_nil (s : List Char) : like ['%'] s = true :=
  like_percent.mpr ⟨[], List.nil_suffix, by rw [like.eq_1]; rfl⟩

/-- **`u%` matches the texts that start with `u`.** -/
theorem like_starting {u : List Char} (hu : Unmarked u) {s : List Char} :
    like (u ++ ['%']) s = true ↔ u <+: s := by
  rw [like_append hu]
  constructor
  · rintro ⟨t, rfl, -⟩
    exact List.prefix_append u t
  · rintro ⟨t, rfl⟩
    exact ⟨t, rfl, like_percent_nil t⟩

/-- **`%u%` matches the texts that contain `u`.** -/
theorem like_infix {u : List Char} (hu : Unmarked u) {s : List Char} :
    like ('%' :: (u ++ ['%'])) s = true ↔ u <:+: s := by
  rw [like_percent]
  constructor
  · rintro ⟨t, ht, h⟩
    exact ((like_starting hu).mp h).isInfix.trans ht.isInfix
  · rintro ⟨a, b, rfl⟩
    refine ⟨u ++ b, ⟨a, (List.append_assoc a u b).symm⟩, (like_starting hu).mpr ?_⟩
    exact List.prefix_append u b

/-! ## §2. Patterns with a metacharacter. -/

/-- A text that a pattern matches: nothing for a `%`, some character for a `_`, and the
character after a `\`. -/
def literal : List Char → List Char
  | [] => []
  | '%' :: p => literal p
  | '_' :: p => '%' :: literal p
  | '\\' :: c :: p => c :: literal p
  | c :: p => c :: literal p

theorem like_literal (p : List Char) : like p (literal p) = true := by
  induction p using literal.induct with
  | case1 => rfl
  | case2 p ih =>
      rw [literal]
      exact like_percent.mpr ⟨literal p, List.suffix_rfl, ih⟩
  | case3 p ih =>
      rw [literal, like]
      exact ih
  | case4 c p ih =>
      rw [literal, like, ih]
      simp
  | case5 c p hpercent hunderscore hbackslash ih =>
      rw [literal.eq_5 c p hpercent hunderscore hbackslash,
        like.eq_8 c p c _ hpercent hunderscore hbackslash, ih]
      simp

theorem length_literal_append_percent_le (s : List Char) :
    (literal (s ++ ['%'])).length ≤ s.length := by
  induction s using literal.induct with
  | case1 => exact Nat.le_refl 0
  | case2 p ih =>
      rw [List.cons_append, literal, List.length_cons]
      omega
  | case3 p ih =>
      rw [List.cons_append, literal, List.length_cons, List.length_cons]
      omega
  | case4 c p ih =>
      rw [List.cons_append, List.cons_append, literal, List.length_cons, List.length_cons,
        List.length_cons]
      omega
  | case5 c p hpercent hunderscore hbackslash ih =>
      by_cases hc : c = '\\'
      · -- the `%` is what the backslash takes literally
        cases p with
        | nil =>
            subst hc
            exact Nat.le_refl 1
        | cons d p => exact (hbackslash d p hc rfl).elim
      · rw [List.cons_append, literal.eq_5 c _ hpercent hunderscore fun _ _ h _ => hc h,
          List.length_cons, List.length_cons]
        omega

/-- In front of a `%`, a text with a metacharacter is not its own literal. -/
theorem literal_append_percent_ne {s : List Char} (hs : ¬Unmarked s) :
    literal (s ++ ['%']) ≠ s := by
  induction s using literal.induct with
  | case1 => exact absurd (fun c hc => absurd hc List.not_mem_nil) hs
  | case2 p ih =>
      intro h
      have hlen := length_literal_append_percent_le p
      rw [List.cons_append, literal] at h
      rw [h, List.length_cons] at hlen
      omega
  | case3 p ih =>
      rw [List.cons_append, literal]
      intro h
      injection h with hhead
      exact absurd hhead (by decide)
  | case4 c p ih =>
      intro h
      have hlen := length_literal_append_percent_le p
      rw [List.cons_append, List.cons_append, literal] at h
      injection h with hhead htail
      rw [htail, List.length_cons] at hlen
      omega
  | case5 c p hpercent hunderscore hbackslash ih =>
      by_cases hc : c = '\\'
      · cases p with
        | nil =>
            subst hc
            decide
        | cons d p => exact (hbackslash d p hc rfl).elim
      · rw [List.cons_append, literal.eq_5 c _ hpercent hunderscore fun _ _ h _ => hc h]
        intro h
        injection h with _ htail
        have hplain : isMeta c = false := by
          simpa [isMeta] using And.intro (And.intro hpercent hunderscore) hc
        exact ih (fun hp => hs (unmarked_cons.mpr ⟨hplain, hp⟩)) htail

/-- **A text with a metacharacter matches something else** than the texts that contain it. -/
theorem exists_like_ne_infix {s : List Char} (hs : ¬Unmarked s) :
    like ('%' :: (s ++ ['%'])) (literal (s ++ ['%'])) = true ∧ ¬s <:+: literal (s ++ ['%']) := by
  refine ⟨like_percent.mpr ⟨_, List.suffix_rfl, like_literal _⟩, fun h => ?_⟩
  have heq := h.eq_of_length_le (length_literal_append_percent_le s)
  exact literal_append_percent_ne hs heq.symm

/-! ## §3. Lower case. -/

/-- A function on characters that keeps the metacharacters, and makes no others. -/
structure KeepsMeta (f : Char → Char) : Prop where
  fixes : ∀ c, isMeta c = true → f c = c
  reflects : ∀ c, isMeta (f c) = true → isMeta c = true

theorem KeepsMeta.unmarked_map {f : Char → Char} (hf : KeepsMeta f) {s : List Char} :
    Unmarked (s.map f) ↔ Unmarked s := by
  refine List.forall_mem_map.trans (forall₂_congr fun c _ => ?_)
  have hiff : isMeta (f c) = true ↔ isMeta c = true :=
    ⟨hf.reflects c, fun h => (hf.fixes c h).symm ▸ h⟩
  rw [← Bool.not_eq_true, hiff, Bool.not_eq_true]

theorem KeepsMeta.map_literal {f : Char → Char} (hf : KeepsMeta f) (s : List Char) :
    (literal s).map f = literal (s.map f) := by
  induction s using literal.induct with
  | case1 => rfl
  | case2 p ih => rw [literal, List.map_cons, hf.fixes '%' rfl, literal, ih]
  | case3 p ih =>
      rw [literal, List.map_cons, List.map_cons, hf.fixes '%' rfl, hf.fixes '_' rfl, literal, ih]
  | case4 c p ih =>
      rw [literal, List.map_cons, List.map_cons, List.map_cons, hf.fixes '\\' rfl, literal, ih]
  | case5 c p hpercent hunderscore hbackslash ih =>
      have hne : ∀ m, isMeta m = true → (c = m → False) → f c = m → False := by
        intro m hm hcm hfc
        have hmeta := hf.reflects c (hfc ▸ hm)
        exact hcm ((hf.fixes c hmeta).symm.trans hfc)
      rw [literal.eq_5 c p hpercent hunderscore hbackslash, List.map_cons, List.map_cons, ih,
        literal.eq_5 (f c) _ (hne '%' rfl hpercent) (hne '_' rfl hunderscore)]
      intro d q hfc hp
      cases p with
      | nil => cases hp
      | cons e p => exact hne '\\' rfl (fun h => hbackslash e p h rfl) hfc

end TLSentinel.Lists
