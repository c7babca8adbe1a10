/-
  Foundation.Paging
  ─────────────────
  **PAGES OF A SORTED QUERY, AND WHEN THEY ADD UP TO IT.**

  A query with ORDER BY may return rows that tie in any order, and another one
  the next time it runs.  Here an order is a total preorder (`OrderBy`), an answer
  is an arrangement of the rows that it sorts (`Listed`), and a page is what
  LIMIT and OFFSET cut out of an answer; every page is cut out of an answer of
  its own.

  A row has `before` rows strictly before it and `upto` rows not after it: its ties
  fill the places from the one to the other, in whatever order.

  Main results:
    * `filter_lt_append`  — a sorted list around the ties of one row;
    * `page_eq_filter`    — without ties across a page boundary, which rows a page
                            holds does not depend on the answer;
    * `complete_iff`      — the pages list every row exactly once, whatever the
                            answers, exactly if no ties lie across a boundary;
    * `countP_take_eq_one_iff` — when the first rows of every answer hold exactly one
                            of some rows that tie.
-/
import Mathlib.Data.List.Nodup
import Mathlib.Data.List.Perm.Basic
import Mathlib.Order.Lattice

namespace Foundation

/-! ## §1. Orders. -/

/-- What an ORDER BY clause compares rows by. -/
structure OrderBy (ρ : Type*) where
  le : ρ → ρ → Bool
  trans : ∀ a b c, le a b = true → le b c = true → le a c = true
  total : ∀ a b, (le a b || le b a) = true

namespace OrderBy

variable {ρ κ : Type*}

/-- `ORDER BY key ASC`. -/
def asc [LinearOrder κ] (key : ρ → κ) : OrderBy ρ where
  le a b := decide (key a ≤ key b)
  trans a b c hab hbc :=
    decide_eq_true (le_trans (of_decide_eq_true hab) (of_decide_eq_true hbc))
  total a b := by
    rw [Bool.or_eq_true, decide_eq_true_eq, decide_eq_true_eq]
    exact le_total _ _

/-- `ORDER BY key DESC`. -/
def desc [LinearOrder κ] (key : ρ → κ) : OrderBy ρ where
  le a b := decide (key b ≤ key a)
  trans a b c hab hbc :=
    decide_eq_true (le_trans (of_decide_eq_true hbc) (of_decide_eq_true hab))
  total a b := by
    rw [Bool.or_eq_true, decide_eq_true_eq, decide_eq_true_eq]
    exact le_total _ _

/-- The order of a column. -/
def on (o : OrderBy κ) (column : ρ → κ) : OrderBy ρ where
  le a b := o.le (column a) (column b)
  trans a b c := o.trans (column a) (column b) (column c)
  total a b := o.total (column a) (column b)

/-- `NULLS LAST`. -/
def nullsLast (o : OrderBy κ) : OrderBy (Option κ) where
  le
    | _, none => true
    | none, some _ => false
    | some a, some b => o.le a b
  trans a b c hab hbc := by
    cases c with
    | none => rfl
    | some c =>
        cases b with
        | none => exact absurd hbc (by simp)
        | some b =>
            cases a with
            | none => exact absurd hab (by simp)
            | some a => exact o.trans a b c hab hbc
  total a b := by
    cases a with
    | none => simp
    | some a =>
        cases b with
        | none => simp
        | some b => exact o.total a b

/-- A further key for the rows that tie. -/
def thenBy (o p : OrderBy ρ) : OrderBy ρ where
  le a b := o.le a b && (!o.le b a || p.le a b)
  trans a b c hab hbc := by
    have ho := o.trans a b c
    have ho' := o.trans c a b
    have ho'' := o.trans b c a
    have hp := p.trans a b c
    grind
  total a b := by
    have ho := o.total a b
    have hp := p.total a b
    grind

variable (o : OrderBy ρ)

theorem refl (a : ρ) : o.le a a = true := by
  simpa using o.total a a

/-- One of two rows is not after the other. -/
theorem le_of_not_le {a b : ρ} (h : ¬ o.le a b = true) : o.le b a = true := by
  have ht := o.total a b
  rw [Bool.or_eq_true] at ht
  exact ht.resolve_left h

/-- The rows that a row ties with. -/
def ties (x y : ρ) : Bool := o.le x y && o.le y x

/-- How many rows are strictly before one. -/
def before (rows : List ρ) (x : ρ) : Nat := rows.countP (fun y => !o.le x y)

/-- How many rows are not after one. -/
def upto (rows : List ρ) (x : ρ) : Nat := rows.countP (fun y => o.le y x)

/-- An answer to the query. -/
def Listed (rows l : List ρ) : Prop := l.Perm rows ∧ l.Pairwise (fun a b => o.le a b = true)

theorem Listed.before_eq {rows l : List ρ} (h : o.Listed rows l) (x : ρ) :
    o.before l x = o.before rows x := h.1.countP_eq _

theorem Listed.upto_eq {rows l : List ρ} (h : o.Listed rows l) (x : ρ) :
    o.upto l x = o.upto rows x := h.1.countP_eq _

/-- There is an answer. -/
theorem exists_listed (rows : List ρ) : ∃ l, o.Listed rows l :=
  ⟨rows.mergeSort o.le, List.mergeSort_perm rows o.le, List.pairwise_mergeSort o.trans o.total rows⟩

/-! ## §2. Places in a sorted list. -/

/-- **A sorted list around the ties of a row.** -/
theorem filter_lt_append {l : List ρ} (h : l.Pairwise (fun a b => o.le a b = true)) (x : ρ) :
    l = l.filter (fun y => !o.le x y) ++
      (l.filter (o.ties x) ++ l.filter (fun y => !o.le y x)) := by
  -- by induction on the list: its head is in the first part that is not empty
  induction l with
  | nil => rfl
  | cons a l ih =>
      obtain ⟨ha, hl⟩ := List.pairwise_cons.mp h
      have hind := ih hl
      by_cases hxa : o.le x a = true
      · -- nothing in the rest is before `x`
        have hnone : l.filter (fun y => !o.le x y) = [] := by
          rw [List.filter_eq_nil_iff]
          intro y hy
          rw [o.trans x a y hxa (ha y hy)]
          decide
        rw [hnone, List.nil_append] at hind
        by_cases hax : o.le a x = true
        · rw [List.filter_cons_of_neg (by simp [hxa]), hnone, List.nil_append,
            List.filter_cons_of_pos (by simp [ties, hxa, hax]),
            List.filter_cons_of_neg (by simp [hax]), List.cons_append, ← hind]
        · -- nothing in the rest ties with `x`
          have hties : l.filter (o.ties x) = [] := by
            rw [List.filter_eq_nil_iff]
            intro y hy htie
            unfold ties at htie
            rw [Bool.and_eq_true] at htie
            exact hax (o.trans a y x (ha y hy) htie.2)
          rw [hties, List.nil_append] at hind
          rw [List.filter_cons_of_neg (by simp [hxa]), hnone, List.nil_append,
            List.filter_cons_of_neg (by simp [ties, hax]), hties, List.nil_append,
            List.filter_cons_of_pos (by simp [hax]), ← hind]
      · have hax : o.le a x = true := o.le_of_not_le hxa
        rw [List.filter_cons_of_pos (by simp [hxa]), List.filter_cons_of_neg (by simp [ties, hxa]),
          List.filter_cons_of_neg (by simp [hax]), List.cons_append, ← hind]

/-- The ties of a row fill the places from `before` to `upto`. -/
theorem before_add_ties (l : List ρ) (x : ρ) :
    o.before l x + l.countP (o.ties x) = o.upto l x := by
  unfold before upto
  induction l with
  | nil => rfl
  | cons a l ih =>
      have htotal := o.total x a
      rw [List.countP_cons, List.countP_cons, List.countP_cons, ← ih]
      unfold ties
      cases hxa : o.le x a <;> cases hax : o.le a x <;> simp_all <;> omega

/-- A row in its place: at most as many rows are before it, and more are not after it. -/
theorem place_bounds {l : List ρ} (h : l.Pairwise (fun a b => o.le a b = true)) {i : Nat}
    (hi : i < l.length) : o.before l l[i] ≤ i ∧ i < o.upto l l[i] := by
  have hsorted := List.pairwise_iff_getElem.mp h
  constructor
  · -- the rows from place `i` on are not before this one
    have hdrop : (l.drop i).countP (fun y => !o.le l[i] y) = 0 := by
      rw [List.countP_eq_zero]
      intro y hy
      obtain ⟨j, hj, rfl⟩ := List.mem_iff_getElem.mp hy
      rw [List.length_drop] at hj
      have hij : i + j < l.length := by omega
      rw [List.getElem_drop]
      have hle : o.le l[i] l[i + j] = true := by
        rcases Nat.eq_zero_or_pos j with hzero | hpos
        · subst hzero
          exact o.refl _
        · exact hsorted i (i + j) hi hij (by omega)
      simp [hle]
    calc o.before l l[i]
        = (l.take i).countP (fun y => !o.le l[i] y)
            + (l.drop i).countP (fun y => !o.le l[i] y) := by
          rw [← List.countP_append, List.take_append_drop]
          rfl
      _ ≤ (l.take i).length := by
          rw [hdrop, Nat.add_zero]
          exact List.countP_le_length
      _ ≤ i := List.length_take_le i l
  · have htake : (l.take (i + 1)).countP (fun y => o.le y l[i]) = i + 1 := by
      rw [List.countP_eq_length.mpr, List.length_take]
      · omega
      · intro y hy
        obtain ⟨j, hj, rfl⟩ := List.mem_iff_getElem.mp hy
        rw [List.length_take] at hj
        rw [List.getElem_take]
        rcases Nat.lt_or_ge j i with hlt | hge
        · exact hsorted j i (by omega) hi hlt
        · have hji : j = i := by omega
          subst hji
          exact o.refl _
    have hsplit : (l.take (i + 1)).countP (fun y => o.le y l[i]) ≤ o.upto l l[i] := by
      unfold upto
      exact (List.take_sublist _ _).countP_le
    omega

end OrderBy

/-! ## §3. Pages. -/

namespace Paging

variable {ρ : Type*}

/-- `LIMIT n OFFSET (p - 1) * n`. -/
def cut (l : List ρ) (n p : Nat) : List ρ := (l.drop ((p - 1) * n)).take n

/-- An answer to the query for one page. -/
def Page (o : OrderBy ρ) (rows : List ρ) (n p : Nat) (out : List ρ) : Prop :=
  ∃ l, o.Listed rows l ∧ out = cut l n p

/-- The number of the last page, rounded up. -/
def pageCount (total n : Nat) : Nat := (total + n - 1) / n

/-- The pages `1` to `m`, one after the other. -/
def concat (answers : Nat → List ρ) (m : Nat) : List ρ :=
  (List.range m).flatMap (fun i => answers (i + 1))

/-- Whatever the answers, the pages list every row exactly once. -/
def Complete (o : OrderBy ρ) (rows : List ρ) (n : Nat) : Prop :=
  ∀ answers : Nat → List ρ, (∀ p, 1 ≤ p → Page o rows n p (answers p)) →
    (concat answers (pageCount rows.length n)).Perm rows

/-- The ties of a row lie on both sides of the end of a page. -/
def Straddles (o : OrderBy ρ) (rows : List ρ) (n : Nat) (x : ρ) : Prop :=
  ∃ p, o.before rows x < p * n ∧ p * n < o.upto rows x

theorem lt_pageCount_iff {total n i : Nat} (hn : 0 < n) :
    i < pageCount total n ↔ i * n < total := by
  unfold pageCount
  rw [Nat.lt_iff_add_one_le, Nat.le_div_iff_mul_le hn, Nat.add_mul, Nat.one_mul]
  omega

/-- Rows placed by a function of the row: a page is a filter. -/
theorem cut_eq_filter {l : List ρ} {f : ρ → Nat} {n : Nat} (hn : 0 < n)
    (hf : ∀ i (hi : i < l.length), f l[i] = i / n) (p : Nat) :
    cut l n (p + 1) = l.filter (fun x => decide (f x = p)) := by
  -- the rows before the page, on it, and after it
  have hparts : l = l.take (p * n) ++ (cut l n (p + 1) ++ (l.drop (p * n)).drop n) := by
    unfold cut
    rw [Nat.add_sub_cancel, List.take_append_drop, List.take_append_drop]
  have hearlier : (l.take (p * n)).filter (fun x => decide (f x = p)) = [] := by
    rw [List.filter_eq_nil_iff]
    intro x hx
    obtain ⟨i, hi, rfl⟩ := List.mem_iff_getElem.mp hx
    rw [List.length_take] at hi
    rw [List.getElem_take, hf i (by omega), decide_eq_true_eq]
    have hlt : i / n < p := Nat.div_lt_of_lt_mul (by rw [Nat.mul_comm]; omega)
    omega
  have hhere : (cut l n (p + 1)).filter (fun x => decide (f x = p)) = cut l n (p + 1) := by
    rw [List.filter_eq_self]
    intro x hx
    obtain ⟨i, hi, rfl⟩ := List.mem_iff_getElem.mp hx
    simp only [cut, Nat.add_sub_cancel, List.length_take, List.length_drop] at hi
    simp only [cut, Nat.add_sub_cancel, List.getElem_take, List.getElem_drop]
    rw [hf (p * n + i) (by omega), decide_eq_true_eq, Nat.mul_comm p n,
      Nat.mul_add_div hn, Nat.div_eq_of_lt (by omega), Nat.add_zero]
  have hlater : ((l.drop (p * n)).drop n).filter (fun x => decide (f x = p)) = [] := by
    rw [List.filter_eq_nil_iff]
    intro x hx
    obtain ⟨i, hi, rfl⟩ := List.mem_iff_getElem.mp hx
    simp only [List.length_drop] at hi
    simp only [List.getElem_drop]
    rw [hf (p * n + (n + i)) (by omega), decide_eq_true_eq, Nat.mul_comm p n,
      Nat.mul_add_div hn]
    have hle : 1 ≤ (n + i) / n := (Nat.le_div_iff_mul_le hn).mpr (by omega)
    omega
  conv => rhs; rw [hparts]
  rw [List.filter_append, List.filter_append, hearlier, hhere, hlater, List.nil_append,
    List.append_nil]

/-- The classes of a function into `0, …, m - 1`, one after the other. -/
theorem flatMap_filter_perm (rows : List ρ) (f : ρ → Nat) (m : Nat) :
    ((List.range m).flatMap (fun p => rows.filter (fun x => decide (f x = p)))).Perm
      (rows.filter (fun x => decide (f x < m))) := by
  -- by induction on the number of classes
  induction m with
  | zero => simp
  | succ m ih =>
      rw [List.range_succ, List.flatMap_append, List.flatMap_singleton]
      refine (ih.append_right _).trans ?_
      have hlt : rows.filter (fun x => decide (f x < m))
          = (rows.filter (fun x => decide (f x < m + 1))).filter (fun x => decide (f x < m)) := by
        rw [List.filter_filter]
        apply List.filter_congr
        intro x _
        rw [← Bool.decide_and]
        exact decide_eq_decide.mpr (by omega)
      have heq : rows.filter (fun x => decide (f x = m))
          = (rows.filter (fun x => decide (f x < m + 1))).filter (fun x => !decide (f x < m)) := by
        rw [List.filter_filter]
        apply List.filter_congr
        intro x _
        rw [← decide_not, ← Bool.decide_and]
        exact decide_eq_decide.mpr (by omega)
      rw [hlt, heq]
      exact List.filter_append_perm _ _

variable {o : OrderBy ρ} {rows l : List ρ} {n : Nat}

/-- Without ties across the end of a page, a row's page is that of the first of its ties. -/
theorem before_div (hl : o.Listed rows l) (hn : 0 < n) (hno : ∀ x ∈ rows, ¬ Straddles o rows n x)
    {i : Nat} (hi : i < l.length) : o.before rows l[i] / n = i / n := by
  obtain ⟨hbefore, hupto⟩ := o.place_bounds hl.2 hi
  rw [hl.before_eq] at hbefore
  rw [hl.upto_eq] at hupto
  have hmem : l[i] ∈ rows := hl.1.mem_iff.mp (List.getElem_mem hi)
  have hfirst : i / n * n ≤ i := Nat.div_mul_le_self i n
  have hle : i / n * n ≤ o.before rows l[i] := by
    by_contra hlt
    exact hno l[i] hmem ⟨i / n, by omega, by omega⟩
  exact Nat.le_antisymm (Nat.div_le_div_right hbefore) ((Nat.le_div_iff_mul_le hn).mpr hle)

/-- **Without ties across the end of a page**, which rows a page holds does not depend on
the answer. -/
theorem page_eq_filter (hn : 0 < n) (hno : ∀ x ∈ rows, ¬ Straddles o rows n x) {p : Nat}
    {out : List ρ} (hout : Page o rows n (p + 1) out) :
    out.Perm (rows.filter (fun x => decide (o.before rows x / n = p))) := by
  obtain ⟨l, hl, hcut⟩ := hout
  subst hcut
  rw [cut_eq_filter (f := fun x => o.before rows x / n) hn (fun i hi => before_div hl hn hno hi)]
  exact hl.1.filter _

theorem complete_of_not_straddles (hn : 0 < n) (hno : ∀ x ∈ rows, ¬ Straddles o rows n x) :
    Complete o rows n := by
  intro answers hanswers
  have hpages : (concat answers (pageCount rows.length n)).Perm
      ((List.range (pageCount rows.length n)).flatMap
        (fun p => rows.filter (fun x => decide (o.before rows x / n = p)))) :=
    List.Perm.flatMap_left _ fun p _ => page_eq_filter hn hno (hanswers (p + 1) (by omega))
  refine hpages.trans ((flatMap_filter_perm _ _ _).trans ?_)
  rw [List.filter_eq_self.mpr]
  intro x hx
  -- fewer rows are before `x` than there are
  have hlt : o.before rows x < rows.length := by
    refine Nat.lt_of_le_of_ne List.countP_le_length ?_
    intro hall
    have hself := List.countP_eq_length.mp hall x hx
    rw [o.refl x] at hself
    exact absurd hself (by decide)
  rw [decide_eq_true_eq, lt_pageCount_iff hn]
  exact Nat.lt_of_le_of_lt (Nat.div_mul_le_self _ _) hlt

/-! ## §4. Ties across the end of a page. -/

/-- The rows next to a place among the ties of one row tie. -/
theorem ties_at_place (hl : o.Listed rows l) {x : ρ} {k : Nat} (hk : k < l.length)
    (hbefore : o.before rows x < k) (hupto : k < o.upto rows x) :
    o.le l[k] l[k - 1] = true := by
  rw [← hl.before_eq] at hbefore
  rw [← hl.upto_eq] at hupto
  have hsorted := List.pairwise_iff_getElem.mp hl.2
  have hx : o.le x l[k - 1] = true := by
    -- otherwise the first `k` rows are all before `x`
    by_contra hnot
    have htake : (l.take k).countP (fun y => !o.le x y) = k := by
      rw [List.countP_eq_length.mpr, List.length_take, Nat.min_eq_left (Nat.le_of_lt hk)]
      intro y hy
      obtain ⟨j, hj, rfl⟩ := List.mem_iff_getElem.mp hy
      rw [List.length_take] at hj
      rw [List.getElem_take, Bool.not_eq_true', ← Bool.not_eq_true]
      intro hxy
      rcases Nat.lt_or_ge j (k - 1) with hlt | hge
      · exact hnot (o.trans _ _ _ hxy (hsorted j (k - 1) (by omega) (by omega) hlt))
      · have hjk : j = k - 1 := by omega
        subst hjk
        exact hnot hxy
    have hle : (l.take k).countP (fun y => !o.le x y) ≤ o.before l x :=
      (List.take_sublist _ _).countP_le
    omega
  have hx' : o.le l[k] x = true := by
    -- otherwise only the first `k` rows are not after `x`
    by_contra hnot
    have hdrop : (l.drop k).countP (fun y => o.le y x) = 0 := by
      rw [List.countP_eq_zero]
      intro y hy
      obtain ⟨j, hj, rfl⟩ := List.mem_iff_getElem.mp hy
      rw [List.length_drop] at hj
      rw [List.getElem_drop]
      intro hyx
      rcases Nat.eq_zero_or_pos j with hzero | hpos
      · subst hzero
        exact hnot hyx
      · exact hnot (o.trans _ _ _ (hsorted k (k + j) hk (by omega) (by omega)) hyx)
    have hle : o.upto l x ≤ k := by
      calc o.upto l x
          = (l.take k).countP (fun y => o.le y x) + (l.drop k).countP (fun y => o.le y x) := by
            rw [← List.countP_append, List.take_append_drop]
            rfl
        _ ≤ (l.take k).length := by
            rw [hdrop, Nat.add_zero]
            exact List.countP_le_length
        _ ≤ k := List.length_take_le k l
    omega
  exact o.trans _ _ _ hx' hx

/-- Two neighbours that tie may come the other way round. -/
theorem listed_swap {front back : List ρ} {a b : ρ}
    (hl : o.Listed rows (front ++ a :: b :: back)) (hba : o.le b a = true) :
    o.Listed rows (front ++ b :: a :: back) := by
  refine ⟨((List.Perm.swap a b back).append_left front).trans hl.1, ?_⟩
  have hsorted := hl.2
  simp only [List.pairwise_append, List.pairwise_cons, List.mem_cons] at hsorted ⊢
  obtain ⟨hfront, ⟨ha, hb, hback⟩, hcross⟩ := hsorted
  refine ⟨hfront, ⟨?_, ?_, hback⟩, ?_⟩
  · intro y hy
    rcases hy with hy | hy
    · exact hy ▸ hba
    · exact hb y hy
  · exact fun y hy => ha y (.inr hy)
  · intro y hy z hz
    rcases hz with hz | hz | hz
    · exact hcross y hy z (.inr (.inl hz))
    · exact hcross y hy z (.inl hz)
    · exact hcross y hy z (.inr (.inr hz))

/-- A list of pages without repetitions: no row is on two of them. -/
theorem not_mem_two_pages {answers : Nat → List ρ} {m p q : Nat}
    (h : (concat answers m).Nodup) (hpq : p < q) (hq : q < m) {x : ρ}
    (hx : x ∈ answers (p + 1)) : x ∉ answers (q + 1) := by
  have hdisjoint := (List.nodup_flatMap.mp h).2
  have hp := List.pairwise_iff_getElem.mp hdisjoint p q (by simpa using Nat.lt_trans hpq hq)
    (by simpa using hq) hpq
  rw [List.getElem_range, List.getElem_range] at hp
  exact fun hx' => hp hx hx'

/-- **Ties across the end of a page**: some answers list a row twice. -/
theorem not_complete_of_straddles (hrows : rows.Nodup) (hn : 0 < n) {x : ρ}
    (hx : Straddles o rows n x) : ¬ Complete o rows n := by
  obtain ⟨p, hbefore, hupto⟩ := hx
  obtain ⟨l, hl⟩ := o.exists_listed rows
  have hlength : l.length = rows.length := hl.1.length_eq
  have hk : p * n < l.length := hlength ▸ Nat.lt_of_lt_of_le hupto List.countP_le_length
  have hp : 1 ≤ p := by
    by_contra hzero
    have hp0 : p = 0 := by omega
    subst hp0
    omega
  have hpn : n ≤ p * n := Nat.le_mul_of_pos_left n hp
  -- the rows on both sides of the end of page `p`
  have hparts : l = l.take (p * n - 1) ++ l[p * n - 1] :: l[p * n] :: l.drop (p * n + 1) := by
    have hsecond := List.drop_eq_getElem_cons hk
    have hfirst := List.drop_eq_getElem_cons (show p * n - 1 < l.length by omega)
    rw [Nat.sub_add_cancel (by omega), hsecond] at hfirst
    rw [← hfirst, List.take_append_drop]
  have hswap := listed_swap (hparts ▸ hl) (ties_at_place hl hk hbefore hupto)
  intro hcomplete
  -- page `p + 1` is cut out of the other answer
  have hpages := hcomplete
    (fun q => if q = p + 1 then cut (l.take (p * n - 1) ++ l[p * n] :: l[p * n - 1] ::
      l.drop (p * n + 1)) n q else cut l n q) (by
        intro q _
        by_cases hq : q = p + 1
        · exact ⟨_, hswap, by rw [if_pos hq]⟩
        · exact ⟨l, hl, by rw [if_neg hq]⟩)
  have hlast : p < pageCount rows.length n := (lt_pageCount_iff hn).mpr (by omega)
  refine not_mem_two_pages (p := p - 1) (q := p) (x := l[p * n - 1]) (hpages.nodup_iff.mpr hrows)
    (by omega) hlast ?_ ?_
  · -- it is the last row of page `p`
    rw [Nat.sub_add_cancel hp, if_neg (by omega)]
    unfold cut
    have hsub : (p - 1) * n = p * n - n := by rw [Nat.sub_mul, Nat.one_mul]
    refine List.mem_iff_getElem.mpr ⟨n - 1, ?_, ?_⟩
    · rw [List.length_take, List.length_drop]
      omega
    · rw [List.getElem_take, List.getElem_drop]
      congr 1
      omega
  · -- and the first row of page `p + 1`
    rw [if_pos rfl]
    unfold cut
    rw [Nat.add_sub_cancel]
    refine List.mem_iff_getElem.mpr ⟨0, ?_, ?_⟩
    · simp only [List.length_take, List.length_drop, List.length_append, List.length_cons]
      omega
    · rw [List.getElem_take, List.getElem_drop, List.getElem_append_right (by
        rw [List.length_take]
        omega)]
      simp only [List.length_take]
      have hplace : p * n + 0 - min (p * n - 1) l.length = 1 := by omega
      simp only [hplace, List.getElem_cons_succ, List.getElem_cons_zero]

/-- **Pages are complete** exactly if no ties lie across the end of a page. -/
theorem complete_iff (hrows : rows.Nodup) (hn : 0 < n) :
    Complete o rows n ↔ ∀ x ∈ rows, ¬ Straddles o rows n x :=
  ⟨fun h _ _ hx => not_complete_of_straddles hrows hn hx h, complete_of_not_straddles hn⟩

/-- Where no two rows tie, nothing straddles. -/
theorem not_straddles_of_antisymm (hrows : rows.Nodup)
    (hanti : ∀ a ∈ rows, ∀ b ∈ rows, o.le a b = true → o.le b a = true → a = b)
    {x : ρ} (hx : x ∈ rows) : ¬ Straddles o rows n x := by
  intro hstraddles
  obtain ⟨p, hbefore, hupto⟩ := hstraddles
  -- a row ties only with itself
  have hone : rows.countP (o.ties x) ≤ 1 := by
    have hle : rows.countP (o.ties x) ≤ (rows.filter (o.ties x)).length :=
      Nat.le_of_eq List.countP_eq_length_filter
    have hsub : (rows.filter (o.ties x)).Subperm [x] := by
      refine List.subperm_of_subset (hrows.filter _) ?_
      intro y hy
      obtain ⟨hy, htie⟩ := List.mem_filter.mp hy
      rw [OrderBy.ties, Bool.and_eq_true] at htie
      rw [List.mem_singleton]
      exact hanti y hy x hx htie.2 htie.1
    exact Nat.le_trans hle hsub.length_le
  have hsum := o.before_add_ties rows x
  omega

end Paging

/-! ## §5. The first rows of an answer. -/

namespace OrderBy

variable {ρ : Type*} {o : OrderBy ρ} {rows l : List ρ} {q : ρ → Bool} {x : ρ}

/-- The ties of a row may come in any order. -/
theorem listed_ties {ties : List ρ} (hl : o.Listed rows l)
    (hties : ties.Perm (l.filter (o.ties x))) : o.Listed rows
      (l.filter (fun y => !o.le x y) ++ (ties ++ l.filter (fun y => !o.le y x))) := by
  constructor
  · refine List.Perm.trans ?_ hl.1
    have hperm := (hties.append_right (l.filter (fun y => !o.le y x))).append_left
      (l.filter (fun y => !o.le x y))
    rw [← o.filter_lt_append hl.2 x] at hperm
    exact hperm
  · -- the rows in front are not after `x`, those at the back not before it
    have hfront : ∀ y ∈ l.filter (fun y => !o.le x y), o.le y x = true := by
      intro y hy
      refine o.le_of_not_le ?_
      simpa using (List.mem_filter.mp hy).2
    have hback : ∀ z ∈ l.filter (fun y => !o.le y x), o.le x z = true := by
      intro z hz
      refine o.le_of_not_le ?_
      simpa using (List.mem_filter.mp hz).2
    have htie : ∀ y ∈ ties, o.le x y = true ∧ o.le y x = true := by
      intro y hy
      have hy' := (List.mem_filter.mp (hties.mem_iff.mp hy)).2
      unfold OrderBy.ties at hy'
      rwa [Bool.and_eq_true] at hy'
    refine List.pairwise_append.mpr
      ⟨hl.2.filter _, List.pairwise_append.mpr ⟨?_, hl.2.filter _, ?_⟩, ?_⟩
    · exact List.pairwise_of_forall_mem_list
        fun y hy z hz => o.trans y x z (htie y hy).2 (htie z hz).1
    · exact fun y hy z hz => o.trans y x z (htie y hy).2 (hback z hz)
    · intro y hy z hz
      have hxz : o.le x z = true := by
        rcases List.mem_append.mp hz with hz | hz
        · exact (htie z hz).1
        · exact hback z hz
      exact o.trans y x z (hfront y hy) hxz

/-- Rows that all tie with `x`, among the first of an answer. -/
theorem countP_take_ties (hl : o.Listed rows l) (hq : ∀ y ∈ rows, q y = true → o.ties x y = true)
    (ties : List ρ) (k : Nat) :
    ((l.filter (fun y => !o.le x y) ++ (ties ++ l.filter (fun y => !o.le y x))).take k).countP q
      = (ties.take (k - o.before rows x)).countP q := by
  have hqle : ∀ y ∈ l, q y = true → o.le x y = true ∧ o.le y x = true := by
    intro y hy hqy
    have htie := hq y (hl.1.mem_iff.mp hy) hqy
    unfold OrderBy.ties at htie
    rwa [Bool.and_eq_true] at htie
  have hfront : ∀ n, ((l.filter (fun y => !o.le x y)).take n).countP q = 0 := by
    intro n
    rw [List.countP_eq_zero]
    intro y hy hqy
    obtain ⟨hyl, hlt⟩ := List.mem_filter.mp (List.mem_of_mem_take hy)
    rw [(hqle y hyl hqy).1] at hlt
    exact absurd hlt (by decide)
  have hback : ∀ n, ((l.filter (fun y => !o.le y x)).take n).countP q = 0 := by
    intro n
    rw [List.countP_eq_zero]
    intro y hy hqy
    obtain ⟨hyl, hlt⟩ := List.mem_filter.mp (List.mem_of_mem_take hy)
    rw [(hqle y hyl hqy).2] at hlt
    exact absurd hlt (by decide)
  have hlength : (l.filter (fun y => !o.le x y)).length = o.before rows x := by
    rw [← List.countP_eq_length_filter]
    exact hl.1.countP_eq _
  rw [List.take_append, List.countP_append, hfront, Nat.zero_add, hlength, List.take_append,
    List.countP_append, hback, Nat.add_zero]

/-- **Exactly one among the first**: rows that all tie are once among the first `k` of every
answer exactly if there is one, and its ties are among the first `k`, or they have no other ties
and the first of them has place `k`. -/
theorem countP_take_eq_one_iff (hx : x ∈ rows) (hqx : q x = true)
    (hq : ∀ y ∈ rows, q y = true → o.ties x y = true) (k : Nat) :
    (∀ l, o.Listed rows l → (l.take k).countP q = 1) ↔
      (rows.countP q = 1 ∧ o.upto rows x ≤ k) ∨
      (o.before rows x + 1 = k ∧ o.upto rows x = o.before rows x + rows.countP q) := by
  have hsum := o.before_add_ties rows x
  have hsome : 0 < rows.countP q := List.countP_pos_iff.mpr ⟨x, hx, hqx⟩
  have hle : rows.countP q ≤ rows.countP (o.ties x) := List.countP_mono_left hq
  -- the rows among the ties, in any answer
  have hcount : ∀ l, o.Listed rows l → (l.filter (o.ties x)).countP q = rows.countP q := by
    intro l hl
    rw [List.countP_filter, ← hl.1.countP_eq]
    refine List.countP_congr fun y hy => ?_
    rw [Bool.and_eq_true]
    exact ⟨fun h => h.1, fun h => ⟨h, hq y (hl.1.mem_iff.mp hy) h⟩⟩
  have hlength : ∀ l, o.Listed rows l → (l.filter (o.ties x)).length = rows.countP (o.ties x) := by
    intro l hl
    rw [← List.countP_eq_length_filter, hl.1.countP_eq]
  constructor
  · intro h
    obtain ⟨l, hl⟩ := o.exists_listed rows
    -- one answer has them before their other ties, and one after
    have hsplit := List.filter_append_perm q (l.filter (o.ties x))
    have hfirst := h _ (listed_ties hl hsplit)
    have hlast := h _ (listed_ties hl (List.perm_append_comm.trans hsplit))
    rw [countP_take_ties hl hq] at hfirst
    rw [countP_take_ties hl hq] at hlast
    have hall : ∀ n, (((l.filter (o.ties x)).filter q).take n).countP q
        = min n (rows.countP q) := by
      intro n
      rw [List.countP_eq_length.mpr fun y hy => (List.mem_filter.mp (List.mem_of_mem_take hy)).2,
        List.length_take, ← List.countP_eq_length_filter, hcount l hl]
    have hnone : ∀ n, (((l.filter (o.ties x)).filter (fun y => !q y)).take n).countP q = 0 := by
      intro n
      rw [List.countP_eq_zero]
      intro y hy
      simpa using (List.mem_filter.mp (List.mem_of_mem_take hy)).2
    have hothers : ((l.filter (o.ties x)).filter (fun y => !q y)).length
        = rows.countP (o.ties x) - rows.countP q := by
      have hparts := hsplit.length_eq
      rw [List.length_append, ← List.countP_eq_length_filter, hcount l hl, hlength l hl] at hparts
      omega
    -- in the first answer they fill the places from `before`, in the other those up to `upto`
    rw [List.take_append, List.countP_append, hall, hnone, Nat.add_zero] at hfirst
    rw [List.take_append, List.countP_append, hall, hnone, Nat.zero_add, hothers] at hlast
    omega
  · intro h l hl
    have htake := countP_take_ties hl hq (l.filter (o.ties x)) k
    rw [← o.filter_lt_append hl.2 x] at htake
    rw [htake]
    rcases h with h | h
    · -- all ties are among the first
      rw [List.take_of_length_le (by rw [hlength l hl]; omega), hcount l hl]
      exact h.1
    · -- the first of the ties is the last row that is taken
      have hone : k - o.before rows x = 1 := by omega
      -- and all of the ties are counted
      have hall : ∀ y ∈ l.filter (o.ties x), q y = true := by
        refine List.countP_eq_length.mp ?_
        rw [hcount l hl, hlength l hl]
        omega
      rw [hone, List.countP_eq_length.mpr fun y hy => hall y (List.mem_of_mem_take hy),
        List.length_take, hlength l hl]
      omega

end OrderBy

end Foundation
