/-
  Foundation.AddressText
  ──────────────────────
  **IP ADDRESSES AS TEXTS, AFTER RFC 4291.**

  An address of version 4 is four decimal fields.  One of version 6 is eight groups of up
  to four hexadecimal digits, where one `::` may stand for one or more groups of zeros and
  the last two may be written as an address of version 4.  Whether a decimal field may
  have leading zeros is left open: `zeros` says so.

  Main result: `isPlain_iff` — the addresses of version 6 without a dotted tail.
-/
import TLSentinel.Foundation.NetBlocks
import TLSentinel.Foundation.Pieces

namespace Foundation.AddressText

open Hex (isHex)
open NetAddr (decimalValue)
open Pieces

/-! ## §1. The grammar. -/

/-- A decimal field. -/
structure IsOctet (zeros : Bool) (d : List Char) : Prop where
  ne_nil : d ≠ []
  short : d.length ≤ 3
  digits : ∀ c ∈ d, c.isDigit = true
  value : decimalValue d ≤ 255
  zero : zeros = true ∨ d = ['0'] ∨ d.head? ≠ some '0'

/-- An address of version 4. -/
def IsIPv4 (zeros : Bool) (s : List Char) : Prop :=
  ∃ ds, ds.length = 4 ∧ (∀ d ∈ ds, IsOctet zeros d) ∧ s = ['.'].intercalate ds

/-- A group. -/
structure IsGroup (g : List Char) : Prop where
  ne_nil : g ≠ []
  short : g.length ≤ 4
  hex : ∀ c ∈ g, isHex c = true

/-- Parts that stand for so many groups: the last one may be dotted. -/
inductive Groups (zeros : Bool) : List (List Char) → Nat → Prop where
  | nil : Groups zeros [] 0
  | dotted {q : List Char} (hq : IsIPv4 zeros q) : Groups zeros [q] 2
  | cons {g : List Char} {ps : List (List Char)} {n : Nat} (hg : IsGroup g)
      (hps : Groups zeros ps n) : Groups zeros (g :: ps) (n + 1)

/-- An address of version 6: eight groups, or up to seven around a `::`. -/
def IsIPv6 (zeros : Bool) (s : List Char) : Prop :=
  (∃ ps, Groups zeros ps 8 ∧ s = [':'].intercalate ps) ∨
    ∃ as ps n, (∀ g ∈ as, IsGroup g) ∧ Groups zeros ps n ∧ as.length + n ≤ 7 ∧
      s = [':'].intercalate as ++ ':' :: ':' :: [':'].intercalate ps

/-- An address of either version. -/
def IsIP (zeros : Bool) (s : List Char) : Prop := IsIPv4 zeros s ∨ IsIPv6 zeros s

/-- An address of version 6 in groups alone. -/
def IsPlain (s : List Char) : Prop :=
  (∃ gs, gs.length = 8 ∧ (∀ g ∈ gs, IsGroup g) ∧ s = [':'].intercalate gs) ∨
    ∃ as bs, (∀ g ∈ as, IsGroup g) ∧ (∀ g ∈ bs, IsGroup g) ∧ as.length + bs.length ≤ 7 ∧
      s = [':'].intercalate as ++ ':' :: ':' :: [':'].intercalate bs

/-! ## §2. The characters of an address. -/

variable {zeros : Bool} {s g q : List Char} {gs ps : List (List Char)} {n : Nat}

theorem IsGroup.not_mem {c : Char} (h : IsGroup g) (hc : isHex c = false) : c ∉ g := by
  intro hmem
  rw [h.hex c hmem] at hc
  cases hc

theorem IsGroup.tight (h : ∀ g ∈ gs, IsGroup g) : IsTight ':' ([':'].intercalate gs) :=
  isTight_intercalate fun g hg => ⟨(h g hg).ne_nil, (h g hg).not_mem (by decide)⟩

/-- Groups are the pieces of what they are joined to. -/
theorem IsGroup.splitOn (h : ∀ g ∈ gs, IsGroup g) (hne : gs ≠ []) :
    ([':'].intercalate gs).splitOn ':' = gs :=
  List.splitOn_intercalate ':' (fun g hg => (h g hg).not_mem (by decide)) hne

theorem dot_not_mem_groups (h : ∀ g ∈ gs, IsGroup g) : '.' ∉ [':'].intercalate gs := by
  intro hmem
  rcases mem_intercalate hmem with hdot | ⟨g, hg, hdot⟩
  · exact absurd hdot (by decide)
  · exact (h g hg).not_mem (by decide) hdot

theorem IsIPv4.dot_mem (h : IsIPv4 zeros q) : '.' ∈ q := by
  obtain ⟨ds, hlen, -, rfl⟩ := h
  exact sep_mem_intercalate (by omega)

theorem IsIPv4.colon_not_mem (h : IsIPv4 zeros q) : ':' ∉ q := by
  obtain ⟨ds, -, hds, rfl⟩ := h
  intro hmem
  rcases mem_intercalate hmem with hcolon | ⟨d, hd, hcolon⟩
  · exact absurd hcolon (by decide)
  · exact absurd ((hds d hd).digits ':' hcolon) (by decide)

/-- Parts with no dot in them are groups. -/
theorem Groups.plain (h : Groups zeros ps n) (hdot : '.' ∉ [':'].intercalate ps) :
    ps.length = n ∧ ∀ g ∈ ps, IsGroup g := by
  induction h with
  | nil => exact ⟨rfl, fun _ hg => absurd hg List.not_mem_nil⟩
  | dotted hq =>
      rw [List.intercalate_singleton] at hdot
      exact absurd hq.dot_mem hdot
  | @cons g ps n hg hps ih =>
      cases ps with
      | nil =>
          obtain ⟨hlen, -⟩ := ih (by rw [List.intercalate_nil]; exact List.not_mem_nil)
          exact ⟨by rw [List.length_singleton, ← hlen]; rfl, List.forall_mem_singleton.mpr hg⟩
      | cons p ps =>
          rw [List.intercalate_cons_cons, List.mem_append, not_or] at hdot
          obtain ⟨hlen, hall⟩ := ih hdot.2
          exact ⟨by rw [List.length_cons, hlen], List.forall_mem_cons.mpr ⟨hg, hall⟩⟩

theorem groups_of_plain (h : ∀ g ∈ gs, IsGroup g) : Groups zeros gs gs.length := by
  induction gs with
  | nil => exact Groups.nil
  | cons g gs ih =>
      obtain ⟨hg, hgs⟩ := List.forall_mem_cons.mp h
      exact Groups.cons hg (ih hgs)

/-- **An address of version 6 without a dot** is in groups alone. -/
theorem isPlain_iff : IsIPv6 zeros s ∧ '.' ∉ s ↔ IsPlain s := by
  constructor
  · rintro ⟨⟨ps, hps, rfl⟩ | ⟨as, ps, n, has, hps, hn, rfl⟩, hdot⟩
    · obtain ⟨hlen, hall⟩ := hps.plain hdot
      exact Or.inl ⟨ps, hlen, hall, rfl⟩
    · rw [List.mem_append, List.mem_cons, List.mem_cons, not_or, not_or, not_or] at hdot
      obtain ⟨hlen, hall⟩ := hps.plain hdot.2.2.2
      exact Or.inr ⟨as, ps, has, hall, by omega, rfl⟩
  · rintro (⟨gs, hlen, hgs, rfl⟩ | ⟨as, bs, has, hbs, hlen, rfl⟩)
    · refine ⟨Or.inl ⟨gs, ?_, rfl⟩, dot_not_mem_groups hgs⟩
      rw [← hlen]
      exact groups_of_plain hgs
    · refine ⟨Or.inr ⟨as, bs, bs.length, has, groups_of_plain hbs, hlen, rfl⟩, ?_⟩
      rw [List.mem_append, List.mem_cons, List.mem_cons, not_or, not_or, not_or]
      exact ⟨dot_not_mem_groups has, by decide, by decide, dot_not_mem_groups hbs⟩

theorem IsIPv6.colon_mem (h : IsIPv6 zeros s) : ':' ∈ s := by
  rcases h with ⟨ps, hps, rfl⟩ | ⟨as, ps, n, -, -, -, rfl⟩
  · refine sep_mem_intercalate ?_
    cases hps with
    | cons hg hps =>
        cases hps with
        | cons hg' hps => exact Nat.le_add_left 2 _
  · exact List.mem_append_right _ List.mem_cons_self

end Foundation.AddressText
