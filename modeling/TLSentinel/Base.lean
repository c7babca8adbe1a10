/-
  TLSentinel.Base
  ───────────────
  **WHAT THE HANDLERS SHARE: ERROR RESPONSES AND GO STRING FUNCTIONS.**

  `strings.TrimSpace` and `strings.ReplaceAll` are written out over the list of
  runes, after the documentation of Go's `strings` and `unicode` packages.  The
  Unicode case tables are not: where a handler upper- or lowercases, the mapping
  of one rune is a parameter.
-/
import Mathlib.Data.List.TakeWhile

namespace TLSentinel

/-- An error response: status code and text. -/
structure HttpError where
  status : Nat
  text : String
  deriving DecidableEq, Repr

/-- `unicode.IsSpace`. -/
def isSpace (c : Char) : Bool :=
  c.toNat ∈ [0x09, 0x0A, 0x0B, 0x0C, 0x0D, 0x20, 0x85, 0xA0, 0x1680, 0x2028, 0x2029,
      0x202F, 0x205F, 0x3000]
    || (decide (0x2000 ≤ c.toNat) && decide (c.toNat ≤ 0x200A))

/-- `strings.TrimSpace`. -/
def trimSpace (s : String) : String :=
  String.ofList (((s.toList.dropWhile isSpace).reverse.dropWhile isSpace).reverse)

/-- White space around a text is trimmed away. -/
theorem trimSpace_surround {left right : List Char} (hleft : ∀ c ∈ left, isSpace c = true)
    (hright : ∀ c ∈ right, isSpace c = true) (chars : List Char) :
    trimSpace (String.ofList (left ++ chars ++ right)) = trimSpace (String.ofList chars) := by
  unfold trimSpace
  rw [String.toList_ofList, String.toList_ofList, List.append_assoc,
    List.dropWhile_append_of_pos hleft, List.dropWhile_append]
  split
  · next hempty =>
      -- nothing but white space is left
      rw [List.dropWhile_eq_nil_iff.mpr hright, List.isEmpty_iff.mp hempty]
  · rw [List.reverse_append, List.dropWhile_append_of_pos]
    exact fun c hc => hright c (List.mem_reverse.mp hc)

/-- **What is trimmed** is white space, on both sides. -/
theorem trimSpace_spec (s : String) :
    ∃ left right, s.toList = left ++ (trimSpace s).toList ++ right ∧
      (∀ c ∈ left, isSpace c = true) ∧ ∀ c ∈ right, isSpace c = true := by
  have htake : ∀ chars : List Char, ∀ c ∈ chars.takeWhile isSpace, isSpace c = true :=
    fun chars => List.all_eq_true.mp List.all_takeWhile
  refine ⟨s.toList.takeWhile isSpace,
    ((s.toList.dropWhile isSpace).reverse.takeWhile isSpace).reverse, ?_, htake _, ?_⟩
  · unfold trimSpace
    rw [String.toList_ofList, List.append_assoc, ← List.reverse_append,
      List.takeWhile_append_dropWhile, List.reverse_reverse, List.takeWhile_append_dropWhile]
  · exact fun c hc => htake _ c (List.mem_reverse.mp hc)

/-- A trimmed text does not end with white space. -/
theorem getLast?_trimSpace {s : String} {c : Char} (h : c ∈ (trimSpace s).toList.getLast?) :
    isSpace c = false := by
  unfold trimSpace at h
  rw [String.toList_ofList, List.getLast?_reverse] at h
  have hhead := List.head?_dropWhile_not isSpace (s.toList.dropWhile isSpace).reverse
  rw [h] at hhead
  exact hhead

/-- A trimmed text does not begin with white space. -/
theorem head?_trimSpace {s : String} {c : Char} (h : c ∈ (trimSpace s).toList.head?) :
    isSpace c = false := by
  unfold trimSpace at h
  rw [String.toList_ofList] at h
  have hhead := List.head?_dropWhile_not isSpace s.toList
  -- what is cut off at the end leaves the beginning, or nothing
  have hprefix : (((s.toList.dropWhile isSpace).reverse.dropWhile isSpace).reverse) <+:
      s.toList.dropWhile isSpace := by
    rw [← List.reverse_suffix, List.reverse_reverse]
    exact List.dropWhile_suffix _
  obtain ⟨rest, hrest⟩ := hprefix
  rw [← hrest, List.head?_append, h, Option.some_or] at hhead
  exact hhead

/-- A text without white space at its ends is not trimmed. -/
theorem trimSpace_eq_self {chars : List Char} (h : ∀ c ∈ chars, isSpace c = false) :
    trimSpace (String.ofList chars) = String.ofList chars := by
  have hnone : ∀ chars : List Char, (∀ c ∈ chars, isSpace c = false) →
      chars.dropWhile isSpace = chars := by
    intro chars h
    cases chars with
    | nil => rfl
    | cons c cs => rw [List.dropWhile_cons_of_neg (by simp [h c List.mem_cons_self])]
  unfold trimSpace
  rw [String.toList_ofList, hnone chars h,
    hnone _ fun c hc => h c (List.mem_reverse.mp hc), List.reverse_reverse]

/-- `strings.ReplaceAll(s, c, "")`, for a one-rune `c`. -/
def removeRune (c : Char) (s : String) : String :=
  String.ofList (s.toList.filter (fun d => d ≠ c))

/-- `strings.ToUpper`, from the case mapping of one rune. -/
def toUpper (upper : Char → Char) (s : String) : String :=
  String.ofList (s.toList.map upper)

end TLSentinel
