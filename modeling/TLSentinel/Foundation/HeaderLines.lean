/-
  Foundation.HeaderLines
  ──────────────────────
  **THE HEADER OF A MESSAGE: ITS LINES BEFORE THE FIRST EMPTY ONE.**

  A message in lines has its header first, then an empty line and the body.  Receivers
  differ in what they take for the end of a line: only CR LF, or a bare LF or CR as
  well.  A `LineReader` is any of them: it takes CR LF, and nothing that begins with
  another character than CR and LF.

  Main result: `headers_of_block` — a header whose lines are free of CR and LF reads back
  as these lines, whoever reads it.
-/
import Mathlib.Data.List.Basic

namespace Foundation

/-! ## §1. Lines. -/

/-- The characters have neither CR nor LF. -/
def NoBreak (chars : List Char) : Prop := '\r' ∉ chars ∧ '\n' ∉ chars

theorem noBreak_nil : NoBreak [] := ⟨List.not_mem_nil, List.not_mem_nil⟩

theorem noBreak_append {a b : List Char} : NoBreak (a ++ b) ↔ NoBreak a ∧ NoBreak b := by
  unfold NoBreak
  simp only [List.mem_append, not_or]
  exact and_and_and_comm

/-- A way to find the ends of lines: what is left after the one that a text begins with. -/
structure LineReader where
  lineEnd : List Char → Option (List Char)
  crlf : ∀ rest, lineEnd ('\r' :: '\n' :: rest) = some rest
  plain : ∀ c rest, c ≠ '\r' → c ≠ '\n' → lineEnd (c :: rest) = none
  shorter : ∀ text rest, lineEnd text = some rest → rest.length < text.length

namespace LineReader

/-- The readers there are: only CR LF ends a line, or also a bare LF, or also a bare CR. -/
def ofBare (bareLF bareCR : Bool) : LineReader where
  lineEnd
    | '\r' :: '\n' :: rest => some rest
    | '\n' :: rest => if bareLF then some rest else none
    | '\r' :: rest => if bareCR then some rest else none
    | _ => none
  crlf := fun rest => rfl
  plain := by
    intro c rest hcr hlf
    split
    · next h => exact absurd (List.cons.inj h).1 hcr
    · next h => exact absurd (List.cons.inj h).1 hlf
    · next h => exact absurd (List.cons.inj h).1 hcr
    · rfl
  shorter := by
    intro text rest h
    split at h
    · injection h with h
      subst h
      simp only [List.length_cons]
      omega
    · split at h
      · injection h with h
        subst h
        simp
      · cases h
    · split at h
      · injection h with h
        subst h
        simp
      · cases h
    · cases h

variable (reader : LineReader)

/-- The first line of a text, and what is left after it. -/
def line : List Char → List Char × List Char
  | [] => ([], [])
  | c :: text =>
      match reader.lineEnd (c :: text) with
      | some rest => ([], rest)
      | none => (c :: (line text).1, (line text).2)

theorem line_length_le (text : List Char) : (reader.line text).2.length ≤ text.length := by
  induction text with
  | nil => exact Nat.le_refl _
  | cons c text ih =>
      unfold line
      split
      · next rest h => exact Nat.le_of_lt (reader.shorter _ _ h)
      · exact Nat.le_succ_of_le ih

/-- There is something left to read less of. -/
theorem line_length_lt {text : List Char} (h : (reader.line text).1 ≠ []) :
    (reader.line text).2.length < text.length := by
  cases text with
  | nil => exact absurd rfl h
  | cons c text =>
      unfold line at h ⊢
      split at h
      · exact absurd rfl h
      · exact Nat.lt_succ_of_le (reader.line_length_le text)

/-- The lines before the first empty one. -/
def headers (text : List Char) : List (List Char) :=
  if (reader.line text).1 = [] then []
  else (reader.line text).1 :: headers (reader.line text).2
termination_by text.length
decreasing_by exact reader.line_length_lt (by assumption)

/-! ## §2. Headers that are written in lines. -/

/-- A line as it is written. -/
def written (chars : List Char) : List Char := chars ++ ['\r', '\n']

/-- A line without CR and LF reads back. -/
theorem line_written {chars : List Char} (h : NoBreak chars) (rest : List Char) :
    reader.line (written chars ++ rest) = (chars, rest) := by
  induction chars with
  | nil =>
      show reader.line ('\r' :: '\n' :: rest) = _
      unfold line
      rw [reader.crlf]
  | cons c chars ih =>
      obtain ⟨hcr, hlf⟩ := h
      have hnone : reader.lineEnd (c :: (written chars ++ rest)) = none :=
        reader.plain c _ (fun hc => hcr (hc ▸ List.mem_cons_self))
          (fun hc => hlf (hc ▸ List.mem_cons_self))
      have htail := ih ⟨fun hc => hcr (List.mem_cons_of_mem _ hc),
        fun hc => hlf (List.mem_cons_of_mem _ hc)⟩
      show reader.line (c :: (written chars ++ rest)) = _
      unfold line
      rw [hnone, htail]

/-- **A header reads back**, whatever follows the empty line after it. -/
theorem headers_of_block {lines : List (List Char)}
    (h : ∀ l ∈ lines, l ≠ [] ∧ NoBreak l) (body : List Char) :
    reader.headers (lines.flatMap written ++ (written [] ++ body)) = lines := by
  induction lines with
  | nil =>
      have hline : reader.line (written [] ++ body) = ([], body) :=
        reader.line_written noBreak_nil body
      show reader.headers (written [] ++ body) = []
      unfold headers
      rw [hline, if_pos rfl]
  | cons l lines ih =>
      obtain ⟨hne, hbreak⟩ := h l List.mem_cons_self
      rw [List.flatMap_cons, List.append_assoc]
      unfold headers
      rw [reader.line_written hbreak, if_neg hne, ih fun l hl => h l (List.mem_cons_of_mem _ hl)]

end LineReader
end Foundation
