/-
  Foundation.JSON
  ───────────────
  **JSON, AS `encoding/json` OF GO WRITES IT AND `JSON.parse` READS IT.**

  The writer makes UTF-8 bytes: in a string it escapes quotes, backslashes, control
  characters, `<`, `>`, `&` and the line and paragraph separators, and writes the other
  characters as they are.  The reader is given a text of one code unit for each byte, so
  a character of several bytes is several code units to it.

  Main results:
    * `stringBody_marshal`  — what a string that was written is read as;
    * `received_eq_iff`     — when it is the string that was meant;
    * `parse_marshalObject` — what an object that was written is read as.
-/
import TLSentinel.Foundation.Hex
import TLSentinel.Foundation.Utf8

namespace Foundation.JSON

open Foundation.Hex (asciiDigit asciiValue? asciiValue?_asciiDigit)
open Foundation.Utf8

/-! ## §1. Strings as code units. -/

/-- The UTF-16 code units of a character. -/
def utf16Char (c : Char) : List UInt16 :=
  if c.toNat < 0x10000 then [UInt16.ofNat c.toNat]
  else
    [UInt16.ofNat (0xd800 + (c.toNat - 0x10000) / 0x400),
      UInt16.ofNat (0xdc00 + (c.toNat - 0x10000) % 0x400)]

/-- A text as a string of code units. -/
def utf16 (s : List Char) : List UInt16 := s.flatMap utf16Char

/-! ## §2. Writing. -/

/-- `\u` and four digits. -/
def escapeUnit (n : Nat) : List UInt8 :=
  [0x5c, 0x75, asciiDigit (n / 0x1000 % 16), asciiDigit (n / 0x100 % 16),
    asciiDigit (n / 0x10 % 16), asciiDigit (n % 16)]

/-- The letter after the backslash, for a character that has such an escape. -/
def shortEscape (n : Nat) : Option UInt8 :=
  match n with
  | 0x08 => some 0x62
  | 0x09 => some 0x74
  | 0x0a => some 0x6e
  | 0x0c => some 0x66
  | 0x0d => some 0x72
  | 0x22 => some 0x22
  | 0x5c => some 0x5c
  | _ => none

/-- A character that is written as `\u` and its code. -/
def isUnitEscaped (n : Nat) : Bool :=
  n < 0x20 || n = 0x26 || n = 0x3c || n = 0x3e || n = 0x2028 || n = 0x2029

/-- A character inside a string. -/
def marshalChar (c : Char) : List UInt8 :=
  match shortEscape c.toNat with
  | some letter => [0x5c, letter]
  | none => if isUnitEscaped c.toNat then escapeUnit c.toNat else String.utf8EncodeChar c

/-- A string. -/
def marshalString (s : List Char) : List UInt8 := 0x22 :: (s.flatMap marshalChar ++ [0x22])

/-- The digits of a number. -/
def decimal (n : Nat) : List UInt8 :=
  if n < 10 then [UInt8.ofNat (0x30 + n)]
  else decimal (n / 10) ++ [UInt8.ofNat (0x30 + n % 10)]

/-- An integer. -/
def marshalInt : Int → List UInt8
  | .ofNat n => decimal n
  | .negSucc n => 0x2d :: decimal (n + 1)

/-- A value of a field: a string, or an integer. -/
inductive Field where
  | string (s : List Char)
  | int (n : Int)

/-- A value of a field, written. -/
def marshalField : Field → List UInt8
  | .string s => marshalString s
  | .int n => marshalInt n

/-- A member of an object. -/
def marshalMember (m : List Char × Field) : List UInt8 :=
  marshalString m.1 ++ 0x3a :: marshalField m.2

/-- The members of an object, with commas between them. -/
def marshalMembers : List (List Char × Field) → List UInt8
  | [] => []
  | [m] => marshalMember m
  | m :: m' :: ms => marshalMember m ++ 0x2c :: marshalMembers (m' :: ms)

/-- A structure with its fields. -/
def marshalObject (ms : List (List Char × Field)) : List UInt8 :=
  0x7b :: (marshalMembers ms ++ [0x7d])

/-! ## §3. Reading. -/

/-- A value that was read; of a number, its text. -/
inductive Value where
  | null
  | bool (b : Bool)
  | number (text : List UInt8)
  | string (units : List UInt16)
  | array (elements : List Value)
  | object (members : List (List UInt16 × Value))

/-- White space between tokens. -/
def isSpace (b : UInt8) : Bool := b ∈ [0x20, 0x09, 0x0a, 0x0d]

/-- A text from its first token on. -/
def skipSpace (s : List UInt8) : List UInt8 := s.dropWhile isSpace

/-- The code unit of four hexadecimal digits. -/
def hexUnit? (a b c d : UInt8) : Option UInt16 :=
  match asciiValue? a, asciiValue? b, asciiValue? c, asciiValue? d with
  | some h, some i, some j, some k => some (UInt16.ofNat (h * 0x1000 + i * 0x100 + j * 0x10 + k))
  | _, _, _, _ => none

/-- The code unit of a letter after a backslash. -/
def unescape? (b : UInt8) : Option UInt16 :=
  match b with
  | 0x22 => some 0x22
  | 0x5c => some 0x5c
  | 0x2f => some 0x2f
  | 0x62 => some 0x08
  | 0x66 => some 0x0c
  | 0x6e => some 0x0a
  | 0x72 => some 0x0d
  | 0x74 => some 0x09
  | _ => none

/-- A code unit before those of the rest. -/
def pushUnit (u : UInt16) (r : List UInt16 × List UInt8) : List UInt16 × List UInt8 :=
  (u :: r.1, r.2)

/-- The code units of a string up to its closing quote, and what follows it. -/
def stringBody : List UInt8 → Option (List UInt16 × List UInt8)
  | [] => none
  | b :: s =>
      if b = 0x22 then some ([], s)
      else if b = 0x5c then
        match s with
        | [] => none
        | e :: t =>
            match unescape? e with
            | some u => (stringBody t).map (pushUnit u)
            | none =>
                if e = 0x75 then
                  match t with
                  | h :: i :: j :: k :: t =>
                      match hexUnit? h i j k with
                      | some u => (stringBody t).map (pushUnit u)
                      | none => none
                  | _ => none
                else none
      else if b < 0x20 then none
      else (stringBody s).map (pushUnit (UInt16.ofNat b.toNat))

/-- A decimal digit. -/
def isDigit (b : UInt8) : Bool := 0x30 ≤ b && b ≤ 0x39

/-- What is left of a number after its digits, one at least. -/
def skipDigits (s : List UInt8) : Option (List UInt8) :=
  if s.head?.any isDigit then some (s.dropWhile isDigit) else none

/-- What is left of a number after its integer part: no zero stands before other digits. -/
def skipInteger : List UInt8 → Option (List UInt8)
  | [] => none
  | b :: s => if b = 0x30 then some s else skipDigits (b :: s)

/-- What is left of a number after its fraction, if there is one. -/
def skipFraction : List UInt8 → Option (List UInt8)
  | [] => some []
  | b :: s => if b = 0x2e then skipDigits s else some (b :: s)

/-- What is left of a number after its exponent, if there is one. -/
def skipExponent : List UInt8 → Option (List UInt8)
  | [] => some []
  | b :: s =>
      if b = 0x65 ∨ b = 0x45 then
        match s with
        | [] => none
        | c :: t => if c = 0x2b ∨ c = 0x2d then skipDigits t else skipDigits (c :: t)
      else some (b :: s)

/-- What is left after a number. -/
def skipNumber (s : List UInt8) : Option (List UInt8) :=
  let unsigned := if s.head? = some 0x2d then s.tail else s
  ((skipInteger unsigned).bind skipFraction).bind skipExponent

/-- A number, and what follows it. -/
def number (s : List UInt8) : Option (Value × List UInt8) :=
  (skipNumber s).map fun rest => (.number (s.take (s.length - rest.length)), rest)

/-- A word, and what follows it. -/
def keyword (word : List UInt8) (v : Value) (s : List UInt8) : Option (Value × List UInt8) :=
  if word <+: s then some (v, s.drop word.length) else none

mutual

/-- A value, and what follows it. -/
def value : Nat → List UInt8 → Option (Value × List UInt8)
  | 0, _ => none
  | n + 1, s =>
      match skipSpace s with
      | [] => none
      | b :: rest =>
          if b = 0x22 then (stringBody rest).map fun r => (.string r.1, r.2)
          else if b = 0x7b then
            match skipSpace rest with
            | [] => none
            | c :: after =>
                if c = 0x7d then some (.object [], after)
                else (members n rest).map fun r => (.object r.1, r.2)
          else if b = 0x5b then
            match skipSpace rest with
            | [] => none
            | c :: after =>
                if c = 0x5d then some (.array [], after)
                else (elements n rest).map fun r => (.array r.1, r.2)
          else if b = 0x74 then keyword [0x74, 0x72, 0x75, 0x65] (.bool true) (b :: rest)
          else if b = 0x66 then keyword [0x66, 0x61, 0x6c, 0x73, 0x65] (.bool false) (b :: rest)
          else if b = 0x6e then keyword [0x6e, 0x75, 0x6c, 0x6c] .null (b :: rest)
          else number (b :: rest)

/-- The members of an object up to its closing brace. -/
def members : Nat → List UInt8 → Option (List (List UInt16 × Value) × List UInt8)
  | 0, _ => none
  | n + 1, s =>
      match value n s with
      | some (.string key, afterKey) =>
          match skipSpace afterKey with
          | [] => none
          | b :: afterColon =>
              if b = 0x3a then
                match value n afterColon with
                | none => none
                | some (v, afterValue) =>
                    match skipSpace afterValue with
                    | [] => none
                    | c :: rest =>
                        if c = 0x2c then (members n rest).map fun r => ((key, v) :: r.1, r.2)
                        else if c = 0x7d then some ([(key, v)], rest)
                        else none
              else none
      | _ => none

/-- The elements of an array up to its closing bracket. -/
def elements : Nat → List UInt8 → Option (List Value × List UInt8)
  | 0, _ => none
  | n + 1, s =>
      match value n s with
      | none => none
      | some (v, afterValue) =>
          match skipSpace afterValue with
          | [] => none
          | c :: rest =>
              if c = 0x2c then (elements n rest).map fun r => (v :: r.1, r.2)
              else if c = 0x5d then some ([v], rest)
              else none

end

/-- `JSON.parse`; every call goes past a byte, so the length bounds them. -/
def parse (s : List UInt8) : Option Value :=
  match value (2 * s.length + 1) s with
  | some (v, rest) => if skipSpace rest = [] then some v else none
  | none => none

/-- A property of an object: the last of its name. -/
def Value.get (v : Value) (key : List Char) : Option Value :=
  match v with
  | .object ms => ms.reverse.lookup (utf16 key)
  | _ => none

/-! ## §4. Strings that were written. -/

theorem stringBody_cons {b : UInt8} (hquote : b ≠ 0x22) (hslash : b ≠ 0x5c)
    (hcontrol : ¬ b < 0x20) (s : List UInt8) :
    stringBody (b :: s) = (stringBody s).map (pushUnit (UInt16.ofNat b.toNat)) := by
  conv_lhs => rw [stringBody.eq_def]
  dsimp only
  rw [if_neg hquote, if_neg hslash, if_neg hcontrol]

theorem stringBody_short {letter : UInt8} {u : UInt16} (h : unescape? letter = some u)
    (s : List UInt8) : stringBody (0x5c :: letter :: s) = (stringBody s).map (pushUnit u) := by
  have hquote : (0x5c : UInt8) ≠ 0x22 := by decide
  conv_lhs => rw [stringBody.eq_def]
  dsimp only
  rw [if_neg hquote, if_pos rfl, h]

/-- Four digits are the code unit that they were written for. -/
theorem stringBody_escapeUnit {n : Nat} (hn : n < 0x10000) (s : List UInt8) :
    stringBody (escapeUnit n ++ s) = (stringBody s).map (pushUnit (UInt16.ofNat n)) := by
  have hunit : hexUnit? (asciiDigit (n / 0x1000 % 16)) (asciiDigit (n / 0x100 % 16))
      (asciiDigit (n / 0x10 % 16)) (asciiDigit (n % 16)) = some (UInt16.ofNat n) := by
    have hsum : n / 0x1000 % 16 * 0x1000 + n / 0x100 % 16 * 0x100 + n / 0x10 % 16 * 0x10 +
        n % 16 = n := by omega
    unfold hexUnit?
    rw [asciiValue?_asciiDigit (by omega), asciiValue?_asciiDigit (by omega),
      asciiValue?_asciiDigit (by omega), asciiValue?_asciiDigit (by omega)]
    dsimp only
    rw [hsum]
  have hnone : unescape? 0x75 = none := by decide
  unfold escapeUnit
  simp only [List.cons_append, List.nil_append]
  have hquote : (0x5c : UInt8) ≠ 0x22 := by decide
  conv_lhs => rw [stringBody.eq_def]
  dsimp only
  rw [if_neg hquote, if_pos rfl, hnone]
  dsimp only
  rw [if_pos rfl, hunit]

/-- A character that is read as it was meant: one of ASCII, or a separator of lines or
paragraphs, which is escaped. -/
def isExact (c : Char) : Bool := isAscii c || c.toNat = 0x2028 || c.toNat = 0x2029

/-- The code units that a character is read as: its own, or else one for each of its bytes. -/
def receivedChar (c : Char) : List UInt16 :=
  if isExact c then utf16Char c
  else (String.utf8EncodeChar c).map fun b => UInt16.ofNat b.toNat

/-- The code units that a string is read as. -/
def received (s : List Char) : List UInt16 := s.flatMap receivedChar

/-- Some code units before those of the rest. -/
def pushUnits (us : List UInt16) (r : List UInt16 × List UInt8) : List UInt16 × List UInt8 :=
  (us ++ r.1, r.2)

/-- Bytes that are not of ASCII are read one by one. -/
theorem stringBody_append {bs : List UInt8} (h : ∀ b ∈ bs, 0x80 ≤ b) (s : List UInt8) :
    stringBody (bs ++ s) =
      (stringBody s).map (pushUnits (bs.map fun b => UInt16.ofNat b.toNat)) := by
  induction bs with
  | nil =>
      cases hs : stringBody s with
      | none => rw [List.nil_append, hs]; rfl
      | some r => rw [List.nil_append, hs]; rfl
  | cons b bs ih =>
      rw [List.forall_mem_cons] at h
      have hb := UInt8.le_iff_toNat_le.mp h.1
      have hquote : b ≠ 0x22 := by
        rintro rfl
        exact absurd hb (by decide)
      have hslash : b ≠ 0x5c := by
        rintro rfl
        exact absurd hb (by decide)
      have hcontrol : ¬ b < 0x20 := by
        rw [UInt8.lt_iff_toNat_lt]
        intro hlt
        have hlt' : b.toNat < 32 := hlt
        have hb' : 128 ≤ b.toNat := hb
        omega
      rw [List.cons_append, stringBody_cons hquote hslash hcontrol, ih h.2, Option.map_map]
      rfl

/-- A character with a short escape. -/
theorem shortEscape_spec {n : Nat} {letter : UInt8} (h : shortEscape n = some letter) :
    n < 0x80 ∧ unescape? letter = some (UInt16.ofNat n) := by
  unfold shortEscape at h
  split at h
  · injection h with h
    subst h
    decide
  · injection h with h
    subst h
    decide
  · injection h with h
    subst h
    decide
  · injection h with h
    subst h
    decide
  · injection h with h
    subst h
    decide
  · injection h with h
    subst h
    decide
  · injection h with h
    subst h
    decide
  · cases h

/-- What is read of a character with an escape is the character. -/
theorem receivedChar_of_escaped {c : Char} (hc : c.toNat < 0x80 ∨ isUnitEscaped c.toNat = true) :
    c.toNat < 0x10000 ∧ receivedChar c = [UInt16.ofNat c.toNat] := by
  have hcases : c.toNat < 0x80 ∨ c.toNat = 0x2028 ∨ c.toNat = 0x2029 := by
    rcases hc with hc | hc
    · exact Or.inl hc
    · simp only [isUnitEscaped, Bool.or_eq_true, decide_eq_true_eq] at hc
      omega
  have hlt : c.toNat < 0x10000 := by omega
  have hself : isExact c = true := by
    simp only [isExact, isAscii, Bool.or_eq_true, decide_eq_true_eq]
    omega
  refine ⟨hlt, ?_⟩
  rw [receivedChar, hself, if_pos rfl, utf16Char, if_pos hlt]

theorem stringBody_marshalChar (c : Char) (s : List UInt8) :
    stringBody (marshalChar c ++ s) = (stringBody s).map (pushUnits (receivedChar c)) := by
  cases hshort : shortEscape c.toNat with
  | some letter =>
      obtain ⟨hlt, hletter⟩ := shortEscape_spec hshort
      rw [marshalChar, hshort, (receivedChar_of_escaped (Or.inl hlt)).2]
      exact stringBody_short hletter s
  | none =>
      cases hunit : isUnitEscaped c.toNat with
      | true =>
          obtain ⟨hlt, hreceived⟩ := receivedChar_of_escaped (Or.inr hunit)
          rw [marshalChar, hshort, hreceived]
          dsimp only
          rw [hunit, if_pos rfl]
          exact stringBody_escapeUnit hlt s
      | false =>
          rw [marshalChar, hshort]
          dsimp only
          rw [hunit, if_neg Bool.false_ne_true]
          cases hascii : isAscii c with
          | true =>
              have hlt : c.toNat < 0x80 := of_decide_eq_true hascii
              have hb : (UInt8.ofNat c.toNat).toNat = c.toNat :=
                UInt8.toNat_ofNat_of_lt' (show c.toNat < 0x100 by omega)
              have hne : ∀ n, n < 0x100 → shortEscape n ≠ none →
                  UInt8.ofNat c.toNat ≠ UInt8.ofNat n := by
                rintro n hn hsome heq
                have heq' := congrArg UInt8.toNat heq
                rw [hb, UInt8.toNat_ofNat_of_lt' hn] at heq'
                rw [heq'] at hshort
                exact hsome hshort
              have hcontrol : ¬ UInt8.ofNat c.toNat < 0x20 := by
                intro hcontrol
                have hcontrol' : (UInt8.ofNat c.toNat).toNat < 0x20 := hcontrol
                rw [hb] at hcontrol'
                simp only [isUnitEscaped, Bool.or_eq_false_iff, decide_eq_false_iff_not] at hunit
                omega
              rw [utf8EncodeChar_of_isAscii hascii, (receivedChar_of_escaped (Or.inl hlt)).2]
              have hcons := stringBody_cons (hne 0x22 (by decide) (by decide))
                (hne 0x5c (by decide) (by decide)) hcontrol s
              rw [hb] at hcons
              exact hcons
          | false =>
              have hraw : isExact c = false := by
                simp only [isUnitEscaped, Bool.or_eq_false_iff] at hunit
                rw [isExact, hascii, hunit.1.2, hunit.2]
                rfl
              rw [receivedChar, hraw, if_neg Bool.false_ne_true]
              exact stringBody_append (fun b hb => le_of_mem_utf8EncodeChar hascii hb) s

/-- **What a string that was written is read as.** -/
theorem stringBody_marshal (cs : List Char) (s : List UInt8) :
    stringBody (cs.flatMap marshalChar ++ 0x22 :: s) = some (received cs, s) := by
  induction cs with
  | nil =>
      rw [List.flatMap_nil, List.nil_append, stringBody.eq_def]
      exact if_pos rfl
  | cons c cs ih =>
      rw [List.flatMap_cons, List.append_assoc, stringBody_marshalChar, ih]
      rfl

/-- Other characters are read as more code units than they are. -/
theorem length_utf16Char (c : Char) :
    (utf16Char c).length ≤ (receivedChar c).length ∧
      ((receivedChar c).length ≤ (utf16Char c).length → isExact c = true) := by
  rw [receivedChar]
  split
  · next h => exact ⟨Nat.le_refl _, fun _ => h⟩
  · next h =>
      rw [isExact, Bool.or_eq_true, Bool.or_eq_true, not_or, not_or, ← utf8Size_eq_one_iff] at h
      have hpos := c.utf8Size_pos
      have hlen : (utf16Char c).length < c.utf8Size := by
        unfold utf16Char
        split
        · show 1 < c.utf8Size
          omega
        · next hlarge =>
            have hfour : c.utf8Size = 4 := by
              rw [Char.utf8Size_eq_four_iff, UInt32.lt_iff_toNat_lt]
              have hlarge' : ¬ c.val.toNat < 0x10000 := hlarge
              show 0xffff < c.val.toNat
              omega
            show 2 < c.utf8Size
            omega
      rw [List.length_map, String.length_utf8EncodeChar]
      exact ⟨by omega, fun hle => by omega⟩

theorem length_utf16 (s : List Char) : (utf16 s).length ≤ (received s).length := by
  induction s with
  | nil => exact Nat.le_refl 0
  | cons c s ih =>
      have hc := (length_utf16Char c).1
      simp only [utf16, received, List.flatMap_cons, List.length_append] at ih ⊢
      omega

/-- **When a string is read as it was meant.** -/
theorem received_eq_iff {s : List Char} : received s = utf16 s ↔ ∀ c ∈ s, isExact c = true := by
  have hself : ∀ {c}, isExact c = true → receivedChar c = utf16Char c := fun h => if_pos h
  induction s with
  | nil => exact iff_of_true rfl nofun
  | cons c s ih =>
      rw [List.forall_mem_cons]
      refine Iff.trans ?_ (and_congr_right fun _ => ih)
      constructor
      · intro h
        have hlen := congrArg List.length h
        have hs := length_utf16 s
        obtain ⟨hle, hexact⟩ := length_utf16Char c
        unfold received utf16 at h hlen hs
        rw [List.flatMap_cons, List.flatMap_cons, List.length_append, List.length_append] at hlen
        have hc := hexact (by omega)
        rw [List.flatMap_cons, List.flatMap_cons, hself hc, List.append_cancel_left_eq] at h
        exact ⟨hc, h⟩
      · rintro ⟨hc, hs⟩
        unfold received utf16 at hs ⊢
        rw [List.flatMap_cons, List.flatMap_cons, hself hc, hs]

/-! ## §5. Numbers that were written. -/

/-- What may follow a value: a comma, or the end of the object. -/
def Ends (t : List UInt8) : Prop := ∃ c rest, t = c :: rest ∧ (c = 0x2c ∨ c = 0x7d)

theorem decimal_digits (n : Nat) : ∀ b ∈ decimal n, isDigit b = true := by
  have hdigit : ∀ d : Fin 10, isDigit (UInt8.ofNat (0x30 + d.val)) = true := by decide
  induction n using Nat.strongRecOn with
  | ind n ih =>
      rw [decimal]
      split
      · next hlt =>
          rw [List.forall_mem_singleton]
          exact hdigit ⟨n, hlt⟩
      · rw [List.forall_mem_append, List.forall_mem_singleton]
        exact ⟨ih (n / 10) (by omega), hdigit ⟨n % 10, by omega⟩⟩

theorem decimal_ne_nil (n : Nat) : decimal n ≠ [] := by
  rw [decimal]
  split
  · exact List.cons_ne_nil _ _
  · exact List.append_ne_nil_of_right_ne_nil _ (List.cons_ne_nil _ _)

/-- A number does not begin with a zero, unless it is one. -/
theorem decimal_head {n : Nat} (hn : 0 < n) : ∃ d ds, decimal n = d :: ds ∧ d ≠ 0x30 := by
  have hdigit : ∀ d : Fin 10, 0 < d.val → UInt8.ofNat (0x30 + d.val) ≠ 0x30 := by decide
  induction n using Nat.strongRecOn with
  | ind n ih =>
      rw [decimal]
      split
      · next hlt => exact ⟨_, [], rfl, hdigit ⟨n, hlt⟩ hn⟩
      · obtain ⟨d, ds, hd, hne⟩ := ih (n / 10) (by omega) (by omega)
        exact ⟨d, ds ++ [UInt8.ofNat (0x30 + n % 10)], by rw [hd]; rfl, hne⟩

theorem skipDigits_append {ds t : List UInt8} (hne : ds ≠ [])
    (hds : ∀ b ∈ ds, isDigit b = true) (ht : Ends t) : skipDigits (ds ++ t) = some t := by
  obtain ⟨c, rest, rfl, hc⟩ := ht
  have hdigit : ¬ isDigit c = true := by
    rcases hc with rfl | rfl
    · decide
    · decide
  obtain ⟨d, ds, rfl⟩ := List.exists_cons_of_ne_nil hne
  have hhead : ((d :: ds ++ c :: rest).head?.any isDigit) = true := hds d List.mem_cons_self
  rw [skipDigits, if_pos hhead, List.dropWhile_append_of_pos hds,
    List.dropWhile_cons_of_neg hdigit]

theorem skipInteger_decimal (n : Nat) {t : List UInt8} (ht : Ends t) :
    skipInteger (decimal n ++ t) = some t := by
  rcases Nat.eq_zero_or_pos n with rfl | hpos
  · rw [decimal, if_pos (by decide), List.singleton_append, skipInteger]
    exact if_pos rfl
  · obtain ⟨d, ds, hd, hne⟩ := decimal_head hpos
    have hdigits := decimal_digits n
    rw [hd] at hdigits ⊢
    rw [List.cons_append, skipInteger, if_neg hne]
    exact skipDigits_append (List.cons_ne_nil d ds) hdigits ht

theorem skipNumber_marshalInt (k : Int) {t : List UInt8} (ht : Ends t) :
    skipNumber (marshalInt k ++ t) = some t := by
  have hrest : (skipFraction t).bind skipExponent = some t := by
    obtain ⟨c, rest, rfl, hc⟩ := ht
    rcases hc with rfl | rfl
    · rfl
    · rfl
  have hunsigned : ∀ n, ((skipInteger (decimal n ++ t)).bind skipFraction).bind skipExponent =
      some t := by
    intro n
    rw [skipInteger_decimal n ht, Option.bind_some, hrest]
  cases k with
  | ofNat n =>
      have hsign : (decimal n ++ t).head? ≠ some 0x2d := by
        intro hhead
        have hdigits := decimal_digits n
        cases hd : decimal n with
        | nil => exact absurd hd (decimal_ne_nil n)
        | cons d ds =>
            rw [hd] at hhead hdigits
            injection hhead with hhead
            have hdigit := hdigits d List.mem_cons_self
            rw [hhead] at hdigit
            exact absurd hdigit (by decide)
      unfold skipNumber marshalInt
      dsimp only
      rw [if_neg hsign]
      exact hunsigned n
  | negSucc n => exact hunsigned (n + 1)

theorem number_marshalInt (k : Int) {t : List UInt8} (ht : Ends t) :
    number (marshalInt k ++ t) = some (.number (marshalInt k), t) := by
  rw [number, skipNumber_marshalInt k ht, Option.map_some, List.length_append,
    Nat.add_sub_cancel, List.take_left]

/-! ## §6. Objects that were written. -/

/-- What a field is read as. -/
def readField : Field → Value
  | .string s => .string (received s)
  | .int n => .number (marshalInt n)

/-- What a member is read as. -/
def readMember (m : List Char × Field) : List UInt16 × Value := (received m.1, readField m.2)

theorem skipSpace_cons {b : UInt8} (hb : isSpace b = false) (s : List UInt8) :
    skipSpace (b :: s) = b :: s :=
  List.dropWhile_cons_of_neg (by rw [hb]; exact Bool.false_ne_true)

theorem value_marshalString (n : Nat) (s : List Char) (t : List UInt8) :
    value (n + 1) (marshalString s ++ t) = some (.string (received s), t) := by
  have htext : marshalString s ++ t = 0x22 :: (s.flatMap marshalChar ++ 0x22 :: t) := by
    simp [marshalString]
  rw [htext, value, skipSpace_cons (by decide)]
  dsimp only
  rw [if_pos rfl, stringBody_marshal]
  rfl

/-- A number begins with a digit or a sign. -/
theorem marshalInt_head (k : Int) :
    ∃ b s, marshalInt k = b :: s ∧ (isDigit b = true ∨ b = 0x2d) := by
  cases k with
  | ofNat n =>
      have hdigits := decimal_digits n
      cases hd : decimal n with
      | nil => exact absurd hd (decimal_ne_nil n)
      | cons d ds =>
          rw [hd] at hdigits
          exact ⟨d, ds, hd, Or.inl (hdigits d List.mem_cons_self)⟩
  | negSucc n => exact ⟨0x2d, decimal (n + 1), rfl, Or.inr rfl⟩

theorem value_marshalInt (n : Nat) (k : Int) {t : List UInt8} (ht : Ends t) :
    value (n + 1) (marshalInt k ++ t) = some (.number (marshalInt k), t) := by
  obtain ⟨b, s, hk, hb⟩ := marshalInt_head k
  have hne : ∀ c : UInt8, isDigit c = false → c ≠ 0x2d → b ≠ c := by
    rintro c hc hminus rfl
    rw [hc] at hb
    exact hb.elim Bool.false_ne_true hminus
  have hspace : isSpace b = false := by
    rw [← Bool.not_eq_true, isSpace, decide_eq_true_eq]
    simp only [List.mem_cons, List.not_mem_nil, or_false, not_or]
    exact ⟨hne _ (by decide) (by decide), hne _ (by decide) (by decide),
      hne _ (by decide) (by decide), hne _ (by decide) (by decide)⟩
  have hnumber := number_marshalInt k ht
  rw [hk, List.cons_append] at hnumber ⊢
  rw [value, skipSpace_cons hspace]
  dsimp only
  rw [if_neg (hne 0x22 (by decide) (by decide)), if_neg (hne 0x7b (by decide) (by decide)),
    if_neg (hne 0x5b (by decide) (by decide)), if_neg (hne 0x74 (by decide) (by decide)),
    if_neg (hne 0x66 (by decide) (by decide)), if_neg (hne 0x6e (by decide) (by decide))]
  exact hnumber

theorem value_marshalField (n : Nat) (f : Field) {t : List UInt8} (ht : Ends t) :
    value (n + 1) (marshalField f ++ t) = some (readField f, t) := by
  cases f with
  | string s => exact value_marshalString n s t
  | int k => exact value_marshalInt n k ht

/-- A member, and what the end after it says. -/
theorem members_cons (n : Nat) (m : List Char × Field) {c : UInt8} (rest : List UInt8)
    (hc : c = 0x2c ∨ c = 0x7d) :
    members (n + 2) (marshalMember m ++ c :: rest) =
      if c = 0x2c then (members (n + 1) rest).map fun r => (readMember m :: r.1, r.2)
      else some ([readMember m], rest) := by
  have htext : marshalMember m ++ c :: rest =
      marshalString m.1 ++ 0x3a :: (marshalField m.2 ++ c :: rest) := by
    simp [marshalMember]
  have hends : Ends (c :: rest) := ⟨c, rest, rfl, hc⟩
  have hspace : isSpace c = false := by
    rcases hc with rfl | rfl
    · decide
    · decide
  rw [htext, members, value_marshalString]
  dsimp only
  rw [skipSpace_cons (by decide)]
  dsimp only
  rw [if_pos rfl, value_marshalField n m.2 hends]
  dsimp only
  rw [skipSpace_cons hspace]
  dsimp only
  rcases hc with rfl | rfl
  · rw [if_pos rfl, if_pos rfl]
    rfl
  · rfl

theorem members_marshalMembers {ms : List (List Char × Field)} (hne : ms ≠ []) {n : Nat}
    (hn : ms.length < n) (rest : List UInt8) :
    members n (marshalMembers ms ++ 0x7d :: rest) = some (ms.map readMember, rest) := by
  induction ms generalizing n with
  | nil => exact absurd rfl hne
  | cons m ms ih =>
      obtain ⟨n, rfl⟩ : ∃ k, n = k + 2 := ⟨n - 2, by rw [List.length_cons] at hn; omega⟩
      cases ms with
      | nil =>
          rw [marshalMembers, members_cons n m rest (Or.inr rfl)]
          rfl
      | cons m' ms =>
          rw [List.length_cons] at hn
          rw [marshalMembers, List.append_assoc, List.cons_append,
            members_cons n m _ (Or.inl rfl), if_pos rfl,
            ih (List.cons_ne_nil _ _) (by omega)]
          rfl

/-- Every member has a quote. -/
theorem marshalMember_head (m : List Char × Field) : ∃ s, marshalMember m = 0x22 :: s :=
  ⟨_, rfl⟩

theorem length_marshalMembers (ms : List (List Char × Field)) :
    ms.length ≤ (marshalMembers ms).length := by
  induction ms with
  | nil => exact Nat.le_refl 0
  | cons m ms ih =>
      obtain ⟨s, hs⟩ := marshalMember_head m
      cases ms with
      | nil =>
          rw [marshalMembers, hs, List.length_cons, List.length_cons]
          exact Nat.succ_le_succ (Nat.zero_le _)
      | cons m' ms =>
          rw [marshalMembers, hs]
          simp only [List.length_append, List.length_cons] at ih ⊢
          omega

/-- **What an object that was written is read as.** -/
theorem parse_marshalObject {ms : List (List Char × Field)} (hne : ms ≠ []) :
    parse (marshalObject ms) = some (.object (ms.map readMember)) := by
  have hlen := length_marshalMembers ms
  have hfuel : ms.length < 2 * (marshalObject ms).length := by
    rw [marshalObject, List.length_cons, List.length_append]
    omega
  have hmembers := members_marshalMembers hne hfuel []
  have hhead : ∃ s, marshalMembers ms ++ [0x7d] = 0x22 :: s := by
    obtain ⟨m, ms, rfl⟩ := List.exists_cons_of_ne_nil hne
    obtain ⟨s, hs⟩ := marshalMember_head m
    cases ms with
    | nil => exact ⟨s ++ [0x7d], by rw [marshalMembers, hs]; rfl⟩
    | cons m' ms => exact ⟨_, by rw [marshalMembers, hs]; rfl⟩
  obtain ⟨s, hs⟩ := hhead
  have hvalue : value (2 * (marshalObject ms).length + 1) (marshalObject ms) =
      some (.object (ms.map readMember), []) := by
    generalize 2 * (marshalObject ms).length = n at hmembers
    rw [value, marshalObject, skipSpace_cons (by decide)]
    dsimp only
    rw [if_neg (by decide), if_pos rfl, hs, skipSpace_cons (by decide)]
    dsimp only
    rw [if_neg (by decide), ← hs, hmembers]
    rfl
  rw [parse, hvalue]
  rfl

end Foundation.JSON
