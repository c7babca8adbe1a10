/-
  Foundation.DistinguishedNames
  ─────────────────────────────
  **DISTINGUISHED NAMES AS TEXT.**

  The grammar of RFC 4514, over UTF-8 bytes: `type=value` pairs between commas, or between
  plus signs where one relative name has several.  In a value a backslash escapes a special
  character, or stands before two hexadecimal digits; a value may not begin with a blank,
  nor end with one, and one that begins with `#` is in hexadecimal.  Some readers skip the
  blanks after a comma; RFC 4514 itself has none.

  Main results:
    * `parseValue_self_iff`      — when a text is the value that it says;
    * `attributes_joinText_iff`  — when joined attributes are read back.
-/
import Mathlib.Data.List.Nodup
import TLSentinel.Foundation.Hex
import TLSentinel.Foundation.Splits

namespace Foundation.DistinguishedNames

open Foundation.Hex (asciiValue?)
open Foundation.Splits

/-! ## §1. Values. -/

/-- A byte that stands for itself inside a value: none of NUL, `"`, `+`, `,`, `;`, `<`, `>`
and the backslash. -/
def isStringChar (b : UInt8) : Bool :=
  b ∉ [0x00, 0x22, 0x2b, 0x2c, 0x3b, 0x3c, 0x3e, 0x5c]

/-- A byte that a backslash may stand before: one of `"+,;<>`, a blank, `#`, `=`, a
backslash. -/
def isEscapable (b : UInt8) : Bool :=
  b ∈ [0x22, 0x2b, 0x2c, 0x3b, 0x3c, 0x3e, 0x20, 0x23, 0x3d, 0x5c]

/-- `hexpair`. -/
def hexPair? (h l : UInt8) : Option UInt8 :=
  match asciiValue? h, asciiValue? l with
  | some hi, some lo => some (UInt8.ofNat (hi * 16 + lo))
  | _, _ => none

/-- The bytes of a value, each with whether it was escaped. -/
def decode : List UInt8 → Option (List (Bool × UInt8))
  | [] => some []
  | 0x5c :: b :: s =>
      if isEscapable b then (decode s).map ((true, b) :: ·)
      else
        match s with
        | [] => none
        | l :: s =>
            match hexPair? b l with
            | none => none
            | some d => (decode s).map ((true, d) :: ·)
  | b :: s => if isStringChar b then (decode s).map ((false, b) :: ·) else none

/-- One or more `hexpair`s. -/
def hexPairs : List UInt8 → Option (List UInt8)
  | [h, l] => (hexPair? h l).map ([·])
  | h :: l :: s =>
      match hexPair? h l, hexPairs s with
      | some d, some ds => some (d :: ds)
      | _, _ => none
  | _ => none

/-- `attributeValue`. -/
inductive Value where
  | string (bytes : List UInt8)
  | hexstring (bytes : List UInt8)
  deriving DecidableEq, Repr

/-- The blank, not escaped. -/
def blank : Bool × UInt8 := (false, 0x20)

/-- The value of a text that does not begin with `#`. -/
def parseString (s : List UInt8) : Option Value :=
  match decode s with
  | none => none
  | some units =>
      if units.head? = some blank ∨ units.getLast? = some blank then none
      else some (.string (units.map Prod.snd))

/-- The value of a text. -/
def parseValue : List UInt8 → Option Value
  | 0x23 :: s => (hexPairs s).map .hexstring
  | s => parseString s

/-- A text that needs no escapes. -/
structure IsPlain (s : List UInt8) : Prop where
  chars : ∀ b ∈ s, isStringChar b = true
  head : s.head? ≠ some 0x20 ∧ s.head? ≠ some 0x23
  last : s.getLast? ≠ some 0x20

/-- What `decode` answers, unit by unit. -/
inductive Decodes : List UInt8 → List (Bool × UInt8) → Prop
  | nil : Decodes [] []
  | escaped {b : UInt8} {s : List UInt8} {units : List (Bool × UInt8)} :
      isEscapable b = true → Decodes s units → Decodes (0x5c :: b :: s) ((true, b) :: units)
  | hex {h l d : UInt8} {s : List UInt8} {units : List (Bool × UInt8)} :
      hexPair? h l = some d → Decodes s units → Decodes (0x5c :: h :: l :: s) ((true, d) :: units)
  | char {b : UInt8} {s : List UInt8} {units : List (Bool × UInt8)} :
      isStringChar b = true → Decodes s units → Decodes (b :: s) ((false, b) :: units)

theorem decodes_of_decode {s : List UInt8} {units : List (Bool × UInt8)}
    (h : decode s = some units) : Decodes s units := by
  fun_induction decode s generalizing units with
  | case1 =>
      injection h with h
      subst h
      exact .nil
  | case2 b s hb ih =>
      obtain ⟨rest, hrest, rfl⟩ := Option.map_eq_some_iff.mp h
      exact .escaped hb (ih hrest)
  | case3 => cases h
  | case4 => cases h
  | case5 b hb l s d hd ih =>
      obtain ⟨rest, hrest, rfl⟩ := Option.map_eq_some_iff.mp h
      exact .hex hd (ih hrest)
  | case6 b s hslash hb ih =>
      obtain ⟨rest, hrest, rfl⟩ := Option.map_eq_some_iff.mp h
      exact .char hb (ih hrest)
  | case7 => cases h

theorem decode_of_isStringChar {s : List UInt8} (h : ∀ b ∈ s, isStringChar b = true) :
    decode s = some (s.map fun b => (false, b)) := by
  induction s with
  | nil => rfl
  | cons b s ih =>
      rw [List.forall_mem_cons] at h
      unfold decode
      split
      · cases ‹b :: s = []›
      · next heq =>
          injection heq with hb _
          rw [hb] at h
          exact absurd h.1 (by decide)
      · next heq =>
          injection heq with hb hs
          subst hb hs
          rw [if_pos h.1, ih h.2]
          rfl

/-- An escape is longer than what it stands for. -/
theorem Decodes.length {s : List UInt8} {units : List (Bool × UInt8)} (h : Decodes s units) :
    units.length ≤ s.length ∧
      (s.length ≤ units.length → ∀ b ∈ s, isStringChar b = true) := by
  induction h with
  | nil => exact ⟨Nat.le_refl 0, fun _ => nofun⟩
  | escaped _ _ ih =>
      simp only [List.length_cons]
      exact ⟨by omega, fun hle => by omega⟩
  | hex _ _ ih =>
      simp only [List.length_cons]
      exact ⟨by omega, fun hle => by omega⟩
  | char hb _ ih =>
      simp only [List.length_cons, List.forall_mem_cons]
      exact ⟨by omega, fun hle => ⟨hb, ih.2 (by omega)⟩⟩

theorem not_comma_of_hexPair? {h l d : UInt8} (hd : hexPair? h l = some d) :
    h ≠ 0x2c ∧ l ≠ 0x2c := by
  have hnone : asciiValue? 0x2c = none := by decide
  unfold hexPair? at hd
  split at hd
  · next hi lo hh hl =>
      refine ⟨?_, ?_⟩
      · rintro rfl
        rw [hnone] at hh
        cases hh
      · rintro rfl
        rw [hnone] at hl
        cases hl
  · cases hd

/-- A comma of a text is escaped, and what it stands for is nearer to the front. -/
theorem Decodes.comma {s : List UInt8} {units : List (Bool × UInt8)} (h : Decodes s units)
    {a rest : List UInt8} (hs : s = a ++ 0x2c :: rest) :
    ∃ w w', units.map Prod.snd = w ++ 0x2c :: w' ∧ w.length < a.length := by
  induction h generalizing a with
  | nil => exact absurd hs.symm (List.append_ne_nil_of_right_ne_nil a (List.cons_ne_nil _ _))
  | @escaped b s units _ _ ih =>
      match a, hs with
      | [], hs =>
          injection hs with hslash _
          cases hslash
      | [_], hs =>
          injection hs with _ hs
          injection hs with hb _
          exact ⟨[], units.map Prod.snd, by rw [hb]; rfl, Nat.zero_lt_one⟩
      | _ :: _ :: a, hs =>
          injection hs with _ hs
          injection hs with _ hs
          obtain ⟨w, w', hw, hlt⟩ := ih hs
          refine ⟨b :: w, w', by rw [List.map_cons, hw, List.cons_append], ?_⟩
          simp only [List.length_cons]
          omega
  | @hex hi lo d s units hd _ ih =>
      obtain ⟨hhi, hlo⟩ := not_comma_of_hexPair? hd
      match a, hs with
      | [], hs =>
          injection hs with hslash _
          cases hslash
      | [_], hs =>
          injection hs with _ hs
          injection hs with hcomma _
          exact absurd hcomma hhi
      | [_, _], hs =>
          injection hs with _ hs
          injection hs with _ hs
          injection hs with hcomma _
          exact absurd hcomma hlo
      | _ :: _ :: _ :: a, hs =>
          injection hs with _ hs
          injection hs with _ hs
          injection hs with _ hs
          obtain ⟨w, w', hw, hlt⟩ := ih hs
          refine ⟨d :: w, w', by rw [List.map_cons, hw, List.cons_append], ?_⟩
          simp only [List.length_cons]
          omega
  | @char b s units hb _ ih =>
      match a, hs with
      | [], hs =>
          injection hs with hcomma _
          rw [hcomma] at hb
          cases hb
      | _ :: a, hs =>
          injection hs with _ hs
          obtain ⟨w, w', hw, hlt⟩ := ih hs
          refine ⟨b :: w, w', by rw [List.map_cons, hw, List.cons_append], ?_⟩
          simp only [List.length_cons]
          omega

/-- **A text that says a beginning of itself**, up to its end or a comma, is that beginning:
its first comma would be of the beginning, and nearer to the front. -/
theorem Decodes.eq_of_append {s v more : List UInt8} {units : List (Bool × UInt8)}
    (h : Decodes s units) (hv : units.map Prod.snd = v) (hs : s = v ++ more)
    (hmore : more.head? = none ∨ more.head? = some 0x2c) : more = [] := by
  cases more with
  | nil => rfl
  | cons c more =>
      have hc : c = 0x2c := by
        rcases hmore with hnone | hsome
        · cases hnone
        · injection hsome
      subst hc
      -- the first comma
      have hmem : (0x2c : UInt8) ∈ s := by
        rw [hs]
        exact List.mem_append_right v List.mem_cons_self
      obtain ⟨a, rest, hfirst, hnot⟩ := List.eq_append_cons_of_mem hmem
      obtain ⟨w, w', hw, hlt⟩ := h.comma hfirst
      have heq : w ++ 0x2c :: (w' ++ 0x2c :: more) = a ++ 0x2c :: rest := by
        rw [← hfirst, hs, ← hv, hw, List.append_assoc, List.cons_append]
      rcases List.append_eq_append_iff.mp heq with ⟨u, ha, hu⟩ | ⟨u, hwa, -⟩
      · cases u with
        | nil =>
            rw [List.append_nil] at ha
            rw [ha] at hlt
            exact absurd hlt (Nat.lt_irrefl _)
        | cons b u =>
            rw [List.cons_append, List.cons.injEq] at hu
            rw [ha, ← hu.1] at hnot
            exact absurd (List.mem_append_right w List.mem_cons_self) hnot
      · have hlen := congrArg List.length hwa
        rw [List.length_append] at hlen
        omega

theorem parseString_eq_some {s v : List UInt8} (h : parseString s = some (.string v)) :
    ∃ units, decode s = some units ∧ units.map Prod.snd = v ∧ units.head? ≠ some blank ∧
      units.getLast? ≠ some blank := by
  unfold parseString at h
  split at h
  · cases h
  · next units hunits =>
      split at h
      · cases h
      · next hblank =>
          injection h with h
          injection h with h
          rw [not_or] at hblank
          exact ⟨units, hunits, h, hblank.1, hblank.2⟩

theorem parseValue_eq_parseString {s : List UInt8} (h : s.head? ≠ some 0x23) :
    parseValue s = parseString s := by
  unfold parseValue
  split
  · exact absurd rfl h
  · rfl

theorem parseValue_eq_some {s v : List UInt8} (h : parseValue s = some (.string v)) :
    s.head? ≠ some 0x23 ∧ parseString s = some (.string v) := by
  unfold parseValue at h
  split at h
  · obtain ⟨bytes, -, hbytes⟩ := Option.map_eq_some_iff.mp h
    cases hbytes
  · next hhash =>
      refine ⟨fun hhead => ?_, h⟩
      obtain ⟨rest, rfl⟩ := List.head?_eq_some_iff.mp hhead
      exact hhash rest rfl

theorem map_eq_some_blank_iff {o : Option UInt8} :
    o.map (fun b => (false, b)) = some blank ↔ o = some 0x20 := by
  cases o with
  | none => exact iff_of_false nofun nofun
  | some b => simp [blank]

/-- **When a text is the value that it says.** -/
theorem parseValue_self_iff {s : List UInt8} : parseValue s = some (.string s) ↔ IsPlain s := by
  constructor
  · intro h
    obtain ⟨hhash, h⟩ := parseValue_eq_some h
    obtain ⟨units, hdecode, hunits, hhead, hlast⟩ := parseString_eq_some h
    have hlen := congrArg List.length hunits
    rw [List.length_map] at hlen
    have hchars := (decodes_of_decode hdecode).length.2 hlen.ge
    rw [decode_of_isStringChar hchars, Option.some.injEq] at hdecode
    rw [← hdecode, List.head?_map, Ne, map_eq_some_blank_iff] at hhead
    rw [← hdecode, List.getLast?_map, Ne, map_eq_some_blank_iff] at hlast
    exact ⟨hchars, ⟨hhead, hhash⟩, hlast⟩
  · intro h
    have hblank : ¬ ((s.map fun b => (false, b)).head? = some blank ∨
        (s.map fun b => (false, b)).getLast? = some blank) := by
      rw [List.head?_map, List.getLast?_map, map_eq_some_blank_iff, map_eq_some_blank_iff, not_or]
      exact ⟨h.head.1, h.last⟩
    have hself : (s.map fun b => (false, b)).map Prod.snd = s := by
      rw [List.map_map]
      exact List.map_id s
    rw [parseValue_eq_parseString h.head.2, parseString, decode_of_isStringChar h.chars]
    show (if _ then _ else _) = _
    rw [if_neg hblank, hself]

/-! ## §2. Attributes. -/

/-- A letter. -/
def isAlpha (b : UInt8) : Bool := (0x41 ≤ b && b ≤ 0x5a) || (0x61 ≤ b && b ≤ 0x7a)

/-- A digit. -/
def isDigit (b : UInt8) : Bool := 0x30 ≤ b && b ≤ 0x39

/-- `descr`: a letter, and then letters, digits and hyphens. -/
def isDescr : List UInt8 → Bool
  | [] => false
  | b :: s => isAlpha b && s.all fun c => isAlpha c || isDigit c || c = 0x2d

/-- `number`, without a leading zero. -/
def isNumber : List UInt8 → Bool
  | [] => false
  | [b] => isDigit b
  | b :: s => isDigit b && b ≠ 0x30 && s.all isDigit

/-- `numericoid`: two numbers or more, with dots between them. -/
def isNumericOID (s : List UInt8) : Bool :=
  let numbers := s.splitOn 0x2e
  numbers.all isNumber && decide (2 ≤ numbers.length)

/-- `attributeType`. -/
def isAttributeType (s : List UInt8) : Bool := isDescr s || isNumericOID s

/-- `attributeTypeAndValue`. -/
def parseAttribute (s : List UInt8) : Option (List UInt8 × Value) :=
  match cut 0x3d s with
  | (type, some value) =>
      if isAttributeType type then (parseValue value).map fun v => (type, v) else none
  | (_, none) => none

/-- A comma or a plus sign. -/
def isSeparator (b : UInt8) : Bool := b = 0x2c || b = 0x2b

/-- What stands before the first separator that is not escaped, and each such separator
with what stands after it. -/
def pieces : List UInt8 → List UInt8 × List (UInt8 × List UInt8)
  | [] => ([], [])
  | 0x5c :: b :: s => (0x5c :: b :: (pieces s).1, (pieces s).2)
  | b :: s =>
      if isSeparator b then ([], (b, (pieces s).1) :: (pieces s).2)
      else (b :: (pieces s).1, (pieces s).2)

/-- The blanks after a comma, for a reader that skips them. -/
def skipBlanks (lenient : Bool) (p : UInt8 × List UInt8) : List UInt8 :=
  if lenient && p.1 = 0x2c then p.2.dropWhile (fun b => decide (b = 0x20)) else p.2

/-- An attribute more in the first relative name. -/
def consHead (a : List UInt8 × Value) :
    List (List (List UInt8 × Value)) → List (List (List UInt8 × Value))
  | [] => [[a]]
  | rdn :: rdns => (a :: rdn) :: rdns

/-- The relative names: a plus sign stands inside one. -/
def group (first : List UInt8 × Value) :
    List (UInt8 × (List UInt8 × Value)) → List (List (List UInt8 × Value))
  | [] => [[first]]
  | (b, a) :: rest => if b = 0x2b then consHead first (group a rest) else [first] :: group a rest

/-- The attributes after the separators. -/
def readAll (lenient : Bool) :
    List (UInt8 × List UInt8) → Option (List (UInt8 × (List UInt8 × Value)))
  | [] => some []
  | p :: rest =>
      match parseAttribute (skipBlanks lenient p), readAll lenient rest with
      | some a, some as => some ((p.1, a) :: as)
      | _, _ => none

/-- `distinguishedName`: the relative names, each with its attributes. -/
def parse (lenient : Bool) (s : List UInt8) : Option (List (List (List UInt8 × Value))) :=
  if s = [] then some []
  else
    match parseAttribute (pieces s).1, readAll lenient (pieces s).2 with
    | some first, some rest => some (group first rest)
    | _, _ => none

/-- All attributes of a name. -/
def attributes (lenient : Bool) (s : List UInt8) : Option (List (List UInt8 × Value)) :=
  (parse lenient s).map List.flatten

theorem flatten_group (first : List UInt8 × Value) (rest : List (UInt8 × (List UInt8 × Value))) :
    (group first rest).flatten = first :: rest.map Prod.snd := by
  have hcons : ∀ a rdns, (consHead a rdns).flatten = a :: rdns.flatten := by
    intro a rdns
    cases rdns with
    | nil => rfl
    | cons rdn rdns => rfl
  induction rest generalizing first with
  | nil => rfl
  | cons p rest ih =>
      rw [group, List.map_cons, ← ih]
      split
      · rw [hcons]
      · rfl

/-- The first piece and the later ones say some attributes. -/
def Reads (lenient : Bool) (s : List UInt8) (as : List (List UInt8 × Value)) : Prop :=
  ∃ first rest, as = first :: rest.map Prod.snd ∧
    parseAttribute (pieces s).1 = some first ∧ readAll lenient (pieces s).2 = some rest

/-- What a name that is not empty says. -/
theorem attributes_eq_some_iff {lenient : Bool} {s : List UInt8}
    {as : List (List UInt8 × Value)} (hs : s ≠ []) :
    attributes lenient s = some as ↔ Reads lenient s as := by
  unfold attributes parse
  rw [if_neg hs, Option.map_eq_some_iff]
  constructor
  · rintro ⟨rdns, h, rfl⟩
    split at h
    · next first rest hfirst hrest =>
        injection h with h
        exact ⟨first, rest, by rw [← h, flatten_group], hfirst, hrest⟩
    · cases h
  · rintro ⟨first, rest, rfl, hfirst, hrest⟩
    rw [hfirst, hrest]
    exact ⟨_, rfl, flatten_group first rest⟩

/-! ## §3. Pieces. -/

/-- The text after the first piece. -/
def restText (rest : List (UInt8 × List UInt8)) : List UInt8 := rest.flatMap fun p => p.1 :: p.2

theorem pieces_text (s : List UInt8) : s = (pieces s).1 ++ restText (pieces s).2 := by
  fun_induction pieces s with
  | case1 => rfl
  | case2 b s ih =>
      rw [List.cons_append, List.cons_append, ← ih]
  | case3 b s _ hb ih =>
      show b :: s = b :: (_ ++ restText _)
      rw [← ih]
  | case4 b s _ hb ih =>
      rw [List.cons_append, ← ih]

theorem pieces_cons {b : UInt8} (hb : b ≠ 0x5c) (s : List UInt8) :
    pieces (b :: s) = if isSeparator b then ([], (b, (pieces s).1) :: (pieces s).2)
      else (b :: (pieces s).1, (pieces s).2) :=
  pieces.eq_3 b s fun _ _ hslash _ => hb hslash

/-- Bytes that do not separate, nor escape. -/
theorem pieces_append {a : List UInt8} (h : ∀ b ∈ a, b ≠ 0x5c ∧ isSeparator b = false)
    (s : List UInt8) : pieces (a ++ s) = (a ++ (pieces s).1, (pieces s).2) := by
  induction a with
  | nil => rfl
  | cons b a ih =>
      rw [List.forall_mem_cons] at h
      rw [List.cons_append, pieces_cons h.1.1, h.1.2, ih h.2]
      rfl

theorem pieces_comma (s : List UInt8) :
    pieces (0x2c :: s) = ([], (0x2c, (pieces s).1) :: (pieces s).2) := by
  rw [pieces_cons (by decide)]
  rfl

theorem pieces_blank (s : List UInt8) :
    pieces (0x20 :: s) = (0x20 :: (pieces s).1, (pieces s).2) := by
  rw [pieces_cons (by decide)]
  rfl

/-! ## §4. Joined attributes. -/

/-- An attribute as it is written, without escapes. -/
def attributeText (a : List UInt8 × List UInt8) : List UInt8 := a.1 ++ 0x3d :: a.2

/-- Attributes, with a comma and a blank between them. -/
def joinText : List (List UInt8 × List UInt8) → List UInt8
  | [] => []
  | [a] => attributeText a
  | a :: b :: rest => attributeText a ++ 0x2c :: 0x20 :: joinText (b :: rest)

/-- The attribute that is meant. -/
def attributeOf (a : List UInt8 × List UInt8) : List UInt8 × Value := (a.1, .string a.2)

/-- The bytes of a `descr` are not special. -/
theorem isDescr_mem {k : List UInt8} (h : isDescr k = true) {b : UInt8} (hb : b ∈ k) :
    b ≠ 0x5c ∧ isSeparator b = false ∧ b ≠ 0x3d ∧ b ≠ 0x20 := by
  have hword : (isAlpha b || isDigit b || decide (b = 0x2d)) = true := by
    cases k with
    | nil => cases hb
    | cons c k =>
        rw [isDescr, Bool.and_eq_true, List.all_eq_true] at h
        rcases List.mem_cons.mp hb with rfl | hb
        · rw [h.1]
          rfl
        · exact h.2 b hb
  have hsep : isSeparator b = false := by
    rw [← Bool.not_eq_true, isSeparator, Bool.or_eq_true, decide_eq_true_eq, decide_eq_true_eq]
    rintro (rfl | rfl)
    · exact absurd hword (by decide)
    · exact absurd hword (by decide)
  refine ⟨?_, hsep, ?_, ?_⟩
  · rintro rfl
    exact absurd hword (by decide)
  · rintro rfl
    exact absurd hword (by decide)
  · rintro rfl
    exact absurd hword (by decide)

theorem cut_attributeText {a : List UInt8 × List UInt8} (h : isDescr a.1 = true) :
    cut 0x3d (attributeText a) = (a.1, some a.2) :=
  cut_eq_iff.mpr ⟨fun hmem => (isDescr_mem h hmem).2.2.1 rfl, rfl⟩

theorem parseAttribute_attributeText {a : List UInt8 × List UInt8} (h : isDescr a.1 = true) :
    parseAttribute (attributeText a) = some (attributeOf a) ↔ IsPlain a.2 := by
  have htype : isAttributeType a.1 = true := by rw [isAttributeType, h, Bool.true_or]
  rw [← parseValue_self_iff, parseAttribute, cut_attributeText h]
  dsimp only
  rw [if_pos htype, Option.map_eq_some_iff]
  constructor
  · rintro ⟨v, hv, heq⟩
    injection heq with _ heq
    rw [hv, heq]
  · intro hv
    exact ⟨_, hv, rfl⟩

/-- The first attribute of a text that begins with an attribute has its type. -/
theorem type_of_parseAttribute {a : List UInt8 × List UInt8} {more : List UInt8}
    {first : List UInt8 × Value} (ha : isDescr a.1 = true)
    (h : parseAttribute (pieces (attributeText a ++ more)).1 = some first) : first.1 = a.1 := by
  have htext := pieces_text (attributeText a ++ more)
  unfold parseAttribute at h
  split at h
  · next type value hcut =>
      split at h
      · obtain ⟨v, -, rfl⟩ := Option.map_eq_some_iff.mp h
        obtain ⟨hnot, hp⟩ := cut_eq_iff.mp hcut
        rw [hp, tail, attributeText, List.append_assoc, List.append_assoc, List.cons_append,
          List.cons_append] at htext
        have hequals : 0x3d ∉ a.1 := fun hmem => (isDescr_mem ha hmem).2.2.1 rfl
        exact (append_cons_inj hequals hnot htext).1.symm
      · cases h
  · cases h

/-- **An attribute that is read from its text and what follows** is plain. -/
theorem isPlain_of_parseAttribute {a : List UInt8 × List UInt8} {more : List UInt8}
    (ha : isDescr a.1 = true) (hmore : more.head? = none ∨ more.head? = some 0x2c)
    (h : parseAttribute (pieces (attributeText a ++ more)).1 = some (attributeOf a)) :
    IsPlain a.2 := by
  have htext := pieces_text (attributeText a ++ more)
  generalize pieces (attributeText a ++ more) = cutText at h htext
  obtain ⟨p, rest⟩ := cutText
  dsimp only at h htext
  have hself := h
  unfold parseAttribute at h
  split at h
  · next type value hcut =>
      split at h
      · obtain ⟨v, hv, heq⟩ := Option.map_eq_some_iff.mp h
        injection heq with htype hvalue
        rw [hvalue] at hv
        obtain ⟨-, hp⟩ := cut_eq_iff.mp hcut
        rw [htype, tail] at hp
        -- the value that was cut off, and what follows it
        have hrest : a.2 ++ more = value ++ restText rest := by
          rw [hp, attributeText, List.append_assoc, List.append_assoc, List.cons_append,
            List.cons_append, List.append_cancel_left_eq, List.cons.injEq] at htext
          exact htext.2
        obtain ⟨units, hdecode, hunits, -, -⟩ := parseString_eq_some (parseValue_eq_some hv).2
        have hdecodes := decodes_of_decode hdecode
        have hlen := congrArg List.length hunits
        rw [List.length_map] at hlen
        have hle := hdecodes.length.1
        have hvalueEq : value = a.2 := by
          rcases List.append_eq_append_iff.mp hrest with ⟨u, hu, hmoreEq⟩ | ⟨u, hu, -⟩
          · have hhead : u.head? = none ∨ u.head? = some 0x2c := by
              cases u with
              | nil => exact Or.inl rfl
              | cons b u =>
                  rw [hmoreEq] at hmore
                  exact hmore
            rw [hu, hdecodes.eq_of_append hunits hu hhead, List.append_nil]
          · have hulen := congrArg List.length hu
            rw [List.length_append] at hulen
            rw [hu, List.length_eq_zero_iff.mp (by omega : u.length = 0), List.append_nil]
        have hpEq : p = attributeText a := by rw [hp, hvalueEq, attributeText]
        rw [hpEq] at hself
        exact (parseAttribute_attributeText ha).mp hself
      · cases h
  · cases h

/-- A plain attribute is a piece. -/
theorem pieces_attributeText {a : List UInt8 × List UInt8} (ha : isDescr a.1 = true)
    (h : IsPlain a.2) (s : List UInt8) :
    pieces (attributeText a ++ s) = (attributeText a ++ (pieces s).1, (pieces s).2) := by
  refine pieces_append (fun b hb => ?_) s
  rw [attributeText, List.mem_append, List.mem_cons] at hb
  rcases hb with hb | rfl | hb
  · obtain ⟨hslash, hsep, -, -⟩ := isDescr_mem ha hb
    exact ⟨hslash, hsep⟩
  · exact ⟨by decide, by decide⟩
  · have hchar := h.chars b hb
    refine ⟨?_, ?_⟩
    · rintro rfl
      exact absurd hchar (by decide)
    · rw [← Bool.not_eq_true, isSeparator, Bool.or_eq_true, decide_eq_true_eq, decide_eq_true_eq]
      rintro (rfl | rfl)
      · exact absurd hchar (by decide)
      · exact absurd hchar (by decide)

/-- A type does not begin with a blank. -/
theorem isAttributeType_blank (s : List UInt8) : isAttributeType (0x20 :: s) = false := by
  have hnumber : ∀ t, isNumber (0x20 :: t) = false := by
    intro t
    cases t with
    | nil => rfl
    | cons b t => rfl
  have hdescr : isDescr (0x20 :: s) = false := rfl
  have hdot : ((0x20 : UInt8) == 0x2e) = false := by decide
  rw [isAttributeType, hdescr, Bool.false_or, isNumericOID, List.splitOn_cons_eq_if_modifyHead,
    hdot]
  cases hsplit : s.splitOn 0x2e with
  | nil => rfl
  | cons t ts =>
      show ((isNumber (0x20 :: t) && ts.all isNumber) && _) = false
      rw [hnumber, Bool.false_and, Bool.false_and]

theorem parseAttribute_blank (s : List UInt8) : parseAttribute (0x20 :: s) = none := by
  unfold parseAttribute
  split
  · next type value hcut =>
      obtain ⟨-, hs⟩ := cut_eq_iff.mp hcut
      cases type with
      | nil =>
          injection hs with hequals _
          cases hequals
      | cons b type =>
          injection hs with hb _
          rw [← hb, isAttributeType_blank]
          rfl
  · rfl

/-- A blank is no part of the first attribute after it. -/
theorem skipBlanks_blank {a : List UInt8 × List UInt8} (ha : isDescr a.1 = true)
    (more : List UInt8) :
    skipBlanks true (0x2c, 0x20 :: (pieces (attributeText a ++ more)).1) =
      (pieces (attributeText a ++ more)).1 := by
  have htext := pieces_text (attributeText a ++ more)
  generalize (pieces (attributeText a ++ more)).1 = p at htext ⊢
  show (0x20 :: p).dropWhile (fun b => decide (b = 0x20)) = p
  rw [List.dropWhile_cons_of_pos rfl]
  cases p with
  | nil => rfl
  | cons b p =>
      cases hk : a.1 with
      | nil =>
          rw [hk] at ha
          cases ha
      | cons c k =>
          rw [attributeText, hk] at htext
          injection htext with hb _
          have hmem : b ∈ a.1 := by
            rw [hk, ← hb]
            exact List.mem_cons_self
          obtain ⟨-, -, -, hblank⟩ := isDescr_mem ha hmem
          rw [List.dropWhile_cons_of_neg (by simpa using hblank)]

/-- What follows the first attribute. -/
def moreText : List (List UInt8 × List UInt8) → List UInt8
  | [] => []
  | a :: attrs => 0x2c :: 0x20 :: joinText (a :: attrs)

theorem joinText_cons (a : List UInt8 × List UInt8) (attrs : List (List UInt8 × List UInt8)) :
    joinText (a :: attrs) = attributeText a ++ moreText attrs := by
  cases attrs with
  | nil => exact (List.append_nil _).symm
  | cons b attrs => rfl

/-- The pieces of joined attributes, the first of them plain. -/
theorem pieces_joinText {a b : List UInt8 × List UInt8} (attrs : List (List UInt8 × List UInt8))
    (ha : isDescr a.1 = true) (h : IsPlain a.2) :
    pieces (joinText (a :: b :: attrs)) =
      (attributeText a, (0x2c, 0x20 :: (pieces (joinText (b :: attrs))).1) ::
        (pieces (joinText (b :: attrs))).2) := by
  rw [joinText, pieces_attributeText ha h, pieces_comma, pieces_blank, List.append_nil]

/-- What says the attributes begins with the first one, and its value is plain. -/
theorem Reads.first {lenient : Bool} {a : List UInt8 × List UInt8}
    {attrs : List (List UInt8 × List UInt8)} {as : List (List UInt8 × Value)}
    (ha : isDescr a.1 = true) (hnodup : ((a :: attrs).map Prod.fst).Nodup)
    (h : Reads lenient (joinText (a :: attrs)) as)
    (hperm : as.Perm ((a :: attrs).map attributeOf)) :
    IsPlain a.2 ∧ ∃ rest, as = attributeOf a :: rest.map Prod.snd ∧
      readAll lenient (pieces (joinText (a :: attrs))).2 = some rest := by
  obtain ⟨first, rest, rfl, hread, hrest⟩ := h
  rw [joinText_cons] at hread
  obtain ⟨b, hb, hfirst⟩ := List.mem_map.mp (hperm.mem_iff.mp List.mem_cons_self)
  have htype : b.1 = a.1 := by
    rw [← type_of_parseAttribute ha hread, ← hfirst]
    rfl
  have hab : b = a := List.inj_on_of_nodup_map hnodup hb List.mem_cons_self htype
  rw [hab] at hfirst
  rw [← hfirst] at hread ⊢
  refine ⟨isPlain_of_parseAttribute ha ?_ hread, rest, rfl, hrest⟩
  cases attrs with
  | nil => exact Or.inl rfl
  | cons b attrs => exact Or.inr rfl

theorem reads_joinText_iff {lenient : Bool} (a : List UInt8 × List UInt8)
    (attrs : List (List UInt8 × List UInt8)) (hdescr : ∀ b ∈ a :: attrs, isDescr b.1 = true)
    (hnodup : ((a :: attrs).map Prod.fst).Nodup) :
    (∃ as, Reads lenient (joinText (a :: attrs)) as ∧
        as.Perm ((a :: attrs).map attributeOf)) ↔
      (∀ b ∈ a :: attrs, IsPlain b.2) ∧ (lenient = true ∨ attrs = []) := by
  induction attrs generalizing a with
  | nil =>
      have ha := hdescr a List.mem_cons_self
      constructor
      · rintro ⟨as, h, hperm⟩
        have hself := (h.first ha hnodup hperm).1
        exact ⟨fun b hb => List.mem_singleton.mp hb ▸ hself, Or.inr rfl⟩
      · rintro ⟨hplain, -⟩
        have hself := hplain a List.mem_cons_self
        have hpieces := pieces_attributeText ha hself []
        rw [List.append_nil] at hpieces
        refine ⟨_, ⟨attributeOf a, [], rfl, ?_, ?_⟩, List.Perm.refl _⟩
        · rw [joinText, hpieces]
          show parseAttribute (attributeText a ++ []) = _
          rw [List.append_nil]
          exact (parseAttribute_attributeText ha).mpr hself
        · rw [joinText, hpieces]
          rfl
  | cons b attrs ih =>
      have ha := hdescr a List.mem_cons_self
      have hb := hdescr b (List.mem_cons_of_mem a List.mem_cons_self)
      have hskip : skipBlanks true (0x2c, 0x20 :: (pieces (joinText (b :: attrs))).1) =
          (pieces (joinText (b :: attrs))).1 := by
        rw [joinText_cons]
        exact skipBlanks_blank hb (moreText attrs)
      have ih := ih b (fun c hc => hdescr c (List.mem_cons_of_mem a hc)) hnodup.of_cons
      constructor
      · rintro ⟨as, h, hperm⟩
        obtain ⟨hself, rest, rfl, hrest⟩ := h.first ha hnodup hperm
        rw [pieces_joinText attrs ha hself, readAll] at hrest
        split at hrest
        · next second later hsecond hlater =>
            injection hrest with hrest
            rw [← hrest] at hperm
            cases lenient with
            | false =>
                have hnone := parseAttribute_blank (pieces (joinText (b :: attrs))).1
                exact absurd (hsecond.symm.trans hnone) (Option.some_ne_none _)
            | true =>
                rw [hskip] at hsecond
                obtain ⟨hplain, -⟩ :=
                  ih.mp ⟨_, ⟨second, later, rfl, hsecond, hlater⟩, hperm.cons_inv⟩
                exact ⟨List.forall_mem_cons.mpr ⟨hself, hplain⟩, Or.inl rfl⟩
        · cases hrest
      · rintro ⟨hplain, hlenient | hnil⟩
        · subst hlenient
          rw [List.forall_mem_cons] at hplain
          obtain ⟨_, ⟨second, later, rfl, hsecond, hlater⟩, hperm⟩ :=
            ih.mpr ⟨hplain.2, Or.inl rfl⟩
          refine ⟨_, ⟨attributeOf a, (0x2c, second) :: later, rfl, ?_, ?_⟩, hperm.cons _⟩
          · rw [pieces_joinText attrs ha hplain.1]
            exact (parseAttribute_attributeText ha).mpr hplain.1
          · rw [pieces_joinText attrs ha hplain.1, readAll, hskip, hsecond, hlater]
        · cases hnil

/-- **When joined attributes are read back**: exactly if the values are plain, and the
reader skips blanks or there is one attribute at most. -/
theorem attributes_joinText_iff (lenient : Bool) {attrs : List (List UInt8 × List UInt8)}
    (hdescr : ∀ a ∈ attrs, isDescr a.1 = true) (hnodup : (attrs.map Prod.fst).Nodup) :
    (∃ as, attributes lenient (joinText attrs) = some as ∧ as.Perm (attrs.map attributeOf)) ↔
      (∀ a ∈ attrs, IsPlain a.2) ∧ (lenient = true ∨ attrs.length ≤ 1) := by
  cases attrs with
  | nil =>
      exact iff_of_true ⟨[], rfl, List.Perm.nil⟩ ⟨nofun, Or.inr (Nat.zero_le 1)⟩
  | cons a attrs =>
      have hne : joinText (a :: attrs) ≠ [] := by
        rw [joinText_cons, attributeText, List.append_assoc]
        exact List.append_ne_nil_of_right_ne_nil _ (List.cons_ne_nil _ _)
      simp only [attributes_eq_some_iff hne]
      rw [reads_joinText_iff a attrs hdescr hnodup, List.length_cons, Nat.succ_le_succ_iff,
        Nat.le_zero, List.length_eq_zero_iff]

end Foundation.DistinguishedNames
