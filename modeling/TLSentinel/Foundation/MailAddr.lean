/-
  Foundation.MailAddr
  ───────────────────
  **MAIL ADDRESSES AS `net/mail` OF GO 1.25 PARSES THEM.**

  An address is an `addr-spec`, which a comment may follow, or a phrase and an `addr-spec`
  in angle brackets, or a group of one; comments and blanks may stand at its end.  A
  parser answers what is left of the text.  What decodes the words of a phrase is a
  parameter: `decodes word` is false if decoding ends in an error.

  Main result: `accepts_isAddrSpec_iff` — when an accepted text is an `addr-spec` alone.
-/
import Mathlib.Data.List.Infix
import TLSentinel.Foundation.NetAddr
import TLSentinel.Foundation.Splits

namespace Foundation.MailAddr

/-! ## §1. Characters. -/

/-- `isVchar`: a visible character, or one that is not of ASCII. -/
def isVchar (c : Char) : Bool := (0x21 ≤ c.toNat && c.toNat ≤ 0x7e) || 0x80 ≤ c.toNat

/-- `isWSP`. -/
def isWSP (c : Char) : Bool := c = ' ' || c = '\t'

/-- `isAtext`; `dot` if a period is one. -/
def isAtext (dot : Bool) (c : Char) : Bool :=
  if c = '.' then dot
  else
    c ∉ ['(', ')', '<', '>', '[', ']', ':', ';', '@', '\\', ',', '"'] && isVchar c

/-- `isQtext`. -/
def isQtext (c : Char) : Bool := c ≠ '\\' && c ≠ '"' && isVchar c

/-- `isDtext`. -/
def isDtext (c : Char) : Bool := c ≠ '[' && c ≠ ']' && c ≠ '\\' && isVchar c

/-! ## §2. Parts of an address. -/

/-- `skipSpace`. -/
def skipSpace (s : List Char) : List Char := s.dropWhile isWSP

/-- The text of a quoted string up to its closing quote, and what follows it; `escaped`
after a backslash. -/
def quotedBody : Bool → List Char → Option (List Char × List Char)
  | _, [] => none
  | true, c :: s =>
      if isVchar c || isWSP c then (quotedBody false s).map fun r => (c :: r.1, r.2) else none
  | false, c :: s =>
      if isQtext c || isWSP c then (quotedBody false s).map fun r => (c :: r.1, r.2)
      else if c = '"' then some ([], s)
      else if c = '\\' then quotedBody true s
      else none

/-- A dot where a `dot-atom` has none: at either end, or after another. -/
def hasStrayDot (atom : List Char) : Bool :=
  atom.head? = some '.' || (['.', '.'] <:+: atom) || atom.getLast? = some '.'

/-- `consumeAtom`. -/
def consumeAtom (dot permissive : Bool) (s : List Char) : Option (List Char × List Char) :=
  let atom := s.takeWhile (isAtext dot)
  if atom = [] then none
  else if !permissive && hasStrayDot atom then none
  else some (atom, s.dropWhile (isAtext dot))

/-- The tag of a `domain-literal` of version 6. -/
def ipv6Tag : List Char := ['I', 'P', 'v', '6', ':']

/-- What `consumeDomainLiteral` asks of the text in brackets: behind its tag an address, which
`net.ParseIP` gives 16 bytes whatever its version; without the tag one of version 4. -/
def isIPLiteral (dtext : List Char) : Bool :=
  if ipv6Tag.isPrefixOf dtext then
    match NetAddr.parseIP (String.ofList (dtext.drop ipv6Tag.length)) with
    | some ip => decide (ip.length = 16)
    | none => false
  else
    match NetAddr.parseIP (String.ofList dtext) with
    | some ip => (NetAddr.to4 ip).isSome
    | none => false

/-- `consumeDomainLiteral`, after its `[`: an IP address in brackets. -/
def consumeDomainLiteral (s : List Char) : Option (List Char × List Char) :=
  let dtext := s.takeWhile isDtext
  match s.dropWhile isDtext with
  | [] => none
  | c :: rest =>
      if c = ']' ∧ isIPLiteral dtext = true then some ('[' :: (dtext ++ [']']), rest) else none

/-- The local part of an `addr-spec`: a quoted string that is not empty, or a `dot-atom`. -/
def consumeLocalPart (s : List Char) : Option (List Char × List Char) :=
  match s with
  | [] => none
  | c :: t =>
      if c = '"' then
        match quotedBody false t with
        | none => none
        | some (content, rest) => if content = [] then none else some (content, rest)
      else consumeAtom true false s

/-- The domain of an `addr-spec`: a `domain-literal`, or a `dot-atom`. -/
def consumeDomain (s : List Char) : Option (List Char × List Char) :=
  match s with
  | [] => none
  | c :: t => if c = '[' then consumeDomainLiteral t else consumeAtom true false s

/-- `consumeAddrSpec`: the text of the address, and what follows it. -/
def consumeAddrSpec (s : List Char) : Option (List Char × List Char) :=
  match consumeLocalPart (skipSpace s) with
  | none => none
  | some (localPart, afterLocal) =>
      match afterLocal with
      | [] => none
      | c :: t =>
          if c = '@' then
            match consumeDomain (skipSpace t) with
            | none => none
            | some (domain, rest) => some (localPart ++ '@' :: domain, rest)
          else none

/-! ## §3. Comments. -/

/-- `consumeComment`, inside some open parentheses: the comment, and what follows it. -/
def consumeComment : Nat → List Char → Option (List Char × List Char)
  | _, [] => none
  | depth, c :: s =>
      if c = '\\' then
        match s with
        | [] => none
        | d :: t => (consumeComment depth t).map fun r => (d :: r.1, r.2)
      else if c = '(' then (consumeComment (depth + 1) s).map fun r => (c :: r.1, r.2)
      else if c = ')' then
        if depth ≤ 1 then some ([], s)
        else (consumeComment (depth - 1) s).map fun r => (c :: r.1, r.2)
      else (consumeComment depth s).map fun r => (c :: r.1, r.2)

/-- The loop of `skipCFWS`. -/
def skipComments : Nat → List Char → Option (List Char)
  | 0, _ => none
  | _ + 1, [] => some []
  | n + 1, c :: s =>
      if c = '(' then
        match consumeComment 1 s with
        | none => none
        | some (_, rest) => skipComments n (skipSpace rest)
      else some (c :: s)

/-- `skipCFWS`: blanks and comments; every comment has a character. -/
def skipCFWS (s : List Char) : Option (List Char) := skipComments (s.length + 1) (skipSpace s)

/-- The words of `strings.FieldsFunc` between blanks. -/
def fields (s : List Char) : List (List Char) :=
  (s.splitOnP isWSP).filter fun word => word ≠ []

/-- `consumeDisplayNameComment`, after its parenthesis: what follows it. -/
def consumeDisplayNameComment (decodes : List Char → Bool) (s : List Char) : Option (List Char) :=
  match consumeComment 1 s with
  | none => none
  | some (comment, rest) => if (fields comment).all decodes then some rest else none

/-! ## §4. Addresses. -/

/-- The loop of `consumePhrase`: what follows the phrase.  Errors after the first word are
ignored, and a word that is not decoded is passed. -/
def phraseLoop (decodes : List Char → Bool) : Nat → Bool → List Char → Option (List Char)
  | 0, _, _ => none
  | n + 1, hasWords, s =>
      match if hasWords then skipCFWS s else some s with
      | none => none
      | some afterComments =>
          match skipSpace afterComments with
          | [] => some []
          | c :: t =>
              if c = '"' then
                match quotedBody false t with
                | some (_, rest) => phraseLoop decodes n true rest
                | none => if hasWords then some (c :: t) else none
              else
                match consumeAtom true true (c :: t) with
                | none => if hasWords then some (c :: t) else none
                | some (word, rest) =>
                    if decodes word then phraseLoop decodes n true rest
                    else if hasWords then some rest
                    else none

/-- `consumePhrase`; every word has a character. -/
def consumePhrase (decodes : List Char → Bool) (s : List Char) : Option (List Char) :=
  phraseLoop decodes (s.length + 1) false s

/-- What stands in angle brackets, and what follows them. -/
def consumeAngleAddr (s : List Char) : Option (List (List Char) × List Char) :=
  match s with
  | [] => none
  | c :: t =>
      if c = '<' then
        match consumeAddrSpec t with
        | some (spec, d :: rest) => if d = '>' then some ([spec], rest) else none
        | _ => none
      else none

/-- A group after its colon, if groups are handled, or what stands in angle brackets. -/
def afterPhrase (group : Option (List Char → Option (List (List Char) × List Char)))
    (s : List Char) : Option (List (List Char) × List Char) :=
  match group, s with
  | some consumeGroupList, c :: t =>
      if c = ':' then consumeGroupList t else consumeAngleAddr (c :: t)
  | _, s => consumeAngleAddr s

/-- `parseAddress`: the addresses, and what follows them. -/
def parseAddress (decodes : List Char → Bool)
    (group : Option (List Char → Option (List (List Char) × List Char))) (s : List Char) :
    Option (List (List Char) × List Char) :=
  match consumeAddrSpec s with
  | some (spec, rest) =>
      match skipSpace rest with
      | [] => some ([spec], [])
      | c :: t =>
          if c = '(' then (consumeDisplayNameComment decodes t).map fun r => ([spec], r)
          else some ([spec], c :: t)
  | none =>
      match skipSpace s with
      | [] => none
      | c :: t =>
          if c = '<' then afterPhrase group (c :: t)
          else
            match consumePhrase decodes (c :: t) with
            | none => none
            | some rest => afterPhrase group (skipSpace rest)

/-- The loop of `consumeGroupList`. -/
def groupLoop (decodes : List Char → Bool) :
    Nat → List (List Char) → List Char → Option (List (List Char) × List Char)
  | 0, _, _ => none
  | n + 1, group, s =>
      match parseAddress decodes none (skipSpace s) with
      | none => none
      | some (addrs, rest) =>
          match skipCFWS rest with
          | none => none
          | some [] => none
          | some (c :: t) =>
              if c = ';' then (skipCFWS t).map fun r => (group ++ addrs, r)
              else if c = ',' then groupLoop decodes n (group ++ addrs) t
              else none

/-- `consumeGroupList`; every address has a character. -/
def consumeGroupList (decodes : List Char → Bool) (s : List Char) :
    Option (List (List Char) × List Char) :=
  match skipSpace s with
  | [] => none
  | c :: t =>
      if c = ';' then (skipCFWS t).map fun r => ([], r)
      else groupLoop decodes ((c :: t).length + 1) [] (c :: t)

/-- `parseSingleAddress`: the address, if there is one and nothing else. -/
def parseSingleAddress (decodes : List Char → Bool) (s : List Char) : Option (List Char) :=
  match parseAddress decodes (some (consumeGroupList decodes)) s with
  | none => none
  | some (addrs, rest) =>
      match skipCFWS rest with
      | some [] =>
          match addrs with
          | [addr] => some addr
          | _ => none
      | _ => none

/-- `mail.ParseAddress` has no error. -/
def accepts (decodes : List Char → Bool) (s : String) : Bool :=
  (parseSingleAddress decodes s.toList).isSome

/-! ## §5. What an address alone is. -/

/-- `dot-atom`. -/
structure IsDotAtom (s : List Char) : Prop where
  ne_nil : s ≠ []
  atext : ∀ c ∈ s, isAtext true c = true
  dots : hasStrayDot s = false

/-- `quoted-string`, without white space around it. -/
def IsQuotedString (s : List Char) : Prop :=
  ∃ body content, s = '"' :: body ∧ quotedBody false body = some (content, [])

/-- `domain-literal`, without white space in it. -/
def IsDomainLiteral (s : List Char) : Prop :=
  ∃ dtext, s = '[' :: (dtext ++ [']']) ∧ ∀ c ∈ dtext, isDtext c = true

/-- `addr-spec`, without comments and white space: a local part, an at sign, a domain. -/
def IsAddrSpec (s : List Char) : Prop :=
  ∃ localPart domain, s = localPart ++ '@' :: domain ∧
    (IsDotAtom localPart ∨ IsQuotedString localPart) ∧
      (IsDotAtom domain ∨ IsDomainLiteral domain)

/-- What ends a text with something after its `addr-spec`: a blank, or the sign that closes
a comment, an angle bracket or a group. -/
def isTrailing (c : Char) : Bool := isWSP c || c = ')' || c = '>' || c = ';'

/-- What stands after the last at sign. -/
def afterLastAt (s : List Char) : List Char :=
  (s.reverse.takeWhile fun c => decide (c ≠ '@')).reverse

/-- Nothing stands around the address: the text does not begin with a blank, has no blank
after its last at sign, and does not end with a blank or with `)`, `>` or `;`. -/
structure IsTrimmed (s : List Char) : Prop where
  head : ∀ c ∈ s.head?, isWSP c = false
  domain : ∀ c ∈ (afterLastAt s).head?, isWSP c = false
  last : ∀ c ∈ s.getLast?, isTrailing c = false

theorem isWSP_of_isVchar {c : Char} (h : isVchar c = true) : isWSP c = false := by
  rw [← Bool.not_eq_true, isWSP, Bool.or_eq_true, decide_eq_true_eq, decide_eq_true_eq]
  rintro (rfl | rfl)
  · exact absurd h (by decide)
  · exact absurd h (by decide)

theorem isVchar_of_isAtext {c : Char} (h : isAtext true c = true) : isVchar c = true := by
  unfold isAtext at h
  split at h
  · next hdot =>
      rw [hdot]
      decide
  · exact (Bool.and_eq_true_iff.mp h).2

theorem isTrailing_of_isAtext {c : Char} (h : isAtext true c = true) : isTrailing c = false := by
  have hwsp := isWSP_of_isVchar (isVchar_of_isAtext h)
  rw [← Bool.not_eq_true]
  intro htrailing
  simp only [isTrailing, hwsp, Bool.false_or, Bool.or_eq_true, decide_eq_true_eq] at htrailing
  obtain (rfl | rfl) | rfl := htrailing
  · exact absurd h (by decide)
  · exact absurd h (by decide)
  · exact absurd h (by decide)

theorem isVchar_of_isDtext {c : Char} (h : isDtext c = true) : isVchar c = true :=
  (Bool.and_eq_true_iff.mp h).2

/-- A domain has no blanks, and does not end like something after it. -/
theorem domain_spec {d : List Char} (h : IsDotAtom d ∨ IsDomainLiteral d) :
    d ≠ [] ∧ (∀ c ∈ d, isWSP c = false) ∧ ∀ c ∈ d.getLast?, isTrailing c = false := by
  rcases h with h | ⟨dtext, rfl, hdtext⟩
  · exact ⟨h.ne_nil, fun c hc => isWSP_of_isVchar (isVchar_of_isAtext (h.atext c hc)),
      fun c hc => isTrailing_of_isAtext (h.atext c (List.mem_of_getLast? hc))⟩
  · refine ⟨List.cons_ne_nil _ _, ?_, ?_⟩
    · simp only [List.mem_cons, List.mem_append, List.not_mem_nil, or_false]
      rintro c (rfl | hc | rfl)
      · decide
      · exact isWSP_of_isVchar (isVchar_of_isDtext (hdtext c hc))
      · decide
    · have hlast : ('[' :: (dtext ++ [']'])).getLast? = some ']' := by
        rw [← List.cons_append, List.getLast?_concat]
      rw [hlast]
      rintro _ ⟨⟩
      decide

theorem localPart_spec {s : List Char} (h : IsDotAtom s ∨ IsQuotedString s) :
    ∃ c t, s = c :: t ∧ isWSP c = false := by
  rcases h with h | ⟨body, _, rfl, -⟩
  · obtain ⟨c, t, rfl⟩ := List.exists_cons_of_ne_nil h.ne_nil
    exact ⟨c, t, rfl, isWSP_of_isVchar (isVchar_of_isAtext (h.atext c List.mem_cons_self))⟩
  · exact ⟨'"', body, rfl, by decide⟩

/-- What stands after the last at sign is the end of what stands after any. -/
theorem afterLastAt_append (a b : List Char) : ∃ u, b = u ++ afterLastAt (a ++ '@' :: b) := by
  unfold afterLastAt
  rw [List.reverse_append, List.reverse_cons, List.append_assoc, List.singleton_append]
  have hprefix : (b.reverse ++ '@' :: a.reverse).takeWhile (fun c => decide (c ≠ '@')) <+:
      b.reverse := by
    rw [List.takeWhile_append]
    split
    · have hnone : ('@' :: a.reverse).takeWhile (fun c => decide (c ≠ '@')) = [] :=
        List.takeWhile_cons_of_neg (by simp)
      exact ⟨[], by rw [hnone, List.append_nil, List.append_nil]⟩
    · exact List.takeWhile_prefix _
  obtain ⟨u, hu⟩ := hprefix
  refine ⟨u.reverse, ?_⟩
  have hreverse := congrArg List.reverse hu
  rw [List.reverse_append, List.reverse_reverse] at hreverse
  exact hreverse.symm

/-- Without an at sign in what follows, it is all of it. -/
theorem afterLastAt_of_not_mem {a b : List Char} (h : '@' ∉ b) :
    afterLastAt (a ++ '@' :: b) = b := by
  unfold afterLastAt
  rw [List.reverse_append, List.reverse_cons, List.append_assoc, List.singleton_append,
    Splits.takeWhile_ne_append (by rwa [List.mem_reverse]), List.reverse_reverse]

/-- Nothing stands around an address that is alone. -/
theorem IsAddrSpec.isTrimmed {s : List Char} (h : IsAddrSpec s) : IsTrimmed s := by
  obtain ⟨localPart, domain, rfl, hlocal, hdomain⟩ := h
  obtain ⟨c, t, rfl, hc⟩ := localPart_spec hlocal
  obtain ⟨hne, hblank, hlast⟩ := domain_spec hdomain
  refine ⟨?_, ?_, ?_⟩
  · rintro _ ⟨⟩
    exact hc
  · intro d hd
    obtain ⟨u, hu⟩ := afterLastAt_append (c :: t) domain
    refine hblank d ?_
    rw [hu]
    exact List.mem_append_right u (List.mem_of_head? hd)
  · rw [List.getLast?_append_of_ne_nil _ (List.cons_ne_nil _ _), List.getLast?_cons_of_ne_nil hne]
    exact hlast

/-- The characters of a quoted string are visible or blank. -/
theorem quotedBody_chars {escaped : Bool} {s content : List Char}
    (h : quotedBody escaped s = some (content, [])) :
    ∀ c ∈ s, isVchar c = true ∨ isWSP c = true := by
  fun_induction quotedBody escaped s generalizing content with
  | case1 => cases h
  | case2 c s hc ih =>
      obtain ⟨r, hr, heq⟩ := Option.map_eq_some_iff.mp h
      injection heq with _ hrest
      have hself : quotedBody false s = some (r.1, []) := by rw [hr, ← hrest]
      exact List.forall_mem_cons.mpr ⟨Bool.or_eq_true_iff.mp hc, ih hself⟩
  | case3 => cases h
  | case4 c s hc ih =>
      obtain ⟨r, hr, heq⟩ := Option.map_eq_some_iff.mp h
      injection heq with _ hrest
      have hself : quotedBody false s = some (r.1, []) := by rw [hr, ← hrest]
      have hvisible : isVchar c = true ∨ isWSP c = true :=
        (Bool.or_eq_true_iff.mp hc).imp_left fun hq => (Bool.and_eq_true_iff.mp hq).2
      exact List.forall_mem_cons.mpr ⟨hvisible, ih hself⟩
  | case5 s hc =>
      injection h with h
      injection h with _ hrest
      rw [hrest]
      exact List.forall_mem_singleton.mpr (Or.inl (by decide))
  | case6 s hc _ ih => exact List.forall_mem_cons.mpr ⟨Or.inl (by decide), ih h⟩
  | case7 => cases h

/-- So are those of an address that is alone. -/
theorem IsAddrSpec.isVchar_or_isWSP {s : List Char} (h : IsAddrSpec s) :
    ∀ c ∈ s, isVchar c = true ∨ isWSP c = true := by
  obtain ⟨localPart, domain, rfl, hlocal, hdomain⟩ := h
  refine List.forall_mem_append.mpr ⟨?_, List.forall_mem_cons.mpr ⟨Or.inl (by decide), ?_⟩⟩
  · rcases hlocal with hlocal | ⟨body, content, rfl, hbody⟩
    · exact fun c hc => Or.inl (isVchar_of_isAtext (hlocal.atext c hc))
    · exact List.forall_mem_cons.mpr ⟨Or.inl (by decide), quotedBody_chars hbody⟩
  · rcases hdomain with hdomain | ⟨dtext, rfl, hdtext⟩
    · exact fun c hc => Or.inl (isVchar_of_isAtext (hdomain.atext c hc))
    · refine List.forall_mem_cons.mpr ⟨Or.inl (by decide), List.forall_mem_append.mpr
        ⟨fun c hc => Or.inl (isVchar_of_isDtext (hdtext c hc)), ?_⟩⟩
      exact List.forall_mem_singleton.mpr (Or.inl (by decide))

/-! ## §6. What a parser leaves. -/

/-- What is skipped is blank. -/
theorem skipSpace_spec (s : List Char) :
    ∃ blanks, s = blanks ++ skipSpace s ∧ ∀ c ∈ blanks, isWSP c = true :=
  ⟨s.takeWhile isWSP, List.takeWhile_append_dropWhile.symm,
    List.all_eq_true.mp List.all_takeWhile⟩

/-- A comment ends with its parenthesis. -/
theorem consumeComment_spec {depth : Nat} {s comment rest : List Char}
    (h : consumeComment depth s = some (comment, rest)) : ∃ text, s = text ++ ')' :: rest := by
  fun_induction consumeComment depth s generalizing comment rest with
  | case1 => cases h
  | case2 => cases h
  | case3 depth d t ih =>
      obtain ⟨r, hr, heq⟩ := Option.map_eq_some_iff.mp h
      injection heq with _ hrest
      obtain ⟨text, htext⟩ := ih hr
      exact ⟨'\\' :: d :: text, by rw [htext, hrest]; rfl⟩
  | case4 depth s _ ih =>
      obtain ⟨r, hr, heq⟩ := Option.map_eq_some_iff.mp h
      injection heq with _ hrest
      obtain ⟨text, htext⟩ := ih hr
      exact ⟨'(' :: text, by rw [htext, hrest]; rfl⟩
  | case5 depth s _ _ hdepth =>
      injection h with h
      injection h with _ hrest
      exact ⟨[], by rw [hrest]; rfl⟩
  | case6 depth s _ _ hdepth ih =>
      obtain ⟨r, hr, heq⟩ := Option.map_eq_some_iff.mp h
      injection heq with _ hrest
      obtain ⟨text, htext⟩ := ih hr
      exact ⟨')' :: text, by rw [htext, hrest]; rfl⟩
  | case7 depth c s _ _ _ ih =>
      obtain ⟨r, hr, heq⟩ := Option.map_eq_some_iff.mp h
      injection heq with _ hrest
      obtain ⟨text, htext⟩ := ih hr
      exact ⟨c :: text, by rw [htext, hrest]; rfl⟩

/-- A text that is empty, or ends with a blank or a closing sign. -/
def Trails (t : List Char) : Prop := ∀ c ∈ t.getLast?, isTrailing c = true

theorem trails_nil : Trails [] := nofun

theorem trails_of_blank {t : List Char} (h : ∀ c ∈ t, isWSP c = true) : Trails t := by
  intro c hc
  rw [isTrailing, h c (List.mem_of_getLast? hc)]
  rfl

/-- One text after another ends like the later one, unless that is empty. -/
theorem Trails.append {t u : List Char} (ht : Trails t) (hu : Trails u) : Trails (t ++ u) := by
  intro c hc
  rw [List.getLast?_append] at hc
  cases hlast : u.getLast? with
  | none =>
      rw [hlast, Option.none_or] at hc
      exact ht c hc
  | some d =>
      rw [hlast, Option.some_or] at hc
      exact hu c (hlast.trans hc)

theorem trails_concat {c : Char} (hc : isTrailing c = true) (t : List Char) :
    Trails (t ++ [c]) := by
  intro d hd
  rw [List.getLast?_concat] at hd
  injection hd with hd
  rw [← hd]
  exact hc

/-- What `skipCFWS` skips is such a text. -/
theorem skipComments_spec {n : Nat} {s rest : List Char} (h : skipComments n s = some rest) :
    ∃ t, s = t ++ rest ∧ Trails t := by
  induction n generalizing s with
  | zero => cases h
  | succ n ih =>
      cases s with
      | nil =>
          injection h with h
          exact ⟨[], by rw [← h]; rfl, trails_nil⟩
      | cons c s =>
          rw [skipComments] at h
          split at h
          · next hopen =>
              split at h
              · cases h
              · next comment afterComment hcomment =>
                  obtain ⟨text, htext⟩ := consumeComment_spec hcomment
                  obtain ⟨blanks, hblanks, hblank⟩ := skipSpace_spec afterComment
                  obtain ⟨t, ht, htrails⟩ := ih h
                  refine ⟨('(' :: (text ++ [')'])) ++ (blanks ++ t), ?_, ?_⟩
                  · rw [hopen, htext, hblanks, ht]
                    simp
                  · rw [← List.cons_append]
                    exact (trails_concat (by decide) _).append
                      ((trails_of_blank hblank).append htrails)
          · injection h with h
            exact ⟨[], by rw [← h]; rfl, trails_nil⟩

theorem skipCFWS_spec {s rest : List Char} (h : skipCFWS s = some rest) :
    ∃ t, s = t ++ rest ∧ Trails t := by
  obtain ⟨blanks, hblanks, hblank⟩ := skipSpace_spec s
  obtain ⟨t, ht, htrails⟩ := skipComments_spec h
  exact ⟨blanks ++ t, by rw [List.append_assoc, ← ht, ← hblanks],
    (trails_of_blank hblank).append htrails⟩

theorem consumeAtom_spec {permissive : Bool} {s atom rest : List Char}
    (h : consumeAtom true permissive s = some (atom, rest)) :
    s = atom ++ rest ∧ (permissive = false → IsDotAtom atom) := by
  unfold consumeAtom at h
  dsimp only at h
  split at h
  · cases h
  · next hne =>
      split at h
      · cases h
      · next hdots =>
          injection h with h
          injection h with hatom hrest
          rw [← hatom, ← hrest]
          refine ⟨List.takeWhile_append_dropWhile.symm, fun hpermissive => ?_⟩
          rw [hpermissive, Bool.not_false, Bool.true_and, Bool.not_eq_true] at hdots
          exact ⟨hne, List.all_eq_true.mp List.all_takeWhile, hdots⟩

theorem quotedBody_spec {escaped : Bool} {s content rest : List Char}
    (h : quotedBody escaped s = some (content, rest)) :
    ∃ body, s = body ++ rest ∧ quotedBody escaped body = some (content, []) := by
  fun_induction quotedBody escaped s generalizing content rest with
  | case1 => cases h
  | case2 c s hc ih =>
      obtain ⟨r, hr, heq⟩ := Option.map_eq_some_iff.mp h
      injection heq with hcontent hrest
      obtain ⟨body, hbody, hself⟩ := ih hr
      refine ⟨c :: body, by rw [hbody, hrest]; rfl, ?_⟩
      rw [quotedBody, if_pos hc, hself, ← hcontent]
      rfl
  | case3 => cases h
  | case4 c s hc ih =>
      obtain ⟨r, hr, heq⟩ := Option.map_eq_some_iff.mp h
      injection heq with hcontent hrest
      obtain ⟨body, hbody, hself⟩ := ih hr
      refine ⟨c :: body, by rw [hbody, hrest]; rfl, ?_⟩
      rw [quotedBody, if_pos hc, hself, ← hcontent]
      rfl
  | case5 s hc =>
      injection h with h
      injection h with hcontent hrest
      exact ⟨['"'], by rw [hrest]; rfl, by rw [← hcontent]; rfl⟩
  | case6 s hc _ ih =>
      obtain ⟨body, hbody, hself⟩ := ih h
      exact ⟨'\\' :: body, by rw [hbody]; rfl, hself⟩
  | case7 => cases h

theorem consumeLocalPart_spec {s localPart rest : List Char}
    (h : consumeLocalPart s = some (localPart, rest)) :
    ∃ text, s = text ++ rest ∧ (IsDotAtom text ∨ IsQuotedString text) := by
  unfold consumeLocalPart at h
  split at h
  · cases h
  · next c t =>
      split at h
      · next hquote =>
          split at h
          · cases h
          · next content afterQuote hquoted =>
              split at h
              · cases h
              · injection h with h
                injection h with _ hrest
                obtain ⟨body, hbody, hself⟩ := quotedBody_spec hquoted
                refine ⟨'"' :: body, ?_, Or.inr ⟨body, content, rfl, hself⟩⟩
                rw [hquote, hbody, hrest]
                rfl
      · obtain ⟨htext, hatom⟩ := consumeAtom_spec h
        exact ⟨localPart, htext, Or.inl (hatom rfl)⟩

/-- An address in brackets has no at sign. -/
theorem not_mem_of_isIPLiteral {dtext : List Char} (h : isIPLiteral dtext = true) :
    '@' ∉ dtext := by
  -- an address is written in digits, letters, dots and colons
  have hnot : ∀ {t : List Char} {ip : NetAddr.IP}, NetAddr.parseIP (String.ofList t) = some ip →
      '@' ∉ t := by
    intro t ip hip hmem
    have haddr := NetAddr.isAddrChar_of_parseIP hip '@' (by rwa [String.toList_ofList])
    exact absurd haddr (by decide)
  unfold isIPLiteral at h
  split at h
  · next htag =>
      split at h
      · next ip hip =>
          obtain ⟨rest, rfl⟩ := List.isPrefixOf_iff_prefix.mp htag
          rw [List.drop_left] at hip
          rw [List.mem_append, not_or]
          exact ⟨by decide, hnot hip⟩
      · cases h
  · split at h
    · next ip hip => exact hnot hip
    · cases h

theorem consumeDomain_spec {s domain rest : List Char}
    (h : consumeDomain s = some (domain, rest)) :
    s = domain ++ rest ∧ '@' ∉ domain ∧ (IsDotAtom domain ∨ IsDomainLiteral domain) := by
  unfold consumeDomain at h
  split at h
  · cases h
  · next c t =>
      split at h
      · next hbracket =>
          unfold consumeDomainLiteral at h
          dsimp only at h
          split at h
          · cases h
          · next d afterText hdrop =>
              split at h
              · next hclose =>
                  injection h with h
                  injection h with hdomain hrest
                  obtain ⟨hd, hip⟩ := hclose
                  have htext : t = t.takeWhile isDtext ++ ']' :: rest := by
                    have hsplit := List.takeWhile_append_dropWhile (p := isDtext) (l := t)
                    rw [hdrop, hd, hrest] at hsplit
                    exact hsplit.symm
                  have hat := not_mem_of_isIPLiteral hip
                  rw [← hdomain]
                  refine ⟨?_, ?_, Or.inr ⟨_, rfl, List.all_eq_true.mp List.all_takeWhile⟩⟩
                  · rw [hbracket]
                    conv_lhs => rw [htext]
                    simp
                  · simp only [List.mem_cons, List.mem_append, List.not_mem_nil, or_false, not_or]
                    exact ⟨by decide, hat, by decide⟩
              · cases h
      · obtain ⟨htext, hatom⟩ := consumeAtom_spec h
        have hself := hatom rfl
        exact ⟨htext, fun hmem => absurd (hself.atext '@' hmem) (by decide), Or.inl hself⟩

example : consumeDomainLiteral "IPv6:::1]".toList = some ("[IPv6:::1]".toList, []) := by decide
example : consumeDomainLiteral "::1]".toList = none := by decide
example : consumeDomainLiteral "192.0.2.1]".toList = some ("[192.0.2.1]".toList, []) := by decide

/-- **What an `addr-spec` is read from**: blanks, a local part, an at sign, blanks, and a
domain. -/
theorem consumeAddrSpec_spec {s spec rest : List Char}
    (h : consumeAddrSpec s = some (spec, rest)) :
    ∃ blanks localPart blanks' domain,
      s = blanks ++ (localPart ++ '@' :: (blanks' ++ (domain ++ rest))) ∧
        (∀ c ∈ blanks, isWSP c = true) ∧ (∀ c ∈ blanks', isWSP c = true) ∧
          (IsDotAtom localPart ∨ IsQuotedString localPart) ∧ '@' ∉ domain ∧
            (IsDotAtom domain ∨ IsDomainLiteral domain) := by
  obtain ⟨blanks, hblanks, hblank⟩ := skipSpace_spec s
  unfold consumeAddrSpec at h
  split at h
  · cases h
  · next localPart afterLocal hlocal =>
      obtain ⟨text, htext, hlocalPart⟩ := consumeLocalPart_spec hlocal
      split at h
      · cases h
      · next c t =>
          split at h
          · next hat =>
              split at h
              · cases h
              · next domain afterDomain hdomain =>
                  injection h with h
                  injection h with _ hrest
                  obtain ⟨blanks', hblanks', hblank'⟩ := skipSpace_spec t
                  obtain ⟨hdomainText, hnot, hdomainSpec⟩ := consumeDomain_spec hdomain
                  refine ⟨blanks, text, blanks', domain, ?_, hblank, hblank', hlocalPart, hnot,
                    hdomainSpec⟩
                  rw [← hrest, ← hdomainText, ← hblanks', ← hat, ← htext, ← hblanks]
          · cases h

/-! ## §7. What an accepted text is. -/

/-- A text is read up to a closing sign, and blanks and comments after it. -/
def Closes (s rest : List Char) : Prop := ∃ t, s = t ++ rest ∧ t ≠ [] ∧ Trails t

theorem Closes.append {s rest : List Char} (h : Closes s rest) (u : List Char) :
    Closes (u ++ s) rest := by
  obtain ⟨t, rfl, hne, htrails⟩ := h
  refine ⟨u ++ t, (List.append_assoc u t rest).symm, List.append_ne_nil_of_right_ne_nil u hne, ?_⟩
  intro c hc
  rw [List.getLast?_append_of_ne_nil u hne] at hc
  exact htrails c hc

/-- After a closing sign, blanks and comments. -/
theorem closes_of_skipCFWS {c : Char} (hc : isTrailing c = true) {t rest : List Char}
    (h : skipCFWS t = some rest) : Closes (c :: t) rest := by
  obtain ⟨u, rfl, htrails⟩ := skipCFWS_spec h
  have hone : Trails [c] := trails_concat hc []
  exact ⟨[c] ++ u, rfl, List.cons_ne_nil _ _, hone.append htrails⟩

/-- An `addr-spec`, something after it, and the rest. -/
def SpecThen (s rest : List Char) : Prop :=
  ∃ blanks localPart blanks' domain t,
    s = blanks ++ (localPart ++ '@' :: (blanks' ++ (domain ++ (t ++ rest)))) ∧
      (∀ c ∈ blanks, isWSP c = true) ∧ (∀ c ∈ blanks', isWSP c = true) ∧
        (IsDotAtom localPart ∨ IsQuotedString localPart) ∧ '@' ∉ domain ∧
          (IsDotAtom domain ∨ IsDomainLiteral domain) ∧ Trails t

theorem consumeAngleAddr_spec {s rest : List Char} {addrs : List (List Char)}
    (h : consumeAngleAddr s = some (addrs, rest)) : Closes s rest := by
  unfold consumeAngleAddr at h
  split at h
  · cases h
  · next c t =>
      split at h
      · split at h
        · next spec d afterClose hspec =>
            split at h
            · next hclose =>
                injection h with h
                injection h with _ hrest
                obtain ⟨blanks, localPart, blanks', domain, ht, -⟩ := consumeAddrSpec_spec hspec
                refine ⟨c :: (blanks ++ (localPart ++ '@' :: (blanks' ++ domain))) ++ ['>'], ?_,
                  List.append_ne_nil_of_right_ne_nil _ (List.cons_ne_nil _ _),
                  trails_concat (by decide) _⟩
                rw [ht, hclose, hrest]
                simp
            · cases h
        · cases h
      · cases h

/-- What follows a phrase is at its end. -/
theorem phraseLoop_spec {decodes : List Char → Bool} {n : Nat} {hasWords : Bool}
    {s rest : List Char} (h : phraseLoop decodes n hasWords s = some rest) :
    ∃ t, s = t ++ rest := by
  induction n generalizing hasWords s with
  | zero => cases h
  | succ n ih =>
      rw [phraseLoop] at h
      split at h
      · cases h
      · next afterComments hcomments =>
          have hskipped : ∃ u, s = u ++ skipSpace afterComments := by
            obtain ⟨blanks, hblanks, -⟩ := skipSpace_spec afterComments
            cases hasWords with
            | false =>
                injection hcomments with hcomments
                exact ⟨blanks, hcomments.trans hblanks⟩
            | true =>
                obtain ⟨u, hu, -⟩ := skipCFWS_spec hcomments
                exact ⟨u ++ blanks, by rw [List.append_assoc, ← hblanks, ← hu]⟩
          obtain ⟨u, hu⟩ := hskipped
          split at h
          · injection h with h
            exact ⟨s, by rw [← h, List.append_nil]⟩
          · next c t hct =>
              rw [hct] at hu
              have hkeep : (if hasWords = true then some (c :: t) else none) = some rest →
                  ∃ t, s = t ++ rest := by
                intro hif
                split at hif
                · injection hif with hif
                  exact ⟨u, by rw [← hif, ← hu]⟩
                · cases hif
              split at h
              · split at h
                · next content afterQuote hquoted =>
                    obtain ⟨body, hbody, -⟩ := quotedBody_spec hquoted
                    obtain ⟨v, hv⟩ := ih h
                    exact ⟨u ++ c :: (body ++ v), by rw [hu, hbody, hv]; simp⟩
                · exact hkeep h
              · split at h
                · exact hkeep h
                · next word afterWord hatom =>
                    obtain ⟨hword, -⟩ := consumeAtom_spec hatom
                    split at h
                    · obtain ⟨v, hv⟩ := ih h
                      exact ⟨u ++ (word ++ v), by rw [hu, hword, hv]; simp⟩
                    · split at h
                      · injection h with h
                        exact ⟨u ++ word, by rw [hu, hword, h, List.append_assoc]⟩
                      · cases h

section Groups

variable {decodes : List Char → Bool}
  {group : Option (List Char → Option (List (List Char) × List Char))}

theorem afterPhrase_spec (hgroup : ∀ g ∈ group, ∀ {t addrs rest}, g t = some (addrs, rest) →
    Closes t rest) {s rest : List Char} {addrs : List (List Char)}
    (h : afterPhrase group s = some (addrs, rest)) : Closes s rest := by
  unfold afterPhrase at h
  split at h
  · next g c t =>
      split at h
      · exact (hgroup g rfl h).append [c]
      · exact consumeAngleAddr_spec h
  · exact consumeAngleAddr_spec h

/-- **What `parseAddress` reads**: an `addr-spec` and something after it, or a text that is
closed. -/
theorem parseAddress_spec (hgroup : ∀ g ∈ group, ∀ {t addrs rest}, g t = some (addrs, rest) →
    Closes t rest) {s rest : List Char} {addrs : List (List Char)}
    (h : parseAddress decodes group s = some (addrs, rest)) : SpecThen s rest ∨ Closes s rest := by
  unfold parseAddress at h
  split at h
  · next spec afterSpec hspec =>
      refine Or.inl ?_
      obtain ⟨blanks, localPart, blanks', domain, hs, hblank, hblank', hlocal, hnot, hdomain⟩ :=
        consumeAddrSpec_spec hspec
      obtain ⟨between, hbetween, hbetweenBlank⟩ := skipSpace_spec afterSpec
      have htail : ∃ t, afterSpec = t ++ rest ∧ Trails t := by
        split at h
        · next hnil =>
            injection h with h
            injection h with _ hrest
            rw [hnil] at hbetween
            exact ⟨between, by rw [← hrest, ← hbetween], trails_of_blank hbetweenBlank⟩
        · next c t hct =>
            rw [hct] at hbetween
            split at h
            · next hopen =>
                obtain ⟨r, hr, heq⟩ := Option.map_eq_some_iff.mp h
                injection heq with _ hrest
                unfold consumeDisplayNameComment at hr
                split at hr
                · cases hr
                · next comment afterComment hcomment =>
                    split at hr
                    · injection hr with hr
                      obtain ⟨text, htext⟩ := consumeComment_spec hcomment
                      refine ⟨between ++ c :: text ++ [')'], ?_, trails_concat (by decide) _⟩
                      rw [hbetween, htext, ← hrest, ← hr]
                      simp
                    · cases hr
            · injection h with h
              injection h with _ hrest
              exact ⟨between, by rw [← hrest, ← hbetween], trails_of_blank hbetweenBlank⟩
      obtain ⟨t, ht, htrails⟩ := htail
      exact ⟨blanks, localPart, blanks', domain, t, by rw [← ht, ← hs], hblank, hblank', hlocal,
        hnot, hdomain, htrails⟩
  · refine Or.inr ?_
    obtain ⟨blanks, hblanks, -⟩ := skipSpace_spec s
    split at h
    · cases h
    · next c t hct =>
        rw [hct] at hblanks
        rw [hblanks]
        split at h
        · exact (afterPhrase_spec hgroup h).append blanks
        · split at h
          · cases h
          · next afterWords hphrase =>
              obtain ⟨words, hwords⟩ := phraseLoop_spec hphrase
              obtain ⟨between, hbetween, -⟩ := skipSpace_spec afterWords
              rw [hwords, hbetween, ← List.append_assoc, ← List.append_assoc]
              exact (afterPhrase_spec hgroup h).append _

end Groups

/-- Any parser leaves the end of a text. -/
theorem parseAddress_suffix {decodes : List Char → Bool} {s rest : List Char}
    {addrs : List (List Char)} (h : parseAddress decodes none s = some (addrs, rest)) :
    ∃ t, s = t ++ rest := by
  have hgroup : ∀ g ∈ (none : Option (List Char → Option (List (List Char) × List Char))),
      ∀ {t addrs rest}, g t = some (addrs, rest) → Closes t rest :=
    fun g hg => absurd hg (Option.not_mem_none g)
  rcases parseAddress_spec hgroup h with hspec | hcloses
  · obtain ⟨blanks, localPart, blanks', domain, t, hs, -⟩ := hspec
    exact ⟨blanks ++ (localPart ++ '@' :: (blanks' ++ (domain ++ t))), by rw [hs]; simp⟩
  · obtain ⟨t, ht, -⟩ := hcloses
    exact ⟨t, ht⟩

theorem groupLoop_spec {decodes : List Char → Bool} {n : Nat} {group addrs : List (List Char)}
    {s rest : List Char} (h : groupLoop decodes n group s = some (addrs, rest)) :
    Closes s rest := by
  induction n generalizing group s with
  | zero => cases h
  | succ n ih =>
      rw [groupLoop] at h
      split at h
      · cases h
      · next found afterAddress haddress =>
          obtain ⟨blanks, hblanks, -⟩ := skipSpace_spec s
          obtain ⟨address, hread⟩ := parseAddress_suffix haddress
          split at h
          · cases h
          · cases h
          · next c t hcomments =>
              obtain ⟨u, hu, -⟩ := skipCFWS_spec hcomments
              have hs : s = blanks ++ (address ++ u) ++ c :: t := by
                rw [List.append_assoc, List.append_assoc, ← hu, ← hread, ← hblanks]
              rw [hs]
              split at h
              · next hclose =>
                  obtain ⟨r, hr, heq⟩ := Option.map_eq_some_iff.mp h
                  injection heq with _ hrest
                  rw [← hrest]
                  exact (closes_of_skipCFWS (by rw [hclose]; decide) hr).append _
              · split at h
                · exact ((ih h).append [c]).append _
                · cases h

theorem consumeGroupList_spec {decodes : List Char → Bool} {addrs : List (List Char)}
    {s rest : List Char} (h : consumeGroupList decodes s = some (addrs, rest)) :
    Closes s rest := by
  obtain ⟨blanks, hblanks, -⟩ := skipSpace_spec s
  unfold consumeGroupList at h
  split at h
  · cases h
  · next c t hct =>
      rw [hct] at hblanks
      rw [hblanks]
      split at h
      · next hclose =>
          obtain ⟨r, hr, heq⟩ := Option.map_eq_some_iff.mp h
          injection heq with _ hrest
          rw [← hrest]
          exact (closes_of_skipCFWS (by rw [hclose]; decide) hr).append blanks
      · exact (groupLoop_spec h).append blanks

/-- **An accepted text** is an `addr-spec` and something after it, or ends like something
after one. -/
theorem accepts_spec {decodes : List Char → Bool} {s : String} (h : accepts decodes s = true) :
    SpecThen s.toList [] ∨ Closes s.toList [] := by
  obtain ⟨addr, haddr⟩ := Option.isSome_iff_exists.mp h
  unfold parseSingleAddress at haddr
  split at haddr
  · cases haddr
  · next addrs rest hparse =>
      have hgroup : ∀ g ∈ some (consumeGroupList decodes), ∀ {t addrs rest},
          g t = some (addrs, rest) → Closes t rest := by
        rintro g ⟨⟩ t addrs rest hg
        exact consumeGroupList_spec hg
      split at haddr
      · next hskip =>
          obtain ⟨u, hu, htrails⟩ := skipCFWS_spec hskip
          rw [List.append_nil] at hu
          subst hu
          rcases parseAddress_spec hgroup hparse with hspec | hcloses
          · obtain ⟨blanks, localPart, blanks', domain, t, hs, hblank, hblank', hlocal, hnot,
              hdomain, ht⟩ := hspec
            refine Or.inl ⟨blanks, localPart, blanks', domain, t ++ rest, ?_, hblank, hblank',
              hlocal, hnot, hdomain, ht.append htrails⟩
            rw [List.append_nil]
            exact hs
          · obtain ⟨t, hs, hne, ht⟩ := hcloses
            refine Or.inr ⟨t ++ rest, ?_, List.append_ne_nil_of_left_ne_nil hne rest,
              ht.append htrails⟩
            rw [List.append_nil]
            exact hs
      · cases haddr

/-- A text that ends like something after an address is not trimmed. -/
theorem IsTrimmed.not_trails {s t : List Char} (h : IsTrimmed s) {a : List Char}
    (hs : s = a ++ t) (ht : Trails t) : t = [] := by
  by_contra hne
  have hlast := List.getLast?_append_of_ne_nil a hne
  rw [← hs] at hlast
  cases hc : t.getLast? with
  | none => exact hne (List.getLast?_eq_none_iff.mp hc)
  | some c =>
      rw [hc] at hlast
      have htrailing := ht c hc
      rw [h.last c hlast] at htrailing
      cases htrailing

/-- A text that does not begin with a blank has none of the blanks before it. -/
theorem blanks_eq_nil {blanks t : List Char} (hblank : ∀ c ∈ blanks, isWSP c = true)
    (hhead : ∀ c ∈ (blanks ++ t).head?, isWSP c = false) : blanks = [] := by
  cases blanks with
  | nil => rfl
  | cons c blanks =>
      have hc := hblank c List.mem_cons_self
      rw [hhead c rfl] at hc
      cases hc

/-- **When an accepted text is an `addr-spec` alone**: exactly if nothing stands around it. -/
theorem accepts_isAddrSpec_iff {decodes : List Char → Bool} {s : String}
    (h : accepts decodes s = true) : IsAddrSpec s.toList ↔ IsTrimmed s.toList := by
  refine ⟨IsAddrSpec.isTrimmed, fun htrimmed => ?_⟩
  rcases accepts_spec h with hspec | ⟨t, hs, hne, ht⟩
  · obtain ⟨blanks, localPart, blanks', domain, t, hs, hblank, hblank', hlocal, hnot, hdomain,
      ht⟩ := hspec
    have htnil : t = [] := by
      refine htrimmed.not_trails (a := blanks ++ (localPart ++ '@' :: (blanks' ++ domain))) ?_ ht
      rw [hs]
      simp
    have hnil : blanks = [] := by
      have hhead := htrimmed.head
      rw [hs] at hhead
      exact blanks_eq_nil hblank hhead
    rw [htnil, hnil, List.nil_append, List.append_nil, List.append_nil] at hs
    have hat : '@' ∉ blanks' ++ domain := by
      rw [List.mem_append, not_or]
      exact ⟨fun hmem => absurd (hblank' _ hmem) (by decide), hnot⟩
    have hnil' : blanks' = [] := by
      have hafter := htrimmed.domain
      rw [hs, afterLastAt_of_not_mem hat] at hafter
      exact blanks_eq_nil hblank' hafter
    rw [hnil', List.nil_append] at hs
    exact ⟨localPart, domain, hs, hlocal, hdomain⟩
  · rw [List.append_nil] at hs
    exact absurd (htrimmed.not_trails (a := []) hs ht) hne

/-! ## §8. The turns of the loops. -/

theorem length_skipSpace_le (s : List Char) : (skipSpace s).length ≤ s.length :=
  (List.dropWhile_sublist isWSP).length_le

theorem length_lt_of_consumeComment {depth : Nat} {s comment rest : List Char}
    (h : consumeComment depth s = some (comment, rest)) : rest.length < s.length := by
  obtain ⟨text, rfl⟩ := consumeComment_spec h
  rw [List.length_append, List.length_cons]
  omega

/-- More turns than characters are as good as any: no loop runs out of them. -/
theorem skipComments_eq {n m : Nat} {s : List Char} (hn : s.length < n) (hm : s.length < m) :
    skipComments n s = skipComments m s := by
  induction n generalizing m s with
  | zero => exact absurd hn (Nat.not_lt_zero _)
  | succ n ih =>
      obtain ⟨m, rfl⟩ := Nat.exists_eq_succ_of_ne_zero (Nat.ne_zero_of_lt hm)
      cases s with
      | nil => rfl
      | cons c s =>
          rw [List.length_cons] at hn hm
          unfold skipComments
          split
          · split
            · rfl
            · next comment rest hcomment =>
                have hrest := length_lt_of_consumeComment hcomment
                have hskip := length_skipSpace_le rest
                exact ih (by omega) (by omega)
          · rfl

theorem length_le_of_skipCFWS {s rest : List Char} (h : skipCFWS s = some rest) :
    rest.length ≤ s.length := by
  obtain ⟨t, rfl, -⟩ := skipCFWS_spec h
  rw [List.length_append]
  exact Nat.le_add_left _ _

theorem length_lt_of_consumeAtom {permissive : Bool} {s atom rest : List Char}
    (h : consumeAtom true permissive s = some (atom, rest)) : rest.length < s.length := by
  have hsplit := (consumeAtom_spec h).1
  have hne : atom ≠ [] := by
    unfold consumeAtom at h
    dsimp only at h
    split at h
    · cases h
    · next hne =>
        split at h
        · cases h
        · injection h with h
          injection h with hatom _
          rwa [← hatom]
  rw [hsplit, List.length_append]
  have hpos := List.length_pos_of_ne_nil hne
  omega

/-- Nor has a phrase more words than characters. -/
theorem phraseLoop_eq {decodes : List Char → Bool} {n m : Nat} {hasWords : Bool} {s : List Char}
    (hn : s.length < n) (hm : s.length < m) :
    phraseLoop decodes n hasWords s = phraseLoop decodes m hasWords s := by
  induction n generalizing m hasWords s with
  | zero => exact absurd hn (Nat.not_lt_zero _)
  | succ n ih =>
      obtain ⟨m, rfl⟩ := Nat.exists_eq_succ_of_ne_zero (Nat.ne_zero_of_lt hm)
      unfold phraseLoop
      split
      · rfl
      · next afterComments hcomments =>
          have hskipped : afterComments.length ≤ s.length := by
            cases hasWords with
            | false =>
                injection hcomments with hcomments
                rw [hcomments]
            | true => exact length_le_of_skipCFWS hcomments
          have hspace := length_skipSpace_le afterComments
          split
          · rfl
          · next c t hct =>
              rw [hct, List.length_cons] at hspace
              split
              · split
                · next content rest hquoted =>
                    obtain ⟨body, rfl, -⟩ := quotedBody_spec hquoted
                    rw [List.length_append] at hspace
                    exact ih (by omega) (by omega)
                · rfl
              · split
                · rfl
                · next word rest hatom =>
                    have hrest := length_lt_of_consumeAtom hatom
                    rw [List.length_cons] at hrest
                    rw [ih (m := m) (by omega) (by omega)]

theorem length_le_of_parseAddress {decodes : List Char → Bool} {s rest : List Char}
    {addrs : List (List Char)} (h : parseAddress decodes none s = some (addrs, rest)) :
    rest.length ≤ s.length := by
  obtain ⟨t, rfl⟩ := parseAddress_suffix h
  rw [List.length_append]
  exact Nat.le_add_left _ _

/-- Nor a group more addresses. -/
theorem groupLoop_eq {decodes : List Char → Bool} {n m : Nat} {group : List (List Char)}
    {s : List Char} (hn : s.length < n) (hm : s.length < m) :
    groupLoop decodes n group s = groupLoop decodes m group s := by
  induction n generalizing m group s with
  | zero => exact absurd hn (Nat.not_lt_zero _)
  | succ n ih =>
      obtain ⟨m, rfl⟩ := Nat.exists_eq_succ_of_ne_zero (Nat.ne_zero_of_lt hm)
      unfold groupLoop
      split
      · rfl
      · next found afterAddress haddress =>
          have hspace := length_skipSpace_le s
          have haddr := length_le_of_parseAddress haddress
          split
          · rfl
          · rfl
          · next c t hcomments =>
              have hrest := length_le_of_skipCFWS hcomments
              rw [List.length_cons] at hrest
              rw [ih (m := m) (by omega) (by omega)]

end Foundation.MailAddr
