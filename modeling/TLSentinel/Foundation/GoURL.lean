/-
  Foundation.GoURL
  ────────────────
  **URLS AS THE `net/url` PACKAGE OF GO READS THEM.**

  More lenient than RFC 3986: a path and a query may have any character that is no
  control character.  The fragment is what follows the first `#`, the query what follows
  the first `?` before it; a `%` without two hexadecimal digits is an error in a path.

  Main results:
    * `parse_append`      — what is parsed after a scheme and an authority;
    * `parse_of_plain`, `plain_of_parse` — when the path of a URL is the text spliced
                            into it.
-/
import TLSentinel.Foundation.URI

namespace Foundation.GoURL

open Foundation.Hex (isHex hexValue)
open Foundation.Splits
open Foundation.Utf8

/-! ## §1. Escapes. -/

/-- `unescape`; `plus` in a query, where a `+` is a blank. -/
def unescape (plus : Bool) : List Char → Option (List UInt8)
  | [] => some []
  | '%' :: h :: l :: s =>
      if isHex h && isHex l then
        (unescape plus s).map (UInt8.ofNat (hexValue h * 16 + hexValue l) :: ·)
      else none
  | c :: s =>
      if c = '%' then none
      else if plus && c = '+' then (unescape plus s).map (0x20 :: ·)
      else (unescape plus s).map (String.utf8EncodeChar c ++ ·)

/-- Without escapes, a text stands for itself. -/
theorem unescape_of_not_mem {plus : Bool} {s : List Char} (hpct : '%' ∉ s)
    (hplus : plus = true → '+' ∉ s) : unescape plus s = some (utf8 s) := by
  induction s with
  | nil => rfl
  | cons c s ih =>
      rw [List.mem_cons, not_or] at hpct
      have hs := ih hpct.2 fun h hmem => hplus h (List.mem_cons_of_mem c hmem)
      have hc : ¬ (plus && decide (c = '+')) = true := by
        rw [Bool.and_eq_true, decide_eq_true_eq]
        rintro ⟨h, rfl⟩
        exact hplus h List.mem_cons_self
      rw [unescape.eq_3 plus c s fun _ _ _ h => absurd h.symm hpct.1, if_neg (Ne.symm hpct.1),
        if_neg hc, hs]
      rfl

/-- An escape is longer than what it stands for. -/
theorem length_unescape {s : List Char} {bytes : List UInt8}
    (h : unescape false s = some bytes) :
    bytes.length ≤ (utf8 s).length ∧ ((utf8 s).length ≤ bytes.length → '%' ∉ s) := by
  induction s using URI.pctDecode.induct generalizing bytes with
  | case1 =>
      injection h with h
      subst h
      exact ⟨Nat.le_refl 0, fun _ => List.not_mem_nil⟩
  | case2 hi lo s ih =>
      rw [unescape] at h
      split at h
      · obtain ⟨rest, hrest, rfl⟩ := Option.map_eq_some_iff.mp h
        have hle := (ih hrest).1
        have hhi := hi.utf8Size_pos
        have hlo := lo.utf8Size_pos
        simp only [utf8, List.length_append, String.length_utf8EncodeChar, List.length_cons]
        exact ⟨by omega, fun hge => by omega⟩
      · cases h
  | case3 c s hc ih =>
      rw [unescape.eq_3 false c s hc, Bool.false_and] at h
      split at h
      · cases h
      · next hne =>
          obtain ⟨rest, hrest, rfl⟩ := Option.map_eq_some_iff.mp h
          obtain ⟨hle, hpct⟩ := ih hrest
          rw [utf8, List.length_append, List.length_append]
          refine ⟨by omega, fun hge => ?_⟩
          rw [List.mem_cons, not_or]
          exact ⟨Ne.symm hne, hpct (by omega)⟩

/-! ## §2. URLs. -/

/-- A URL with a scheme and an authority; the path and the fragment are unescaped. -/
structure URL where
  scheme : List Char
  authority : List Char
  path : List UInt8
  rawQuery : List Char
  fragment : List UInt8
  deriving DecidableEq, Repr

/-- `stringContainsCTLByte`. -/
def isCTL (c : Char) : Bool := c.toNat < 0x20 || c.toNat = 0x7f

/-- `getScheme`, of a text that has a scheme. -/
def getScheme (s : List Char) : Option (List Char × List Char) :=
  match cut ':' s with
  | (scheme, some rest) => if URI.isScheme scheme then some (scheme, rest) else none
  | (_, none) => none

/-- `parseAuthority`, for the authorities of RFC 3986. -/
def isAuthority (s : List Char) : Bool :=
  let login := URI.splitUserinfo s
  let hostport := URI.splitPort login.2
  login.1.all (URI.isEncoded URI.isUserinfo) && URI.isHost hostport.1 &&
    hostport.2.all fun port => port.all Char.isDigit

/-- The URL of a scheme, of what follows the two slashes, and of a query. -/
def ofHierPart (scheme rest rawQuery : List Char) : Option URL :=
  let authority := rest.takeWhile fun c => decide (c ≠ '/')
  if isAuthority authority then
    (unescape false (rest.dropWhile fun c => decide (c ≠ '/'))).map fun path =>
      { scheme := scheme.map Char.toLower
        authority := authority
        path := path
        rawQuery := rawQuery
        fragment := [] }
  else none

/-- The URL of a scheme, of what follows the colon up to the query, and of the query. -/
def ofRest (scheme : List Char) : List Char → List Char → Option URL
  | '/' :: '/' :: rest, rawQuery => ofHierPart scheme rest rawQuery
  | _, _ => none

/-- `parse`, of a text without a fragment that has a scheme and an authority. -/
def parseNoFragment (s : List Char) : Option URL :=
  if s.any isCTL then none
  else
    match getScheme s with
    | none => none
    | some (scheme, afterScheme) =>
        let beforeQuery := cut '?' afterScheme
        ofRest scheme beforeQuery.1 (beforeQuery.2.getD [])

/-- `Parse`. -/
def parse (s : List Char) : Option URL :=
  let beforeFragment := cut '#' s
  match parseNoFragment beforeFragment.1, unescape false (beforeFragment.2.getD []) with
  | some url, some fragment => some { url with fragment := fragment }
  | _, _ => none

/-- **What is parsed after a scheme and an authority.** -/
theorem parse_append {scheme authority : List Char} (hscheme : URI.isScheme scheme = true)
    (hauthority : isAuthority authority = true)
    (hdelims : '#' ∉ authority ∧ '?' ∉ authority ∧ '/' ∉ authority)
    (hctl : scheme.any isCTL = false ∧ authority.any isCTL = false) (t : List Char) :
    parse (scheme ++ ':' :: '/' :: '/' :: (authority ++ '/' :: t)) =
      match (if (cut '#' t).1.any isCTL then none
        else unescape false ('/' :: (cut '?' (cut '#' t).1).1)),
          unescape false ((cut '#' t).2.getD []) with
      | some path, some fragment =>
          some { scheme := scheme.map Char.toLower
                 authority := authority
                 path := path
                 rawQuery := (cut '?' (cut '#' t).1).2.getD []
                 fragment := fragment }
      | _, _ => none := by
  have hhash : '#' ∉ scheme ++ ':' :: '/' :: '/' :: (authority ++ ['/']) := by
    have hnot := URI.not_mem_of_isScheme (c := '#') (by decide) (by decide) hscheme
    simp only [List.mem_append, List.mem_cons, List.not_mem_nil, or_false, not_or]
    exact ⟨hnot, by decide, by decide, by decide, hdelims.1, by decide⟩
  have hquestion : '?' ∉ '/' :: '/' :: (authority ++ ['/']) := by
    simp only [List.mem_append, List.mem_cons, List.not_mem_nil, or_false, not_or]
    exact ⟨by decide, by decide, hdelims.2.1, by decide⟩
  have hcolon := URI.not_mem_of_isScheme (c := ':') (by decide) (by decide) hscheme
  have hfirst : cut '#' (scheme ++ ':' :: '/' :: '/' :: (authority ++ '/' :: t)) =
      (scheme ++ ':' :: '/' :: '/' :: (authority ++ '/' :: (cut '#' t).1), (cut '#' t).2) := by
    have hcut := cut_append hhash t
    simpa using hcut
  have hsecond : ∀ u, cut '?' ('/' :: '/' :: (authority ++ '/' :: u)) =
      ('/' :: '/' :: (authority ++ '/' :: (cut '?' u).1), (cut '?' u).2) := by
    intro u
    have hcut := cut_append hquestion u
    simpa using hcut
  have hgetScheme : ∀ u, getScheme (scheme ++ ':' :: u) = some (scheme, u) := by
    intro u
    have hcut : cut ':' (scheme ++ ':' :: u) = (scheme, some u) := cut_eq_iff.mpr ⟨hcolon, rfl⟩
    rw [getScheme, hcut]
    exact if_pos hscheme
  have hany : ∀ u, (scheme ++ ':' :: '/' :: '/' :: (authority ++ '/' :: u)).any isCTL =
      u.any isCTL := by
    intro u
    have hpunct : isCTL ':' = false ∧ isCTL '/' = false := by decide
    simp [hctl.1, hctl.2, hpunct.1, hpunct.2]
  unfold parse parseNoFragment
  dsimp only
  rw [hfirst]
  dsimp only
  rw [hany]
  cases hbad : (cut '#' t).1.any isCTL with
  | true => rfl
  | false =>
      simp only [Bool.false_eq_true, if_false]
      rw [hgetScheme]
      dsimp only
      rw [hsecond]
      dsimp only
      rw [ofRest, ofHierPart]
      rw [takeWhile_ne_append hdelims.2.2, dropWhile_ne_append hdelims.2.2, if_pos hauthority]
      cases unescape false ('/' :: (cut '?' (cut '#' t).1).1) with
      | none => rfl
      | some path =>
          cases unescape false ((cut '#' t).2.getD []) with
          | none => rfl
          | some fragment => rfl

/-- A character that a path has as it is. -/
def isPlain (c : Char) : Bool := !isCTL c && c ≠ '?' && c ≠ '#' && c ≠ '%'

theorem isPlain_iff {c : Char} :
    isPlain c = true ↔ isCTL c = false ∧ c ≠ '?' ∧ c ≠ '#' ∧ c ≠ '%' := by
  simp only [isPlain, Bool.and_eq_true, Bool.not_eq_true', decide_eq_true_eq, and_assoc]

/-- A plain path is read as it is, and what follows its `?` as the query. -/
theorem parse_of_plain {scheme authority label query : List Char}
    (hscheme : URI.isScheme scheme = true) (hauthority : isAuthority authority = true)
    (hdelims : '#' ∉ authority ∧ '?' ∉ authority ∧ '/' ∉ authority)
    (hctl : scheme.any isCTL = false ∧ authority.any isCTL = false)
    (hquery : '#' ∉ query ∧ query.any isCTL = false) (hlabel : ∀ c ∈ label, isPlain c = true) :
    parse (scheme ++ ':' :: '/' :: '/' :: (authority ++ '/' :: (label ++ '?' :: query))) =
      some { scheme := scheme.map Char.toLower
             authority := authority
             path := utf8 ('/' :: label)
             rawQuery := query
             fragment := [] } := by
  have hplain := fun c hc => isPlain_iff.mp (hlabel c hc)
  have hquestion : '?' ∉ label := fun hmem => (hplain '?' hmem).2.1 rfl
  have hhash : '#' ∉ label ++ '?' :: query := by
    simp only [List.mem_append, List.mem_cons, not_or]
    exact ⟨fun hmem => (hplain '#' hmem).2.2.1 rfl, by decide, hquery.1⟩
  have hpct : '%' ∉ '/' :: label := by
    rw [List.mem_cons, not_or]
    exact ⟨by decide, fun hmem => (hplain '%' hmem).2.2.2 rfl⟩
  have hfirst : cut '#' (label ++ '?' :: query) = (label ++ '?' :: query, none) :=
    cut_eq_iff.mpr ⟨hhash, (List.append_nil _).symm⟩
  have hsecond : cut '?' (label ++ '?' :: query) = (label, some query) :=
    cut_eq_iff.mpr ⟨hquestion, rfl⟩
  have hlabelCtl : label.any isCTL = false := List.any_eq_false.mpr fun c hc => by
    rw [(hplain c hc).1]
    exact Bool.false_ne_true
  have hany : (label ++ '?' :: query).any isCTL = false := by
    rw [List.any_append, List.any_cons, hlabelCtl, hquery.2]
    rfl
  rw [parse_append hscheme hauthority hdelims hctl, hfirst]
  dsimp only
  rw [hsecond, hany]
  have hunescape : unescape false ('/' :: label) = some (utf8 ('/' :: label)) :=
    unescape_of_not_mem hpct nofun
  simp only [Bool.false_eq_true, if_false, hunescape]
  rfl

/-- A text without separators that begins a text stands before its separator. -/
theorem before_of_append {α : Type*} {c : α} {a b label query : List α} (hnot : c ∉ a)
    (h : a ++ b = label ++ c :: query) : ∃ rest, label = a ++ rest := by
  rcases List.append_eq_append_iff.mp h with ⟨rest, hlabel, -⟩ | ⟨rest, ha, hrest⟩
  · exact ⟨rest, hlabel⟩
  · cases rest with
    | nil => exact ⟨[], by rw [ha, List.append_nil, List.append_nil]⟩
    | cons d rest =>
        rw [List.cons_append, List.cons.injEq] at hrest
        rw [ha, hrest.1] at hnot
        exact absurd (List.mem_append_right label List.mem_cons_self) hnot

/-- **A path that stands for the label before a query** is that label, and plain. -/
theorem plain_of_parse {scheme authority label query : List Char} {url : URL}
    (hscheme : URI.isScheme scheme = true) (hauthority : isAuthority authority = true)
    (hdelims : '#' ∉ authority ∧ '?' ∉ authority ∧ '/' ∉ authority)
    (hctl : scheme.any isCTL = false ∧ authority.any isCTL = false)
    (h : parse (scheme ++ ':' :: '/' :: '/' :: (authority ++ '/' :: (label ++ '?' :: query))) =
      some url) (hpath : url.path = utf8 ('/' :: label)) :
    ∀ c ∈ label, isPlain c = true := by
  obtain ⟨hnoHash, hhash⟩ := cut_spec '#' (label ++ '?' :: query)
  obtain ⟨hnoQuestion, hquestion⟩ := cut_spec '?' (cut '#' (label ++ '?' :: query)).1
  rw [parse_append hscheme hauthority hdelims hctl] at h
  generalize cut '#' (label ++ '?' :: query) = beforeFragment at *
  generalize cut '?' beforeFragment.1 = beforeQuery at *
  cases hany : beforeFragment.1.any isCTL with
  | true =>
      rw [hany] at h
      cases h
  | false =>
      rw [hany] at h
      simp only [Bool.false_eq_true, if_false] at h
      split at h
      · next path fragment hunescape _ =>
          injection h with h
          subst h
          change path = utf8 ('/' :: label) at hpath
          subst hpath
          obtain ⟨hle, hpct⟩ := length_unescape hunescape
          obtain ⟨rest, hrest⟩ := before_of_append hnoQuestion
            (by rw [← List.append_assoc, ← hquestion, hhash])
          -- what is left of the label has no bytes
          have hempty : rest = [] := by
            rw [hrest] at hle
            simp only [utf8, utf8_append, List.length_append] at hle
            have hrestLe := length_le_length_utf8 rest
            exact List.eq_nil_of_length_eq_zero (by omega)
          rw [hempty, List.append_nil] at hrest
          intro c hc
          have hmem : c ∈ beforeFragment.1 := by
            rw [hquestion, ← hrest]
            exact List.mem_append_left _ hc
          rw [isPlain_iff]
          refine ⟨?_, ?_, ?_, ?_⟩
          · exact Bool.not_eq_true _ ▸ List.any_eq_false.mp hany c hmem
          · rintro rfl
            exact hnoQuestion (hrest ▸ hc)
          · rintro rfl
            exact hnoHash hmem
          · rintro rfl
            rw [← hrest] at hpct
            exact hpct (Nat.le_refl _) (List.mem_cons_of_mem _ hc)
      · cases h

/-- A pair of `ParseQuery`; those it cannot read are left out. -/
def queryPair (kv : List Char) : Option (List UInt8 × List UInt8) :=
  if ';' ∈ kv ∨ kv = [] then none
  else
    match unescape true (cut '=' kv).1, unescape true ((cut '=' kv).2.getD []) with
    | some key, some value => some (key, value)
    | _, _ => none

/-- `Query().Get(key)`, `none` if there is no such key. -/
def get (key rawQuery : List Char) : Option (List UInt8) :=
  ((rawQuery.splitOn '&').filterMap queryPair).lookup (utf8 key)

/-- A key in a query of two or more pairs. -/
theorem get_append_cons {first rest : List Char} {k v : List UInt8} (hamp : '&' ∉ first)
    (hfirst : queryPair first = some (k, v)) (key : List Char) :
    get key (first ++ '&' :: rest) = if utf8 key = k then some v else get key rest := by
  unfold get
  rw [List.splitOn_append_cons_self_of_not_mem hamp, List.filterMap_cons_some hfirst,
    List.lookup_cons]
  by_cases hkey : utf8 key = k
  · rw [if_pos hkey, beq_iff_eq.mpr hkey]
  · rw [if_neg hkey, beq_eq_false_iff_ne.mpr hkey]

end Foundation.GoURL
