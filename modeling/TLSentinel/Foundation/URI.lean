/-
  Foundation.URI
  ──────────────
  **URIS WITH AN AUTHORITY, AND THE BYTES THAT THEIR PARTS STAND FOR.**

  The grammar of RFC 3986: the fragment is what follows the first `#`, the query what
  follows the first `?` before it, and the authority ends at the next `/`.  In every
  part a `%` and two hexadecimal digits stand for a byte, other characters for
  themselves; each part has its own characters.

  Main results:
    * `parse_eq_some_iff` — a URI is the text of its parts, each valid;
    * `eq_of_pctDecode`   — a part that decodes to a text of its length is that text;
    * `param_eq_some`     — a query with a value of a key.
-/
import TLSentinel.Foundation.NetAddr
import TLSentinel.Foundation.Splits
import TLSentinel.Foundation.Utf8

namespace Foundation.URI

open Foundation.Hex (isHex hexValue)
open Foundation.NetAddr (parseIPv6)
open Foundation.Splits
open Foundation.Utf8

/-! ## §1. Characters. -/

/-- `unreserved`: a letter, a digit, or one of `-._~`. -/
def isUnreserved (c : Char) : Bool :=
  c.isAlphanum || c = '-' || c = '.' || c = '_' || c = '~'

/-- `sub-delims`, by their code points. -/
def isSubDelim (c : Char) : Bool :=
  c.toNat ∈ [0x21, 0x24, 0x26, 0x27, 0x28, 0x29, 0x2a, 0x2b, 0x2c, 0x3b, 0x3d]

/-- A character of `userinfo`, escapes apart. -/
def isUserinfo (c : Char) : Bool := isUnreserved c || isSubDelim c || c = ':'

/-- A character of `reg-name`, escapes apart. -/
def isRegName (c : Char) : Bool := isUnreserved c || isSubDelim c

/-- A character of a path, escapes apart: `pchar`, or a slash between segments. -/
def isPathChar (c : Char) : Bool :=
  isUnreserved c || isSubDelim c || c = ':' || c = '@' || c = '/'

/-- A character of a query or a fragment, escapes apart. -/
def isQueryChar (c : Char) : Bool := isPathChar c || c = '?'

/-! ## §2. Escapes. -/

/-- A text of some characters and of escapes. -/
def isEncoded (p : Char → Bool) : List Char → Bool
  | [] => true
  | '%' :: h :: l :: s => isHex h && isHex l && isEncoded p s
  | c :: s => p c && isEncoded p s

/-- The bytes that a text with escapes stands for. -/
def pctDecode : List Char → List UInt8
  | [] => []
  | '%' :: h :: l :: s => UInt8.ofNat (hexValue h * 16 + hexValue l) :: pctDecode s
  | c :: s => String.utf8EncodeChar c ++ pctDecode s

theorem pctDecode_cons {c : Char} (hc : c ≠ '%') (s : List Char) :
    pctDecode (c :: s) = String.utf8EncodeChar c ++ pctDecode s := by
  rw [pctDecode]
  intro _ _ _ h _
  exact hc h

theorem isEncoded_cons {p : Char → Bool} {c : Char} (hc : c ≠ '%') (s : List Char) :
    isEncoded p (c :: s) = (p c && isEncoded p s) := by
  rw [isEncoded]
  intro _ _ _ h _
  exact hc h

/-- Without escapes, a text stands for itself. -/
theorem pctDecode_of_not_mem {s : List Char} (h : '%' ∉ s) : pctDecode s = utf8 s := by
  induction s with
  | nil => rfl
  | cons c s ih =>
      rw [List.mem_cons, not_or] at h
      rw [pctDecode_cons (Ne.symm h.1), utf8, ih h.2]

theorem isEncoded_of_not_mem {p : Char → Bool} {s : List Char} (h : '%' ∉ s) :
    isEncoded p s = true ↔ ∀ c ∈ s, p c = true := by
  induction s with
  | nil => exact iff_of_true rfl nofun
  | cons c s ih =>
      rw [List.mem_cons, not_or] at h
      rw [isEncoded_cons (Ne.symm h.1), Bool.and_eq_true, ih h.2, List.forall_mem_cons]

/-- A character that a text may not have, it has not. -/
theorem not_mem_of_isEncoded {p : Char → Bool} {s : List Char} {c : Char}
    (h : isEncoded p s = true) (hp : p c = false) (hpct : c ≠ '%') (hhex : isHex c = false) :
    c ∉ s := by
  have hne : ∀ {q : Char → Bool} {d : Char}, q d = true → q c = false → c ≠ d := by
    rintro q d hd hc rfl
    rw [hd] at hc
    cases hc
  induction s using isEncoded.induct with
  | case1 => exact List.not_mem_nil
  | case2 hi lo s ih =>
      rw [isEncoded, Bool.and_eq_true, Bool.and_eq_true] at h
      obtain ⟨⟨hhi, hlo⟩, hs⟩ := h
      simp only [List.mem_cons, not_or]
      exact ⟨hpct, hne hhi hhex, hne hlo hhex, ih hs⟩
  | case3 d s hd ih =>
      rw [isEncoded.eq_3 p d s hd, Bool.and_eq_true] at h
      rw [List.mem_cons, not_or]
      exact ⟨hne h.1 hp, ih h.2⟩

/-- The characters of a part: of ASCII, and not `%`. -/
structure IsClass (p : Char → Bool) : Prop where
  ascii : ∀ c, p c = true → isAscii c = true
  percent : p '%' = false

theorem isAscii_of_isAlphanum {c : Char} (h : c.isAlphanum = true) : isAscii c = true := by
  have hcases : ((65 ≤ c.toNat ∧ c.toNat ≤ 90) ∨ 97 ≤ c.toNat ∧ c.toNat ≤ 122) ∨
      48 ≤ c.toNat ∧ c.toNat ≤ 57 := by
    have h' : ((decide (c.val ≥ 'A'.val ∧ c.val ≤ 'Z'.val) ||
        (decide (c.val ≥ 'a'.val) && decide (c.val ≤ 'z'.val))) ||
          (decide (c.val ≥ '0'.val) && decide (c.val ≤ '9'.val))) = true := h
    rw [Bool.or_eq_true, Bool.or_eq_true, Bool.and_eq_true, Bool.and_eq_true, decide_eq_true_eq,
      decide_eq_true_eq, decide_eq_true_eq, decide_eq_true_eq, decide_eq_true_eq] at h'
    exact h'
  rw [isAscii, decide_eq_true_eq]
  omega

theorem isAscii_of_isUnreserved {c : Char} (h : isUnreserved c = true) : isAscii c = true := by
  unfold isUnreserved at h
  simp only [Bool.or_eq_true, decide_eq_true_eq] at h
  obtain (((halpha | rfl) | rfl) | rfl) | rfl := h
  · exact isAscii_of_isAlphanum halpha
  · decide
  · decide
  · decide
  · decide

theorem isAscii_of_isSubDelim {c : Char} (h : isSubDelim c = true) : isAscii c = true := by
  rw [isSubDelim, decide_eq_true_eq] at h
  simp only [List.mem_cons, List.not_mem_nil, or_false] at h
  rw [isAscii, decide_eq_true_eq]
  omega

theorem isClass_isRegName : IsClass isRegName where
  ascii c h := by
    rw [isRegName, Bool.or_eq_true] at h
    exact h.elim isAscii_of_isUnreserved isAscii_of_isSubDelim
  percent := by decide

theorem isClass_isUserinfo : IsClass isUserinfo where
  ascii c h := by
    rw [isUserinfo, Bool.or_eq_true, decide_eq_true_eq] at h
    rcases h with h | rfl
    · exact isClass_isRegName.ascii c h
    · decide
  percent := by decide

theorem isClass_isPathChar : IsClass isPathChar where
  ascii c h := by
    unfold isPathChar at h
    simp only [Bool.or_eq_true, decide_eq_true_eq] at h
    obtain (((h | h) | rfl) | rfl) | rfl := h
    · exact isAscii_of_isUnreserved h
    · exact isAscii_of_isSubDelim h
    · decide
    · decide
    · decide
  percent := by decide

theorem isClass_isQueryChar : IsClass isQueryChar where
  ascii c h := by
    rw [isQueryChar, Bool.or_eq_true, decide_eq_true_eq] at h
    rcases h with h | rfl
    · exact isClass_isPathChar.ascii c h
    · decide
  percent := by decide

/-- Escapes are longer than what they stand for. -/
theorem length_pctDecode {p : Char → Bool} (hp : IsClass p) {s : List Char}
    (h : isEncoded p s = true) :
    (pctDecode s).length ≤ s.length ∧ ((pctDecode s).length = s.length → '%' ∉ s) := by
  induction s using isEncoded.induct with
  | case1 => exact ⟨Nat.le_refl 0, fun _ => List.not_mem_nil⟩
  | case2 hi lo s ih =>
      rw [isEncoded, Bool.and_eq_true] at h
      have hle := (ih h.2).1
      rw [pctDecode, List.length_cons, List.length_cons, List.length_cons, List.length_cons]
      exact ⟨by omega, fun heq => by omega⟩
  | case3 d s hd ih =>
      rw [isEncoded.eq_3 p d s hd, Bool.and_eq_true] at h
      obtain ⟨hle, hno⟩ := ih h.2
      have hone := congrArg List.length (utf8EncodeChar_of_isAscii (hp.ascii d h.1))
      rw [List.length_singleton] at hone
      rw [pctDecode.eq_3 d s hd, List.length_append, List.length_cons, hone]
      refine ⟨by omega, fun heq => ?_⟩
      rw [List.mem_cons, not_or]
      refine ⟨?_, hno (by omega)⟩
      rintro rfl
      rw [hp.percent] at h
      cases h.1

/-- A part that stands for a text is at least as long. -/
theorem length_le_of_pctDecode {p : Char → Bool} (hp : IsClass p) {s v : List Char}
    (h : isEncoded p s = true) (hv : pctDecode s = utf8 v) : v.length ≤ s.length := by
  have hle := (length_pctDecode hp h).1
  rw [hv] at hle
  exact (length_le_length_utf8 v).trans hle

/-- **A part that stands for a text of its own length** is that text. -/
theorem eq_of_pctDecode {p : Char → Bool} (hp : IsClass p) {s v : List Char}
    (h : isEncoded p s = true) (hv : pctDecode s = utf8 v) (hlen : s.length ≤ v.length) :
    s = v ∧ '%' ∉ s := by
  obtain ⟨hle, hno⟩ := length_pctDecode hp h
  have hv' := length_le_length_utf8 v
  have hpct := hno (by rw [hv] at hle ⊢; omega)
  rw [pctDecode_of_not_mem hpct] at hv
  exact ⟨utf8_injective hv, hpct⟩

/-- Around a character that is in no escape, both sides are encoded. -/
theorem isEncoded_append_cons {p : Char → Bool} (hp : IsClass p) {a b : List Char} {c : Char}
    (hpct : c ≠ '%') (hhex : isHex c = false) (h : isEncoded p (a ++ c :: b) = true) :
    isEncoded p a = true ∧ isEncoded p b = true := by
  induction a using isEncoded.induct with
  | case1 =>
      rw [List.nil_append, isEncoded_cons hpct, Bool.and_eq_true] at h
      exact ⟨rfl, h.2⟩
  | case2 hi lo a ih =>
      rw [List.cons_append, List.cons_append, List.cons_append, isEncoded, Bool.and_eq_true] at h
      obtain ⟨ha, hb⟩ := ih h.2
      rw [isEncoded, Bool.and_eq_true]
      exact ⟨⟨h.1, ha⟩, hb⟩
  | case3 d a hd ih =>
      by_cases hescape : d = '%'
      · subst hescape
        have hfalse : isEncoded p ('%' :: (a ++ c :: b)) = false := by
          match a, hd with
          | [], _ =>
              cases b with
              | nil => rw [List.nil_append, isEncoded, hp.percent, Bool.false_and]; nofun
              | cons l b =>
                  show (isHex c && isHex l && isEncoded p b) = false
                  rw [hhex, Bool.false_and, Bool.false_and]
          | [h1], _ =>
              show (isHex h1 && isHex c && isEncoded p b) = false
              rw [hhex, Bool.and_false, Bool.false_and]
          | h1 :: h2 :: a', hd => exact absurd rfl (hd h1 h2 a' rfl)
        rw [List.cons_append, hfalse] at h
        cases h
      · rw [List.cons_append, isEncoded_cons hescape, Bool.and_eq_true] at h
        obtain ⟨ha, hb⟩ := ih h.2
        rw [isEncoded_cons hescape, Bool.and_eq_true]
        exact ⟨⟨h.1, ha⟩, hb⟩

/-! ## §3. Hosts. -/

/-- `IPvFuture`. -/
def isIPvFuture : List Char → Bool
  | [] => false
  | v :: s =>
      match cut '.' s with
      | (_, none) => false
      | (version, some addr) =>
          (v = 'v' || v = 'V') && !version.isEmpty && version.all isHex && !addr.isEmpty &&
            addr.all isUserinfo

/-- `IP-literal`: an address of version 6, or of a later one, in brackets. -/
def isIPLiteral : List Char → Bool
  | '[' :: s =>
      match cut ']' s with
      | (inner, some []) => (parseIPv6 inner).isSome || isIPvFuture inner
      | _ => false
  | _ => false

/-- `host`. -/
def isHost (s : List Char) : Bool := isIPLiteral s || isEncoded isRegName s

/-- A host and its port: the port of an address in brackets is after them. -/
def splitPort : List Char → List Char × Option (List Char)
  | '[' :: s =>
      match cut ']' s with
      | (inner, some (':' :: port)) => ('[' :: (inner ++ [']']), some port)
      | _ => ('[' :: s, none)
  | s => cut ':' s

theorem isIPLiteral_eq {s : List Char} (h : isIPLiteral s = true) :
    ∃ inner, s = '[' :: (inner ++ [']']) ∧ ']' ∉ inner ∧
      ((parseIPv6 inner).isSome = true ∨ isIPvFuture inner = true) := by
  unfold isIPLiteral at h
  split at h
  · next rest =>
      split at h
      · next inner hcut =>
          obtain ⟨hnot, hrest⟩ := cut_eq_iff.mp hcut
          rw [Bool.or_eq_true] at h
          exact ⟨inner, by rw [hrest]; rfl, hnot, h⟩
      · cases h
  · cases h

/-- A delimiter of the generic syntax that no host and no user information has. -/
def IsDelim (c : Char) : Prop := c = '#' ∨ c = '?' ∨ c = '/' ∨ c = '@'

theorem IsDelim.isUserinfo {c : Char} (h : IsDelim c) : isUserinfo c = false := by
  obtain rfl | rfl | rfl | rfl := h
  · decide
  · decide
  · decide
  · decide

theorem IsDelim.isAddrChar {c : Char} (h : IsDelim c) : NetAddr.isAddrChar c = false := by
  obtain rfl | rfl | rfl | rfl := h
  · decide
  · decide
  · decide
  · decide

theorem IsDelim.isHex {c : Char} (h : IsDelim c) : isHex c = false := by
  rw [← Bool.not_eq_true]
  intro hhex
  have haddr := h.isAddrChar
  rw [NetAddr.isAddrChar, hhex] at haddr
  cases haddr

theorem IsDelim.ne {c d : Char} (h : IsDelim c) (hd : d ∈ ['%', '[', ']', 'v', 'V', '.', ':']) :
    c ≠ d := by
  rintro rfl
  obtain rfl | rfl | rfl | rfl := h
  · exact absurd hd (by decide)
  · exact absurd hd (by decide)
  · exact absurd hd (by decide)
  · exact absurd hd (by decide)

/-- No other character is in an address in brackets. -/
theorem not_mem_of_isIPLiteral {c : Char} (haddr : NetAddr.isAddrChar c = false)
    (huser : isUserinfo c = false) (hleft : c ≠ '[') (hright : c ≠ ']') {s : List Char}
    (h : isIPLiteral s = true) : c ∉ s := by
  have hne : ∀ {q : Char → Bool} {d : Char}, q d = true → q c = false → c ≠ d := by
    rintro q d hd hc rfl
    rw [hd] at hc
    cases hc
  obtain ⟨inner, rfl, -, hinner⟩ := isIPLiteral_eq h
  simp only [List.mem_cons, List.mem_append, List.not_mem_nil, or_false, not_or]
  refine ⟨hleft, ?_, hright⟩
  rcases hinner with hv6 | hfuture
  · obtain ⟨ip, hip⟩ := Option.isSome_iff_exists.mp hv6
    exact fun hmem => hne (NetAddr.isAddrChar_of_parseIPv6 hip c hmem) haddr rfl
  · have hhex : isHex c = false := (Bool.or_eq_false_iff.mp (Bool.or_eq_false_iff.mp haddr).1).1
    unfold isIPvFuture at hfuture
    split at hfuture
    · cases hfuture
    · next v rest =>
        split at hfuture
        · cases hfuture
        · next version addr hcut =>
            simp only [Bool.and_eq_true, Bool.or_eq_true, decide_eq_true_eq,
              List.all_eq_true] at hfuture
            obtain ⟨⟨⟨⟨hhead, -⟩, hversion⟩, -⟩, haddrs⟩ := hfuture
            rw [(cut_eq_iff.mp hcut).2, tail, List.mem_cons, List.mem_append, List.mem_cons]
            rintro (rfl | hmem | rfl | hmem)
            · -- the `v` of the version is a letter
              rcases hhead with rfl | rfl
              · exact absurd huser (by decide)
              · exact absurd huser (by decide)
            · exact hne (hversion c hmem) hhex rfl
            · exact absurd haddr (by decide)
            · exact hne (haddrs c hmem) huser rfl

theorem IsDelim.not_mem_of_isHost {c : Char} (hc : IsDelim c) {s : List Char}
    (h : isHost s = true) : c ∉ s := by
  rw [isHost, Bool.or_eq_true] at h
  rcases h with hliteral | hname
  · exact not_mem_of_isIPLiteral hc.isAddrChar hc.isUserinfo (hc.ne (by decide))
      (hc.ne (by decide)) hliteral
  · have hreg : isRegName c = false := (Bool.or_eq_false_iff.mp hc.isUserinfo).1
    exact not_mem_of_isEncoded hname hreg (hc.ne (by decide)) hc.isHex

/-- A host that stands for a text is at least as long, and is that text if it is no longer. -/
theorem isHost_pctDecode {s v : List Char} (h : isHost s = true) (hv : pctDecode s = utf8 v) :
    v.length ≤ s.length ∧ (s.length ≤ v.length → s = v ∧ '%' ∉ s) := by
  rw [isHost, Bool.or_eq_true] at h
  rcases h with hliteral | hname
  · have hpct : '%' ∉ s :=
      not_mem_of_isIPLiteral (by decide) (by decide) (by decide) (by decide) hliteral
    rw [pctDecode_of_not_mem hpct] at hv
    have heq := utf8_injective hv
    exact ⟨(congrArg List.length heq).ge, fun _ => ⟨heq, hpct⟩⟩
  · exact ⟨length_le_of_pctDecode isClass_isRegName hname hv,
      eq_of_pctDecode isClass_isRegName hname hv⟩

theorem splitPort_eq {s host : List Char} {port : Option (List Char)}
    (h : splitPort s = (host, port)) : s = host ++ tail ':' port := by
  unfold splitPort at h
  split at h
  · next rest =>
      split at h
      · next inner port' hcut =>
          injection h with hhost hport
          rw [← hhost, ← hport, (cut_eq_iff.mp hcut).2]
          simp [tail]
      · injection h with hhost hport
        rw [← hhost, ← hport]
        exact (List.append_nil _).symm
  · exact (cut_eq_iff.mp h).2

theorem splitPort_spec (s : List Char) : s = (splitPort s).1 ++ tail ':' (splitPort s).2 :=
  splitPort_eq rfl

theorem splitPort_of_isHost {host : List Char} (h : isHost host = true)
    (port : Option (List Char)) : splitPort (host ++ tail ':' port) = (host, port) := by
  rw [isHost, Bool.or_eq_true] at h
  rcases h with hliteral | hname
  · obtain ⟨inner, rfl, hnot, -⟩ := isIPLiteral_eq hliteral
    have hcut : cut ']' (inner ++ ']' :: tail ':' port) = (inner, some (tail ':' port)) :=
      cut_eq_iff.mpr ⟨hnot, rfl⟩
    have htext : '[' :: (inner ++ [']']) ++ tail ':' port =
        '[' :: (inner ++ ']' :: tail ':' port) := by simp
    rw [htext, splitPort, hcut]
    cases port with
    | none => rfl
    | some port => rfl
  · have hcolon : ':' ∉ host := not_mem_of_isEncoded hname rfl (by decide) rfl
    have hcut : cut ':' (host ++ tail ':' port) = (host, port) := cut_eq_iff.mpr ⟨hcolon, rfl⟩
    have hleft : '[' ∉ host := not_mem_of_isEncoded hname rfl (by decide) rfl
    unfold splitPort
    split
    · next rest heq =>
        -- the host does not begin with a bracket, nor does a port
        cases host with
        | nil =>
            cases port with
            | none => cases heq
            | some port => exact absurd heq (by simp [tail])
        | cons c cs =>
            rw [List.cons_append, List.cons.injEq] at heq
            rw [heq.1] at hleft
            exact absurd List.mem_cons_self hleft
    · exact hcut

/-! ## §4. URIs. -/

/-- `scheme`. -/
def isScheme : List Char → Bool
  | [] => false
  | c :: s => c.isAlpha && s.all fun d => d.isAlphanum || d = '+' || d = '-' || d = '.'

/-- `path-abempty`. -/
def isPath (s : List Char) : Bool := s.head?.all (fun c => c = '/') && isEncoded isPathChar s

/-- The parts of a URI with an authority, as they are written. -/
structure Parts where
  scheme : List Char
  userinfo : Option (List Char)
  host : List Char
  port : Option (List Char)
  path : List Char
  query : Option (List Char)
  fragment : Option (List Char)
  deriving DecidableEq, Repr

/-- The user information, if there is any, and its `@`. -/
def loginText : Option (List Char) → List Char
  | none => []
  | some userinfo => userinfo ++ ['@']

namespace Parts

/-- Every part is of its characters. -/
def valid (p : Parts) : Bool :=
  isScheme p.scheme && p.userinfo.all (isEncoded isUserinfo) && isHost p.host &&
    p.port.all (fun s => s.all Char.isDigit) && isPath p.path &&
    p.query.all (isEncoded isQueryChar) && p.fragment.all (isEncoded isQueryChar)

/-- The authority. -/
def authority (p : Parts) : List Char := loginText p.userinfo ++ (p.host ++ tail ':' p.port)

/-- The URI. -/
def text (p : Parts) : List Char :=
  ((p.scheme ++ ':' :: '/' :: '/' :: (p.authority ++ p.path)) ++ tail '?' p.query) ++
    tail '#' p.fragment

end Parts

/-- The user information of an authority, and the rest. -/
def splitUserinfo (s : List Char) : Option (List Char) × List Char :=
  match cut '@' s with
  | (userinfo, some rest) => (some userinfo, rest)
  | (_, none) => (none, s)

/-- The parts, once the authority and the path are told from the others. -/
def ofHierPart (scheme rest : List Char) (query fragment : Option (List Char)) : Option Parts :=
  let login := splitUserinfo (rest.takeWhile fun c => decide (c ≠ '/'))
  let hostport := splitPort login.2
  let p : Parts :=
    { scheme := scheme
      userinfo := login.1
      host := hostport.1
      port := hostport.2
      path := rest.dropWhile fun c => decide (c ≠ '/')
      query := query
      fragment := fragment }
  if p.valid then some p else none

/-- The parts of a URI with an authority. -/
def parse (s : List Char) : Option Parts :=
  let beforeFragment := cut '#' s
  let beforeQuery := cut '?' beforeFragment.1
  match cut ':' beforeQuery.1 with
  | (scheme, some ('/' :: '/' :: rest)) =>
      ofHierPart scheme rest beforeQuery.2 beforeFragment.2
  | _ => none

theorem splitUserinfo_spec (s : List Char) :
    s = loginText (splitUserinfo s).1 ++ (splitUserinfo s).2 := by
  have hcut := (cut_spec '@' s).2
  unfold splitUserinfo
  split
  · next userinfo rest heq =>
      rw [heq] at hcut
      rw [hcut]
      simp [loginText, tail]
  · rfl

/-- What is parsed is the text of its parts. -/
theorem text_of_parse {s : List Char} {p : Parts} (h : parse s = some p) :
    s = p.text ∧ p.valid = true := by
  have hs := (cut_spec '#' s).2
  have hq := (cut_spec '?' (cut '#' s).1).2
  unfold parse at h
  dsimp only at h
  split at h
  · next scheme rest hcolon =>
      have hc := (cut_eq_iff.mp hcolon).2
      rw [tail] at hc
      unfold ofHierPart at h
      dsimp only at h
      split at h
      · next hvalid =>
          injection h with h
          subst h
          refine ⟨?_, hvalid⟩
          unfold Parts.text Parts.authority
          dsimp only
          rw [← splitPort_spec, ← splitUserinfo_spec, List.takeWhile_append_dropWhile, ← hc,
            ← hq, ← hs]
      · cases h
  · cases h

theorem not_mem_of_isScheme {c : Char} (hc : c.isAlphanum = false)
    (hother : (c = '+' || c = '-' || c = '.') = false) {s : List Char}
    (h : isScheme s = true) : c ∉ s := by
  have halpha : c.isAlpha = false := (Bool.or_eq_false_iff.mp hc).1
  cases s with
  | nil => cases h
  | cons d s =>
      rw [isScheme, Bool.and_eq_true, List.all_eq_true] at h
      rw [List.mem_cons]
      rintro (rfl | hmem)
      · rw [halpha] at h
        cases h.1
      · have hd := h.2 c hmem
        rw [hc] at hd
        rw [Bool.false_or, hother] at hd
        cases hd

theorem IsDelim.not_mem_of_isScheme {c : Char} (hc : IsDelim c) {s : List Char}
    (h : isScheme s = true) : c ∉ s := by
  obtain rfl | rfl | rfl | rfl := hc
  · exact URI.not_mem_of_isScheme (by decide) (by decide) h
  · exact URI.not_mem_of_isScheme (by decide) (by decide) h
  · exact URI.not_mem_of_isScheme (by decide) (by decide) h
  · exact URI.not_mem_of_isScheme (by decide) (by decide) h

/-- The parts of a valid URI, each with its characters. -/
structure Parts.Valid (p : Parts) : Prop where
  scheme : isScheme p.scheme = true
  userinfo : ∀ u, p.userinfo = some u → isEncoded isUserinfo u = true
  host : isHost p.host = true
  port : ∀ o, p.port = some o → ∀ c ∈ o, c.isDigit = true
  path : isPath p.path = true
  query : ∀ q, p.query = some q → isEncoded isQueryChar q = true
  fragment : ∀ f, p.fragment = some f → isEncoded isQueryChar f = true

theorem all_eq_true_iff {α : Type*} {o : Option α} {p : α → Bool} :
    o.all p = true ↔ ∀ a, o = some a → p a = true := by
  cases o with
  | none => exact iff_of_true rfl nofun
  | some a => simp

theorem Parts.valid_iff {p : Parts} : p.valid = true ↔ p.Valid := by
  unfold Parts.valid
  simp only [Bool.and_eq_true, all_eq_true_iff, List.all_eq_true]
  constructor
  · rintro ⟨⟨⟨⟨⟨⟨hscheme, huser⟩, hhost⟩, hport⟩, hpath⟩, hquery⟩, hfragment⟩
    exact ⟨hscheme, huser, hhost, hport, hpath, hquery, hfragment⟩
  · rintro ⟨hscheme, huser, hhost, hport, hpath, hquery, hfragment⟩
    exact ⟨⟨⟨⟨⟨⟨hscheme, huser⟩, hhost⟩, hport⟩, hpath⟩, hquery⟩, hfragment⟩

namespace Parts.Valid

variable {p : Parts}

theorem not_mem_port (h : p.Valid) {c : Char} (hc : c.isDigit = false) (hcolon : c ≠ ':') :
    c ∉ tail ':' p.port := by
  cases hport : p.port with
  | none => exact List.not_mem_nil
  | some o =>
      rw [tail, List.mem_cons]
      rintro (heq | hmem)
      · exact hcolon heq
      · have hdigit := h.port o hport c hmem
        rw [hc] at hdigit
        cases hdigit

theorem not_mem_hostport (h : p.Valid) {c : Char} (hc : IsDelim c) :
    c ∉ p.host ++ tail ':' p.port := by
  have hdigit : c.isDigit = false := by
    rw [← Bool.not_eq_true]
    intro hdigit
    have hhex := hc.isHex
    rw [Hex.isHex_of_isDigit hdigit] at hhex
    cases hhex
  rw [List.mem_append, not_or]
  exact ⟨hc.not_mem_of_isHost h.host, h.not_mem_port hdigit (hc.ne (by decide))⟩

theorem not_mem_userinfo (h : p.Valid) {c : Char} (hc : IsDelim c) {u : List Char}
    (hu : p.userinfo = some u) : c ∉ u :=
  not_mem_of_isEncoded (h.userinfo u hu) hc.isUserinfo (hc.ne (by decide)) hc.isHex

theorem not_mem_authority (h : p.Valid) {c : Char} (hc : IsDelim c) (hat : c ≠ '@') :
    c ∉ p.authority := by
  rw [Parts.authority, List.mem_append, not_or]
  refine ⟨?_, h.not_mem_hostport hc⟩
  cases huser : p.userinfo with
  | none => exact List.not_mem_nil
  | some u =>
      rw [loginText, List.mem_append, not_or]
      exact ⟨h.not_mem_userinfo hc huser, fun hmem => hat (List.mem_singleton.mp hmem)⟩

theorem splitUserinfo_authority (h : p.Valid) :
    splitUserinfo p.authority = (p.userinfo, p.host ++ tail ':' p.port) := by
  have hat : IsDelim '@' := Or.inr (Or.inr (Or.inr rfl))
  have hrest := h.not_mem_hostport hat
  unfold Parts.authority splitUserinfo
  cases huser : p.userinfo with
  | none =>
      have hcut : cut '@' (p.host ++ tail ':' p.port) = (p.host ++ tail ':' p.port, none) :=
        cut_eq_iff.mpr ⟨hrest, (List.append_nil _).symm⟩
      rw [loginText, List.nil_append, hcut]
  | some u =>
      have hcut : cut '@' (u ++ '@' :: (p.host ++ tail ':' p.port)) =
          (u, some (p.host ++ tail ':' p.port)) :=
        cut_eq_iff.mpr ⟨h.not_mem_userinfo hat huser, rfl⟩
      rw [loginText, List.append_assoc, List.singleton_append, hcut]

/-- The path begins with a slash, and the authority has none. -/
theorem takeWhile_authority (h : p.Valid) :
    (p.authority ++ p.path).takeWhile (fun c => decide (c ≠ '/')) = p.authority ∧
      (p.authority ++ p.path).dropWhile (fun c => decide (c ≠ '/')) = p.path := by
  have hslash := h.not_mem_authority (c := '/') (Or.inr (Or.inr (Or.inl rfl))) (by decide)
  have hpath := (Bool.and_eq_true_iff.mp h.path).1
  cases hp : p.path with
  | nil =>
      rw [List.append_nil]
      exact ⟨takeWhile_ne_eq_self hslash, dropWhile_ne_eq_nil hslash⟩
  | cons c cs =>
      rw [hp] at hpath
      have hc : c = '/' := of_decide_eq_true hpath
      subst hc
      exact ⟨takeWhile_ne_append hslash, dropWhile_ne_append hslash⟩

/-- What stands before the query has none of the later delimiters. -/
theorem not_mem_beforeQuery (h : p.Valid) {c : Char} (hc : c = '#' ∨ c = '?') :
    c ∉ p.scheme ++ ':' :: '/' :: '/' :: (p.authority ++ p.path) := by
  have hdelim : IsDelim c := hc.elim Or.inl fun h => Or.inr (Or.inl h)
  have hothers : c ≠ ':' ∧ c ≠ '/' ∧ c ≠ '@' ∧ isPathChar c = false := by
    obtain rfl | rfl := hc
    · decide
    · decide
  obtain ⟨hcolon, hslash, hat, hclass⟩ := hothers
  have hpath := (Bool.and_eq_true_iff.mp h.path).2
  simp only [List.mem_append, List.mem_cons, not_or]
  exact ⟨hdelim.not_mem_of_isScheme h.scheme, hcolon, hslash, hslash,
    h.not_mem_authority hdelim hat,
    not_mem_of_isEncoded hpath hclass (hdelim.ne (by decide)) hdelim.isHex⟩

end Parts.Valid

/-- Valid parts are those of their text. -/
theorem parse_text {p : Parts} (hvalid : p.valid = true) : parse p.text = some p := by
  have h := Parts.valid_iff.mp hvalid
  have hquery : '#' ∉ tail '?' p.query := by
    cases hq : p.query with
    | none => exact List.not_mem_nil
    | some q =>
        rw [tail, List.mem_cons, not_or]
        exact ⟨by decide, not_mem_of_isEncoded (h.query q hq) (by decide) (by decide) (by decide)⟩
  have hfragment : cut '#' p.text =
      ((p.scheme ++ ':' :: '/' :: '/' :: (p.authority ++ p.path)) ++ tail '?' p.query,
        p.fragment) := by
    refine cut_eq_iff.mpr ⟨?_, rfl⟩
    rw [List.mem_append, not_or]
    exact ⟨h.not_mem_beforeQuery (Or.inl rfl), hquery⟩
  have hbefore : cut '?' ((p.scheme ++ ':' :: '/' :: '/' :: (p.authority ++ p.path)) ++
      tail '?' p.query) =
        (p.scheme ++ ':' :: '/' :: '/' :: (p.authority ++ p.path), p.query) :=
    cut_eq_iff.mpr ⟨h.not_mem_beforeQuery (Or.inr rfl), rfl⟩
  have hscheme : cut ':' (p.scheme ++ ':' :: '/' :: '/' :: (p.authority ++ p.path)) =
      (p.scheme, some ('/' :: '/' :: (p.authority ++ p.path))) :=
    cut_eq_iff.mpr ⟨not_mem_of_isScheme (by decide) (by decide) h.scheme, rfl⟩
  obtain ⟨hauthority, hpath⟩ := h.takeWhile_authority
  unfold parse
  dsimp only
  rw [hfragment]
  dsimp only
  rw [hbefore]
  dsimp only
  rw [hscheme]
  show ofHierPart p.scheme (p.authority ++ p.path) p.query p.fragment = some p
  unfold ofHierPart
  dsimp only
  rw [hauthority, hpath, h.splitUserinfo_authority]
  dsimp only
  rw [splitPort_of_isHost h.host]
  exact if_pos hvalid

/-- **A URI is the text of its parts**, each of its characters. -/
theorem parse_eq_some_iff {s : List Char} {p : Parts} :
    parse s = some p ↔ s = p.text ∧ p.valid = true := by
  constructor
  · exact text_of_parse
  · rintro ⟨rfl, h⟩
    exact parse_text h

/-! ## §5. Queries. -/

/-- The key and the value of a pair `key=value`, decoded. -/
def pairOf (kv : List Char) : Option (List UInt8 × List UInt8) :=
  (cut '=' kv).2.map fun value => (pctDecode (cut '=' kv).1, pctDecode value)

/-- The pairs of a query `key=value&key=value`. -/
def params (q : List Char) : List (List UInt8 × List UInt8) := (q.splitOn '&').filterMap pairOf

/-- The first value of a key. -/
def param (key q : List Char) : Option (List UInt8) := (params q).lookup (utf8 key)

/-- The pairs of a query are encoded, and each is shorter than it unless there is one only. -/
theorem mem_splitOn_of_isEncoded {p : Char → Bool} (hp : IsClass p) {q kv : List Char}
    (h : isEncoded p q = true) (hkv : kv ∈ q.splitOn '&') :
    isEncoded p kv = true ∧ '&' ∉ kv ∧ kv.length ≤ q.length ∧ (q.length ≤ kv.length → kv = q) := by
  induction hlen : q.length using Nat.strong_induction_on generalizing q with
  | _ n ih =>
      obtain ⟨hnot, hq⟩ := cut_spec '&' q
      cases hrest : (cut '&' q).2 with
      | none =>
          rw [hrest, tail, List.append_nil] at hq
          rw [← hq] at hnot
          rw [List.splitOn_eq_singleton hnot, List.mem_singleton] at hkv
          subst hkv
          exact ⟨h, hnot, hlen.le, fun _ => rfl⟩
      | some rest =>
          rw [hrest, tail] at hq
          rw [hq] at h
          obtain ⟨hfirst, hlater⟩ := isEncoded_append_cons hp (by decide) (by decide) h
          have hsum := congrArg List.length hq
          rw [List.length_append, List.length_cons] at hsum
          rw [hq, List.splitOn_append_cons_self_of_not_mem hnot, List.mem_cons] at hkv
          rcases hkv with rfl | hkv
          · exact ⟨hfirst, hnot, by omega, fun hle => by omega⟩
          · obtain ⟨henc, hamp, hle, -⟩ := ih rest.length (by omega) hlater hkv rfl
            exact ⟨henc, hamp, by omega, fun hle' => by omega⟩

/-- A pair is at least as long as its key and its value, and is them if it is no longer. -/
theorem pairOf_eq_some {p : Char → Bool} (hp : IsClass p) {kv key v : List Char}
    (h : isEncoded p kv = true) (hkv : pairOf kv = some (utf8 key, utf8 v)) :
    key.length + 1 + v.length ≤ kv.length ∧
      (kv.length ≤ key.length + 1 + v.length → kv = key ++ '=' :: v ∧ '%' ∉ v) := by
  obtain ⟨value, hvalue, hpair⟩ := Option.map_eq_some_iff.mp hkv
  injection hpair with hkey hval
  obtain ⟨-, htext⟩ := cut_spec '=' kv
  rw [hvalue, tail] at htext
  rw [htext] at h
  obtain ⟨hfirst, hsecond⟩ := isEncoded_append_cons hp (by decide) (by decide) h
  have hkeyLe := length_le_of_pctDecode hp hfirst hkey
  have hvalLe := length_le_of_pctDecode hp hsecond hval
  have hsum := congrArg List.length htext
  rw [List.length_append, List.length_cons] at hsum
  refine ⟨by omega, fun hle => ?_⟩
  obtain ⟨hkeyEq, -⟩ := eq_of_pctDecode hp hfirst hkey (by omega)
  obtain ⟨hvalEq, hpct⟩ := eq_of_pctDecode hp hsecond hval (by omega)
  rw [htext, hkeyEq, hvalEq]
  exact ⟨rfl, hvalEq ▸ hpct⟩

/-- **A query with a value of a key** is at least as long as the pair, and is the pair if it
is no longer. -/
theorem param_eq_some {p : Char → Bool} (hp : IsClass p) {key q v : List Char}
    (h : isEncoded p q = true) (hv : param key q = some (utf8 v)) :
    key.length + 1 + v.length ≤ q.length ∧
      (q.length ≤ key.length + 1 + v.length → q = key ++ '=' :: v ∧ '%' ∉ v ∧ '&' ∉ v) := by
  have hmem : (utf8 key, utf8 v) ∈ params q := by
    obtain ⟨l, r, hparams, -⟩ := List.lookup_eq_some_iff.mp hv
    rw [hparams]
    exact List.mem_append_right l List.mem_cons_self
  obtain ⟨kv, hkv, hpair⟩ := List.mem_filterMap.mp hmem
  obtain ⟨henc, hamp, hle, hself⟩ := mem_splitOn_of_isEncoded hp h hkv
  obtain ⟨hlen, heq⟩ := pairOf_eq_some hp henc hpair
  refine ⟨by omega, fun hle' => ?_⟩
  obtain ⟨htext, hpct⟩ := heq (by omega)
  rw [← hself (by omega)]
  refine ⟨htext, hpct, fun hmem => hamp ?_⟩
  rw [htext]
  exact List.mem_append_right key (List.mem_cons_of_mem _ hmem)

/-- A query of one pair, without escapes. -/
theorem param_pair {key v : List Char} (hkey : '%' ∉ key ∧ '&' ∉ key ∧ '=' ∉ key)
    (hv : '%' ∉ v ∧ '&' ∉ v) : param key (key ++ '=' :: v) = some (utf8 v) := by
  have hamp : '&' ∉ key ++ '=' :: v := by
    simp only [List.mem_append, List.mem_cons, not_or]
    exact ⟨hkey.2.1, by decide, hv.2⟩
  have hcut : cut '=' (key ++ '=' :: v) = (key, some v) := cut_eq_iff.mpr ⟨hkey.2.2, rfl⟩
  have hparam : pairOf (key ++ '=' :: v) = some (utf8 key, utf8 v) := by
    rw [pairOf, hcut]
    show some (pctDecode key, pctDecode v) = _
    rw [pctDecode_of_not_mem hkey.1, pctDecode_of_not_mem hv.1]
  rw [param, params, List.splitOn_eq_singleton hamp, List.filterMap_cons_some hparam,
    List.filterMap_nil]
  exact List.lookup_cons_self

end Foundation.URI
