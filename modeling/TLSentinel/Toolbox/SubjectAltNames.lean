/-
  TLSentinel.Toolbox.SubjectAltNames
  ──────────────────────────────────
  **WHAT THE CSR PAGE TAKES FOR AN ADDRESS OR A HOST NAME.**

  `classifySAN` trims a value and asks `isValidIP` first.  `isValidIPv6` counts: at most
  one `::`, at most eight pieces between colons, pieces of at most four digits.  So it
  takes `1:2` and `:1` for addresses, refuses a `::` at either end of seven groups, and
  refuses every address with a dotted tail.

  Main result: `classifySAN_iff` — for which values the answer is right.
-/
import TLSentinel.Endpoints.CSVImport
import TLSentinel.Foundation.AddressText
import TLSentinel.Foundation.Hex

namespace TLSentinel.Toolbox.SubjectAltNames

open Foundation
open Foundation.AddressText
open Foundation.Hex (isHex)
open Foundation.NetAddr (decimalValue)
open Foundation.Pieces
open TLSentinel.Endpoints.CSVImport (jsSpace trim)

/-! ## §1. Validation. -/

/-- `length` of a string of ECMAScript: its code units. -/
def jsLength (s : List Char) : Nat := (s.map fun c => if c.toNat < 0x10000 then 1 else 2).sum

/-- `/[a-zA-Z0-9]/`. -/
def isAlnum (c : Char) : Bool := c.isAlphanum

/-- `HOSTNAME_LABEL`. -/
def hostnameLabel (label : List Char) : Bool :=
  label.head?.any isAlnum && label.getLast?.any isAlnum &&
    label.all fun c => isAlnum c || c = '-'

/-- `isValidHostname`. -/
def isValidHostname (s : List Char) (allowWildcard : Bool) : Bool :=
  if s = [] ∨ 253 < jsLength s then false
  else
    (s.splitOn '.').zipIdx.all fun (label, i) =>
      if label = [] ∨ 63 < jsLength label then false
      else if allowWildcard = true ∧ i = 0 ∧ label = ['*'] then true
      else hostnameLabel label

/-- `/\d{1,3}/`. -/
def isField (n : List Char) : Bool :=
  decide (1 ≤ n.length) && decide (n.length ≤ 3) && n.all Char.isDigit

/-- `isValidIPv4`: the fields of the expression are what stands between the dots. -/
def isValidIPv4 (s : List Char) : Bool :=
  let m := s.splitOn '.'
  decide (m.length = 4) && m.all isField && m.all fun n => decide (decimalValue n ≤ 255)

/-- `isValidIPv6`. -/
def isValidIPv6 (s : List Char) : Bool :=
  if ':' ∉ s ∨ s.all (fun c => isHex c || c = ':') = false then false
  else if 1 < doubles ':' s then false
  else
    let groups := s.splitOn ':'
    if 8 < groups.length then false
    else groups.all fun g => g = [] || (decide (jsLength g ≤ 4) && g.all isHex)

/-- `isValidIP`. -/
def isValidIP (s : List Char) : Bool := isValidIPv4 s || isValidIPv6 s

/-- `isValidEmail`: one at sign, no white space, and a dot inside what follows the sign. -/
def isValidEmail (s : List Char) : Bool :=
  match s.splitOn '@' with
  | [name, domain] =>
      decide (name ≠ []) && !name.any jsSpace && !domain.any jsSpace &&
        decide ('.' ∈ domain.tail.dropLast)
  | _ => false

/-- `SANType`. -/
inductive SANType where
  | dns
  | ip
  | email
  deriving DecidableEq, Repr

/-- `classifySAN`. -/
def classifySAN (value : String) : Option SANType :=
  let v := trim value.toList
  if v = [] then none
  else if isValidIP v then some .ip
  else if '@' ∈ v then (if isValidEmail v then some .email else none)
  else if isValidHostname v true then some .dns
  else none

example : classifySAN " *.example.com " = some .dns := by decide +kernel

/-! ## §2. What the answers should be. -/

/-- A label: letters, digits and hyphens, none of these at either end. -/
structure IsLabel (label : List Char) : Prop where
  ne_nil : label ≠ []
  short : label.length ≤ 63
  chars : ∀ c ∈ label, isAlnum c = true ∨ c = '-'
  head : ∀ c ∈ label.head?, isAlnum c = true
  last : ∀ c ∈ label.getLast?, isAlnum c = true

/-- A host name: labels, where the left-most may be a wildcard. -/
def IsHostname (s : List Char) : Prop :=
  s.length ≤ 253 ∧ ∃ first rest, s = ['.'].intercalate (first :: rest) ∧
    (first = ['*'] ∨ IsLabel first) ∧ ∀ label ∈ rest, IsLabel label

/-- A value is classified as the grammars say: as an address exactly if it is one, and as a
host name only if it is one and no address. -/
def Classified (zeros : Bool) (value : String) : Prop :=
  (classifySAN value = some .ip ↔ IsIP zeros (trim value.toList)) ∧
    (classifySAN value = some .dns →
      IsHostname (trim value.toList) ∧ ¬IsIP zeros (trim value.toList))

/-- The texts that are taken for what they are not. -/
inductive Misread (zeros : Bool) (s : List Char) : Prop where
  /-- An address of version 6 with a dotted tail. -/
  | dotted (h : IsIPv6 zeros s) (hdot : '.' ∈ s)
  /-- Seven groups with a `::` before or after them. -/
  | seven {gs : List (List Char)} (hlen : gs.length = 7) (hgs : ∀ g ∈ gs, IsGroup g)
      (h : s = ':' :: ':' :: [':'].intercalate gs ∨ s = [':'].intercalate gs ++ [':', ':'])
  /-- From two to seven groups with single colons between them. -/
  | few {gs : List (List Char)} (hlo : 2 ≤ gs.length) (hhi : gs.length ≤ 7)
      (hgs : ∀ g ∈ gs, IsGroup g) (h : s = [':'].intercalate gs)
  /-- At most eight pieces, empty or groups, and at most one `::`, but a colon alone at
  either end or three in a row. -/
  | stray (hlen : (s.splitOn ':').length ≤ 8) (hgs : ∀ p ∈ s.splitOn ':', p = [] ∨ IsGroup p)
      (hdoubles : doubles ':' s ≤ 1)
      (h : StartsAlone ':' s ∨ EndsAlone ':' s ∨ [':', ':', ':'] <:+: s)
  /-- Four decimal fields, one of them with a leading zero, where none may have one. -/
  | leadingZero (h : IsIPv4 true s) (hzeros : ¬IsIPv4 zeros s)

/-! ## §3. Lengths, fields and groups. -/

variable {zeros : Bool} {s : List Char}

theorem length_le_jsLength (s : List Char) : s.length ≤ jsLength s := by
  induction s with
  | nil => exact Nat.le_refl _
  | cons c s ih =>
      unfold jsLength at ih ⊢
      rw [List.length_cons, List.map_cons, List.sum_cons]
      split
      · omega
      · omega

theorem jsLength_of_isHex (h : ∀ c ∈ s, isHex c = true) : jsLength s = s.length := by
  induction s with
  | nil => rfl
  | cons c s ih =>
      obtain ⟨hc, hs⟩ := List.forall_mem_cons.mp h
      have hsmall : c.toNat < 0x10000 := by
        have hrange := Hex.isHex_iff.mp hc
        omega
      have hrest := ih hs
      unfold jsLength at hrest ⊢
      rw [List.length_cons, List.map_cons, List.sum_cons, if_pos hsmall, hrest]
      omega

theorem isOctet_iff {n : List Char} :
    isField n = true ∧ decimalValue n ≤ 255 ↔ IsOctet true n := by
  unfold isField
  simp only [Bool.and_eq_true, decide_eq_true_eq, List.all_eq_true]
  constructor
  · rintro ⟨⟨⟨hpos, hshort⟩, hdigits⟩, hvalue⟩
    exact ⟨List.ne_nil_of_length_pos hpos, hshort, hdigits, hvalue, Or.inl rfl⟩
  · intro h
    exact ⟨⟨⟨List.length_pos_of_ne_nil h.ne_nil, h.short⟩, h.digits⟩, h.value⟩

/-- **`isValidIPv4`** takes the addresses of version 4, leading zeros or not. -/
theorem isValidIPv4_iff : isValidIPv4 s = true ↔ IsIPv4 true s := by
  unfold isValidIPv4 IsIPv4
  simp only [Bool.and_eq_true, decide_eq_true_eq, List.all_eq_true]
  constructor
  · rintro ⟨⟨hlen, hfields⟩, hvalues⟩
    exact ⟨s.splitOn '.', hlen, fun d hd => isOctet_iff.mp ⟨hfields d hd, hvalues d hd⟩,
      (List.intercalate_splitOn '.').symm⟩
  · rintro ⟨ds, hlen, hds, rfl⟩
    have hdot : ∀ d ∈ ds, '.' ∉ d := fun d hd hmem =>
      absurd ((hds d hd).digits '.' hmem) (by decide)
    rw [List.splitOn_intercalate '.' hdot (List.ne_nil_of_length_pos (by omega))]
    exact ⟨⟨hlen, fun d hd => (isOctet_iff.mpr (hds d hd)).1⟩,
      fun d hd => (isOctet_iff.mpr (hds d hd)).2⟩

theorem isGroup_iff {g : List Char} :
    (g = [] || (decide (jsLength g ≤ 4) && g.all isHex)) = true ↔ g = [] ∨ IsGroup g := by
  simp only [Bool.or_eq_true, Bool.and_eq_true, decide_eq_true_eq, List.all_eq_true]
  constructor
  · rintro (hnil | ⟨hshort, hhex⟩)
    · exact Or.inl hnil
    · by_cases hnil : g = []
      · exact Or.inl hnil
      · rw [jsLength_of_isHex hhex] at hshort
        exact Or.inr ⟨hnil, hshort, hhex⟩
  · rintro (hnil | h)
    · exact Or.inl hnil
    · refine Or.inr ⟨?_, h.hex⟩
      rw [jsLength_of_isHex h.hex]
      exact h.short

/-- What `isValidIPv6` asks of a text. -/
structure Passes (s : List Char) : Prop where
  colon : ':' ∈ s
  once : doubles ':' s ≤ 1
  few : (s.splitOn ':').length ≤ 8
  groups : ∀ p ∈ s.splitOn ':', p = [] ∨ IsGroup p

/-- A text with such pieces has digits and colons only. -/
theorem chars_of_groups (h : ∀ p ∈ s.splitOn ':', p = [] ∨ IsGroup p) :
    ∀ c ∈ s, isHex c = true ∨ c = ':' := by
  intro c hc
  have hself : [':'].intercalate (s.splitOn ':') = s := List.intercalate_splitOn ':'
  rw [← hself] at hc
  rcases mem_intercalate hc with hcolon | ⟨p, hp, hmem⟩
  · exact Or.inr hcolon
  · rcases h p hp with rfl | hg
    · exact absurd hmem List.not_mem_nil
    · exact Or.inl (hg.hex c hmem)

theorem isValidIPv6_iff : isValidIPv6 s = true ↔ Passes s := by
  unfold isValidIPv6
  dsimp only
  constructor
  · intro h
    split at h
    · cases h
    · next hchars =>
        rw [not_or, not_not] at hchars
        split at h
        · cases h
        · next honce =>
            split at h
            · cases h
            · next hfew =>
                exact ⟨hchars.1, by omega, by omega,
                  fun p hp => isGroup_iff.mp (List.all_eq_true.mp h p hp)⟩
  · intro h
    have hall : s.all (fun c => isHex c || c = ':') = true := by
      refine List.all_eq_true.mpr fun c hc => ?_
      rw [Bool.or_eq_true, decide_eq_true_eq]
      exact chars_of_groups h.groups c hc
    have hchars : ¬(':' ∉ s ∨ s.all (fun c => isHex c || c = ':') = false) := by
      rw [not_or, not_not, hall]
      exact ⟨h.colon, Bool.true_eq_false_eq_False⟩
    have honce := h.once
    have hfew := h.few
    rw [if_neg hchars, if_neg (by omega), if_neg (by omega)]
    exact List.all_eq_true.mpr fun p hp => isGroup_iff.mpr (h.groups p hp)

/-! ## §4. Texts that pass and are addresses. -/

/-- The groups of a text whose pieces are groups, or that is empty. -/
theorem exists_groups_of_tight (htight : IsTight ':' s)
    (hgs : ∀ p ∈ s.splitOn ':', p = [] ∨ IsGroup p) :
    ∃ gs, (∀ g ∈ gs, IsGroup g) ∧ s = [':'].intercalate gs ∧
      gs.length ≤ (s.splitOn ':').length := by
  rcases isTight_iff.mp htight with rfl | hne
  · exact ⟨[], fun _ hg => absurd hg List.not_mem_nil, rfl, Nat.zero_le _⟩
  · refine ⟨s.splitOn ':', fun p hp => (hgs p hp).resolve_left ?_,
      (List.intercalate_splitOn ':').symm, Nat.le_refl _⟩
    rintro rfl
    exact hne hp

/-- The pieces of a text around two colons. -/
theorem splitOn_double (a b : List Char) :
    (a ++ ':' :: ':' :: b).splitOn ':' = a.splitOn ':' ++ [] :: b.splitOn ':' := by
  rw [List.splitOn_append_cons_self, splitOn_cons_self]

/-- **A text that passes** is an address in groups, unless it has few groups or a stray
colon. -/
theorem isPlain_of_passes (h : Passes s) (hmisread : ¬Misread zeros s) : IsPlain s := by
  have hstray : ¬StartsAlone ':' s ∧ ¬EndsAlone ':' s ∧ ¬[':', ':', ':'] <:+: s := by
    rw [← not_or, ← not_or]
    exact fun hor => hmisread (.stray h.few h.groups h.once hor)
  by_cases hdouble : [':', ':'] <:+: s
  · obtain ⟨a, b, rfl, hfirst⟩ := exists_first_double hdouble
    have honce := h.once
    rw [doubles_append hfirst] at honce
    have hb : ¬[':', ':'] <:+: b := doubles_eq_zero_iff.mp (by omega)
    obtain ⟨htightA, htightB⟩ := (isTight_around_iff hfirst hb).mp hstray
    have hpieces := h.groups
    have hfew := h.few
    rw [splitOn_double] at hpieces hfew
    obtain ⟨as, has, rfl, hlenA⟩ := exists_groups_of_tight htightA
      fun p hp => hpieces p (List.mem_append_left _ hp)
    obtain ⟨bs, hbs, rfl, hlenB⟩ := exists_groups_of_tight htightB
      fun p hp => hpieces p (List.mem_append_right _ (List.mem_cons_of_mem _ hp))
    rw [List.length_append, List.length_cons] at hfew
    exact Or.inr ⟨as, bs, has, hbs, by omega, rfl⟩
  · have htight : IsTight ':' s := isTight_of_not_double hdouble hstray.1 hstray.2.1
    obtain ⟨gs, hgs, hs, hlen⟩ := exists_groups_of_tight htight h.groups
    have htwo : 2 ≤ gs.length := by
      -- a colon stands between two groups
      by_contra hshort
      have hcolon := h.colon
      rw [hs] at hcolon
      match gs, hgs, hshort with
      | [], _, _ => exact absurd hcolon List.not_mem_nil
      | [g], hgs, _ =>
          rw [List.intercalate_singleton] at hcolon
          exact (hgs g List.mem_cons_self).not_mem (by decide) hcolon
      | g :: g' :: gs, _, hshort => exact hshort (Nat.le_add_left 2 _)
    have hfew := h.few
    by_cases height : gs.length = 8
    · exact Or.inl ⟨gs, height, hgs, hs⟩
    · exact absurd (.few htwo (by omega) hgs hs) hmisread

/-! ## §5. Addresses in groups that pass. -/

/-- The pieces of joined groups. -/
theorem pieces_of_groups {gs : List (List Char)} (hgs : ∀ g ∈ gs, IsGroup g) :
    (∀ p ∈ ([':'].intercalate gs).splitOn ':', p = [] ∨ IsGroup p) ∧
      (([':'].intercalate gs).splitOn ':').length = max 1 gs.length := by
  by_cases hne : gs = []
  · subst hne
    exact ⟨fun p hp => Or.inl (List.mem_singleton.mp hp), rfl⟩
  · rw [IsGroup.splitOn hgs hne]
    have hpos := List.length_pos_of_ne_nil hne
    exact ⟨fun p hp => Or.inr (hgs p hp), by omega⟩

/-- From two to eight groups pass. -/
theorem passes_of_groups {gs : List (List Char)} (hlo : 2 ≤ gs.length) (hhi : gs.length ≤ 8)
    (hgs : ∀ g ∈ gs, IsGroup g) : Passes ([':'].intercalate gs) where
  colon := sep_mem_intercalate hlo
  once := by
    rw [doubles_eq_zero_iff.mpr (IsGroup.tight hgs).single]
    exact Nat.zero_le 1
  few := by
    rw [(pieces_of_groups hgs).2]
    omega
  groups := (pieces_of_groups hgs).1

/-- **An address in groups passes**, unless it is seven groups and a `::`. -/
theorem passes_of_isPlain (h : IsPlain s) (hmisread : ¬Misread zeros s) : Passes s := by
  rcases h with ⟨gs, hlen, hgs, rfl⟩ | ⟨as, bs, has, hbs, hlen, rfl⟩
  · exact passes_of_groups (by omega) (by omega) hgs
  · obtain ⟨hgroupsA, hlenA⟩ := pieces_of_groups has
    obtain ⟨hgroupsB, hlenB⟩ := pieces_of_groups hbs
    have hfew : max 1 as.length + (max 1 bs.length + 1) ≤ 8 := by
      by_contra hmany
      refine hmisread ?_
      by_cases hempty : as.length = 0
      · refine .seven (by omega) hbs (Or.inl ?_)
        rw [List.length_eq_zero_iff.mp hempty]
        rfl
      · have hnone : bs.length = 0 := by omega
        refine .seven (by omega) has (Or.inr ?_)
        rw [List.length_eq_zero_iff.mp hnone]
        rfl
    refine ⟨List.mem_append_right _ List.mem_cons_self, ?_, ?_, ?_⟩
    · rw [doubles_append (IsGroup.tight has).first,
        doubles_eq_zero_iff.mpr (IsGroup.tight hbs).single]
    · rw [splitOn_double, List.length_append, List.length_cons, hlenA, hlenB]
      exact hfew
    · rw [splitOn_double]
      exact List.forall_mem_append.mpr ⟨hgroupsA, List.forall_mem_cons.mpr ⟨Or.inl rfl, hgroupsB⟩⟩

/-! ## §6. The texts that are misread. -/

/-- A text that passes is no address of version 4, and has no dot. -/
theorem Passes.not_mem_dot (h : Passes s) : '.' ∉ s := by
  intro hdot
  rcases chars_of_groups h.groups '.' hdot with hhex | hcolon
  · exact absurd hhex (by decide)
  · exact absurd hcolon (by decide)

/-- Seven groups and a `::` are an address of nine pieces. -/
theorem isPlain_of_seven {gs : List (List Char)} (hlen : gs.length = 7)
    (hgs : ∀ g ∈ gs, IsGroup g)
    (h : s = ':' :: ':' :: [':'].intercalate gs ∨ s = [':'].intercalate gs ++ [':', ':']) :
    IsPlain s ∧ (s.splitOn ':').length = 9 := by
  obtain ⟨-, hpieces⟩ := pieces_of_groups hgs
  rw [hlen] at hpieces
  have hnone : ∀ g ∈ ([] : List (List Char)), IsGroup g := fun g hg => absurd hg List.not_mem_nil
  rcases h with rfl | rfl
  · refine ⟨Or.inr ⟨[], gs, hnone, hgs, by rw [hlen]; exact Nat.le_refl 7, rfl⟩, ?_⟩
    rw [splitOn_cons_self, splitOn_cons_self, List.length_cons, List.length_cons, hpieces]
    rfl
  · refine ⟨Or.inr ⟨gs, [], hgs, hnone, by rw [hlen]; exact Nat.le_refl 7, rfl⟩, ?_⟩
    rw [splitOn_double, List.length_append, hpieces]
    rfl

/-- Fewer than eight groups are no address. -/
theorem not_isPlain_of_few {gs : List (List Char)} (hlo : 2 ≤ gs.length) (hhi : gs.length ≤ 7)
    (hgs : ∀ g ∈ gs, IsGroup g) : ¬IsPlain ([':'].intercalate gs) := by
  rintro (⟨gs', hlen', hgs', heq⟩ | ⟨as, bs, -, -, -, heq⟩)
  · have hpieces := congrArg (List.splitOn ':') heq
    rw [IsGroup.splitOn hgs (List.ne_nil_of_length_pos (by omega)),
      IsGroup.splitOn hgs' (List.ne_nil_of_length_pos (by omega))] at hpieces
    rw [hpieces] at hhi
    omega
  · refine (IsGroup.tight hgs).single ?_
    rw [heq]
    exact ⟨_, _, by rw [List.append_assoc]; rfl⟩

/-- An address has no stray colon. -/
theorem not_stray_of_isPlain (h : IsPlain s) :
    ¬(StartsAlone ':' s ∨ EndsAlone ':' s ∨ [':', ':', ':'] <:+: s) := by
  rcases h with ⟨gs, -, hgs, rfl⟩ | ⟨as, bs, has, hbs, -, rfl⟩
  · have htight := IsGroup.tight hgs
    rintro (hstarts | hends | htriple)
    · exact htight.head hstarts.1
    · exact htight.last hends.1
    · exact htight.single (List.IsInfix.trans ⟨[], [':'], rfl⟩ htriple)
  · have htightA := IsGroup.tight has
    have htightB := IsGroup.tight hbs
    rw [not_or, not_or]
    exact (isTight_around_iff htightA.first htightB.single).mpr ⟨htightA, htightB⟩

/-- What is misread is read as it should not be. -/
theorem Misread.wrong (h : Misread zeros s) : ¬(isValidIP s = true ↔ IsIP zeros s) := by
  have hvalid : isValidIP s = true ↔ IsIPv4 true s ∨ Passes s := by
    rw [isValidIP, Bool.or_eq_true, isValidIPv4_iff, isValidIPv6_iff]
  rw [hvalid]
  intro hiff
  -- what passes is an address in groups, and an address of version 6 passes
  have hplain : Passes s → IsPlain s := by
    intro hpasses
    rcases hiff.mp (Or.inr hpasses) with h4 | h6
    · exact absurd hpasses.colon h4.colon_not_mem
    · exact isPlain_iff.mp ⟨h6, hpasses.not_mem_dot⟩
  have hpasses : IsIPv6 zeros s → Passes s := fun h6 =>
    (hiff.mpr (Or.inr h6)).resolve_left fun h4 => h4.colon_not_mem h6.colon_mem
  cases h with
  | dotted h6 hdot => exact (hpasses h6).not_mem_dot hdot
  | seven hlen hgs hs =>
      obtain ⟨hseven, hpieces⟩ := isPlain_of_seven hlen hgs hs
      have hfew := (hpasses (isPlain_iff.mpr hseven).1).few
      rw [hpieces] at hfew
      exact absurd hfew (by decide)
  | few hlo hhi hgs hs =>
      rw [hs] at hplain
      exact not_isPlain_of_few hlo hhi hgs (hplain (passes_of_groups hlo (by omega) hgs))
  | stray hlen hgs hdoubles hstray =>
      have hcolon : ':' ∈ s := by
        rcases hstray with hstarts | hends | ⟨a, b, rfl⟩
        · exact List.mem_of_mem_head? hstarts.1
        · exact List.mem_of_getLast? hends.1
        · exact List.mem_append_left _ (List.mem_append_right _ List.mem_cons_self)
      exact not_stray_of_isPlain (hplain ⟨hcolon, hdoubles, hlen, hgs⟩) hstray
  | leadingZero h4 hzeros =>
      rcases hiff.mp (Or.inl h4) with h | h6
      · exact hzeros h
      · exact h4.colon_not_mem h6.colon_mem

/-- A field without leading zeros is one where they are let pass. -/
theorem isOctet_true {d : List Char} (h : IsOctet zeros d) : IsOctet true d :=
  { h with zero := Or.inl rfl }

/-- **The texts that are taken for what they are**: all that are not misread. -/
theorem isValidIP_iff_iff : (isValidIP s = true ↔ IsIP zeros s) ↔ ¬Misread zeros s := by
  refine ⟨fun hiff hmisread => hmisread.wrong hiff, fun hmisread => ?_⟩
  rw [isValidIP, Bool.or_eq_true, isValidIPv4_iff, isValidIPv6_iff]
  constructor
  · rintro (h4 | hpasses)
    · by_contra hnot
      exact hmisread (.leadingZero h4 fun h => hnot (Or.inl h))
    · exact Or.inr (isPlain_iff.mpr (isPlain_of_passes hpasses hmisread)).1
  · rintro (⟨ds, hlen, hds, rfl⟩ | h6)
    · exact Or.inl ⟨ds, hlen, fun d hd => isOctet_true (hds d hd), rfl⟩
    · have hdot : '.' ∉ s := fun hdot => hmisread (.dotted h6 hdot)
      exact Or.inr (passes_of_isPlain (isPlain_iff.mp ⟨h6, hdot⟩) hmisread)

/-! ## §7. Host names. -/

theorem isLabel_of_hostnameLabel {label : List Char} (hne : label ≠ [])
    (hshort : jsLength label ≤ 63) (h : hostnameLabel label = true) : IsLabel label := by
  unfold hostnameLabel at h
  rw [Bool.and_eq_true, Bool.and_eq_true] at h
  obtain ⟨⟨hhead, hlast⟩, hchars⟩ := h
  refine ⟨hne, Nat.le_trans (length_le_jsLength label) hshort, fun c hc => ?_, fun c hc => ?_,
    fun c hc => ?_⟩
  · have hchar := List.all_eq_true.mp hchars c hc
    rwa [Bool.or_eq_true, decide_eq_true_eq] at hchar
  · rw [Option.mem_def.mp hc] at hhead
    exact hhead
  · rw [Option.mem_def.mp hc] at hlast
    exact hlast

/-- **`isValidHostname`** takes host names only. -/
theorem isHostname_of_isValidHostname (h : isValidHostname s true = true) : IsHostname s := by
  unfold isValidHostname at h
  split at h
  · cases h
  · next hlong =>
      rw [not_or] at hlong
      have hlabel : ∀ label i, (label, i) ∈ (s.splitOn '.').zipIdx →
          (i = 0 ∧ label = ['*']) ∨ IsLabel label := by
        intro label i hmem
        have hcheck := List.all_eq_true.mp h _ hmem
        dsimp only at hcheck
        split at hcheck
        · cases hcheck
        · next hbad =>
            rw [not_or] at hbad
            split at hcheck
            · next hwild => exact Or.inl hwild.2
            · exact Or.inr (isLabel_of_hostnameLabel hbad.1 (by omega) hcheck)
      obtain ⟨first, rest, hlabels⟩ := List.exists_cons_of_ne_nil (List.splitOn_ne_nil '.' s)
      rw [hlabels, List.zipIdx_cons] at hlabel
      refine ⟨Nat.le_trans (length_le_jsLength s) (by omega), first, rest, ?_, ?_, ?_⟩
      · rw [← hlabels, List.intercalate_splitOn]
      · exact (hlabel first 0 List.mem_cons_self).imp_left And.right
      · intro label hmem
        have hindex : ∃ i, (label, i) ∈ rest.zipIdx (0 + 1) := by
          rw [← List.zipIdx_map_fst (0 + 1) rest] at hmem
          obtain ⟨⟨_, i⟩, hi, rfl⟩ := List.mem_map.mp hmem
          exact ⟨i, hi⟩
        obtain ⟨i, hi⟩ := hindex
        have hpos : 0 + 1 ≤ i := (List.mem_zipIdx hi).1
        refine (hlabel label i (List.mem_cons_of_mem _ hi)).resolve_left ?_
        rintro ⟨hzero, -⟩
        omega

/-- A host name has no colon. -/
theorem IsHostname.colon_not_mem (h : IsHostname s) : ':' ∉ s := by
  obtain ⟨-, first, rest, rfl, hfirst, hrest⟩ := h
  intro hmem
  have hlabel : ∀ label, IsLabel label → ':' ∉ label := by
    intro label h hcolon
    rcases h.chars ':' hcolon with hchar | hchar
    · exact absurd hchar (by decide)
    · exact absurd hchar (by decide)
  rcases mem_intercalate hmem with hdot | ⟨label, hl, hcolon⟩
  · exact absurd hdot (by decide)
  · rcases List.mem_cons.mp hl with rfl | hl
    · rcases hfirst with rfl | hfirst
      · exact absurd hcolon (by decide)
      · exact hlabel _ hfirst hcolon
    · exact hlabel _ (hrest _ hl) hcolon

/-! ## §8. Classification. -/

theorem classifySAN_eq_ip_iff {value : String} :
    classifySAN value = some .ip ↔ isValidIP (trim value.toList) = true := by
  unfold classifySAN
  dsimp only
  split
  · next hempty =>
      rw [hempty]
      have hnone : isValidIP [] = false := by decide +kernel
      rw [hnone]
      exact ⟨fun h => absurd h (by decide), fun h => absurd h (by decide)⟩
  · split
    · next hvalid => exact ⟨fun _ => hvalid, fun _ => rfl⟩
    · next hvalid =>
        refine ⟨fun h => ?_, fun h => absurd h hvalid⟩
        split at h
        · split at h
          · cases h
          · cases h
        · split at h
          · cases h
          · cases h

theorem of_classifySAN_eq_dns {value : String} (h : classifySAN value = some .dns) :
    isValidIP (trim value.toList) = false ∧ isValidHostname (trim value.toList) true = true := by
  unfold classifySAN at h
  dsimp only at h
  split at h
  · cases h
  · split at h
    · cases h
    · next hvalid =>
        split at h
        · split at h
          · cases h
          · cases h
        · split at h
          · next hhost => exact ⟨Bool.not_eq_true _ ▸ hvalid, hhost⟩
          · cases h

/-- **What is taken for a host name** is one, and no address. -/
theorem isHostname_of_dns {value : String} (h : classifySAN value = some .dns) :
    IsHostname (trim value.toList) ∧ ¬IsIP zeros (trim value.toList) := by
  obtain ⟨hvalid, hhost⟩ := of_classifySAN_eq_dns h
  have hname := isHostname_of_isValidHostname hhost
  refine ⟨hname, ?_⟩
  rintro (⟨ds, hlen, hds, heq⟩ | h6)
  · have h4 : isValidIPv4 (trim value.toList) = true :=
      isValidIPv4_iff.mpr ⟨ds, hlen, fun d hd => isOctet_true (hds d hd), heq⟩
    rw [isValidIP, h4] at hvalid
    cases hvalid
  · exact hname.colon_not_mem h6.colon_mem

/-- **For which values the answer is right**, whether or not a decimal field may have leading
zeros: for all whose trimmed text is not misread. -/
theorem classifySAN_iff (zeros : Bool) (value : String) :
    Classified zeros value ↔ ¬Misread zeros (trim value.toList) := by
  rw [← isValidIP_iff_iff, ← classifySAN_eq_ip_iff]
  exact ⟨And.left, fun hip => ⟨hip, isHostname_of_dns⟩⟩

theorem isGroup_of_digit {c : Char} (h : isHex c = true) : IsGroup [c] :=
  ⟨List.cons_ne_nil _ _, Nat.le_add_left 1 3, List.forall_mem_singleton.mpr h⟩

/-- Two groups are no address under either reading. -/
theorem not_classified_twoGroups (zeros : Bool) : ¬Classified zeros "1:2" := by
  intro h
  have htwo : IsIP zeros (trim "1:2".toList) := h.1.mp (by decide +kernel)
  have hgroups : ∀ g ∈ [['1'], ['2']], IsGroup g :=
    List.forall_mem_cons.mpr ⟨isGroup_of_digit (by decide),
      List.forall_mem_singleton.mpr (isGroup_of_digit (by decide))⟩
  rcases htwo with h4 | h6
  · exact h4.colon_not_mem (by decide +kernel)
  · have hplain := isPlain_iff.mp ⟨h6, by decide +kernel⟩
    exact not_isPlain_of_few (by decide) (by decide) hgroups hplain

/-- **Two groups** are taken for an address. -/
theorem classifySAN_twoGroups :
    (¬∀ value, Classified true value) ∧ ¬∀ value, Classified false value :=
  ⟨fun h => not_classified_twoGroups true (h "1:2"),
    fun h => not_classified_twoGroups false (h "1:2")⟩

end TLSentinel.Toolbox.SubjectAltNames
