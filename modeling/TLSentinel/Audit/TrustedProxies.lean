/-
  TLSentinel.Audit.TrustedProxies
  ───────────────────────────────
  **THE NETWORKS OF TLSENTINEL_TRUSTED_PROXY_CIDRS.**

  `ParseTrustedProxies` of `internal/config` makes an entry without a slash a CIDR text:
  it appends `/32` where the address has four bytes and `/128` elsewhere, and parses
  what results.  An address of version 4 that is written as one of version 6 gets the
  `/32` too, and `ParseCIDR` goes by the text: the network is one of version 6 that no
  longer has the address in it.

  Main results:
    * `parseProxy_ok_iff`        — which entries are accepted;
    * `parseTrustedProxies_exact_iff` — when the networks are the ones that are named.
-/
import TLSentinel.Audit.ClientIP
import TLSentinel.Foundation.NetBlocks

namespace TLSentinel.Audit

open Foundation.NetAddr

/-! ## §1. ParseTrustedProxies. -/

/-- The errors, by their texts. -/
inductive ProxyError where
  /-- "TLSENTINEL_TRUSTED_PROXY_CIDRS: %q is not a valid IP or CIDR". -/
  | notIPOrCIDR (raw : String)
  /-- "TLSENTINEL_TRUSTED_PROXY_CIDRS: %q: %w". -/
  | cidr (raw : String)
  deriving DecidableEq, Repr

/-- An entry without a slash is promoted. -/
def promote (raw : String) : Except ProxyError String :=
  if '/' ∈ raw.toList then .ok raw
  else
    match parseIP raw with
    | none => .error (.notIPOrCIDR raw)
    | some ip => .ok (raw ++ if (to4 ip).isSome then "/32" else "/128")

/-- The body of the loop, for an entry that is not blank. -/
def parseProxy (raw : String) : Except ProxyError IPNet :=
  match promote raw with
  | .error e => .error e
  | .ok raw =>
      match parseCIDR raw with
      | none => .error (.cidr raw)
      | some (_, ipnet) => .ok ipnet

/-- The loop of `ParseTrustedProxies`. -/
def proxyLoop : List String → List IPNet → Except ProxyError (List IPNet)
  | [], nets => .ok nets
  | raw :: rest, nets =>
      let raw := trimSpace raw
      if raw = "" then proxyLoop rest nets
      else
        match parseProxy raw with
        | .error e => .error e
        | .ok ipnet => proxyLoop rest (nets ++ [ipnet])

/-- `ParseTrustedProxies`. -/
def parseTrustedProxies (entries : List String) : Except ProxyError (List IPNet) :=
  proxyLoop entries []

/-! ## §2. What the entries name. -/

/-- The entries that are not blank. -/
def nonBlank (entries : List String) : List String :=
  (entries.map trimSpace).filter fun e => e ≠ ""

/-- An entry is an address or a CIDR text. -/
def Valid (e : String) : Prop := (parseIP e).isSome = true ∨ (parseCIDR e).isSome = true

/-- The address is in the block: it has its first bits, and an address of version 4 is in a
block of version 4, or in one of the version 6 that has no others. -/
def InBlock (bytes : List UInt8) (n : Nat) (a : IP) : Prop :=
  if bytes.length = 4 then
    ∃ b, to4 a = some b ∧ num b / 2 ^ (32 - n) = num bytes / 2 ^ (32 - n)
  else num a / 2 ^ (128 - n) = num bytes / 2 ^ (128 - n) ∧ ((to4 a).isSome = true → 96 ≤ n)

/-- The network is the one that the entry names: an address alone, or a block. -/
structure Names (e : String) (net : IPNet) : Prop where
  address : ∀ ip, parseIP e = some ip → ∀ a : IP, a.length = 16 → (net.contains a = true ↔ a = ip)
  block : ∀ bytes n, IsCIDR e.toList bytes n → ∀ a : IP, a.length = 16 →
    (net.contains a = true ↔ InBlock bytes n a)

/-- One network for each entry that is not blank, in order, and an error only where one of them
is neither an address nor a CIDR text. -/
structure ParsesExactly (entries : List String) : Prop where
  fails : (∃ e, parseTrustedProxies entries = .error e) ↔ ∃ e ∈ nonBlank entries, ¬Valid e
  names : ∀ nets, parseTrustedProxies entries = .ok nets →
    List.Forall₂ Names (nonBlank entries) nets

/-- An address of version 4, written as one of version 6. -/
def MappedSpelling (e : String) : Prop :=
  ':' ∈ e.toList ∧ ((parseIP e).bind to4).isSome = true

/-! ## §3. One entry. -/

theorem isAddr_of_parseIP {e : String} {ip : IP} (h : parseIP e = some ip) {c : Char}
    (hc : isAddrChar c = false) : c ∉ e.toList :=
  not_mem_of_parseIP (h.symm ▸ congrArg parseIP (String.ofList_toList (s := e))) hc

theorem parseCIDR_eq_none {e : String} (h : '/' ∉ e.toList) : parseCIDR e = none := by
  unfold parseCIDR
  rw [Foundation.Splits.dropWhile_ne_eq_nil h]

/-- A text without a colon is of an address of version 4. -/
theorem to4_of_dotted {e : String} {ip : IP} (h : parseIP e = some ip) (hcolon : ':' ∉ e.toList) :
    to4 ip = some (ip.drop 12) := by
  unfold parseIP at h
  split at h
  · obtain ⟨fields, hfields, rfl⟩ := Option.map_eq_some_iff.mp h
    have hfour := length_of_parseIPv4Fields hfields
    unfold to4
    rw [if_neg, if_pos]
    · refine ⟨?_, ?_⟩
      · rw [List.length_append, hfour]
        rfl
      · rfl
    · rw [List.length_append, hfour]
      decide
  · next hfind => exact absurd (List.mem_of_find?_eq_some hfind) hcolon
  · cases h

theorem parseCIDR_append {e : String} {ip : IP} (h : parseIP e = some ip) (suffix : String)
    (digits : List Char) (n : Nat) (hsuffix : suffix.toList = '/' :: digits)
    (hdigits : dtoi digits = some (n, digits.length))
    (hfits : n ≤ 8 * (textBytes e.toList ip).length) :
    parseCIDR (e ++ suffix) = some (ip, block (textBytes e.toList ip) n) := by
  have htext : (e ++ suffix).toList = e.toList ++ '/' :: digits := by
    rw [String.toList_append, hsuffix]
  have hip : parseIP (String.ofList e.toList) = some ip := by rwa [String.ofList_toList]
  rw [parseCIDR_of_split htext hip, hdigits]
  dsimp only
  rw [if_neg (by omega)]

/-- What an address is promoted to: a network of its text's bytes. -/
theorem parseProxy_of_address {e : String} {ip : IP} (h : parseIP e = some ip) :
    parseProxy e =
      .ok (block (textBytes e.toList ip) (if (to4 ip).isSome then 32 else 128)) := by
  have hslash : '/' ∉ e.toList := isAddr_of_parseIP h (by decide)
  have hlen := length_textBytes e.toList (length_of_parseIP h)
  unfold parseProxy promote
  rw [if_neg hslash, h]
  dsimp only
  by_cases hv4 : (to4 ip).isSome = true
  · rw [if_pos hv4, if_pos hv4]
    have hfits : 32 ≤ 8 * (textBytes e.toList ip).length := by
      split_ifs at hlen
      · omega
      · omega
    rw [parseCIDR_append h "/32" ['3', '2'] 32 rfl (by decide) hfits]
  · rw [if_neg hv4, if_neg hv4]
    have hcolon : ':' ∈ e.toList := by
      by_contra hno
      rw [to4_of_dotted h hno] at hv4
      exact hv4 rfl
    rw [if_pos hcolon] at hlen
    rw [parseCIDR_append h "/128" ['1', '2', '8'] 128 rfl (by decide) (by omega)]

/-- **Which entries are accepted.** -/
theorem parseProxy_ok_iff (e : String) : (∃ net, parseProxy e = .ok net) ↔ Valid e := by
  unfold Valid
  cases hip : parseIP e with
  | some ip => exact iff_of_true ⟨_, parseProxy_of_address hip⟩ (Or.inl rfl)
  | none =>
      by_cases hslash : '/' ∈ e.toList
      · unfold parseProxy promote
        rw [if_pos hslash]
        dsimp only
        cases hcidr : parseCIDR e with
        | none => simp
        | some r => simp
      · rw [parseCIDR_eq_none hslash]
        unfold parseProxy promote
        rw [if_neg hslash, hip]
        simp

/-- The network of a CIDR text. -/
theorem parseProxy_of_isCIDR {e : String} {bytes : List UInt8} {n : Nat}
    (h : IsCIDR e.toList bytes n) : parseProxy e = .ok (block bytes n) := by
  obtain ⟨ip, hparse⟩ := parseCIDR_iff.mpr ⟨bytes, n, h, rfl⟩
  have hslash : '/' ∈ e.toList := by
    by_contra hno
    rw [parseCIDR_eq_none hno] at hparse
    cases hparse
  unfold parseProxy promote
  rw [if_pos hslash]
  dsimp only
  rw [hparse]

/-- **A CIDR text names its block.** -/
theorem contains_block_iff {e : List Char} {bytes : List UInt8} {n : Nat} (h : IsCIDR e bytes n)
    {a : IP} (ha : a.length = 16) : (block bytes n).contains a = true ↔ InBlock bytes n a := by
  obtain ⟨addr, mask, ip, -, hip, rfl, -⟩ := h.text
  have hlen := length_textBytes addr (length_of_parseIP hip)
  have hfits := h.fits
  unfold InBlock
  split_ifs at hlen with hcolon
  · rw [if_neg (by omega)]
    exact contains_block_of_sixteen hlen (by omega) ha
  · rw [if_pos hlen]
    exact contains_block_of_four hlen (by omega) ha

/-- The network of an address has it alone, unless it is one of version 4 that is written as one
of version 6: then it does not even have that. -/
theorem contains_address_iff {e : String} {ip : IP} (h : parseIP e = some ip) :
    (∀ a : IP, a.length = 16 → ((block (textBytes e.toList ip)
      (if (to4 ip).isSome then 32 else 128)).contains a = true ↔ a = ip)) ↔
        ¬MappedSpelling e := by
  have hip := length_of_parseIP h
  have hlen := length_textBytes e.toList hip
  unfold MappedSpelling
  rw [h, Option.bind_some]
  by_cases hcolon : ':' ∈ e.toList
  · rw [if_pos hcolon] at hlen
    have htext : textBytes e.toList ip = ip := if_pos hcolon
    rw [htext] at hlen ⊢
    by_cases hv4 : (to4 ip).isSome = true
    · rw [if_pos hv4]
      refine iff_of_false (fun hall => ?_) fun hno => hno ⟨hcolon, hv4⟩
      -- the block is of version 6, and has no address of version 4
      have hself := (contains_block_of_sixteen hlen (by decide) hip).mp
        ((hall ip hip).mpr rfl)
      exact absurd (hself.2 hv4) (by decide)
    · rw [if_neg hv4]
      refine iff_of_true (fun a ha => ?_) fun hmapped => hv4 hmapped.2
      rw [contains_block_of_sixteen hlen (by decide) ha, ← num_inj (ha.trans hip.symm)]
      simp
  · rw [if_neg hcolon] at hlen
    have htext : textBytes e.toList ip = ip.drop 12 := if_neg hcolon
    have hto4 := to4_of_dotted h hcolon
    rw [htext] at hlen ⊢
    rw [hto4, Option.isSome_some, if_pos rfl]
    refine iff_of_true (fun a ha => ?_) fun hmapped => hcolon hmapped.1
    rw [contains_block_of_four hlen (by decide) ha]
    constructor
    · rintro ⟨b, hb, hnum⟩
      have hfour : b.length = (ip.drop 12).length := by
        have hb' := hb
        rw [to4_of_length ha] at hb'
        split_ifs at hb'
        injection hb' with hb'
        rw [← hb', List.length_drop, List.length_drop, ha, hip]
      rw [Nat.sub_self, Nat.pow_zero, Nat.div_one, Nat.div_one, num_inj hfour] at hnum
      exact to4_inj ha hip (hnum ▸ hb) hto4
    · rintro rfl
      exact ⟨_, hto4, rfl⟩

/-! ## §4. All entries. -/

/-- The loop parses the entries that are not blank, one after the other. -/
theorem proxyLoop_ok_iff (entries : List String) (nets out : List IPNet) :
    proxyLoop entries nets = .ok out ↔
      ∃ rest, out = nets ++ rest ∧
        List.Forall₂ (fun e net => parseProxy e = .ok net) (nonBlank entries) rest := by
  induction entries generalizing nets with
  | nil =>
      constructor
      · intro h
        injection h with h
        exact ⟨[], by rw [List.append_nil, h], .nil⟩
      · rintro ⟨rest, rfl, hrest⟩
        cases hrest
        rw [List.append_nil]
        rfl
  | cons raw entries ih =>
      unfold proxyLoop nonBlank
      dsimp only
      rw [List.map_cons]
      by_cases hblank : trimSpace raw = ""
      · rw [if_pos hblank, ih, List.filter_cons_of_neg (by simp [hblank])]
        exact Iff.rfl
      · rw [if_neg hblank, List.filter_cons_of_pos (by simp [hblank])]
        cases hparse : parseProxy (trimSpace raw) with
        | error e =>
            refine iff_of_false nofun fun h => ?_
            obtain ⟨rest, -, hrest⟩ := h
            cases hrest with
            | cons hhead _ =>
                rw [hparse] at hhead
                cases hhead
        | ok net =>
            dsimp only
            rw [ih]
            constructor
            · rintro ⟨rest, rfl, hrest⟩
              exact ⟨net :: rest, by rw [List.append_assoc]; rfl, .cons hparse hrest⟩
            · rintro ⟨rest, rfl, hrest⟩
              cases hrest with
              | cons hhead htail =>
                  rw [hparse] at hhead
                  injection hhead with hhead
                  exact ⟨_, by rw [List.append_assoc, hhead]; rfl, htail⟩

theorem exists_parsed_iff (es : List String) :
    (∃ nets, List.Forall₂ (fun e net => parseProxy e = .ok net) es nets) ↔ ∀ e ∈ es, Valid e := by
  induction es with
  | nil => exact iff_of_true ⟨[], .nil⟩ nofun
  | cons e es ih =>
      rw [List.forall_mem_cons, ← parseProxy_ok_iff, ← ih]
      constructor
      · rintro ⟨nets, hnets⟩
        cases hnets with
        | cons hhead htail => exact ⟨⟨_, hhead⟩, _, htail⟩
      · rintro ⟨⟨net, hnet⟩, nets, hnets⟩
        exact ⟨net :: nets, .cons hnet hnets⟩

/-- **When parsing succeeds**: when every entry that is not blank is valid. -/
theorem parseTrustedProxies_ok_iff (entries : List String) :
    (∃ nets, parseTrustedProxies entries = .ok nets) ↔ ∀ e ∈ nonBlank entries, Valid e := by
  rw [← exists_parsed_iff]
  refine exists_congr fun nets => (proxyLoop_ok_iff entries [] nets).trans ?_
  simp

theorem parseTrustedProxies_error_iff (entries : List String) :
    (∃ e, parseTrustedProxies entries = .error e) ↔ ∃ e ∈ nonBlank entries, ¬Valid e := by
  have hok := parseTrustedProxies_ok_iff entries
  cases hparse : parseTrustedProxies entries with
  | error e =>
      rw [hparse] at hok
      refine iff_of_true ⟨e, rfl⟩ ?_
      by_contra hnone
      have hall : ∀ e ∈ nonBlank entries, Valid e := fun e he =>
        Classical.not_not.mp fun hinvalid => hnone ⟨e, he, hinvalid⟩
      obtain ⟨nets, hnets⟩ := hok.mpr hall
      cases hnets
  | ok nets =>
      refine iff_of_false nofun fun ⟨e, he, hinvalid⟩ => hinvalid (hok.mp ⟨nets, hparse⟩ e he)

/-- **The network of an entry** is the one it names, unless it is a mapped spelling. -/
theorem names_iff {e : String} {net : IPNet} (h : parseProxy e = .ok net) :
    Names e net ↔ ¬MappedSpelling e := by
  cases hip : parseIP e with
  | some ip =>
      rw [parseProxy_of_address hip] at h
      injection h with h
      rw [← contains_address_iff hip, h]
      constructor
      · exact fun hnames => hnames.address ip hip
      · intro hall
        refine ⟨fun ip' hip' => ?_, fun bytes n hcidr => ?_⟩
        · rw [hip] at hip'
          injection hip' with hip'
          exact hip' ▸ hall
        · obtain ⟨addr, mask, _, htext, -⟩ := hcidr.text
          have hslash : '/' ∉ e.toList := isAddr_of_parseIP hip (by decide)
          rw [htext] at hslash
          exact absurd (List.mem_append_right addr List.mem_cons_self) hslash
  | none =>
      refine iff_of_true ⟨fun ip hip' => ?_, fun bytes n hcidr a ha => ?_⟩ fun hmapped => ?_
      · rw [hip] at hip'
        cases hip'
      · rw [parseProxy_of_isCIDR hcidr] at h
        injection h with h
        exact h ▸ contains_block_iff hcidr ha
      · have hsome := hmapped.2
        rw [hip] at hsome
        cases hsome

theorem forall₂_names_iff {es : List String} {nets : List IPNet}
    (h : List.Forall₂ (fun e net => parseProxy e = .ok net) es nets) :
    List.Forall₂ Names es nets ↔ ∀ e ∈ es, ¬MappedSpelling e := by
  induction h with
  | nil => exact iff_of_true .nil nofun
  | cons hhead _ ih => rw [List.forall₂_cons, List.forall_mem_cons, names_iff hhead, ih]

/-- The networks of entries that parse are the ones that are named exactly if no entry is a
mapped spelling. -/
theorem names_nets_iff {entries : List String} {nets : List IPNet}
    (h : parseTrustedProxies entries = .ok nets) :
    List.Forall₂ Names (nonBlank entries) nets ↔ ∀ e ∈ nonBlank entries, ¬MappedSpelling e := by
  obtain ⟨rest, hrest, hparsed⟩ := (proxyLoop_ok_iff entries [] nets).mp h
  rw [List.nil_append] at hrest
  subst hrest
  exact forall₂_names_iff hparsed

/-- **The networks are the ones that are named** exactly if parsing fails, or no entry is an
address of version 4 that is written as one of version 6. -/
theorem parseTrustedProxies_exact_iff (entries : List String) :
    ParsesExactly entries ↔
      (∃ e ∈ nonBlank entries, ¬Valid e) ∨ ∀ e ∈ nonBlank entries, ¬MappedSpelling e := by
  constructor
  · intro h
    cases hparse : parseTrustedProxies entries with
    | error e => exact Or.inl (h.fails.mp ⟨e, hparse⟩)
    | ok nets => exact Or.inr ((names_nets_iff hparse).mp (h.names nets hparse))
  · intro h
    refine ⟨parseTrustedProxies_error_iff entries, fun nets hparse => ?_⟩
    refine (names_nets_iff hparse).mpr (h.resolve_left fun hinvalid => ?_)
    obtain ⟨e, he⟩ := (parseTrustedProxies_error_iff entries).mpr hinvalid
    rw [hparse] at he
    cases he

/-- The entry `::ffff:10.0.0.1` makes a network of version 6 without that address. -/
theorem parseTrustedProxies_mapped : ¬∀ entries, ParsesExactly entries := by
  intro h
  have hnames := (h ["::ffff:10.0.0.1"]).names
    [⟨List.replicate 16 0, [0xff, 0xff, 0xff, 0xff] ++ List.replicate 12 0⟩] (by decide)
  cases hnames with
  | cons hhead _ =>
      have hself := (hhead.address (v4InV6Prefix ++ [10, 0, 0, 1]) (by decide) _ rfl).mpr rfl
      exact absurd hself (by decide)

end TLSentinel.Audit
