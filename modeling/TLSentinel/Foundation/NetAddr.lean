/-
  Foundation.NetAddr
  ──────────────────
  **IP ADDRESSES AND HOST:PORT TEXTS AS GO'S `net` READS THEM.**

  `ParseIP` tells by the first of `.`, `:` and `%` what kind of address a text is:
  four decimal fields, or hexadecimal groups with at most one `::` and perhaps four
  decimal fields at the end.  Addresses are 16 bytes, those of version 4 behind the
  prefix `::ffff:`; a network is an address with a mask, of 4 or of 16 bytes each.

  Main result:
    * `length_of_parseIP` — an accepted text is an address of 16 bytes.
-/
import Mathlib.Tactic.SplitIfs
import TLSentinel.Foundation.Hex

namespace Foundation.NetAddr

open Hex (isHex hexGroup isHex_of_isDigit)

/-! ## §1. Addresses. -/

/-- The bytes of an address. -/
abbrev IP := List UInt8

/-- The loop over decimal fields; `val` and `digLen` are of the current field. -/
def ipv4Fields : List Char → List UInt8 → Nat → Nat → Option (List UInt8)
  | [], fields, val, _ =>
      if fields.length < 3 then none else some (fields ++ [UInt8.ofNat val])
  | c :: cs, fields, val, digLen =>
      if c.isDigit then
        -- no leading zeros
        if digLen = 1 ∧ val = 0 then none
        else if 255 < val * 10 + (c.toNat - 48) then none
        else ipv4Fields cs fields (val * 10 + (c.toNat - 48)) (digLen + 1)
      else if c = '.' then
        -- a field has a digit, and there are four of them
        if digLen = 0 ∨ cs = [] then none
        else if fields.length = 3 then none
        else ipv4Fields cs (fields ++ [UInt8.ofNat val]) 0 0
      else none

/-- `parseIPv4Fields`. -/
def parseIPv4Fields (s : List Char) : Option (List UInt8) := ipv4Fields s [] 0 0

/-- What the loop over groups ends with: the text left, the bytes, where the `::` stood. -/
abbrev Groups := List Char × List UInt8 × Option Nat

/-- The loop over groups, for so many groups yet. -/
def ipv6Groups : Nat → List Char → List UInt8 → Option Nat → Option Groups
  | 0, s, ip, ellipsis => some (s, ip, ellipsis)
  | n + 1, s, ip, ellipsis =>
      let digits := s.takeWhile isHex
      let rest := s.dropWhile isHex
      if digits = [] ∨ 4 < digits.length then none
      else if rest.head? = some '.' then
        -- four decimal fields end the address
        if ellipsis = none ∧ ip.length ≠ 12 then none
        else if 16 < ip.length + 4 then none
        else
          match parseIPv4Fields s with
          | none => none
          | some fields => some ([], ip ++ fields, ellipsis)
      else
        let group := hexGroup digits
        let ip := ip ++ [UInt8.ofNat (group / 256), UInt8.ofNat (group % 256)]
        match rest with
        | [] => some ([], ip, ellipsis)
        | [_] => none
        | c :: d :: cs =>
            if c ≠ ':' then none
            else if d = ':' then
              if ellipsis.isSome then none
              else if cs = [] then some ([], ip, some ip.length)
              else ipv6Groups n cs ip (some ip.length)
            else ipv6Groups n (d :: cs) ip ellipsis

/-- The `::` is as many zeros as are missing, and at least one group. -/
def expandEllipsis : Groups → Option IP
  | (s, ip, ellipsis) =>
      if s ≠ [] then none
      else if ip.length < 16 then
        match ellipsis with
        | none => none
        | some e => some (ip.take e ++ List.replicate (16 - ip.length) 0 ++ ip.drop e)
      else if ellipsis.isSome then none
      else some ip

/-- `parseIPv6`, for texts without a zone: `ParseIP` takes none with one. -/
def parseIPv6 (s : List Char) : Option IP :=
  if '%' ∈ s then none
  else
    match s with
    | ':' :: ':' :: [] => some (List.replicate 16 0)
    | ':' :: ':' :: cs => (ipv6Groups 8 cs [] (some 0)).bind expandEllipsis
    | s => (ipv6Groups 8 s [] none).bind expandEllipsis

/-- The prefix of addresses of version 4. -/
def v4InV6Prefix : List UInt8 := List.replicate 10 0 ++ [0xff, 0xff]

/-- `net.ParseIP`. -/
def parseIP (s : String) : Option IP :=
  match s.toList.find? fun c => c = '.' || c = ':' || c = '%' with
  | some '.' => (parseIPv4Fields s.toList).map (v4InV6Prefix ++ ·)
  | some ':' => parseIPv6 s.toList
  | _ => none

/-- `IP.To4`. -/
def to4 (ip : IP) : Option (List UInt8) :=
  if ip.length = 4 then some ip
  else if ip.length = 16 ∧ ip.take 12 = v4InV6Prefix then some (ip.drop 12)
  else none

theorem length_of_ipv4Fields {s : List Char} {fields out : List UInt8} {val digLen : Nat}
    (hfields : fields.length ≤ 3) (h : ipv4Fields s fields val digLen = some out) :
    out.length = 4 := by
  induction s generalizing fields val digLen with
  | nil =>
      unfold ipv4Fields at h
      split_ifs at h with hshort
      injection h with h
      rw [← h, List.length_append, List.length_singleton]
      omega
  | cons c cs ih =>
      unfold ipv4Fields at h
      split_ifs at h with hdigit hzero hbig hdot hempty hfour
      · exact ih hfields h
      · apply ih _ h
        rw [List.length_append, List.length_singleton]
        omega

theorem length_of_parseIPv4Fields {s : List Char} {fields : List UInt8}
    (h : parseIPv4Fields s = some fields) : fields.length = 4 := by
  have hnone : ([] : List UInt8).length ≤ 3 := Nat.zero_le 3
  exact length_of_ipv4Fields hnone h

/-- The groups read so far and those that may follow make 16 bytes. -/
theorem length_of_ipv6Groups {n : Nat} {s : List Char} {ip : List UInt8} {ellipsis : Option Nat}
    {out : Groups} (hlen : ip.length + 2 * n = 16) (hpos : ∀ e, ellipsis = some e → e ≤ ip.length)
    (h : ipv6Groups n s ip ellipsis = some out) :
    out.2.1.length ≤ 16 ∧ ∀ e, out.2.2 = some e → e ≤ out.2.1.length := by
  induction n generalizing s ip ellipsis with
  | zero =>
      injection h with h
      subst h
      exact ⟨by dsimp only; omega, hpos⟩
  | succ n ih =>
      have hgroup : ∀ a b : UInt8, (ip ++ [a, b]).length = ip.length + 2 := fun a b => by simp
      unfold ipv6Groups at h
      dsimp only at h
      split at h
      · cases h
      · split at h
        · -- the decimal fields at the end
          split at h
          · cases h
          · split at h
            · cases h
            · next hroom =>
                split at h
                · cases h
                · next fields hfields =>
                    injection h with h
                    subst h
                    have hfour := length_of_parseIPv4Fields hfields
                    have happend : (ip ++ fields).length = ip.length + fields.length :=
                      List.length_append
                    refine ⟨by dsimp only; omega, fun e he => ?_⟩
                    have hle := hpos e he
                    dsimp only
                    omega
        · split at h
          · injection h with h
            subst h
            refine ⟨by dsimp only; rw [hgroup]; omega, fun e he => ?_⟩
            have hle := hpos e he
            dsimp only
            rw [hgroup]
            omega
          · cases h
          · split at h
            · cases h
            · split at h
              · split at h
                · cases h
                · split at h
                  · injection h with h
                    subst h
                    refine ⟨by dsimp only; rw [hgroup]; omega, fun e he => ?_⟩
                    injection he with he
                    exact Nat.le_of_eq he.symm
                  · refine ih (by rw [hgroup]; omega) (fun e he => ?_) h
                    injection he with he
                    exact Nat.le_of_eq he.symm
              · refine ih (by rw [hgroup]; omega) (fun e he => ?_) h
                have hle := hpos e he
                rw [hgroup]
                omega

theorem length_of_expandEllipsis {g : Groups} {ip : IP} (hlen : g.2.1.length ≤ 16)
    (hpos : ∀ e, g.2.2 = some e → e ≤ g.2.1.length) (h : expandEllipsis g = some ip) :
    ip.length = 16 := by
  obtain ⟨s, bytes, ellipsis⟩ := g
  unfold expandEllipsis at h
  dsimp only at h hlen hpos
  split_ifs at h with hs hshort hsome
  · cases he : ellipsis with
    | none => rw [he] at h; cases h
    | some e =>
        rw [he] at h
        injection h with h
        have hle := hpos e he
        rw [← h]
        simp only [List.length_append, List.length_take, List.length_replicate, List.length_drop]
        omega
  · injection h with h
    rw [← h]
    omega

theorem length_of_parseIPv6 {s : List Char} {ip : IP} (h : parseIPv6 s = some ip) :
    ip.length = 16 := by
  unfold parseIPv6 at h
  split_ifs at h with hzone
  split at h
  · injection h with h
    rw [← h]
    rfl
  · obtain ⟨g, hg, hip⟩ := Option.bind_eq_some_iff.mp h
    have hgroups := length_of_ipv6Groups rfl (fun e he => by injection he with he; omega) hg
    exact length_of_expandEllipsis hgroups.1 hgroups.2 hip
  · obtain ⟨g, hg, hip⟩ := Option.bind_eq_some_iff.mp h
    have hgroups := length_of_ipv6Groups rfl (fun e he => by cases he) hg
    exact length_of_expandEllipsis hgroups.1 hgroups.2 hip

/-- **An accepted text is an address of 16 bytes.** -/
theorem length_of_parseIP {s : String} {ip : IP} (h : parseIP s = some ip) : ip.length = 16 := by
  unfold parseIP at h
  split at h
  · obtain ⟨fields, hfields, hip⟩ := Option.map_eq_some_iff.mp h
    have hfour := length_of_parseIPv4Fields hfields
    rw [← hip, List.length_append, hfour]
    rfl
  · exact length_of_parseIPv6 h
  · cases h

/-! ## §2. The alphabet of an address. -/

/-- A character of an address. -/
def isAddrChar (c : Char) : Bool := isHex c || c = '.' || c = ':'

theorem mem_of_ipv4Fields {s : List Char} {fields out : List UInt8} {val digLen : Nat}
    (h : ipv4Fields s fields val digLen = some out) : ∀ c ∈ s, c.isDigit = true ∨ c = '.' := by
  induction s generalizing fields val digLen with
  | nil => exact fun c hc => absurd hc List.not_mem_nil
  | cons d cs ih =>
      unfold ipv4Fields at h
      split_ifs at h with hdigit hzero hbig hdot hempty hfour
      · exact List.forall_mem_cons.mpr ⟨Or.inl hdigit, ih h⟩
      · exact List.forall_mem_cons.mpr ⟨Or.inr hdot, ih h⟩

theorem isAddrChar_of_parseIPv4Fields {s : List Char} {fields : List UInt8}
    (h : parseIPv4Fields s = some fields) : ∀ c ∈ s, isAddrChar c = true := by
  intro c hc
  rcases mem_of_ipv4Fields h c hc with hdigit | rfl
  · simp [isAddrChar, isHex_of_isDigit hdigit]
  · rfl

/-- What the groups leave is all that they do not check. -/
theorem isAddrChar_of_ipv6Groups {n : Nat} {s : List Char} {ip : List UInt8}
    {ellipsis : Option Nat} {out : Groups} (h : ipv6Groups n s ip ellipsis = some out) :
    ∀ c ∈ s, isAddrChar c = true ∨ c ∈ out.1 := by
  induction n generalizing s ip ellipsis with
  | zero =>
      injection h with h
      subst h
      exact fun c hc => Or.inr hc
  | succ n ih =>
      have hdigits : ∀ c ∈ s.takeWhile isHex, isAddrChar c = true ∨ c ∈ out.1 := by
        intro c hc
        have hhex := List.all_eq_true.mp List.all_takeWhile c hc
        exact Or.inl (by simp [isAddrChar, hhex])
      have hcolon : isAddrChar ':' = true ∨ ':' ∈ out.1 := Or.inl rfl
      rw [← List.takeWhile_append_dropWhile (p := isHex) (l := s)]
      refine List.forall_mem_append.mpr ⟨hdigits, ?_⟩
      unfold ipv6Groups at h
      dsimp only at h
      split at h
      · cases h
      · split at h
        · -- the decimal fields at the end
          split at h
          · cases h
          · split at h
            · cases h
            · split at h
              · cases h
              · next fields hfields =>
                  intro c hc
                  have hmem := List.dropWhile_subset isHex hc
                  exact Or.inl (isAddrChar_of_parseIPv4Fields hfields c hmem)
        · split at h
          · next hrest =>
              rw [hrest]
              exact fun c hc => absurd hc List.not_mem_nil
          · cases h
          · next c d cs hrest =>
              rw [hrest]
              split_ifs at h with hc hd hsome hend
              · rw [not_not] at hc
                subst hc hd hend
                exact List.forall_mem_cons.mpr ⟨hcolon, List.forall_mem_singleton.mpr hcolon⟩
              · rw [not_not] at hc
                subst hc hd
                exact List.forall_mem_cons.mpr ⟨hcolon, List.forall_mem_cons.mpr ⟨hcolon, ih h⟩⟩
              · rw [not_not] at hc
                subst hc
                exact List.forall_mem_cons.mpr ⟨hcolon, ih h⟩

theorem isAddrChar_of_groups {s : List Char} {ip : List UInt8} {ellipsis : Option Nat} {out : IP}
    (h : (ipv6Groups 8 s ip ellipsis).bind expandEllipsis = some out) :
    ∀ c ∈ s, isAddrChar c = true := by
  obtain ⟨⟨rest, bytes, ellipsis'⟩, hgroups, hexpand⟩ := Option.bind_eq_some_iff.mp h
  have hrest : rest = [] := by
    by_contra hne
    unfold expandEllipsis at hexpand
    dsimp only at hexpand
    rw [if_pos hne] at hexpand
    cases hexpand
  intro c hc
  rcases isAddrChar_of_ipv6Groups hgroups c hc with haddr | hleft
  · exact haddr
  · rw [hrest] at hleft
    exact absurd hleft List.not_mem_nil

theorem isAddrChar_of_parseIPv6 {s : List Char} {ip : IP} (h : parseIPv6 s = some ip) :
    ∀ c ∈ s, isAddrChar c = true := by
  unfold parseIPv6 at h
  have hcolon : isAddrChar ':' = true := rfl
  split_ifs at h with hzone
  split at h
  · exact List.forall_mem_cons.mpr ⟨hcolon, List.forall_mem_singleton.mpr hcolon⟩
  · exact List.forall_mem_cons.mpr ⟨hcolon,
      List.forall_mem_cons.mpr ⟨hcolon, isAddrChar_of_groups h⟩⟩
  · exact isAddrChar_of_groups h

/-- **The alphabet of an address**: hexadecimal digits, dots and colons. -/
theorem isAddrChar_of_parseIP {s : String} {ip : IP} (h : parseIP s = some ip) :
    ∀ c ∈ s.toList, isAddrChar c = true := by
  unfold parseIP at h
  split at h
  · obtain ⟨fields, hfields, -⟩ := Option.map_eq_some_iff.mp h
    exact isAddrChar_of_parseIPv4Fields hfields
  · exact isAddrChar_of_parseIPv6 h
  · cases h

/-! ## §3. Networks. -/

/-- `net.IPNet`. -/
structure IPNet where
  ip : IP
  mask : List UInt8
  deriving DecidableEq, Repr

/-- `networkNumberAndMask`. -/
def networkNumberAndMask (n : IPNet) : Option (List UInt8 × List UInt8) :=
  let ip := (to4 n.ip).getD n.ip
  if ip.length ≠ 4 ∧ ip.length ≠ 16 then none
  else if n.mask.length = 4 then
    if ip.length ≠ 4 then none else some (ip, n.mask)
  else if n.mask.length = 16 then
    if ip.length = 4 then some (ip, n.mask.drop 12) else some (ip, n.mask)
  else none

/-- `IPNet.Contains`. -/
def IPNet.contains (n : IPNet) (ip : IP) : Bool :=
  let ip := (to4 ip).getD ip
  match networkNumberAndMask n with
  | none => decide (ip.length = 0)
  | some (nn, m) =>
      decide (ip.length = nn.length) &&
        decide (List.zipWith (· &&& ·) nn m = List.zipWith (· &&& ·) ip m)

/-- The loop of `dtoi`: the number so far, and how many digits it has. -/
def dtoiLoop : List Char → Nat → Nat → Option (Nat × Nat)
  | [], n, i => if i = 0 then none else some (n, i)
  | c :: cs, n, i =>
      if c.isDigit then
        if 0xFFFFFF ≤ n * 10 + (c.toNat - 48) then none
        else dtoiLoop cs (n * 10 + (c.toNat - 48)) (i + 1)
      else if i = 0 then none
      else some (n, i)

/-- `dtoi`: the number that a text starts with, and its length. -/
def dtoi (s : List Char) : Option (Nat × Nat) := dtoiLoop s 0 0

/-- `CIDRMask`: so many bytes, of which so many bits are ones. -/
def cidrMask : Nat → Nat → List UInt8
  | 0, _ => []
  | l + 1, ones =>
      if 8 ≤ ones then 0xff :: cidrMask l (ones - 8)
      else ~~~((0xff : UInt8) >>> UInt8.ofNat ones) :: cidrMask l 0

/-- `IP.Mask`, for an address of 16 bytes: a mask of 4 bytes is for its last 4. -/
def IP.mask (ip : IP) (m : List UInt8) : IP :=
  List.zipWith (· &&& ·) (if m.length = 4 then ip.drop 12 else ip) m

/-- `net.ParseCIDR`. -/
def parseCIDR (s : String) : Option (IP × IPNet) :=
  match s.toList.dropWhile (· ≠ '/') with
  | [] => none
  | _ :: mask =>
      let addr := s.toList.takeWhile (· ≠ '/')
      match parseIP (String.ofList addr) with
      | none => none
      | some ip =>
          -- a text of version 6 has the mask of one, wherever it points to
          let len := if addr.find? (fun c => c = '.' || c = ':') = some '.' then 4 else 16
          match dtoi mask with
          | none => none
          | some (n, i) =>
              if i ≠ mask.length ∨ len * 8 < n then none
              else some (ip, ⟨ip.mask (cidrMask len n), cidrMask len n⟩)

/-! ## §4. Host and port. -/

/-- `net.SplitHostPort`; `none` is any of its errors. -/
def splitHostPort (hostport : List Char) : Option (List Char × List Char) :=
  -- the port starts after the last colon
  let port := (hostport.reverse.takeWhile (· ≠ ':')).reverse
  let i := hostport.length - port.length - 1
  if ':' ∉ hostport then none
  else if hostport.head? = some '[' then
    let e := hostport.idxOf ']'
    if ']' ∉ hostport then none
    else if e + 1 ≠ i then none
    else if '[' ∈ hostport.drop 1 then none
    else if ']' ∈ hostport.drop (e + 1) then none
    else some ((hostport.take e).drop 1, port)
  else if ':' ∈ hostport.take i then none
  else if '[' ∈ hostport then none
  else if ']' ∈ hostport then none
  else some (hostport.take i, port)

end Foundation.NetAddr
