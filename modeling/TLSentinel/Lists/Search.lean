/-
  TLSentinel.Lists.Search
  ───────────────────────
  **THE UNIVERSAL SEARCH, AND WHAT ITS PATTERNS MATCH.**

  `UniversalSearch` of `internal/db/search_store.go` looks for a text in endpoints,
  certificates and scanners.  A text that `LooksLikeIP` takes for an address is looked
  for at the start of the address columns; every other text between two `%`.

  Nothing escapes the text.  That does no harm to an address, whose alphabet has no
  metacharacter, and makes any other text match what its pattern says.

  Main results:
    * `looksLikeIP_iff`        — what `LooksLikeIP` accepts;
    * `universalSearch_ip`     — an address is searched for by prefix, exactly;
    * `search_contains_iff`    — when a text search finds what contains the text.
-/
import TLSentinel.Lists.Patterns
import TLSentinel.Foundation.NetAddr

namespace TLSentinel.Lists

open Foundation
open Foundation.Hex (isHex)
open Foundation.NetAddr (parseIP isAddrChar isAddrChar_of_parseIP)
open TLSentinel.Endpoints (EndpointSAML)

/-! ## §1. Texts that look like an address. -/

/-- What the loop of `LooksLikeIP` has seen. -/
structure Shape where
  hasDot : Bool
  hasColon : Bool
  hasHex : Bool
  deriving DecidableEq, Repr

/-- A letter among the hexadecimal digits. -/
def isHexLetter (c : Char) : Bool :=
  (decide ('a' ≤ c) && decide (c ≤ 'f')) || (decide ('A' ≤ c) && decide (c ≤ 'F'))

/-- The loop of `LooksLikeIP`; `none` is its `return false`. -/
def shapeLoop : List Char → Shape → Option Shape
  | [], seen => some seen
  | r :: rs, seen =>
      if r = '.' then shapeLoop rs { seen with hasDot := true }
      else if r = ':' then shapeLoop rs { seen with hasColon := true }
      else if r.isDigit then shapeLoop rs seen
      else if isHexLetter r then shapeLoop rs { seen with hasHex := true }
      else none

/-- `len`: how many bytes. -/
def byteLen : List Char → Nat
  | [] => 0
  | c :: cs => c.utf8Size + byteLen cs

/-- `LooksLikeIP`. -/
def looksLikeIP (s : String) : Bool :=
  if byteLen s.toList < 2 then false
  else
    match shapeLoop s.toList ⟨false, false, false⟩ with
    | none => false
    | some seen => if seen.hasColon then true else seen.hasDot && !seen.hasHex

theorem isHex_eq (c : Char) : isHex c = (c.isDigit || isHexLetter c) := by
  simp [isHex, isHexLetter, Bool.or_assoc]

theorem isHexLetter_of_isDigit {c : Char} (h : c.isDigit = true) : isHexLetter c = false := by
  rw [← Bool.not_eq_true, isHexLetter, Bool.or_eq_true, Bool.and_eq_true, Bool.and_eq_true,
    decide_eq_true_eq, decide_eq_true_eq, decide_eq_true_eq, decide_eq_true_eq]
  show ¬(97 ≤ c.toNat ∧ c.toNat ≤ 102 ∨ 65 ≤ c.toNat ∧ c.toNat ≤ 70)
  rw [Char.isDigit_iff_toNat] at h
  have h9 : '9'.toNat = 57 := rfl
  omega

/-- **What the loop answers.** -/
theorem shapeLoop_eq (s : List Char) (seen : Shape) :
    shapeLoop s seen =
      if s.all isAddrChar then
        some ⟨seen.hasDot || s.contains '.', seen.hasColon || s.contains ':',
          seen.hasHex || s.any isHexLetter⟩
      else none := by
  induction s generalizing seen with
  | nil => simp [shapeLoop]
  | cons r rs ih =>
      unfold shapeLoop
      by_cases hdot : r = '.'
      · subst hdot
        rw [if_pos rfl, ih]
        simp [isAddrChar, isHexLetter]
      · rw [if_neg hdot]
        by_cases hcolon : r = ':'
        · subst hcolon
          rw [if_pos rfl, ih]
          simp [isAddrChar, isHexLetter]
        · rw [if_neg hcolon]
          by_cases hdigit : r.isDigit = true
          · rw [if_pos hdigit, ih]
            simp [isAddrChar, isHex_eq, hdigit, isHexLetter_of_isDigit hdigit, Ne.symm hdot,
              Ne.symm hcolon]
          · rw [if_neg hdigit]
            by_cases hhex : isHexLetter r = true
            · rw [if_pos hhex, ih]
              simp [isAddrChar, isHex_eq, hhex, Ne.symm hdot, Ne.symm hcolon]
            · rw [if_neg hhex]
              simp [isAddrChar, isHex_eq, hhex, hdigit, hdot, hcolon]

/-- **What `LooksLikeIP` accepts.** -/
theorem looksLikeIP_iff (s : String) :
    looksLikeIP s = true ↔
      2 ≤ byteLen s.toList ∧ (∀ c ∈ s.toList, isAddrChar c = true) ∧
        (':' ∈ s.toList ∨ '.' ∈ s.toList ∧ ∀ c ∈ s.toList, isHexLetter c = false) := by
  unfold looksLikeIP
  rw [shapeLoop_eq]
  by_cases hlen : byteLen s.toList < 2
  · rw [if_pos hlen]
    exact iff_of_false Bool.false_ne_true fun h => absurd h.1 (by omega)
  · rw [if_neg hlen]
    by_cases hall : s.toList.all isAddrChar = true
    · rw [if_pos hall]
      have hlen' : 2 ≤ byteLen s.toList := by omega
      rw [List.all_eq_true] at hall
      rw [and_iff_right hlen', and_iff_right hall]
      by_cases hcolon : ':' ∈ s.toList
      · simp [hcolon]
      · simp [hcolon]
    · rw [if_neg hall]
      rw [List.all_eq_true] at hall
      exact iff_of_false Bool.false_ne_true fun h => hall h.2.1

theorem two_le_byteLen {c d : Char} {s : List Char} : 2 ≤ byteLen (c :: d :: s) := by
  have hc := c.utf8Size_pos
  have hd := d.utf8Size_pos
  rw [byteLen, byteLen]
  omega

theorem cons_cons_of_mem {c : Char} {s : List Char} (hc : c ∈ s) (hs : s ≠ [c]) :
    ∃ d e t, s = d :: e :: t := by
  match s with
  | [] => exact absurd hc List.not_mem_nil
  | [d] =>
      rw [List.mem_singleton.mp hc] at hs
      exact absurd rfl hs
  | d :: e :: t => exact ⟨d, e, t, rfl⟩

/-- An address has at least two characters. -/
theorem toList_of_parseIP {s : String} {ip : NetAddr.IP} (h : parseIP s = some ip) :
    ∃ c d cs, s.toList = c :: d :: cs := by
  unfold parseIP at h
  split at h
  · next hfind =>
      refine cons_cons_of_mem (List.mem_of_find?_eq_some hfind) fun hs => ?_
      rw [hs] at h
      cases h
  · next hfind =>
      refine cons_cons_of_mem (List.mem_of_find?_eq_some hfind) fun hs => ?_
      rw [hs] at h
      cases h
  · cases h

/-- **Every address looks like one.** -/
theorem looksLikeIP_of_parseIP {s : String} {ip : NetAddr.IP} (h : parseIP s = some ip) :
    looksLikeIP s = true := by
  have halphabet := isAddrChar_of_parseIP h
  obtain ⟨c, d, cs, hs⟩ := toList_of_parseIP h
  refine (looksLikeIP_iff s).mpr ⟨hs ▸ two_le_byteLen, halphabet, ?_⟩
  unfold parseIP at h
  split at h
  · next hfind =>
      obtain ⟨fields, hfields, -⟩ := Option.map_eq_some_iff.mp h
      refine Or.inr ⟨List.mem_of_find?_eq_some hfind, fun c hc => ?_⟩
      rcases NetAddr.mem_of_ipv4Fields hfields c hc with hdigit | rfl
      · exact isHexLetter_of_isDigit hdigit
      · rfl
  · next hfind => exact Or.inl (List.mem_of_find?_eq_some hfind)
  · cases h

/-! ## §2. UniversalSearch. -/

/-- The columns of `tlsentinel.scanners` that are searched. -/
structure Scanner where
  id : String
  name : String
  deriving DecidableEq, Repr

/-- The tables, with the columns that only the search reads. -/
structure SearchDB (T : Text) (Addr : Type) extends DB T Addr where
  /-- The column `last_resolved_ip` of `tlsentinel.endpoint_hosts`. -/
  lastResolvedIP : String → Option String
  saml : Table EndpointSAML.endpointID
  /-- The column `sans` of `tlsentinel.certificates`. -/
  sans : String → List String
  scanners : Table Scanner.id

/-- `endpointRow`. -/
structure EndpointRow where
  id : String
  name : String
  type : String
  dnsName : Option String
  ipAddress : Option String
  lastResolvedIP : Option String
  url : Option String
  deriving DecidableEq, Repr

/-- `models.SearchEndpoint`. -/
structure SearchEndpoint where
  id : String
  name : String
  type : String
  subtitle : String
  deriving DecidableEq, Repr

/-- `models.SearchCertificate`. -/
structure SearchCertificate where
  fingerprint : String
  commonName : String
  notAfter : Int
  deriving DecidableEq, Repr

/-- `models.SearchResults`. -/
structure SearchResults where
  endpoints : List SearchEndpoint
  certificates : List SearchCertificate
  scanners : List Scanner
  deriving DecidableEq, Repr

/-- `column LIKE pattern`, of a column that may be NULL. -/
def likeOpt (pattern : String) : Option String → Bool
  | none => false
  | some column => like pattern.toList column.toList

/-- `column ILIKE search || '%'`. -/
def startsWith (T : Text) (search column : String) : Bool :=
  like (T.lower (search ++ "%")).toList (T.lower column).toList

/-- `pickSubtitle`. -/
def pickSubtitle (q : String) (ipShaped : Bool) (dnsName ipAddress url : Option String) : String :=
  let override := (if ipShaped then ipAddress else none).filter fun v =>
    decide (v = q) || q.toList.isPrefixOf v.toList
  override.getD ((dnsName.filter fun d => d ≠ "").getD (url.getD ""))

variable {T : Text} {Addr : Type}

namespace SearchDB

/-- The row of an endpoint; the joins are LEFT JOINs. -/
def endpointRow (db : SearchDB T Addr) (h : Endpoint) : EndpointRow where
  id := h.id
  name := h.name
  type := h.type
  dnsName := (db.hosts.find? h.id).bind fun eh => eh.dnsName
  ipAddress := (db.hosts.find? h.id).bind fun eh => eh.ipAddress
  lastResolvedIP := (db.hosts.find? h.id).bind fun eh => db.lastResolvedIP eh.endpointID
  url := (db.saml.find? h.id).map fun es => es.url

/-- The WHERE clause of the endpoints. -/
def endpointFound (T : Text) (q : String) (r : EndpointRow) : Bool :=
  let prefixPattern := q ++ "%"
  if looksLikeIP q then
    decide (r.dnsName = some q) || decide (r.ipAddress = some q) ||
      decide (r.lastResolvedIP = some q) || likeOpt prefixPattern r.dnsName ||
      likeOpt prefixPattern r.ipAddress || likeOpt prefixPattern r.lastResolvedIP
  else contains T q r.name || containsOpt T q r.dnsName || containsOpt T q r.url

/-- The WHERE clause of the certificates. -/
def certificateFound (db : SearchDB T Addr) (q : String) (c : Certificate) : Bool :=
  contains T q c.commonName || startsWith T q c.fingerprint ||
    (db.sans c.fingerprint).any fun s => contains T q s

/-- `UniversalSearch`, all matches in storage order. -/
def universalSearch (db : SearchDB T Addr) (q : String) : SearchResults where
  endpoints := ((db.endpoints.rows.map db.endpointRow).filter (endpointFound T q)).map fun r =>
    ⟨r.id, r.name, r.type, pickSubtitle q (looksLikeIP q) r.dnsName r.ipAddress r.url⟩
  certificates := (db.certificates.rows.filter (db.certificateFound q)).map fun c =>
    ⟨c.fingerprint, c.commonName, c.notAfter⟩
  scanners := db.scanners.rows.filter fun sc => contains T q sc.name

/-- An endpoint is listed exactly if its row is found. -/
theorem mem_endpoints_iff (db : SearchDB T Addr) (q id : String) :
    (∃ e ∈ (db.universalSearch q).endpoints, e.id = id) ↔
      ∃ h ∈ db.endpoints, h.id = id ∧ endpointFound T q (db.endpointRow h) = true := by
  constructor
  · rintro ⟨e, he, rfl⟩
    obtain ⟨r, hr, rfl⟩ := List.mem_map.mp he
    obtain ⟨hmem, hfound⟩ := List.mem_filter.mp hr
    obtain ⟨h, hh, rfl⟩ := List.mem_map.mp hmem
    exact ⟨h, hh, rfl, hfound⟩
  · rintro ⟨h, hh, rfl, hfound⟩
    refine ⟨_, List.mem_map_of_mem (List.mem_filter.mpr ⟨List.mem_map_of_mem hh, hfound⟩), rfl⟩

/-- A certificate is listed exactly if it is found. -/
theorem mem_certificates_iff (db : SearchDB T Addr) (q fingerprint : String) :
    (∃ c ∈ (db.universalSearch q).certificates, c.fingerprint = fingerprint) ↔
      ∃ c ∈ db.certificates, c.fingerprint = fingerprint ∧ db.certificateFound q c = true := by
  constructor
  · rintro ⟨c, hc, rfl⟩
    obtain ⟨c', hc', rfl⟩ := List.mem_map.mp hc
    obtain ⟨hmem, hfound⟩ := List.mem_filter.mp hc'
    exact ⟨c', hmem, rfl, hfound⟩
  · rintro ⟨c, hc, rfl, hfound⟩
    exact ⟨_, List.mem_map_of_mem (List.mem_filter.mpr ⟨hc, hfound⟩), rfl⟩

end SearchDB

/-- No row at all. -/
def noRow (T : Text) : SearchDB T String where
  endpoints := Table.empty
  hosts := Table.empty
  tlsProfiles := Table.empty
  endpointTags := []
  certificates := Table.empty
  endpointCerts := Table.empty
  users := Table.empty
  usernames := Table.forall_mem_empty
  inbox := Discovery.emptyInbox.inbox
  lastResolvedIP := fun _ => none
  saml := Table.empty
  sans := fun _ => []
  scanners := Table.empty

/-! ## §3. Addresses. -/

/-- The column starts with the text. -/
def HasPrefix (q : String) (column : Option String) : Prop :=
  ∃ v, column = some v ∧ q.toList <+: v.toList

theorem unmarked_of_looksLikeIP {q : String} (h : looksLikeIP q = true) : Unmarked q.toList := by
  intro c hc
  have haddr := ((looksLikeIP_iff q).mp h).2.1 c hc
  rw [← Bool.not_eq_true]
  intro hmeta
  have hcases : (c = '%' ∨ c = '_') ∨ c = '\\' := by simpa [isMeta] using hmeta
  obtain (rfl | rfl) | rfl := hcases
  · exact absurd haddr (by decide)
  · exact absurd haddr (by decide)
  · exact absurd haddr (by decide)

theorem likeOpt_starting {q : String} (hq : Unmarked q.toList) {column : Option String} :
    likeOpt (q ++ "%") column = true ↔ HasPrefix q column := by
  cases column with
  | none => exact iff_of_false Bool.false_ne_true fun ⟨_, h, _⟩ => nomatch h
  | some v =>
      have hpattern : (q ++ "%").toList = q.toList ++ ['%'] := String.toList_append
      show like (q ++ "%").toList v.toList = true ↔ _
      rw [hpattern, like_starting hq]
      constructor
      · exact fun h => ⟨v, rfl, h⟩
      · rintro ⟨w, hw, h⟩
        injection hw with hw
        exact hw ▸ h

theorem hasPrefix_of_eq {q : String} {column : Option String} (h : column = some q) :
    HasPrefix q column := ⟨q, h, List.prefix_rfl⟩

theorem endpointFound_ip {q : String} (hq : looksLikeIP q = true) (r : EndpointRow) :
    SearchDB.endpointFound T q r = true ↔
      HasPrefix q r.dnsName ∨ HasPrefix q r.ipAddress ∨ HasPrefix q r.lastResolvedIP := by
  have hmark := unmarked_of_looksLikeIP hq
  unfold SearchDB.endpointFound
  rw [if_pos hq]
  simp only [Bool.or_eq_true, decide_eq_true_eq, likeOpt_starting hmark]
  constructor
  · rintro (((((h | h) | h) | h) | h) | h)
    · exact Or.inl (hasPrefix_of_eq h)
    · exact Or.inr (Or.inl (hasPrefix_of_eq h))
    · exact Or.inr (Or.inr (hasPrefix_of_eq h))
    · exact Or.inl h
    · exact Or.inr (Or.inl h)
    · exact Or.inr (Or.inr h)
  · rintro (h | h | h)
    · exact Or.inl (Or.inl (Or.inr h))
    · exact Or.inl (Or.inr h)
    · exact Or.inr h

/-- One of the address columns of the endpoint starts with the text. -/
def AddressStarts (db : SearchDB T Addr) (q id : String) : Prop :=
  ∃ h ∈ db.hosts, h.endpointID = id ∧
    (HasPrefix q h.dnsName ∨ HasPrefix q h.ipAddress ∨ HasPrefix q (db.lastResolvedIP id))

theorem endpointFound_endpointRow {q : String} (hq : looksLikeIP q = true)
    (db : SearchDB T Addr) (h : Endpoint) :
    SearchDB.endpointFound T q (db.endpointRow h) = true ↔ AddressStarts db q h.id := by
  have hnone : ¬HasPrefix q none := fun ⟨_, hv, _⟩ => nomatch hv
  rw [endpointFound_ip hq]
  unfold SearchDB.endpointRow AddressStarts
  dsimp only
  cases hfind : db.hosts.find? h.id with
  | none =>
      rw [Table.find?_eq_none_iff] at hfind
      simp only [Option.bind_none, hnone, or_false]
      exact iff_of_false id fun ⟨eh, heh, hid, _⟩ => hfind eh heh hid
  | some eh =>
      obtain ⟨hmem, hid⟩ := Table.find?_eq_some_iff.mp hfind
      simp only [Option.bind_some]
      constructor
      · intro hstarts
        exact ⟨eh, hmem, hid, hid ▸ hstarts⟩
      · rintro ⟨eh', hmem', hid', hstarts⟩
        obtain rfl := Table.eq_of_key hmem hmem' (hid.trans hid'.symm)
        exact hid.symm ▸ hstarts

/-- **An address is searched for by prefix**, exactly; every address looks like one, and
nothing with another character does. -/
theorem universalSearch_ip (T : Text) (Addr : Type) :
    (∀ q, looksLikeIP q = true →
      Unmarked q.toList ∧
        ∀ (db : SearchDB T Addr) (id : String),
          (∃ e ∈ (db.universalSearch q).endpoints, e.id = id) ↔
            ∃ h ∈ db.endpoints, h.id = id ∧ AddressStarts db q id) ∧
      (∀ s ip, parseIP s = some ip → looksLikeIP s = true) ∧
        ∀ (s : String), ∀ c ∈ s.toList, isAddrChar c = false → looksLikeIP s = false := by
  refine ⟨fun q hq => ⟨unmarked_of_looksLikeIP hq, fun db id => ?_⟩,
    fun s ip h => looksLikeIP_of_parseIP h, fun s c hc hother => ?_⟩
  · rw [SearchDB.mem_endpoints_iff]
    refine exists_congr fun h => and_congr_right fun _ => and_congr_right fun hid => ?_
    rw [endpointFound_endpointRow hq, hid]
  · rw [← Bool.not_eq_true]
    intro h
    have haddr := ((looksLikeIP_iff s).mp h).2.1 c hc
    rw [hother] at haddr
    exact Bool.false_ne_true haddr

/-- One host, and the address that a scanner found it under. -/
def oneHost : SearchDB plainText String :=
  { noRow plainText with
    endpoints := ⟨[⟨"e1", "shop", "host", true, none, none, 0⟩], List.nodup_singleton _⟩
    hosts := ⟨[⟨"e1", some "shop.example.com", none, 443⟩], List.nodup_singleton _⟩
    lastResolvedIP := fun _ => some "10.0.5.7" }

/-- The host is found by a part of its address. -/
theorem universalSearch_ip_oneHost :
    looksLikeIP "10.0.5" = true ∧
      ((∃ e ∈ (oneHost.universalSearch "10.0.5").endpoints, e.id = "e1") ↔
        ∃ h ∈ oneHost.endpoints, h.id = "e1" ∧ AddressStarts oneHost "10.0.5" "e1") :=
  ⟨by decide, ((universalSearch_ip plainText String).1 "10.0.5" (by decide)).2 oneHost "e1"⟩

/-! ## §4. Other texts. -/

/-- `lower()` takes each character to one of its own, and keeps the metacharacters apart. -/
structure LowersCharacters (T : Text) (f : Char → Char) : Prop where
  lower : ∀ s, T.lower s = String.ofList (s.toList.map f)
  keeps : KeepsMeta f

/-- The column contains the text, up to case. -/
def Holds (T : Text) (search column : String) : Prop :=
  (T.lower search).toList <:+: (T.lower column).toList

instance (T : Text) (search column : String) : Decidable (Holds T search column) :=
  inferInstanceAs (Decidable ((T.lower search).toList <:+: (T.lower column).toList))

/-- The same of a column that may be NULL. -/
def HoldsOpt (T : Text) (search : String) (column : Option String) : Prop :=
  ∃ v, column = some v ∧ Holds T search v

/-- The column starts with the text, up to case. -/
def Begins (T : Text) (search column : String) : Prop :=
  (T.lower search).toList <+: (T.lower column).toList

namespace LowersCharacters

variable {f : Char → Char}

theorem toList_lower (hT : LowersCharacters T f) (s : String) :
    (T.lower s).toList = s.toList.map f := by
  rw [hT.lower, String.toList_ofList]

theorem unmarked_lower (hT : LowersCharacters T f) {s : String} (hs : Unmarked s.toList) :
    Unmarked (T.lower s).toList := by
  rw [hT.toList_lower]
  exact hT.keeps.unmarked_map.mpr hs

/-- The pattern around a text, in lower case. -/
theorem toList_lower_around (hT : LowersCharacters T f) (s : String) :
    (T.lower ("%" ++ s ++ "%")).toList = '%' :: ((T.lower s).toList ++ ['%']) := by
  have hpercent : f '%' = '%' := hT.keeps.fixes '%' rfl
  have hsplit : ("%" ++ s ++ "%").toList = '%' :: (s.toList ++ ['%']) := by
    rw [String.toList_append, String.toList_append]
    rfl
  rw [hT.toList_lower, hT.toList_lower, hsplit, List.map_cons, List.map_append, hpercent,
    List.map_singleton, hpercent]

theorem toList_lower_after (hT : LowersCharacters T f) (s : String) :
    (T.lower (s ++ "%")).toList = (T.lower s).toList ++ ['%'] := by
  have hpercent : f '%' = '%' := hT.keeps.fixes '%' rfl
  have hsplit : (s ++ "%").toList = s.toList ++ ['%'] := String.toList_append
  rw [hT.toList_lower, hT.toList_lower, hsplit, List.map_append, List.map_singleton, hpercent]

theorem contains_iff (hT : LowersCharacters T f) {s : String} (hs : Unmarked s.toList)
    (column : String) : contains T s column = true ↔ Holds T s column := by
  unfold contains
  rw [hT.toList_lower_around]
  exact like_infix (hT.unmarked_lower hs)

theorem containsOpt_iff (hT : LowersCharacters T f) {s : String} (hs : Unmarked s.toList)
    (column : Option String) : containsOpt T s column = true ↔ HoldsOpt T s column := by
  cases column with
  | none => exact iff_of_false Bool.false_ne_true fun ⟨_, h, _⟩ => nomatch h
  | some v =>
      refine (hT.contains_iff hs v).trans ⟨fun h => ⟨v, rfl, h⟩, ?_⟩
      rintro ⟨w, hw, h⟩
      injection hw with hw
      exact hw ▸ h

theorem startsWith_iff (hT : LowersCharacters T f) {s : String} (hs : Unmarked s.toList)
    (column : String) : startsWith T s column = true ↔ Begins T s column := by
  unfold startsWith
  rw [hT.toList_lower_after]
  exact like_starting (hT.unmarked_lower hs)

/-- A text with a metacharacter is found where it is not. -/
theorem exists_contains_not_holds (hT : LowersCharacters T f) {s : String}
    (hs : ¬Unmarked s.toList) : ∃ column, contains T s column = true ∧ ¬Holds T s column := by
  have hlower : ¬Unmarked (T.lower s).toList := by
    rw [hT.toList_lower, hT.keeps.unmarked_map]
    exact hs
  refine ⟨String.ofList (literal (s.toList ++ ['%'])), ?_⟩
  have hcolumn : (T.lower (String.ofList (literal (s.toList ++ ['%'])))).toList =
      literal ((T.lower s).toList ++ ['%']) := by
    rw [hT.toList_lower, hT.toList_lower, String.toList_ofList, hT.keeps.map_literal,
      List.map_append, List.map_singleton, hT.keeps.fixes '%' rfl]
  unfold contains Holds
  rw [hT.toList_lower_around, hcolumn]
  exact exists_like_ne_infix hlower

end LowersCharacters

/-- Each list has exactly the rows of which a searched column contains the text. -/
structure FindsExactly (db : SearchDB T Addr) (s : String) : Prop where
  listEndpoints : ∀ (hasError : Bool) (status tagID endpointType protocol cipher : String)
    (r : EndpointWithScanner),
    r ∈ db.listEndpoints hasError s status tagID endpointType protocol cipher ↔
      r ∈ db.listEndpoints hasError "" status tagID endpointType protocol cipher ∧
        (Holds T s r.name ∨ HoldsOpt T s r.dnsName)
  listUsers : ∀ (role provider : String) (u : User),
    u ∈ db.listUsers s role provider ↔
      u ∈ db.listUsers "" role provider ∧
        (Holds T s u.username ∨ HoldsOpt T s u.firstName ∨ HoldsOpt T s u.lastName)
  endpoints : looksLikeIP s = false → ∀ id : String,
    (∃ e ∈ (db.universalSearch s).endpoints, e.id = id) ↔
      ∃ h ∈ db.endpoints, h.id = id ∧
        (Holds T s h.name ∨ HoldsOpt T s (db.endpointRow h).dnsName ∨
          HoldsOpt T s (db.endpointRow h).url)
  /-- A fingerprint is searched from its start. -/
  certificates : ∀ fingerprint : String,
    (∃ c ∈ (db.universalSearch s).certificates, c.fingerprint = fingerprint) ↔
      ∃ c ∈ db.certificates, c.fingerprint = fingerprint ∧
        (Holds T s c.commonName ∨ Begins T s fingerprint ∨
          ∃ san ∈ db.sans fingerprint, Holds T s san)
  scanners : ∀ sc : Scanner, sc ∈ (db.universalSearch s).scanners ↔
    sc ∈ db.scanners ∧ Holds T s sc.name

theorem endpointMatches_iff (db : DB T Addr) (hasError : Bool)
    (s status tagID endpointType protocol cipher : String) (r : EndpointWithScanner) :
    db.endpointMatches hasError s status tagID endpointType protocol cipher r = true ↔
      db.endpointMatches hasError "" status tagID endpointType protocol cipher r = true ∧
        (s = "" ∨ contains T s r.name = true ∨ containsOpt T s r.dnsName = true) := by
  unfold DB.endpointMatches
  simp only [Bool.and_eq_true, Bool.or_eq_true, decide_eq_true_eq, true_or, and_true]
  tauto

theorem userMatches_iff (s role provider : String) (u : User) :
    DB.userMatches T s role provider u = true ↔
      DB.userMatches T "" role provider u = true ∧
        (s = "" ∨ contains T s u.username = true ∨ containsOpt T s u.firstName = true ∨
          containsOpt T s u.lastName = true) := by
  unfold DB.userMatches
  simp only [Bool.and_eq_true, Bool.or_eq_true, decide_eq_true_eq, true_or, true_and]
  tauto

theorem mem_listEndpoints (db : DB T Addr) (hasError : Bool)
    (s status tagID endpointType protocol cipher : String) (r : EndpointWithScanner) :
    r ∈ db.listEndpoints hasError s status tagID endpointType protocol cipher ↔
      (∃ h ∈ db.endpoints, db.withScanner h = r) ∧
        db.endpointMatches hasError s status tagID endpointType protocol cipher r = true := by
  refine Table.mem_select.trans ⟨?_, ?_⟩
  · rintro ⟨h, hh, hr⟩
    split at hr
    · next hmatches =>
        injection hr with hr
        exact ⟨⟨h, hh, hr⟩, hr ▸ hmatches⟩
    · cases hr
  · rintro ⟨⟨h, hh, rfl⟩, hmatches⟩
    exact ⟨h, hh, if_pos hmatches⟩

theorem mem_listUsers (db : DB T Addr) (s role provider : String) (u : User) :
    u ∈ db.listUsers s role provider ↔
      u ∈ db.users ∧ DB.userMatches T s role provider u = true := by
  refine Table.mem_delete.trans (and_congr_right fun _ => ?_)
  simp

section Exact

variable {f : Char → Char}

/-- The empty text is everywhere. -/
theorem LowersCharacters.holds_empty (hT : LowersCharacters T f) (column : String) :
    Holds T "" column := by
  unfold Holds
  rw [hT.toList_lower]
  exact List.nil_infix

theorem findsExactly_of_unmarked (hT : LowersCharacters T f) {s : String}
    (hs : Unmarked s.toList) (db : SearchDB T Addr) : FindsExactly db s where
  listEndpoints hasError status tagID endpointType protocol cipher r := by
    rw [mem_listEndpoints, mem_listEndpoints, endpointMatches_iff (s := s), hT.contains_iff hs,
      hT.containsOpt_iff hs, ← and_assoc]
    refine and_congr_right fun _ => or_iff_right_of_imp ?_
    rintro rfl
    exact Or.inl (hT.holds_empty _)
  listUsers role provider u := by
    rw [mem_listUsers, mem_listUsers, userMatches_iff (s := s), hT.contains_iff hs,
      hT.containsOpt_iff hs, hT.containsOpt_iff hs, ← and_assoc]
    refine and_congr_right fun _ => or_iff_right_of_imp ?_
    rintro rfl
    exact Or.inl (hT.holds_empty _)
  endpoints hshape id := by
    rw [SearchDB.mem_endpoints_iff]
    refine exists_congr fun h => and_congr_right fun _ => and_congr_right fun _ => ?_
    unfold SearchDB.endpointFound
    rw [if_neg (by rw [hshape]; exact Bool.false_ne_true), Bool.or_eq_true, Bool.or_eq_true,
      hT.contains_iff hs, hT.containsOpt_iff hs, hT.containsOpt_iff hs, or_assoc]
    exact Iff.rfl
  certificates fingerprint := by
    rw [SearchDB.mem_certificates_iff]
    refine exists_congr fun c => and_congr_right fun _ => and_congr_right fun hprint => ?_
    unfold SearchDB.certificateFound
    rw [Bool.or_eq_true, Bool.or_eq_true, List.any_eq_true, hT.contains_iff hs,
      hT.startsWith_iff hs, hprint, or_assoc]
    refine or_congr_right (or_congr_right (exists_congr fun san => and_congr_right fun _ => ?_))
    exact hT.contains_iff hs san
  scanners sc := by
    refine List.mem_filter.trans (and_congr_right fun _ => ?_)
    exact hT.contains_iff hs sc.name

/-- One user. -/
def oneUser (T : Text) (u : User) : SearchDB T String :=
  { noRow T with
    users := ⟨[u], List.nodup_singleton _⟩
    usernames := by
      intro a ha b hb _
      rw [List.mem_singleton.mp ha, List.mem_singleton.mp hb] }

/-- A user without names. -/
def unnamed (username : String) : User := ⟨"u1", username, none, none, "viewer", "local", 0⟩

/-- A user whose name does not contain the text is not to be listed. -/
theorem holds_of_findsExactly {s username : String}
    (h : FindsExactly (oneUser T (unnamed username)) s) (hfound : contains T s username = true) :
    Holds T s username := by
  have hmatches : DB.userMatches T s "" "" (unnamed username) = true := by
    simp [DB.userMatches, unnamed, hfound]
  have hmem := (mem_listUsers (oneUser T (unnamed username)).toDB s "" "" (unnamed username)).mpr
    ⟨List.mem_singleton_self _, hmatches⟩
  rcases ((h.listUsers "" "" _).mp hmem).2 with hholds | ⟨v, hv, -⟩ | ⟨v, hv, -⟩
  · exact hholds
  · cases hv
  · cases hv

/-- **When a text search finds what contains the text**: when the text has no
metacharacter. -/
theorem search_contains_iff (hT : LowersCharacters T f) (s : String) :
    (∀ (Addr : Type) (db : SearchDB T Addr), FindsExactly db s) ↔ Unmarked s.toList := by
  constructor
  · intro h
    by_contra hs
    obtain ⟨column, hfound, hnot⟩ := hT.exists_contains_not_holds hs
    exact hnot (holds_of_findsExactly (h String (oneUser T (unnamed column))) hfound)
  · exact fun hs Addr db => findsExactly_of_unmarked hT hs db

theorem plainText_lowers : LowersCharacters plainText id where
  lower s := by
    rw [List.map_id, String.ofList_toList]
    rfl
  keeps := ⟨fun _ _ => rfl, fun _ h => h⟩

/-- Text with the upper case letters of ASCII. -/
def asciiText : Text where
  collation := plainText.collation
  antisymm := plainText.antisymm
  lower := fun s => String.ofList (s.toList.map Char.toLower)
  fold := fun s => String.ofList (s.toList.map Char.toLower)

/-- A letter in lower case is a letter, and no metacharacter. -/
theorem keepsMeta_toLower : KeepsMeta Char.toLower where
  fixes := by
    intro c hc
    unfold isMeta at hc
    simp only [Bool.or_eq_true, decide_eq_true_eq] at hc
    rcases hc with (rfl | rfl) | rfl <;> rfl
  reflects := by
    intro c hc
    unfold Char.toLower at hc
    split at hc
    · -- a capital: the letter it becomes is no metacharacter
      next h =>
        obtain ⟨hlo, hhi⟩ := h
        rw [ge_iff_le, UInt32.le_iff_toNat_le] at hlo
        rw [UInt32.le_iff_toNat_le] at hhi
        unfold isMeta at hc
        simp only [Bool.or_eq_true, decide_eq_true_eq, Char.ext_iff, ← UInt32.toNat_inj,
          UInt32.toNat_add, Char.toNat_val, Char.reduceVal, UInt32.reduceSub, UInt32.reduceToNat,
          Nat.reducePow] at hc hlo hhi
        omega
    · exact hc

theorem asciiText_lowers : LowersCharacters asciiText Char.toLower where
  lower _ := rfl
  keeps := keepsMeta_toLower

/-- A host whose name is in upper case. -/
def upperHost : SearchDB asciiText String :=
  { noRow asciiText with
    endpoints := ⟨[⟨"e1", "Shop", "host", true, none, none, 0⟩], List.nodup_singleton _⟩
    hosts := ⟨[⟨"e1", some "WEB-1.example.com", none, 443⟩], List.nodup_singleton _⟩ }

/-- The host is found by a part of its name in lower case. -/
theorem search_contains_host :
    ((∀ (Addr : Type) (db : SearchDB asciiText Addr), FindsExactly db "web-1") ↔
        Unmarked "web-1".toList)
      ∧ Unmarked "web-1".toList
      ∧ Holds asciiText "web-1" "WEB-1.example.com"
      ∧ ∃ e ∈ (upperHost.universalSearch "web-1").endpoints, e.id = "e1" :=
  ⟨search_contains_iff asciiText_lowers "web-1", by simp [Unmarked, isMeta], by decide,
    by decide⟩

/-- The user `alice` is found under `a_i`, which is no part of the name. -/
theorem search_finds_other :
    ¬∀ (T : Text) (f : Char → Char), LowersCharacters T f → ∀ (s : String) (Addr : Type)
      (db : SearchDB T Addr), FindsExactly db s := by
  intro h
  have hexact := h plainText id plainText_lowers "a_i" String
    (oneUser plainText (unnamed "alice"))
  have hholds := holds_of_findsExactly hexact (by decide)
  exact absurd hholds (by decide)

end Exact

end TLSentinel.Lists
