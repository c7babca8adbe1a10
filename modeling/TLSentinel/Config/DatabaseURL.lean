/-
  TLSentinel.Config.DatabaseURL
  ─────────────────────────────
  **THE DATABASE URL, AND THE SETTINGS THAT IT CARRIES.**

  `DBConnString` writes six settings between the delimiters of a URL as they are.  The
  pool and the migrations hand it to drivers that parse it as a URL: a delimiter in a
  setting ends its part, and a `%` begins an escape.

  Main result:
    * `dbConnString_roundTrips_iff` — when the URL gives the settings back.
-/
import TLSentinel.Foundation.URI

namespace TLSentinel

open Foundation.Splits
open Foundation.URI
open Foundation.Utf8

/-! ## §1. DBConnString. -/

/-- The settings of the database in `Config`. -/
structure Config where
  dbHost : String
  dbPort : String
  dbName : String
  dbUsername : String
  dbPassword : String
  dbSSLMode : String
  deriving DecidableEq, Repr

namespace Config

/-- `DBConnString`. -/
def dbConnString (cfg : Config) : String :=
  "postgres://" ++ cfg.dbUsername ++ ":" ++ cfg.dbPassword ++ "@" ++ cfg.dbHost ++ ":" ++
    cfg.dbPort ++ "/" ++ cfg.dbName ++ "?sslmode=" ++ cfg.dbSSLMode

/-! ## §2. What the URL says. -/

/-- The parts of a URL stand for the settings. -/
structure CarriedBy (cfg : Config) (p : Parts) : Prop where
  login : ∃ userinfo user pass, p.userinfo = some userinfo ∧
    cut ':' userinfo = (user, some pass) ∧ pctDecode user = utf8 cfg.dbUsername.toList ∧
      pctDecode pass = utf8 cfg.dbPassword.toList
  host : pctDecode p.host = utf8 cfg.dbHost.toList
  port : p.port = some cfg.dbPort.toList
  path : pctDecode p.path = utf8 ('/' :: cfg.dbName.toList)
  sslmode : ∃ query, p.query = some query ∧
    param "sslmode".toList query = some (utf8 cfg.dbSSLMode.toList)

/-- The URL is one, and gives the settings back. -/
def RoundTrips (cfg : Config) : Prop :=
  ∃ p, parse cfg.dbConnString.toList = some p ∧ cfg.CarriedBy p

/-- Every setting is of the characters that its part has without escapes. -/
structure Plain (cfg : Config) : Prop where
  username : ∀ c ∈ cfg.dbUsername.toList, isRegName c = true
  password : ∀ c ∈ cfg.dbPassword.toList, isUserinfo c = true
  host : isHost cfg.dbHost.toList = true ∧ '%' ∉ cfg.dbHost.toList
  port : ∀ c ∈ cfg.dbPort.toList, c.isDigit = true
  name : ∀ c ∈ cfg.dbName.toList, isPathChar c = true
  sslmode : ∀ c ∈ cfg.dbSSLMode.toList, isQueryChar c = true ∧ c ≠ '&'

/-- The parts that the settings are spliced into. -/
def parts (cfg : Config) : Parts where
  scheme := "postgres".toList
  userinfo := some (cfg.dbUsername.toList ++ ':' :: cfg.dbPassword.toList)
  host := cfg.dbHost.toList
  port := some cfg.dbPort.toList
  path := '/' :: cfg.dbName.toList
  query := some ("sslmode".toList ++ '=' :: cfg.dbSSLMode.toList)
  fragment := none

/-- The text is that of the parts. -/
theorem toList_dbConnString (cfg : Config) : cfg.dbConnString.toList = cfg.parts.text := by
  have hscheme : "postgres://".toList = "postgres".toList ++ [':', '/', '/'] := rfl
  have hquery : "?sslmode=".toList = '?' :: ("sslmode".toList ++ ['=']) := rfl
  have hcolon : ":".toList = [':'] := rfl
  have hat : "@".toList = ['@'] := rfl
  have hslash : "/".toList = ['/'] := rfl
  unfold dbConnString Parts.text Parts.authority parts
  simp only [String.toList_append, hscheme, hquery, hcolon, hat, hslash, loginText, tail,
    List.append_assoc, List.cons_append, List.nil_append, List.append_nil]

variable {cfg : Config}

/-- A character of a class is no `%`. -/
theorem percent_not_mem {p : Char → Bool} (hp : IsClass p) {s : List Char}
    (h : ∀ c ∈ s, p c = true) : '%' ∉ s := by
  intro hmem
  have hpct := h '%' hmem
  rw [hp.percent] at hpct
  cases hpct

/-! ## §3. Plain settings come back. -/

theorem Plain.valid (h : cfg.Plain) : cfg.parts.valid = true := by
  have huser : ∀ c ∈ cfg.dbUsername.toList ++ ':' :: cfg.dbPassword.toList,
      isUserinfo c = true := by
    rw [List.forall_mem_append, List.forall_mem_cons]
    refine ⟨fun c hc => ?_, rfl, h.password⟩
    have hreg : (isUnreserved c || isSubDelim c) = true := h.username c hc
    rw [isUserinfo, hreg, Bool.true_or]
  have hpath : ∀ c ∈ '/' :: cfg.dbName.toList, isPathChar c = true := by
    rw [List.forall_mem_cons]
    exact ⟨rfl, h.name⟩
  have hquery : ∀ c ∈ "sslmode".toList ++ '=' :: cfg.dbSSLMode.toList, isQueryChar c = true := by
    rw [List.forall_mem_append, List.forall_mem_cons]
    exact ⟨List.all_eq_true.mp (by decide), rfl, fun c hc => (h.sslmode c hc).1⟩
  have hencoded : ∀ {p : Char → Bool}, IsClass p → ∀ {s : List Char}, (∀ c ∈ s, p c = true) →
      isEncoded p s = true :=
    fun hp _ hs => (isEncoded_of_not_mem (percent_not_mem hp hs)).mpr hs
  rw [Parts.valid_iff]
  have hscheme : isScheme "postgres".toList = true := by decide
  refine ⟨hscheme, ?_, h.host.1, ?_, ?_, ?_, fun _ hfragment => by cases hfragment⟩
  · rintro _ ⟨⟩
    exact hencoded isClass_isUserinfo huser
  · rintro _ ⟨⟩
    exact h.port
  · rw [isPath, Bool.and_eq_true]
    exact ⟨rfl, hencoded isClass_isPathChar hpath⟩
  · rintro _ ⟨⟩
    exact hencoded isClass_isQueryChar hquery

theorem Plain.carriedBy (h : cfg.Plain) : cfg.CarriedBy cfg.parts where
  login := by
    have hcolon : ':' ∉ cfg.dbUsername.toList := by
      intro hmem
      have hreg := h.username ':' hmem
      cases hreg
    refine ⟨_, cfg.dbUsername.toList, cfg.dbPassword.toList, rfl,
      cut_eq_iff.mpr ⟨hcolon, rfl⟩, ?_, ?_⟩
    · exact pctDecode_of_not_mem (percent_not_mem isClass_isRegName h.username)
    · exact pctDecode_of_not_mem (percent_not_mem isClass_isUserinfo h.password)
  host := pctDecode_of_not_mem h.host.2
  port := rfl
  path := by
    have hpct := percent_not_mem isClass_isPathChar h.name
    refine pctDecode_of_not_mem (s := '/' :: cfg.dbName.toList) ?_
    rw [List.mem_cons, not_or]
    exact ⟨by decide, hpct⟩
  sslmode := by
    have hpct := percent_not_mem isClass_isQueryChar fun c hc => (h.sslmode c hc).1
    exact ⟨_, rfl, param_pair (by decide) ⟨hpct, fun hmem => (h.sslmode '&' hmem).2 rfl⟩⟩

/-! ## §4. Settings that come back are plain. -/

/-- The lengths of the parts of a URL with a login, a port and a query. -/
theorem length_text {p : Parts} {userinfo port query : List Char}
    (huser : p.userinfo = some userinfo) (hport : p.port = some port)
    (hquery : p.query = some query) :
    p.text.length = p.scheme.length + 3 + (userinfo.length + 1) + p.host.length +
      (port.length + 1) + p.path.length + (query.length + 1) + (tail '#' p.fragment).length := by
  unfold Parts.text Parts.authority
  rw [huser, hport, hquery, loginText, tail, tail]
  simp only [List.length_append, List.length_cons, List.length_nil]
  omega

theorem length_text_parts (cfg : Config) :
    cfg.parts.text.length = 24 + cfg.dbUsername.toList.length + cfg.dbPassword.toList.length +
      cfg.dbHost.toList.length + cfg.dbPort.toList.length + cfg.dbName.toList.length +
        cfg.dbSSLMode.toList.length := by
  have hscheme : "postgres".toList.length = 8 := rfl
  have hkey : "sslmode".toList.length = 7 := rfl
  rw [length_text (p := cfg.parts) rfl rfl rfl]
  unfold parts
  simp only [List.length_append, List.length_cons, List.length_nil, hscheme, hkey, tail]
  omega

/-- The URL begins with its scheme, and so do the parts that it is read as. -/
theorem scheme_eq {p : Parts} (hp : cfg.parts.text = p.text) (hvalid : p.Valid) :
    p.scheme = "postgres".toList := by
  unfold Parts.text at hp
  rw [List.append_assoc, List.append_assoc, List.append_assoc, List.append_assoc,
    List.cons_append, List.cons_append] at hp
  have hscheme : ':' ∉ p.scheme := not_mem_of_isScheme (by decide) (by decide) hvalid.scheme
  have hpostgres : ':' ∉ "postgres".toList := by decide
  exact ((append_cons_inj hpostgres hscheme hp).1).symm

/-- **Every part is what was spliced into it**: none is shorter than its setting, and
together they are as long. -/
theorem CarriedBy.plain {p : Parts} (h : cfg.CarriedBy p) (hvalid : p.Valid)
    (htext : cfg.parts.text = p.text) : cfg.Plain := by
  obtain ⟨userinfo, user, pass, hlogin, hcut, huser, hpass⟩ := h.login
  obtain ⟨query, hquery, hmode⟩ := h.sslmode
  obtain ⟨hcolon, huserinfo⟩ := cut_eq_iff.mp hcut
  have hencoded := hvalid.userinfo userinfo hlogin
  rw [huserinfo, tail] at hencoded
  obtain ⟨huserEnc, hpassEnc⟩ :=
    isEncoded_append_cons isClass_isUserinfo (by decide) (by decide) hencoded
  have hpathEnc := (Bool.and_eq_true_iff.mp hvalid.path).2
  have hqueryEnc := hvalid.query query hquery
  have huserLe := length_le_of_pctDecode isClass_isUserinfo huserEnc huser
  have hpassLe := length_le_of_pctDecode isClass_isUserinfo hpassEnc hpass
  obtain ⟨hhostLe, hhostEq⟩ := isHost_pctDecode hvalid.host h.host
  have hpathLe := length_le_of_pctDecode isClass_isPathChar hpathEnc h.path
  obtain ⟨hmodeLe, hmodeEq⟩ := param_eq_some isClass_isQueryChar hqueryEnc hmode
  -- the lengths add up, so every inequality above is an equality
  have hlen := length_text hlogin h.port hquery
  rw [← htext, length_text_parts, scheme_eq htext hvalid] at hlen
  have hscheme : "postgres".toList.length = 8 := rfl
  have hkey : "sslmode".toList.length = 7 := rfl
  have huserinfoLen := congrArg List.length huserinfo
  rw [tail, List.length_append, List.length_cons] at huserinfoLen
  rw [hscheme] at hlen
  rw [hkey] at hmodeLe hmodeEq
  rw [List.length_cons] at hpathLe
  obtain ⟨huserEq, huserPct⟩ := eq_of_pctDecode isClass_isUserinfo huserEnc huser (by omega)
  obtain ⟨hpassEq, hpassPct⟩ := eq_of_pctDecode isClass_isUserinfo hpassEnc hpass (by omega)
  obtain ⟨hhost, hhostPct⟩ := hhostEq (by omega)
  obtain ⟨hpath, hpathPct⟩ := eq_of_pctDecode isClass_isPathChar hpathEnc h.path
    (by rw [List.length_cons]; omega)
  obtain ⟨hmodeText, hmodePct, hmodeAmp⟩ := hmodeEq (by omega)
  subst huserEq
  rw [hpassEq] at hpassEnc hpassPct
  rw [hmodeText] at hqueryEnc
  obtain ⟨-, hmodeEnc⟩ :=
    isEncoded_append_cons isClass_isQueryChar (by decide) (by decide) hqueryEnc
  refine ⟨fun c hc => ?_, (isEncoded_of_not_mem hpassPct).mp hpassEnc,
    ⟨hhost ▸ hvalid.host, hhost ▸ hhostPct⟩, hvalid.port _ h.port, ?_, fun c hc => ?_⟩
  · have hchar := (isEncoded_of_not_mem huserPct).mp huserEnc c hc
    rw [isUserinfo, Bool.or_eq_true, decide_eq_true_eq] at hchar
    refine hchar.resolve_right ?_
    rintro rfl
    exact hcolon hc
  · have hchars := (isEncoded_of_not_mem hpathPct).mp hpathEnc
    rw [hpath, List.forall_mem_cons] at hchars
    exact hchars.2
  · refine ⟨(isEncoded_of_not_mem hmodePct).mp hmodeEnc c hc, ?_⟩
    rintro rfl
    exact hmodeAmp hc

theorem RoundTrips.plain (h : cfg.RoundTrips) : cfg.Plain := by
  obtain ⟨p, hparse, hcarried⟩ := h
  rw [toList_dbConnString] at hparse
  obtain ⟨htext, hvalid⟩ := parse_eq_some_iff.mp hparse
  exact hcarried.plain (Parts.valid_iff.mp hvalid) htext

/-- **When the URL gives the settings back**: exactly if each is of the characters that its
part has without escapes. -/
theorem dbConnString_roundTrips_iff (cfg : Config) : cfg.RoundTrips ↔ cfg.Plain := by
  constructor
  · exact RoundTrips.plain
  · intro h
    refine ⟨cfg.parts, ?_, h.carriedBy⟩
    rw [toList_dbConnString]
    exact parse_text h.valid

/-- A password with delimiters of a URL does not come back. -/
theorem dbConnString_delimiters : ¬ ∀ cfg : Config, cfg.RoundTrips := by
  intro h
  have hplain := (h { dbHost := "localhost", dbPort := "5432", dbName := "tlsentinel"
                      dbUsername := "tlsentinel", dbPassword := "p@ss/w0rd"
                      dbSSLMode := "require" }).plain
  have hat : isUserinfo '@' = true := hplain.password '@' (by decide)
  exact absurd hat (by decide)

end Config

end TLSentinel
