/-
  TLSentinel.Users.EnrolmentURI
  ─────────────────────────────
  **THE OTPAUTH URI OF AN ENROLMENT, AND WHAT AN AUTHENTICATOR READS FROM IT.**

  `Generate` of `internal/totp/totp.go` splices the account name into the path of a URI as
  it is and parses the text with `otp.NewKeyFromURL`, that is with `url.Parse`.  A name
  with a delimiter ends the path, and one with a control character or a stray `%` makes
  the parsing fail.

  Main result:
    * `generate_enrols_iff` — when the URI carries the name and the secret.
-/
import TLSentinel.Foundation.Base32
import TLSentinel.Foundation.GoURL
import TLSentinel.Users.Store

namespace TLSentinel.Users

open Foundation
open Foundation.Splits
open Foundation.Utf8

/-! ## §1. Generate. -/

/-- `Issuer`. -/
def issuer : String := "TLSentinel"

/-- The `secretBytes` bytes that `rand.Read` fills. -/
abbrev SecretBytes := Vector Base32.Byte 20

/-- `Setup`. -/
structure Setup where
  secret : String
  uri : String
  deriving DecidableEq, Repr

/-- The errors of `Generate`. -/
inductive GenerateError where
  /-- "totp: read random secret: %w". -/
  | readRandomSecret
  /-- "totp: build otpauth uri: %w". -/
  | buildOtpauthURI
  deriving DecidableEq, Repr

/-- The secret in base 32 without padding. -/
def secretOf (buf : SecretBytes) : String := String.ofList (Base32.encode buf.toList)

/-- The text that `Generate` formats. -/
def otpauthURI (accountName secret : String) : String :=
  "otpauth://totp/" ++ issuer ++ ":" ++ accountName ++ "?secret=" ++ secret ++ "&issuer=" ++
    issuer ++ "&algorithm=SHA1&digits=6&period=30"

/-- `Generate`; `none` is an error of the random source. -/
def generate (read : Option SecretBytes) (accountName : String) : Except GenerateError Setup :=
  match read with
  | none => .error .readRandomSecret
  | some buf =>
      let secret := secretOf buf
      match GoURL.parse (otpauthURI accountName secret).toList with
      | none => .error .buildOtpauthURI
      | some _ => .ok { secret := secret, uri := otpauthURI accountName secret }

/-! ## §2. What an authenticator reads. -/

/-- The label and the parameters of a URI are those of an enrolment. -/
structure Carries (accountName : String) (setup : Setup) (url : GoURL.URL) : Prop where
  scheme : url.scheme = "otpauth".toList
  type : url.authority = "totp".toList
  label : url.path = utf8 ("/" ++ issuer ++ ":" ++ accountName).toList
  secret : GoURL.get "secret".toList url.rawQuery = some (utf8 setup.secret.toList)
  issuer : GoURL.get "issuer".toList url.rawQuery = some (utf8 issuer.toList)
  digits : GoURL.get "digits".toList url.rawQuery = some (utf8 "6".toList)
  period : GoURL.get "period".toList url.rawQuery = some (utf8 "30".toList)

/-- `Generate` succeeds, and its URI carries the name and the secret. -/
def Enrols (buf : SecretBytes) (accountName : String) : Prop :=
  ∃ setup url, generate (some buf) accountName = .ok setup ∧
    GoURL.parse setup.uri.toList = some url ∧ Carries accountName setup url

/-- What the path says after its slash. -/
def labelText (accountName : String) : List Char :=
  "TLSentinel".toList ++ ':' :: accountName.toList

theorem toList_label (accountName : String) :
    ("/" ++ issuer ++ ":" ++ accountName).toList = '/' :: labelText accountName := by
  have hslash : "/".toList = ['/'] := rfl
  have hcolon : ":".toList = [':'] := rfl
  unfold labelText issuer
  simp only [String.toList_append, hslash, hcolon, List.append_assoc, List.cons_append,
    List.nil_append]

/-- The parameters after the secret. -/
def laterParams : List Char := "issuer=TLSentinel&algorithm=SHA1&digits=6&period=30".toList

/-- The query. -/
def queryText (secret : String) : List Char :=
  ("secret=".toList ++ secret.toList) ++ '&' :: laterParams

theorem toList_otpauthURI (accountName secret : String) :
    (otpauthURI accountName secret).toList = "otpauth".toList ++ ':' :: '/' :: '/' ::
      ("totp".toList ++ '/' :: (labelText accountName ++ '?' :: queryText secret)) := by
  have hscheme : "otpauth://totp/".toList =
      "otpauth".toList ++ ':' :: '/' :: '/' :: ("totp".toList ++ ['/']) := rfl
  have hcolon : ":".toList = [':'] := rfl
  have hsecret : "?secret=".toList = '?' :: "secret=".toList := rfl
  have hlater : laterParams =
      "issuer=".toList ++ ("TLSentinel".toList ++ "&algorithm=SHA1&digits=6&period=30".toList) :=
    rfl
  have hamp : "&issuer=".toList = '&' :: "issuer=".toList := rfl
  unfold otpauthURI labelText queryText issuer
  simp only [String.toList_append, hscheme, hcolon, hsecret, hlater, hamp, List.append_assoc,
    List.cons_append, List.nil_append]

/-- The characters of a secret. -/
theorem secretOf_mem {buf : SecretBytes} {c : Char} (hc : c ∈ (secretOf buf).toList) :
    c ∈ Base32.alphabet := by
  rw [secretOf, String.toList_ofList] at hc
  exact Base32.mem_alphabet_of_mem_encode hc

/-- A character that is not in the alphabet is not in a secret. -/
theorem not_mem_secretOf {c : Char} (hc : c ∉ Base32.alphabet) (buf : SecretBytes) :
    c ∉ (secretOf buf).toList := fun hmem => hc (secretOf_mem hmem)

/-- The first pair of the query is the secret. -/
theorem queryPair_secret (buf : SecretBytes) :
    GoURL.queryPair ("secret=".toList ++ (secretOf buf).toList) =
      some (utf8 "secret".toList, utf8 (secretOf buf).toList) := by
  have hsemicolon : ';' ∉ "secret=".toList ++ (secretOf buf).toList := by
    rw [List.mem_append, not_or]
    exact ⟨by decide, not_mem_secretOf (by decide) buf⟩
  have hnil : "secret=".toList ++ (secretOf buf).toList ≠ [] := by
    rw [Ne, List.append_eq_nil_iff]
    exact fun h => absurd h.1 (by decide)
  have hequals : '=' ∉ "secret".toList := by decide
  have htext : "secret=".toList = "secret".toList ++ ['='] := rfl
  have hcut : cut '=' ("secret=".toList ++ (secretOf buf).toList) =
      ("secret".toList, some (secretOf buf).toList) := by
    rw [cut_eq_iff, htext, List.append_assoc, List.singleton_append, tail]
    exact ⟨hequals, rfl⟩
  have hkey : GoURL.unescape true "secret".toList = some (utf8 "secret".toList) :=
    GoURL.unescape_of_not_mem (by decide) fun _ => by decide
  have hvalue : GoURL.unescape true (secretOf buf).toList = some (utf8 (secretOf buf).toList) :=
    GoURL.unescape_of_not_mem (not_mem_secretOf (by decide) buf) fun _ =>
      not_mem_secretOf (by decide) buf
  rw [GoURL.queryPair, if_neg (not_or.mpr ⟨hsemicolon, hnil⟩), hcut]
  simp only [Option.getD_some, hkey, hvalue]

theorem get_queryText (buf : SecretBytes) (key : List Char) :
    GoURL.get key (queryText (secretOf buf)) =
      if utf8 key = utf8 "secret".toList then some (utf8 (secretOf buf).toList)
      else GoURL.get key laterParams := by
  have hamp : '&' ∉ "secret=".toList ++ (secretOf buf).toList := by
    rw [List.mem_append, not_or]
    exact ⟨by decide, not_mem_secretOf (by decide) buf⟩
  exact GoURL.get_append_cons hamp (queryPair_secret buf) key

/-! ## §3. Which names are carried. -/

/-- What stands before the label. -/
theorem beforeLabel : URI.isScheme "otpauth".toList = true ∧
    GoURL.isAuthority "totp".toList = true ∧
    ('#' ∉ "totp".toList ∧ '?' ∉ "totp".toList ∧ '/' ∉ "totp".toList) ∧
    ("otpauth".toList.any GoURL.isCTL = false ∧ "totp".toList.any GoURL.isCTL = false) := by
  decide

/-- The URL of a plain name. -/
theorem parse_otpauthURI (buf : SecretBytes) {accountName : String}
    (h : ∀ c ∈ accountName.toList, GoURL.isPlain c = true) :
    GoURL.parse (otpauthURI accountName (secretOf buf)).toList =
      some { scheme := "otpauth".toList
             authority := "totp".toList
             path := utf8 ('/' :: labelText accountName)
             rawQuery := queryText (secretOf buf)
             fragment := [] } := by
  have hissuer : ("TLSentinel".toList).all GoURL.isPlain = true := by decide
  have hcolon : GoURL.isPlain ':' = true := by decide
  have hlabel : ∀ c ∈ labelText accountName, GoURL.isPlain c = true := by
    unfold labelText
    rw [List.forall_mem_append, List.forall_mem_cons]
    exact ⟨List.all_eq_true.mp hissuer, hcolon, h⟩
  have hcontrol : Base32.alphabet.all (fun c => !GoURL.isCTL c) = true := by decide
  have hsecret : (secretOf buf).toList.any GoURL.isCTL = false := by
    rw [List.any_eq_false]
    intro c hc
    have hc' := List.all_eq_true.mp hcontrol c (secretOf_mem hc)
    rw [Bool.not_eq_true'] at hc'
    rw [hc']
    exact Bool.false_ne_true
  have hquery : '#' ∉ queryText (secretOf buf) ∧
      (queryText (secretOf buf)).any GoURL.isCTL = false := by
    have hkey : '#' ∉ "secret=".toList ∧ ("secret=".toList).any GoURL.isCTL = false := by decide
    have hlater : '#' ∉ laterParams ∧ laterParams.any GoURL.isCTL = false := by decide
    have hamp : ¬ '#' = '&' ∧ GoURL.isCTL '&' = false := by decide
    unfold queryText
    rw [List.mem_append, List.mem_append, List.mem_cons, List.any_append, List.any_append,
      List.any_cons, hkey.2, hsecret, hlater.2, hamp.2]
    exact ⟨not_or.mpr ⟨not_or.mpr ⟨hkey.1, not_mem_secretOf (by decide) buf⟩,
      not_or.mpr ⟨hamp.1, hlater.1⟩⟩, rfl⟩
  obtain ⟨hscheme, hauthority, hdelims, hctl⟩ := beforeLabel
  have hlower : "otpauth".toList.map Char.toLower = "otpauth".toList := by decide
  have hparse := GoURL.parse_of_plain hscheme hauthority hdelims hctl hquery hlabel
  rw [hlower] at hparse
  rw [toList_otpauthURI]
  exact hparse

/-- A plain name is carried, with the secret. -/
theorem enrols_of_plain (buf : SecretBytes) {accountName : String}
    (h : ∀ c ∈ accountName.toList, GoURL.isPlain c = true) : Enrols buf accountName := by
  have hparse := parse_otpauthURI buf h
  refine ⟨{ secret := secretOf buf, uri := otpauthURI accountName (secretOf buf) }, _, ?_,
    hparse, ?_⟩
  · unfold generate
    dsimp only
    rw [hparse]
  · have hkeys : utf8 "issuer".toList ≠ utf8 "secret".toList ∧
        utf8 "digits".toList ≠ utf8 "secret".toList ∧
        utf8 "period".toList ≠ utf8 "secret".toList := by decide
    have hlater : GoURL.get "issuer".toList laterParams = some (utf8 issuer.toList) ∧
        GoURL.get "digits".toList laterParams = some (utf8 "6".toList) ∧
        GoURL.get "period".toList laterParams = some (utf8 "30".toList) := by decide
    exact
      { scheme := rfl
        type := rfl
        label := by rw [toList_label]
        secret := by rw [get_queryText, if_pos rfl]
        issuer := by rw [get_queryText, if_neg hkeys.1, hlater.1]
        digits := by rw [get_queryText, if_neg hkeys.2.1, hlater.2.1]
        period := by rw [get_queryText, if_neg hkeys.2.2, hlater.2.2] }

/-- A name that is carried is plain. -/
theorem Enrols.plain {buf : SecretBytes} {accountName : String} (h : Enrols buf accountName) :
    ∀ c ∈ accountName.toList, GoURL.isPlain c = true := by
  obtain ⟨setup, url, hgenerate, hparse, hcarries⟩ := h
  have huri : setup.uri = otpauthURI accountName (secretOf buf) := by
    unfold generate at hgenerate
    dsimp only at hgenerate
    split at hgenerate
    · cases hgenerate
    · have hsetup := Except.ok.inj hgenerate
      rw [← hsetup]
  rw [huri, toList_otpauthURI] at hparse
  have hpath : url.path = utf8 ('/' :: labelText accountName) := by
    rw [hcarries.label, toList_label]
  obtain ⟨hscheme, hauthority, hdelims, hctl⟩ := beforeLabel
  have hlabel := GoURL.plain_of_parse hscheme hauthority hdelims hctl hparse hpath
  unfold labelText at hlabel
  rw [List.forall_mem_append, List.forall_mem_cons] at hlabel
  exact hlabel.2.2

/-- **When the URI carries the name and the secret**: exactly if the name has no control
character and none of `?`, `#` and `%`. -/
theorem generate_enrols_iff (buf : SecretBytes) (accountName : String) :
    Enrols buf accountName ↔ ∀ c ∈ accountName.toList, GoURL.isPlain c = true := by
  constructor
  · exact Enrols.plain
  · exact enrols_of_plain buf

/-- A name that can be stored, but is not carried. -/
theorem generate_questionMark :
    ¬ ∀ (buf : SecretBytes) (accountName : String), accountName ≠ "" →
      normalizeUsername accountName = accountName → Enrols buf accountName := by
  intro h
  have henrols := h (Vector.replicate 20 0) "who?" (by decide) (by decide)
  exact absurd (henrols.plain '?' (by decide)) (by decide)

end TLSentinel.Users
