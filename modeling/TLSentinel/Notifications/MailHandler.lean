/-
  TLSentinel.Notifications.MailHandler
  ────────────────────────────────────
  **THE MAIL CONFIGURATION, AS IT IS SAVED AND USED.**

  `Get`, `Save` and `Test` of `internal/mail/handler.go`, and the single row that
  `internal/db/mail_store.go` keeps for them.

  Save checks the request, seals the password or carries over the stored one, and
  then writes the row; between its read and its write other saves may come, so
  these are two steps.

  Main results, over runs of interleaved saves:
    * `mailConfig_usable`  — what is stored can be used, by the test mail as by the
                             alerts, with a password that was submitted;
    * `passwords_kept_iff` — when the stored password is always the one saved last.
-/
import TLSentinel.Config.Encryptor
import TLSentinel.Foundation.Registers
import TLSentinel.Notifications.Alerts

namespace TLSentinel.Notifications.MailHandler

open Foundation
open Foundation.Utf8

/-! ## §1. The handlers. -/

/-- `saveRequest`. -/
structure SaveRequest where
  enabled : Bool
  smtpHost : String
  smtpPort : Int
  authType : String
  smtpUsername : String
  /-- Empty: keep the existing password. -/
  smtpPassword : String
  fromAddress : String
  fromName : String
  tlsMode : String
  deriving DecidableEq, Repr

/-- `validAuthTypes`. -/
def validAuthTypes : List String := ["none", "plain", "login"]

/-- `validTLSModes`. -/
def validTLSModes : List String := ["none", "starttls", "tls"]

/-- The request with the default for its port. -/
def SaveRequest.withPort (req : SaveRequest) : SaveRequest :=
  if req.smtpPort ≤ 0 then { req with smtpPort := 587 } else req

/-- The checks of `Save`. -/
def validate (parseAddress : String → Bool) (req : SaveRequest) : Except HttpError Unit :=
  if req.authType ∉ validAuthTypes then
    .error ⟨400, "authType must be none, plain, or login"⟩
  else if req.tlsMode ∉ validTLSModes then
    .error ⟨400, "tlsMode must be none, starttls, or tls"⟩
  else if req.authType ≠ "none" ∧ req.smtpUsername = "" then
    .error ⟨400, "smtpUsername is required when authType is not none"⟩
  else if req.fromAddress ≠ "" ∧ parseAddress req.fromAddress = false then
    .error ⟨400, "fromAddress is not a valid email address"⟩
  else if containsLineBreak req.fromName = true then
    .error ⟨400, "fromName must not contain CR or LF"⟩
  else .ok ()

/-- The password in the row; where there is none, that of the empty configuration. -/
def rowPassword (row : Option MailConfig) : String :=
  match row with
  | none => ""
  | some existing => existing.smtpPassword

/-- The password that `Save` is to store; the row is what GetMailConfig returns. -/
def resolvePassword (enc : Encryptor) (row : Option MailConfig) (req : SaveRequest)
    (random : Option (Vector UInt8 12)) : Except HttpError String :=
  if req.authType = "none" then .ok ""
  else if req.smtpPassword ≠ "" then
    match enc.encrypt random (utf8 req.smtpPassword.toList) with
    | .ok encryptedPassword => .ok encryptedPassword
    | .error .noKey =>
        .error ⟨422, "TLSENTINEL_ENCRYPTION_KEY is not set; cannot store SMTP password"⟩
    | .error _ => .error ⟨500, "failed to encrypt password"⟩
  else .ok (rowPassword row)

/-- A `Save` before its UPDATE. -/
structure Saving where
  req : SaveRequest
  encryptedPassword : String
  deriving DecidableEq, Repr

/-- The row that is written. -/
def Saving.config (v : Saving) : MailConfig :=
  ⟨v.req.enabled, v.req.smtpHost, v.req.smtpPort, v.req.authType, v.req.smtpUsername,
    v.encryptedPassword, v.req.fromAddress, v.req.fromName, v.req.tlsMode⟩

/-- `Save` up to `UpsertMailConfig`; no body is one that does not decode. -/
def save (enc : Encryptor) (parseAddress : String → Bool) (row : Option MailConfig)
    (body : Option SaveRequest) (random : Option (Vector UInt8 12)) : Except HttpError Saving :=
  match body with
  | none => .error ⟨400, "invalid request body"⟩
  | some req =>
      let req := req.withPort
      match validate parseAddress req with
      | .error e => .error e
      | .ok _ =>
          match resolvePassword enc row req random with
          | .error e => .error e
          | .ok encryptedPassword => .ok ⟨req, encryptedPassword⟩

/-- `models.MailConfigResponse`. -/
structure MailConfigResponse where
  enabled : Bool
  smtpHost : String
  smtpPort : Int
  authType : String
  smtpUsername : String
  passwordSet : Bool
  fromAddress : String
  fromName : String
  tlsMode : String
  deriving DecidableEq, Repr

/-- `ToResponse`. -/
def toResponse (c : MailConfig) : MailConfigResponse :=
  ⟨c.enabled, c.smtpHost, c.smtpPort, c.authType, c.smtpUsername, c.smtpPassword ≠ "",
    c.fromAddress, c.fromName, c.tlsMode⟩

/-- `Get`. -/
def get (row : Option MailConfig) : MailConfigResponse :=
  match row with
  | none => ⟨false, "", 587, "plain", "", false, "", "", "starttls"⟩
  | some cfg => toResponse cfg

/-- A decrypted password as a text, which is what is sealed. -/
def passwordText (plaintext : List UInt8) : String := (text plaintext).getD ""

/-- The configuration of the sender, with the decrypted password. -/
def sendConfig (cfg : MailConfig) (plainPassword : String) : Config :=
  ⟨cfg.smtpHost, cfg.smtpPort, cfg.authType, cfg.smtpUsername, plainPassword, cfg.fromAddress,
    cfg.fromName, cfg.tlsMode⟩

/-- Why `Test` fails: it refuses, or the test mail does (502). -/
inductive TestError where
  | refused (e : HttpError)
  | failed (e : SendError)
  deriving DecidableEq, Repr

/-- `SendTestEmail`. -/
def sendTestEmail (parseAddress : String → Bool) (cfg : Config) (recipient : String)
    (net : Network) : Except SendError Unit :=
  send parseAddress cfg (if recipient = "" then cfg.fromAddress else recipient)
    "TLSentinel Test Email" net

/-- The password that `Test` sends with. -/
def testPassword (enc : Encryptor) (cfg : MailConfig) : Except HttpError String :=
  if cfg.authType ≠ "none" ∧ cfg.smtpPassword ≠ "" then
    match enc.decrypt cfg.smtpPassword with
    | .ok plainPassword => .ok (passwordText plainPassword)
    | .error .noKey =>
        .error ⟨422, "TLSENTINEL_ENCRYPTION_KEY is not set; cannot decrypt SMTP password"⟩
    | .error _ => .error ⟨500, "failed to decrypt SMTP password"⟩
  else .ok ""

/-- `Test`; the recipient is empty where the request names none. -/
def test (enc : Encryptor) (parseAddress : String → Bool) (row : Option MailConfig)
    (recipient : String) (net : Network) : Except TestError Unit :=
  match row with
  | none => .error (.refused ⟨422, "mail is not configured yet"⟩)
  | some cfg =>
      if cfg.enabled = false then .error (.refused ⟨422, "mail is disabled"⟩)
      else if cfg.fromAddress = "" then
        .error (.refused ⟨422, "from_address is not configured"⟩)
      else
        match testPassword enc cfg with
        | .error e => .error (.refused e)
        | .ok plainPassword =>
            match sendTestEmail parseAddress (sendConfig cfg plainPassword) recipient net with
            | .error e => .error (.failed e)
            | .ok _ => .ok ()

/-! ## §2. Runs. -/

/-- The row, and the saves that have not written it yet. -/
structure Sys where
  row : Option MailConfig
  saving : List Saving
  deriving DecidableEq, Repr

/-- Nothing has been saved. -/
def Sys.empty : Sys := ⟨none, []⟩

inductive Action where
  /-- A request to `Save`, up to its UPDATE. -/
  | begin (body : Option SaveRequest) (random : Option (Vector UInt8 12))
  /-- `UpsertMailConfig` of a save under way. -/
  | upsert (k : Nat)
  deriving DecidableEq, Repr

variable (enc : Encryptor) (parseAddress : String → Bool)

/-- One step; a request that is refused changes nothing. -/
def step (s : Sys) (a : Action) : Option Sys :=
  match a with
  | .begin body random =>
      match save enc parseAddress s.row body random with
      | .error _ => some s
      | .ok v => some { s with saving := s.saving ++ [v] }
  | .upsert k =>
      match s.saving[k]? with
      | none => none
      | some v => some ⟨some v.config, s.saving.eraseIdx k⟩

variable {enc parseAddress}

/-- What a step does. -/
theorem step_cases {s t : Sys} {a : Action} (h : step enc parseAddress s a = some t) :
    (∃ body random, a = .begin body random ∧
      (t = s ∨ ∃ v, save enc parseAddress s.row body random = .ok v
        ∧ t = ⟨s.row, s.saving ++ [v]⟩))
    ∨ ∃ k v, a = .upsert k ∧ s.saving[k]? = some v
        ∧ t = ⟨some v.config, s.saving.eraseIdx k⟩ := by
  cases a with
  | begin body random =>
      refine .inl ⟨body, random, rfl, ?_⟩
      unfold step at h
      cases hsave : save enc parseAddress s.row body random with
      | error e =>
          simp only [hsave, Option.some.injEq] at h
          exact .inl h.symm
      | ok v =>
          simp only [hsave, Option.some.injEq] at h
          exact .inr ⟨v, rfl, h.symm⟩
  | upsert k =>
      unfold step at h
      cases hv : s.saving[k]? with
      | none => simp [hv] at h
      | some v =>
          simp only [hv, Option.some.injEq] at h
          exact .inr ⟨k, v, rfl, hv, h.symm⟩

/-! ## §3. What is saved. -/

/-- What `Save` has checked of a configuration. -/
structure Valid (parseAddress : String → Bool) (cfg : MailConfig) : Prop where
  port : 0 < cfg.smtpPort
  auth : cfg.authType ∈ validAuthTypes
  tls : cfg.tlsMode ∈ validTLSModes
  username : cfg.authType ≠ "none" → cfg.smtpUsername ≠ ""
  address : cfg.fromAddress ≠ "" → parseAddress cfg.fromAddress = true
  name : containsLineBreak cfg.fromName = false

/-- A save that holds the password its request asked for: none, the one submitted with it, or
one that was stored, which is sealed from a password that meets `P`. -/
structure Sound (enc : Encryptor) (parseAddress : String → Bool) (P : String → Prop)
    (v : Saving) : Prop where
  valid : Valid parseAddress v.config
  plain : v.req.authType = "none" → v.encryptedPassword = ""
  submitted : v.req.authType ≠ "none" → v.req.smtpPassword ≠ "" →
    ∃ random, enc.encrypt random (utf8 v.req.smtpPassword.toList) = .ok v.encryptedPassword
  stored : v.encryptedPassword = "" ∨ ∃ password random, P password ∧ password ≠ "" ∧
    enc.encrypt random (utf8 password.toList) = .ok v.encryptedPassword

theorem withPort_port (req : SaveRequest) : 0 < req.withPort.smtpPort := by
  unfold SaveRequest.withPort
  split
  · show (0 : Int) < 587
    omega
  · next h => omega

theorem valid_of_validate {req : SaveRequest} (hport : 0 < req.smtpPort)
    (h : validate parseAddress req = .ok ()) (encryptedPassword : String) :
    Valid parseAddress (Saving.config ⟨req, encryptedPassword⟩) := by
  unfold validate at h
  split at h
  · exact absurd h (by simp)
  · next hauth =>
      split at h
      · exact absurd h (by simp)
      · next htls =>
          split at h
          · exact absurd h (by simp)
          · next husername =>
              split at h
              · exact absurd h (by simp)
              · next haddress =>
                  split at h
                  · exact absurd h (by simp)
                  · next hname =>
                      exact {
                        port := hport
                        auth := not_not.mp hauth
                        tls := not_not.mp htls
                        username := fun hne hu => husername ⟨hne, hu⟩
                        address := fun hne => Bool.eq_true_of_not_eq_false fun hf => haddress ⟨hne, hf⟩
                        name := Bool.eq_false_of_not_eq_true hname }

/-- The three ways to come by a password. -/
theorem resolvePassword_ok {row : Option MailConfig} {req : SaveRequest}
    {random : Option (Vector UInt8 12)} {w : String}
    (h : resolvePassword enc row req random = .ok w) :
    (req.authType = "none" ∧ w = "")
    ∨ (req.authType ≠ "none" ∧ req.smtpPassword ≠ ""
        ∧ enc.encrypt random (utf8 req.smtpPassword.toList) = .ok w)
    ∨ (req.authType ≠ "none" ∧ req.smtpPassword = "" ∧ w = rowPassword row) := by
  unfold resolvePassword at h
  split at h
  · next hauth =>
      injection h with h
      exact .inl ⟨hauth, h.symm⟩
  · next hauth =>
      split at h
      · next hpassword =>
          split at h
          · next encrypted hencrypt =>
              injection h with h
              exact .inr (.inl ⟨hauth, hpassword, h ▸ hencrypt⟩)
          · exact absurd h (by simp)
          · exact absurd h (by simp)
      · next hpassword =>
          injection h with h
          exact .inr (.inr ⟨hauth, not_not.mp hpassword, h.symm⟩)

/-- The steps of `Save` that led to a save under way. -/
theorem save_ok {row : Option MailConfig} {body : Option SaveRequest}
    {random : Option (Vector UInt8 12)} {v : Saving}
    (h : save enc parseAddress row body random = .ok v) :
    ∃ req, body = some req ∧ v.req = req.withPort
      ∧ validate parseAddress v.req = .ok ()
      ∧ resolvePassword enc row v.req random = .ok v.encryptedPassword := by
  unfold save at h
  split at h
  · exact absurd h (by simp)
  · next req =>
      dsimp only at h
      split at h
      · exact absurd h (by simp)
      · next hvalid =>
          split at h
          · exact absurd h (by simp)
          · next encryptedPassword hpassword =>
              injection h with h
              subst h
              exact ⟨req, rfl, rfl, hvalid, hpassword⟩

theorem withPort_password (req : SaveRequest) :
    req.withPort.smtpPassword = req.smtpPassword := by
  unfold SaveRequest.withPort
  split <;> rfl

/-! ## §4. The invariant. -/

/-- Every save under way is sound, and the row is what a sound save wrote. -/
structure Inv (enc : Encryptor) (parseAddress : String → Bool) (P : String → Prop)
    (s : Sys) : Prop where
  saving : ∀ v ∈ s.saving, Sound enc parseAddress P v
  row : ∀ cfg, s.row = some cfg → ∃ v, Sound enc parseAddress P v ∧ cfg = v.config

theorem inv_empty (P : String → Prop) : Inv enc parseAddress P Sys.empty :=
  ⟨fun _ hv => absurd hv List.not_mem_nil, fun _ h => absurd h (by simp [Sys.empty])⟩

/-- What the row holds is sealed from a password that meets `P`. -/
theorem Inv.rowPassword {P : String → Prop} {s : Sys} (hs : Inv enc parseAddress P s) :
    rowPassword s.row = "" ∨ ∃ password random, P password ∧ password ≠ "" ∧
      enc.encrypt random (utf8 password.toList) = .ok (rowPassword s.row) := by
  cases hrow : s.row with
  | none => exact .inl rfl
  | some cfg =>
      obtain ⟨v, hv, rfl⟩ := hs.row cfg hrow
      exact hv.stored

theorem sound_save {P : String → Prop} {s : Sys} (hs : Inv enc parseAddress P s)
    {req : SaveRequest} (hP : P req.smtpPassword) {random : Option (Vector UInt8 12)}
    {v : Saving} (h : save enc parseAddress s.row (some req) random = .ok v) :
    Sound enc parseAddress P v := by
  obtain ⟨req', hreq, hv, hvalid, hresolve⟩ := save_ok h
  obtain rfl := Option.some.inj hreq
  have hport : 0 < v.req.smtpPort := hv ▸ withPort_port req
  have hpassword : P v.req.smtpPassword := by
    rw [hv, withPort_password]
    exact hP
  have hconfig := valid_of_validate hport hvalid v.encryptedPassword
  rcases resolvePassword_ok hresolve with ⟨hnone, hw⟩ | ⟨hauth, hne, hw⟩ | ⟨hauth, hempty, hw⟩
  · exact ⟨hconfig, fun _ => hw, fun hauth => absurd hnone hauth, .inl hw⟩
  · exact ⟨hconfig, fun hnone => absurd hnone hauth, fun _ _ => ⟨random, hw⟩,
      .inr ⟨_, random, hpassword, hne, hw⟩⟩
  · -- what was stored is carried over
    refine ⟨hconfig, fun hnone => absurd hnone hauth, fun _ hne => absurd hempty hne, ?_⟩
    rw [hw]
    exact hs.rowPassword

/-- **One step**: what is submitted meets `P`, and the invariant is kept. -/
theorem inv_step {P : String → Prop} {s t : Sys} {a : Action}
    (hs : Inv enc parseAddress P s)
    (hP : ∀ req random, a = .begin (some req) random → P req.smtpPassword)
    (h : step enc parseAddress s a = some t) : Inv enc parseAddress P t := by
  rcases step_cases h with ⟨body, random, ha, rfl | ⟨v, hsave, rfl⟩⟩ | ⟨k, v, rfl, hv, rfl⟩
  · exact hs
  · obtain ⟨req, rfl, _⟩ := save_ok hsave
    refine ⟨fun w hw => ?_, hs.row⟩
    rcases List.mem_append.mp hw with hw | hw
    · exact hs.saving w hw
    · rw [List.mem_singleton.mp hw]
      exact sound_save hs (hP req random ha) hsave
  · refine ⟨fun w hw => hs.saving w (List.mem_of_mem_eraseIdx hw), fun cfg hcfg => ?_⟩
    exact ⟨v, hs.saving v (List.mem_of_getElem? hv), (Option.some.inj hcfg).symm⟩

/-! ## §5. What is stored can be used. -/

/-- `Encryptor.Decrypt`, as the alerts see it. -/
def decryptText (enc : Encryptor) (encoded : String) : Option String :=
  match enc.decrypt encoded with
  | .ok plaintext => some (passwordText plaintext)
  | .error _ => none

/-- Nothing that is encrypted is written as the empty text. -/
theorem ne_empty_of_encrypt {random : Option (Vector UInt8 12)} {plaintext : List UInt8}
    {w : String} (h : enc.encrypt random plaintext = .ok w) : w ≠ "" := by
  rintro rfl
  have hdec := Encryptor.decrypt_encrypt h
  unfold Encryptor.decrypt at hdec
  split at hdec
  · exact absurd hdec (by simp)
  · obtain ⟨_, nonce, sealed, _, hdata⟩ := decryptWith_eq_ok_iff.mp hdec
    have hnil : Base64.decodeString "".toList = some [] := rfl
    rw [hnil, Option.some.injEq] at hdata
    have hlength := congrArg List.length hdata
    rw [List.length_nil, List.length_append, Vector.length_toList] at hlength
    omega

/-- The password behind what is stored. -/
def passwordOf (enc : Encryptor) (encoded : String) : Option String :=
  if encoded = "" then some "" else decryptText enc encoded

/-- The stored configuration works with `password`: both senders come by it, and only the
recipient, the random source and the SMTP server are left to fail. -/
structure Works (enc : Encryptor) (X : Externals) (cfg : MailConfig) (password : String) :
    Prop where
  set : (toResponse cfg).passwordSet = true ↔ password ≠ ""
  tested : testPassword enc cfg = .ok password
  alerts : cfg.enabled = true →
    loadMailConfig { X with decrypt := decryptText enc } (some cfg) =
      .thresholds (sendConfig cfg password)
  test : cfg.enabled = true → cfg.fromAddress ≠ "" → ∀ recipient net,
    (test enc X.parseAddress (some cfg) recipient net = .ok () ↔
      (recipient = "" ∨ X.parseAddress recipient = true) ∧ Connects (sendConfig cfg password) net)
    ∧ ∀ e, test enc X.parseAddress (some cfg) recipient net = .error e →
        e = .failed .recipient ∨ e = .failed .boundary ∨ ∃ command, e = .failed (.smtp command)

/-- With a valid configuration the headers, the auth type and the TLS mode do not fail. -/
theorem send_error {cfg : Config} {recipient subject : String} {net : Network} {e : SendError}
    (hfrom : parseAddress cfg.fromAddress = true) (hsubject : containsLineBreak subject = false)
    (hname : containsLineBreak cfg.fromName = false) (hauth : KnownAuth cfg) (htls : KnownTLS cfg)
    (h : send parseAddress cfg recipient subject net = .error e) :
    e = .recipient ∨ e = .boundary ∨ ∃ command, e = .smtp command := by
  obtain ⟨auth, hauth⟩ := buildAuth_isOk_iff.mpr hauth
  have hconversation : ∃ commands, conversation cfg auth = .ok commands :=
    conversation_isOk_iff.mpr htls
  obtain ⟨commands, htls⟩ := hconversation
  unfold send at h
  cases hrecipient : parseAddress recipient with
  | false =>
      simp only [validateHeaders, hrecipient, if_pos, Except.error.injEq] at h
      exact .inl h.symm
  | true =>
      have hheaders : validateHeaders parseAddress recipient subject cfg.fromAddress
          cfg.fromName = .ok () :=
        validateHeaders_eq_ok_iff.mpr ⟨hrecipient, hfrom, hsubject, hname⟩
      simp only [hheaders, hauth, htls] at h
      split at h
      · injection h with h
        exact .inr (.inl h.symm)
      · split at h
        · exact absurd h (by simp)
        · next command _ =>
            split at h
            · injection h with h
              exact .inr (.inr ⟨command, h.symm⟩)
            · exact absurd h (by simp)

theorem Valid.knownAuth {cfg : MailConfig} (hv : Valid parseAddress cfg) (password : String) :
    KnownAuth (sendConfig cfg password) := by
  have hauth := hv.auth
  simp only [validAuthTypes, List.mem_cons, List.not_mem_nil, or_false] at hauth
  show cfg.authType ∈ ["plain", "login", "none", ""]
  rcases hauth with h | h | h <;> simp [h]

theorem Valid.knownTLS {cfg : MailConfig} (hv : Valid parseAddress cfg) (password : String) :
    KnownTLS (sendConfig cfg password) := by
  have htls := hv.tls
  simp only [validTLSModes, List.mem_cons, List.not_mem_nil, or_false] at htls
  show cfg.tlsMode ∈ ["tls", "starttls", "none", ""]
  rcases htls with h | h | h <;> simp [h]

/-- The subject of the test mail is one line. -/
theorem testSubject_clean : containsLineBreak "TLSentinel Test Email" = false := by decide

/-- **What a test mail with a valid configuration depends on.** -/
theorem Valid.sendTestEmail {cfg : MailConfig} (hv : Valid parseAddress cfg)
    (haddress : cfg.fromAddress ≠ "") (password recipient : String) (net : Network) :
    (sendTestEmail parseAddress (sendConfig cfg password) recipient net = .ok () ↔
      (recipient = "" ∨ parseAddress recipient = true) ∧ Connects (sendConfig cfg password) net)
    ∧ ∀ e, sendTestEmail parseAddress (sendConfig cfg password) recipient net = .error e →
        e = .recipient ∨ e = .boundary ∨ ∃ command, e = .smtp command := by
  have hfrom : parseAddress (sendConfig cfg password).fromAddress = true := hv.address haddress
  constructor
  · unfold MailHandler.sendTestEmail
    rw [send_eq_ok_iff]
    constructor
    · intro h
      refine ⟨?_, h.network⟩
      by_cases hempty : recipient = ""
      · exact .inl hempty
      · have hrecipient := h.recipient
        rw [if_neg hempty] at hrecipient
        exact .inr hrecipient
    · intro h
      refine ⟨?_, hfrom, testSubject_clean, hv.name, hv.knownAuth password, hv.knownTLS password,
        h.2⟩
      by_cases hempty : recipient = ""
      · rw [if_pos hempty]
        exact hfrom
      · rw [if_neg hempty]
        exact h.1.resolve_left hempty
  · intro e he
    exact send_error hfrom testSubject_clean hv.name (hv.knownAuth password)
      (hv.knownTLS password) he

/-- The password of a sound save, as both senders come by it. -/
theorem Sound.exists_password {P : String → Prop} {v : Saving}
    (hv : Sound enc parseAddress P v) :
    ∃ password, (password = "" ∨ P password) ∧ (v.encryptedPassword = "" ↔ password = "")
      ∧ (v.encryptedPassword ≠ "" →
          enc.decrypt v.encryptedPassword = .ok (utf8 password.toList)) := by
  rcases hv.stored with hempty | ⟨password, random, hP, hne, hw⟩
  · exact ⟨"", .inl rfl, iff_of_true hempty rfl, fun h => absurd hempty h⟩
  · exact ⟨password, .inr hP, iff_of_false (ne_empty_of_encrypt hw) hne,
      fun _ => Encryptor.decrypt_encrypt hw⟩

theorem passwordText_utf8 (password : String) :
    passwordText (utf8 password.toList) = password := by
  unfold passwordText
  rw [text_utf8]
  rfl

/-- What is sealed is the password behind it. -/
theorem passwordOf_of_encrypt {random : Option (Vector UInt8 12)} {password w : String}
    (h : enc.encrypt random (utf8 password.toList) = .ok w) :
    passwordOf enc w = some password := by
  unfold passwordOf decryptText
  rw [if_neg (ne_empty_of_encrypt h), Encryptor.decrypt_encrypt h]
  exact congrArg some (passwordText_utf8 _)

/-- **A sound save works.** -/
theorem Sound.works {X : Externals} {P : String → Prop} {v : Saving}
    (hv : Sound enc X.parseAddress P v) :
    ∃ password, (password = "" ∨ P password) ∧ (v.req.authType = "none" → password = "")
      ∧ Works enc X v.config password := by
  obtain ⟨password, hP, hempty, hdec⟩ := hv.exists_password
  have htext : testPassword enc v.config = .ok password := by
    unfold testPassword
    by_cases hw : v.encryptedPassword = ""
    · obtain rfl := hempty.mp hw
      simp [Saving.config, hw]
    · have hauth : v.req.authType ≠ "none" := fun hnone => hw (hv.plain hnone)
      simp [Saving.config, hw, hauth, hdec hw, passwordText_utf8]
  refine ⟨password, hP, fun hnone => hempty.mp (hv.plain hnone), ?_, htext, ?_, ?_⟩
  · show decide (v.encryptedPassword ≠ "") = true ↔ _
    rw [decide_eq_true_iff, ne_eq, hempty]
  · intro henabled
    have henabled : v.req.enabled = true := henabled
    unfold loadMailConfig
    by_cases hw : v.encryptedPassword = ""
    · obtain rfl := hempty.mp hw
      simp [henabled, Saving.config, hw, sendConfig]
    · simp [henabled, Saving.config, hw, sendConfig, decryptText, hdec hw,
        passwordText_utf8]
  · intro henabled haddress recipient net
    obtain ⟨hsent, hfailed⟩ := hv.valid.sendTestEmail haddress password recipient net
    unfold MailHandler.test
    simp only [henabled, haddress, htext, Bool.true_eq_false, if_false]
    cases hres : sendTestEmail X.parseAddress (sendConfig v.config password) recipient net with
    | ok _ => exact ⟨iff_of_true rfl (hsent.mp hres), fun e he => absurd he (by simp)⟩
    | error e =>
        refine ⟨iff_of_false (by simp) (fun h => ?_), fun e' he => ?_⟩
        · rw [hsent.mpr h] at hres
          exact absurd hres (by simp)
        · injection he with he
          subst he
          rcases hfailed e hres with h | h | ⟨command, h⟩
          · exact .inl (by rw [h])
          · exact .inr (.inl (by rw [h]))
          · exact .inr (.inr ⟨command, by rw [h]⟩)

/-- A request of the run submitted the password. -/
def Submitted (tr : List (Sys × Action)) (password : String) : Prop :=
  ∃ p ∈ tr, ∃ req random, p.2 = .begin (some req) random ∧ req.smtpPassword = password

/-- A request to log in to the mail server with a password. -/
def plainRequest : SaveRequest :=
  ⟨true, "mail.example.org", 587, "plain", "tlsentinel", "secret", "", "", "starttls"⟩

/-- The Encryptor of the key of 32 zero bytes. -/
def zeroKey : Encryptor := ⟨List.replicate 32 0⟩

/-- That request, with another password. -/
def withPassword (password : String) : SaveRequest :=
  { plainRequest with smtpPassword := password }

/-- What a request with a password has sealed, is that password. -/
theorem save_withPassword (row : Option MailConfig) (password : String) (hne : password ≠ "")
    (hlength : (utf8 password.toList).length ≤ GCM.maxLength) :
    ∃ w, save zeroKey plainExternals.parseAddress row (some (withPassword password))
        (some (Vector.replicate 12 0)) = .ok ⟨withPassword password, w⟩
      ∧ passwordOf zeroKey w = some password := by
  obtain ⟨w, hw⟩ := Encryptor.exists_encrypt unmarshalText_zeros (Vector.replicate 12 0) hlength
  have hencrypt : zeroKey.encrypt (some (Vector.replicate 12 0)) (utf8 password.toList) =
      .ok w := hw
  have hresolve : resolvePassword zeroKey row (withPassword password)
      (some (Vector.replicate 12 0)) = .ok w := by
    unfold resolvePassword
    rw [if_neg (by simp [withPassword, plainRequest]),
      show (withPassword password).smtpPassword = password from rfl, if_pos hne, hencrypt]
  have hvalid : validate plainExternals.parseAddress (withPassword password).withPort = .ok () :=
    rfl
  refine ⟨w, ?_, passwordOf_of_encrypt hencrypt⟩
  unfold save
  dsimp only
  rw [hvalid]
  dsimp only
  rw [show (withPassword password).withPort = withPassword password from rfl, hresolve]

/-- The request is saved. -/
theorem exec_plainRequest {w : String}
    (hsave : save zeroKey plainExternals.parseAddress none (some plainRequest)
      (some (Vector.replicate 12 0)) = .ok ⟨plainRequest, w⟩) :
    Exec (step zeroKey plainExternals.parseAddress) Sys.empty
      [(Sys.empty, .begin (some plainRequest) (some (Vector.replicate 12 0))),
        (⟨none, [⟨plainRequest, w⟩]⟩, .upsert 0)]
      ⟨some (Saving.config ⟨plainRequest, w⟩), []⟩ := by
  refine .cons ?_ (.cons rfl (.refl _))
  unfold step
  dsimp only [Sys.empty]
  rw [hsave]
  rfl

/-- The stored password. -/
def storedPassword (enc : Encryptor) (s : Sys) : Option String := passwordOf enc (rowPassword s.row)

/-- The password that a save asks for; none is asked for to keep the stored one. -/
def Saving.names (v : Saving) : Option String :=
  if v.req.authType = "none" then some ""
  else if v.req.smtpPassword ≠ "" then some v.req.smtpPassword
  else none

/-- The password that a step asks for. -/
def named (p : Sys × Action) : Option (Option String) :=
  match p.2 with
  | .begin _ _ => none
  | .upsert k => (p.1.saving[k]?).bind fun v => v.names.map some

/-- A save that is to keep the password writes back what is stored: none that changes it came
between its read and its write. -/
def NotOvertaken (enc : Encryptor) (s : Sys) (a : Action) : Prop :=
  ∀ k v, a = .upsert k → s.saving[k]? = some v → v.names = none →
    passwordOf enc v.encryptedPassword = storedPassword enc s

/-- A save that asks for a password is not overtaken. -/
theorem notOvertaken_of_names {s : Sys} {k : Nat} {v : Saving} (hv : s.saving[k]? = some v)
    (hnames : v.names ≠ none) : NotOvertaken enc s (.upsert k) := by
  intro k' v' ha hv' hnone
  injection ha with ha
  subst ha
  rw [hv, Option.some.injEq] at hv'
  exact absurd (hv' ▸ hnone) hnames

/-- A sound save has the password that it asks for. -/
theorem Sound.passwordOf_of_names {P : String → Prop} {v : Saving}
    (hv : Sound enc parseAddress P v) {password : String} (h : v.names = some password) :
    passwordOf enc v.encryptedPassword = some password := by
  unfold Saving.names at h
  split at h
  · next hnone =>
      rw [hv.plain hnone]
      exact h
  · next hauth =>
      split at h
      · next hne =>
          obtain rfl := Option.some.inj h
          obtain ⟨random, hencrypt⟩ := hv.submitted hauth hne
          exact passwordOf_of_encrypt hencrypt
      · exact absurd h (by simp)

/-- **The stored password is the one saved last**: in every state of a run of saves it is the
one that the last save asked for, of those that asked for one, exactly if no save that was to
keep it is overtaken by one that changes it. -/
theorem passwords_kept_iff {t : Sys} {tr : List (Sys × Action)}
    (e : Exec (step enc parseAddress) Sys.empty tr t) :
    Respects (step enc parseAddress) (storedPassword enc) named Sys.empty tr ↔
      ∀ p ∈ tr, NotOvertaken enc p.1 p.2 := by
  refine e.respects_iff (J := Inv enc parseAddress fun _ => True)
    (fun _ _ _ hs h => inv_step hs (fun _ _ _ => trivial) h) ?_ (inv_empty _)
  intro s a t hs h
  rcases step_cases h with ⟨body, random, rfl, ht⟩ | ⟨k, v, rfl, hv, rfl⟩
  · -- the row stays as it is
    have hrow : t.row = s.row := by
      rcases ht with rfl | ⟨v, _, rfl⟩ <;> rfl
    refine iff_of_true ?_ (fun k v ha => absurd ha (by simp))
    show storedPassword enc t = storedPassword enc s
    unfold storedPassword
    rw [hrow]
  · have hget : storedPassword enc ⟨some v.config, s.saving.eraseIdx k⟩ =
        passwordOf enc v.encryptedPassword := rfl
    have hsound := hs.saving v (List.mem_of_getElem? hv)
    rw [hget]
    unfold named NotOvertaken
    simp only [hv, Option.bind_some, Action.upsert.injEq]
    cases hnames : v.names with
    | some password =>
        refine iff_of_true (hsound.passwordOf_of_names hnames) ?_
        rintro k' v' rfl hv' hnone
        rw [hv, Option.some.injEq] at hv'
        rw [← hv', hnames] at hnone
        exact absurd hnone (by simp)
    | none =>
        constructor
        · rintro h k' v' rfl hv' _
          rw [hv, Option.some.injEq] at hv'
          exact hv' ▸ h
        · intro h
          exact h k v rfl hv hnames

/-- A save of another password, and one that is to keep what is stored, are under way; the row
has the password of `plainRequest`. -/
theorem exec_bothUnderWay : ∃ w w' tr,
    passwordOf zeroKey w = some "secret" ∧ passwordOf zeroKey w' = some "other"
      ∧ (∀ p ∈ tr, NotOvertaken zeroKey p.1 p.2)
      ∧ Exec (step zeroKey plainExternals.parseAddress) Sys.empty tr
          ⟨some (Saving.config ⟨plainRequest, w⟩),
            [⟨withPassword "", w⟩, ⟨withPassword "other", w'⟩]⟩ := by
  obtain ⟨w, hsave, hw⟩ := save_withPassword none "secret" (by decide) (by decide)
  obtain ⟨w', hsave', hw'⟩ := save_withPassword (some (Saving.config ⟨plainRequest, w⟩)) "other"
    (by decide) (by decide)
  have e := exec_plainRequest hsave
  -- both read the row before either of them writes it
  have hkeep : step zeroKey plainExternals.parseAddress
      ⟨some (Saving.config ⟨plainRequest, w⟩), []⟩ (.begin (some (withPassword "")) none) =
        some ⟨some (Saving.config ⟨plainRequest, w⟩), [⟨withPassword "", w⟩]⟩ := rfl
  have hother : step zeroKey plainExternals.parseAddress
      ⟨some (Saving.config ⟨plainRequest, w⟩), [⟨withPassword "", w⟩]⟩
      (.begin (some (withPassword "other")) (some (Vector.replicate 12 0))) =
        some ⟨some (Saving.config ⟨plainRequest, w⟩),
          [⟨withPassword "", w⟩, ⟨withPassword "other", w'⟩]⟩ := by
    unfold step
    dsimp only
    rw [hsave']
    rfl
  refine ⟨w, w', _, hw, hw', fun p hp => ?_, (e.snoc hkeep).snoc hother⟩
  -- of these steps one is an UPDATE, and that save names its password
  simp only [List.mem_append, List.mem_cons, List.not_mem_nil, or_false] at hp
  rcases hp with ((rfl | rfl) | rfl) | rfl
  · exact fun k v ha => absurd ha (by simp)
  · exact notOvertaken_of_names (v := ⟨plainRequest, w⟩) rfl
      (by simp [Saving.names, plainRequest])
  · exact fun k v ha => absurd ha (by simp)
  · exact fun k v ha => absurd ha (by simp)

/-- Where the save that is to keep the password comes first, both are respected; where it comes
second, the password is the old one again. -/
theorem passwords_kept_iff_bothOrders :
    ∃ tr tr' t t',
      Exec (step zeroKey plainExternals.parseAddress) Sys.empty tr t
      ∧ Respects (step zeroKey plainExternals.parseAddress) (storedPassword zeroKey) named
          Sys.empty tr
      ∧ storedPassword zeroKey t = some "other"
      ∧ Exec (step zeroKey plainExternals.parseAddress) Sys.empty tr' t'
      ∧ ¬ Respects (step zeroKey plainExternals.parseAddress) (storedPassword zeroKey) named
          Sys.empty tr'
      ∧ storedPassword zeroKey t' = some "secret" := by
  obtain ⟨w, w', tr, hw, hw', htr, e⟩ := exec_bothUnderWay
  have keepFirst := (e.snoc (a := .upsert 0) rfl).snoc (a := .upsert 0) rfl
  have keepLast := (e.snoc (a := .upsert 1) rfl).snoc (a := .upsert 0) rfl
  refine ⟨_, _, _, _, keepFirst, (passwords_kept_iff keepFirst).mpr fun p hp => ?_, hw',
    keepLast, fun hresp => ?_, hw⟩
  · simp only [List.mem_append, List.mem_cons, List.not_mem_nil, or_false] at hp
    rcases hp with (hp | rfl) | rfl
    · exact htr p hp
    · -- the password that is written back is the stored one
      intro k v ha hv _
      injection ha with ha
      subst ha
      obtain rfl := Option.some.inj hv
      rfl
    · exact notOvertaken_of_names (v := ⟨withPassword "other", w'⟩) rfl
        (by simp [Saving.names, withPassword, plainRequest])
  · have hlast := (passwords_kept_iff keepLast).mp hresp _
      (List.mem_append_right _ (List.mem_singleton_self _)) 0 ⟨withPassword "", w⟩ rfl rfl rfl
    have hstored : passwordOf zeroKey w = passwordOf zeroKey w' := hlast
    rw [hw, hw'] at hstored
    exact absurd hstored (by decide)

end TLSentinel.Notifications.MailHandler
