/-
  TLSentinel.Notifications.Sender
  ───────────────────────────────
  **SENDING ONE MAIL.**

  `Send` of `internal/mail/sender.go`: it checks the headers, the auth type and
  the TLS mode, and talks to the SMTP server.  Which command of the conversation
  fails, if any, is the network's choice.

  `send_eq_ok_iff` says exactly when a mail is sent.
-/
import TLSentinel.Base

namespace TLSentinel.Notifications

/-! ## §1. The checks. -/

/-- `mail.Config`, with the decrypted password. -/
structure Config where
  smtpHost : String
  smtpPort : Int
  authType : String
  smtpUsername : String
  smtpPassword : String
  fromAddress : String
  fromName : String
  tlsMode : String
  deriving DecidableEq, Repr

/-- A command of an SMTP conversation. -/
inductive SMTPCommand where
  | dial
  | client
  | startTLS
  | auth
  | mailFrom
  | rcptTo
  | data
  | write
  | close
  deriving DecidableEq, Repr

/-- Why `Send` fails. -/
inductive SendError where
  /-- "invalid recipient address". -/
  | recipient
  /-- "invalid from address". -/
  | fromAddress
  /-- "subject contains CR or LF". -/
  | subject
  /-- "from name contains CR or LF". -/
  | fromName
  /-- "unknown auth_type". -/
  | authType (authType : String)
  /-- "generate mime boundary". -/
  | boundary
  /-- "unknown tls_mode". -/
  | tlsMode (mode : String)
  /-- The conversation fails at a command. -/
  | smtp (command : SMTPCommand)
  deriving DecidableEq, Repr

/-- What happens outside the process during one `Send`. -/
structure Network where
  /-- `rand.Read` fills the boundary. -/
  random : Bool
  /-- The command at which the server or the connection fails. -/
  failsAt : Option SMTPCommand
  deriving DecidableEq, Repr

/-- `strings.ContainsAny(s, "\r\n")`. -/
def containsLineBreak (s : String) : Bool := s.toList.any (fun c => c = '\r' || c = '\n')

/-- `validateHeaders`; `parseAddress` says whether `mail.ParseAddress` accepts a string. -/
def validateHeaders (parseAddress : String → Bool) (recipient subject fromAddr fromName : String) :
    Except SendError Unit :=
  if parseAddress recipient = false then .error .recipient
  else if parseAddress fromAddr = false then .error .fromAddress
  else if containsLineBreak subject then .error .subject
  else if containsLineBreak fromName then .error .fromName
  else .ok ()

/-- `buildAuth`: whether the server is authenticated to. -/
def buildAuth (cfg : Config) : Except SendError Bool :=
  if cfg.authType = "plain" ∨ cfg.authType = "login" then .ok true
  else if cfg.authType = "none" ∨ cfg.authType = "" then .ok false
  else .error (.authType cfg.authType)

/-- The commands of `writeMessage`. -/
def writeMessage : List SMTPCommand := [.mailFrom, .rcptTo, .data, .write, .close]

/-- The commands of `sendWithSTARTTLS`. -/
def sendWithSTARTTLS (auth requireTLS : Bool) : List SMTPCommand :=
  [.dial] ++ (if requireTLS then [.startTLS] else []) ++ (if auth then [.auth] else [])
    ++ writeMessage

/-- The commands of `sendExplicitTLS`. -/
def sendExplicitTLS (auth : Bool) : List SMTPCommand :=
  [.dial, .client] ++ (if auth then [.auth] else []) ++ writeMessage

/-- The conversation that the TLS mode asks for. -/
def conversation (cfg : Config) (auth : Bool) : Except SendError (List SMTPCommand) :=
  if cfg.tlsMode = "tls" then .ok (sendExplicitTLS auth)
  else if cfg.tlsMode = "starttls" then .ok (sendWithSTARTTLS auth true)
  else if cfg.tlsMode = "none" ∨ cfg.tlsMode = "" then .ok (sendWithSTARTTLS auth false)
  else .error (.tlsMode cfg.tlsMode)

/-- `Send`; the body only goes into the message. -/
def send (parseAddress : String → Bool) (cfg : Config) (recipient subject : String)
    (net : Network) : Except SendError Unit :=
  match validateHeaders parseAddress recipient subject cfg.fromAddress cfg.fromName with
  | .error e => .error e
  | .ok _ =>
      match buildAuth cfg with
      | .error e => .error e
      | .ok auth =>
          if net.random = false then .error .boundary
          else
            match conversation cfg auth with
            | .error e => .error e
            | .ok commands =>
                match net.failsAt with
                | none => .ok ()
                | some command =>
                    if command ∈ commands then .error (.smtp command) else .ok ()

/-! ## §2. When a mail is sent. -/

/-- The auth type is known. -/
def KnownAuth (cfg : Config) : Prop := cfg.authType ∈ ["plain", "login", "none", ""]

/-- The TLS mode is known. -/
def KnownTLS (cfg : Config) : Prop := cfg.tlsMode ∈ ["tls", "starttls", "none", ""]

/-- No command of the conversation fails. -/
def Connects (cfg : Config) (net : Network) : Prop :=
  net.random = true ∧
    ∀ auth commands command, buildAuth cfg = .ok auth → conversation cfg auth = .ok commands →
      net.failsAt = some command → command ∉ commands

/-- The mail passes the checks of `Send`, and the network carries it. -/
structure Deliverable (parseAddress : String → Bool) (cfg : Config) (recipient subject : String)
    (net : Network) : Prop where
  recipient : parseAddress recipient = true
  fromAddress : parseAddress cfg.fromAddress = true
  subject : containsLineBreak subject = false
  fromName : containsLineBreak cfg.fromName = false
  auth : KnownAuth cfg
  tls : KnownTLS cfg
  network : Connects cfg net

/-- The headers are accepted exactly if all four are. -/
theorem validateHeaders_eq_ok_iff {parseAddress : String → Bool}
    {recipient subject fromAddr fromName : String} :
    validateHeaders parseAddress recipient subject fromAddr fromName = .ok () ↔
      parseAddress recipient = true ∧ parseAddress fromAddr = true ∧
        containsLineBreak subject = false ∧ containsLineBreak fromName = false := by
  unfold validateHeaders
  cases parseAddress recipient <;> cases parseAddress fromAddr <;>
    cases containsLineBreak subject <;> cases containsLineBreak fromName <;> simp

theorem buildAuth_isOk_iff {cfg : Config} :
    (∃ auth, buildAuth cfg = .ok auth) ↔ KnownAuth cfg := by
  unfold buildAuth KnownAuth
  by_cases h₁ : cfg.authType = "plain" ∨ cfg.authType = "login"
  · rw [if_pos h₁]
    rcases h₁ with h | h <;> simp [h]
  · rw [if_neg h₁]
    by_cases h₂ : cfg.authType = "none" ∨ cfg.authType = ""
    · rw [if_pos h₂]
      rcases h₂ with h | h <;> simp [h]
    · rw [if_neg h₂]
      obtain ⟨hplain, hlogin⟩ := not_or.mp h₁
      obtain ⟨hnone, hempty⟩ := not_or.mp h₂
      simp [hplain, hlogin, hnone, hempty]

theorem conversation_isOk_iff {cfg : Config} {auth : Bool} :
    (∃ commands, conversation cfg auth = .ok commands) ↔ KnownTLS cfg := by
  unfold conversation KnownTLS
  by_cases h₁ : cfg.tlsMode = "tls"
  · simp [h₁]
  · by_cases h₂ : cfg.tlsMode = "starttls"
    · simp [h₂]
    · rw [if_neg h₁, if_neg h₂]
      by_cases h₃ : cfg.tlsMode = "none" ∨ cfg.tlsMode = ""
      · rw [if_pos h₃]
        rcases h₃ with h | h <;> simp [h]
      · rw [if_neg h₃]
        obtain ⟨hnone, hempty⟩ := not_or.mp h₃
        simp [h₁, h₂, hnone, hempty]

/-- **When a mail is sent.** -/
theorem send_eq_ok_iff {parseAddress : String → Bool} {cfg : Config} {recipient subject : String}
    {net : Network} :
    send parseAddress cfg recipient subject net = .ok () ↔
      Deliverable parseAddress cfg recipient subject net := by
  unfold send
  cases hheaders : validateHeaders parseAddress recipient subject cfg.fromAddress cfg.fromName with
  | error e =>
      refine ⟨fun h => absurd h (by simp), fun h => ?_⟩
      have hok := validateHeaders_eq_ok_iff.mpr
        ⟨h.recipient, h.fromAddress, h.subject, h.fromName⟩
      rw [hok] at hheaders
      exact absurd hheaders (by simp)
  | ok u =>
      obtain ⟨hto, hfrom, hsubject, hname⟩ := validateHeaders_eq_ok_iff.mp hheaders
      cases hauth : buildAuth cfg with
      | error e =>
          refine ⟨fun h => absurd h (by simp), fun h => ?_⟩
          obtain ⟨auth, hok⟩ := buildAuth_isOk_iff.mpr h.auth
          rw [hok] at hauth
          exact absurd hauth (by simp)
      | ok auth =>
          have hknown : KnownAuth cfg := buildAuth_isOk_iff.mp ⟨auth, hauth⟩
          cases hrandom : net.random with
          | false =>
              simp only [if_true]
              refine ⟨fun h => absurd h (by simp), fun h => ?_⟩
              exact absurd h.network.1 (by simp [hrandom])
          | true =>
              simp only [Bool.true_eq_false, if_false]
              cases htls : conversation cfg auth with
              | error e =>
                  refine ⟨fun h => absurd h (by simp), fun h => ?_⟩
                  obtain ⟨commands, hok⟩ := (@conversation_isOk_iff cfg auth).mpr h.tls
                  rw [hok] at htls
                  exact absurd htls (by simp)
              | ok commands =>
                  have htlsKnown : KnownTLS cfg := conversation_isOk_iff.mp ⟨commands, htls⟩
                  cases hfails : net.failsAt with
                  | none =>
                      refine ⟨fun _ => ⟨hto, hfrom, hsubject, hname, hknown, htlsKnown,
                        hrandom, ?_⟩, fun _ => rfl⟩
                      intro _ _ command _ _ h
                      rw [hfails] at h
                      exact absurd h (by simp)
                  | some command =>
                      by_cases hmem : command ∈ commands
                      · simp only [hmem, if_true]
                        refine ⟨fun h => absurd h (by simp), fun h => ?_⟩
                        exact absurd hmem (h.network.2 auth commands command hauth htls hfails)
                      · simp only [hmem, if_false, true_iff]
                        refine ⟨hto, hfrom, hsubject, hname, hknown, htlsKnown, hrandom, ?_⟩
                        intro auth' commands' command' h₁ h₂ h₃
                        rw [hauth] at h₁
                        cases h₁
                        rw [htls] at h₂
                        cases h₂
                        rw [hfails] at h₃
                        cases h₃
                        exact hmem

end TLSentinel.Notifications
