/-
  TLSentinel.Notifications.Alerts
  ───────────────────────────────
  **THE EXPIRY ALERT JOB, STATEMENT BY STATEMENT.**

  `RunExpiryAlerts` of `internal/notifications/alerts.go` is two nested loops, over
  the recipients and over the expiring certificates of each.  For every certificate
  the job takes a slot in `tlsentinel.certificate_expiry_alerts`, then renders the
  mail and sends it.  Any number of passes may be under way, and between any two of
  their statements scans, the purge job and edits of the settings may run.

  `step_cases` says once what a step can do.  `refines`: seen from the slots, the job
  is an outbox (`Foundation.Outbox`): a pass claims an alert, and then delivers or
  fails; purges and edits only forget.
-/
import TLSentinel.Foundation.Outbox
import TLSentinel.Foundation.Runs
import TLSentinel.Notifications.Sender
import TLSentinel.Notifications.Store
import Mathlib.Data.List.Sort

namespace TLSentinel.Notifications

open Foundation

/-! ## §1. The mail of an alert. -/

/-- `alertThreshold`: the smallest threshold that the certificate has reached, or 0. -/
def alertThreshold (daysRemaining : Int) (thresholds : List Int) : Int :=
  thresholds.foldl (fun result t => if daysRemaining ≤ t then t else result) 0

/-- `certAlertData`. -/
structure CertAlertData where
  endpointName : String
  endpointType : String
  commonName : String
  notAfter : String
  daysRemaining : Int
  fingerprint : String
  deriving DecidableEq, Repr

/-- What the job uses from outside the repository. -/
structure Externals where
  /-- `mail.ParseAddress` accepts the string. -/
  parseAddress : String → Bool
  /-- `Encryptor.Decrypt`. -/
  decrypt : String → Option String
  /-- `Time.UTC().Format(time.RFC1123)`. -/
  formatRFC1123 : Int → String
  /-- Parsing and executing a `text/template`. -/
  renderTextTemplate : String → CertAlertData → Option String
  /-- Parsing and executing an `html/template`. -/
  renderHTMLTemplate : String → CertAlertData → Option String
  /-- The HTML of the embedded default template, which only `html/template` reads. -/
  defaultBody : String

variable (X : Externals)

/-- `GetDefault("cert_expiring", "email")`. -/
def getDefault : NotificationTemplate :=
  ⟨some "Certificate expiring in \x7b\x7b.DaysRemaining\x7d\x7d days — \x7b\x7b.EndpointName\x7d\x7d",
    X.defaultBody⟩

/-- `renderExpiryEmail` and `renderEmail`, on what GetNotificationTemplate returned: `none`
is an error, `some none` no override. -/
def renderExpiryEmail (cert : ExpiringCertItem) (thresholdDays : Int)
    (loaded : Option (Option NotificationTemplate)) : Option (String × String) :=
  let data : CertAlertData :=
    ⟨cert.endpointName, cert.endpointType, cert.commonName, X.formatRFC1123 cert.notAfter,
      thresholdDays, cert.fingerprint⟩
  match loaded with
  | none => none
  | some override =>
      let tmpl := override.getD (getDefault X)
      match X.renderTextTemplate (tmpl.subject.getD "") data with
      | none => none
      | some subject =>
          match X.renderHTMLTemplate tmpl.body data with
          | none => none
          | some body => some (subject, body)

/-- `expirySubject`. -/
def expirySubject (cert : ExpiringCertItem) (thresholdDays : Int) : String :=
  if thresholdDays = 1 then "TLSentinel: Certificate expiring TODAY — " ++ cert.endpointName
  else "TLSentinel: Certificate expiring in " ++ toString thresholdDays ++ " days — "
    ++ cert.endpointName

/-- `expiryBody`. -/
def expiryBody (cert : ExpiringCertItem) (thresholdDays : Int) : String :=
  let urgency :=
    if thresholdDays ≤ 1 then "expiring TODAY"
    else "expiring in " ++ toString thresholdDays ++ " days"
  "TLSentinel Certificate Expiry Alert\r\n"
    ++ "====================================\r\n\r\n"
    ++ "The following certificate is " ++ urgency ++ " and requires attention.\r\n\r\n"
    ++ "  Endpoint:      " ++ cert.endpointName ++ "\r\n"
    ++ "  Type:          " ++ cert.endpointType ++ "\r\n"
    ++ "  Common Name:   " ++ cert.commonName ++ "\r\n"
    ++ "  Expires:       " ++ X.formatRFC1123 cert.notAfter ++ "\r\n"
    ++ "  Days Left:     " ++ toString cert.daysRemaining ++ "\r\n"
    ++ "  Fingerprint:   " ++ cert.fingerprint ++ "\r\n"
    ++ "\r\nPlease renew this certificate before it expires.\r\n"
    ++ "\r\n---\r\nTLSentinel\r\n"

/-- Subject and body of the mail: rendered, or the plain text if rendering fails. -/
def mailText (cert : ExpiringCertItem) (thresholdDays : Int)
    (loaded : Option (Option NotificationTemplate)) : String × String :=
  (renderExpiryEmail X cert thresholdDays loaded).getD
    (expirySubject cert thresholdDays, expiryBody X cert thresholdDays)

/-! ## §2. A pass. -/

/-- What a pass has loaded before its loops. -/
structure Job where
  sendCfg : Config
  /-- Largest first. -/
  thresholds : List Int
  deriving DecidableEq, Repr

/-- The recipient a pass is at, and those still to come. -/
structure Recipient where
  job : Job
  rest : List User
  userID : String
  email : String
  deriving DecidableEq, Repr

/-- Where a pass stands: which statement comes next. -/
inductive Pc where
  /-- GetMailConfig. -/
  | idle
  /-- GetAlertThresholds. -/
  | thresholds (sendCfg : Config)
  /-- ListNotifyUsers. -/
  | recipients (job : Job)
  /-- The head of the outer loop. -/
  | users (job : Job) (rest : List User)
  /-- The second query of ListExpiringActiveCertsTagged. -/
  | subscribed (r : Recipient) (endpointIDs : List String)
  /-- The head of the inner loop. -/
  | certs (r : Recipient) (rest : List ExpiringCertItem)
  /-- The slot is taken; GetNotificationTemplate. -/
  | claimed (r : Recipient) (rest : List ExpiringCertItem) (cert : ExpiringCertItem)
      (threshold : Int)
  /-- The mail is rendered; Send. -/
  | sending (r : Recipient) (rest : List ExpiringCertItem) (cert : ExpiringCertItem)
      (threshold : Int) (subject htmlBody : String)
  | done
  deriving DecidableEq, Repr

/-- The first statements of `RunExpiryAlerts`, up to the decryption of the password. -/
def loadMailConfig (cfg : Option MailConfig) : Pc :=
  match cfg with
  | none => .done
  | some cfg =>
      if cfg.enabled = false then .done
      else
        match if cfg.smtpPassword = "" then some "" else X.decrypt cfg.smtpPassword with
        | none => .done
        | some plainPassword =>
            .thresholds ⟨cfg.smtpHost, cfg.smtpPort, cfg.authType, cfg.smtpUsername,
              plainPassword, cfg.fromAddress, cfg.fromName, cfg.tlsMode⟩

/-- The thresholds that were loaded, sorted. -/
def sortThresholds (sendCfg : Config) (loaded : Option (List Int)) : Pc :=
  match loaded with
  | none => .done
  | some thresholds =>
      if thresholds = [] then .done
      else .recipients ⟨sendCfg, thresholds.insertionSort (fun a b => b ≤ a)⟩

/-- The alert that a recipient is due for a certificate. -/
def alertFor (r : Recipient) (cert : ExpiringCertItem) (threshold : Int) : Alert :=
  ⟨r.userID, cert.fingerprint, threshold⟩

/-- The alert whose slot the pass has taken and that it has not sent yet. -/
def Pc.waiting : Pc → Option Alert
  | .claimed r _ cert threshold => some (alertFor r cert threshold)
  | .sending r _ cert threshold _ _ => some (alertFor r cert threshold)
  | _ => none

/-- The tables, the passes, and the alerts that were sent. -/
structure Sys where
  db : DB
  passes : Nat → Pc
  sent : List Alert

/-- Move pass `p` to `pc`. -/
def Sys.goto (s : Sys) (p : Nat) (pc : Pc) : Sys :=
  { s with passes := Function.update s.passes p pc }

/-- What can happen next. -/
inductive Action where
  | getMailConfig (p : Nat)
  | getAlertThresholds (p : Nat)
  | listNotifyUsers (p : Nat) (rows : List User)
  /-- The next recipient, and the endpoints it is subscribed to. -/
  | nextUser (p : Nat) (endpointIDs : List String)
  | listCerts (p : Nat) (now : Int) (rows : List ExpiringCertItem)
  /-- The next certificate, and TryInsertExpiryAlert. -/
  | nextCert (p : Nat) (now : Int)
  | loadTemplate (p : Nat)
  | send (p : Nat) (net : Network)
  /-- The statement that the pass is about to run fails. -/
  | storeFails (p : Nat)
  | insertCertificate (c : Certificate)
  /-- A scan records the certificate it found on an endpoint. -/
  | scan (now : Int) (endpointID fingerprint certUse : String)
  | purge
  | edit (settings : Settings)

/-- The statement of a pass fails: what the source does then. -/
def storeFails : Pc → Option Pc
  | .idle => some .done
  | .thresholds _ => some .done
  | .recipients _ => some .done
  | .users job (u :: rest) => if u.email.isSome then some (.users job rest) else none
  | .subscribed r _ => some (.users r.job r.rest)
  | .certs r (cert :: rest) =>
      if alertThreshold cert.daysRemaining r.job.thresholds = 0 then none
      else some (.certs r rest)
  | .claimed r rest cert threshold =>
      -- the template is not loaded, so the plain text goes out
      let text := mailText X cert threshold none
      some (.sending r rest cert threshold text.1 text.2)
  | _ => none

/-- One step. -/
def step (s : Sys) : Action → Option Sys
  | .getMailConfig p =>
      match s.passes p with
      | .idle => some (s.goto p (loadMailConfig X s.db.settings.mailConfig))
      | _ => none
  | .getAlertThresholds p =>
      match s.passes p with
      | .thresholds sendCfg => some (s.goto p (sortThresholds sendCfg s.db.getAlertThresholds))
      | _ => none
  | .listNotifyUsers p rows =>
      match s.passes p with
      | .recipients job =>
          -- without recipients the outer loop ends at once
          if rows.Perm s.db.listNotifyUsers then some (s.goto p (.users job rows)) else none
      | _ => none
  | .nextUser p endpointIDs =>
      match s.passes p with
      | .users _ [] => some (s.goto p .done)
      | .users job (u :: rest) =>
          match u.email with
          | none => some (s.goto p (.users job rest))
          | some email =>
              if endpointIDs.Perm (s.db.subscribedEndpoints u.id) then
                some (s.goto p (.subscribed ⟨job, rest, u.id, email⟩ endpointIDs))
              else none
      | _ => none
  | .listCerts p now rows =>
      match s.passes p with
      | .subscribed r endpointIDs =>
          if s.db.ListedCerts now endpointIDs (r.job.thresholds.headD 0) rows then
            some (s.goto p (.certs r rows))
          else none
      | _ => none
  | .nextCert p now =>
      match s.passes p with
      | .certs r [] => some (s.goto p (.users r.job r.rest))
      | .certs r (cert :: rest) =>
          let threshold := alertThreshold cert.daysRemaining r.job.thresholds
          if threshold = 0 then some (s.goto p (.certs r rest))
          else
            match s.db.tryInsertExpiryAlert now (alertFor r cert threshold) with
            | none => some (s.goto p (.certs r rest))
            | some (_, false) => some (s.goto p (.certs r rest))
            | some (db, true) =>
                some { s.goto p (.claimed r rest cert threshold) with db := db }
      | _ => none
  | .loadTemplate p =>
      match s.passes p with
      | .claimed r rest cert threshold =>
          let text := mailText X cert threshold (some s.db.settings.template)
          some (s.goto p (.sending r rest cert threshold text.1 text.2))
      | _ => none
  | .send p net =>
      match s.passes p with
      | .sending r rest cert threshold subject _ =>
          match Notifications.send X.parseAddress r.job.sendCfg r.email subject net with
          | .error _ => some (s.goto p (.certs r rest))
          | .ok _ =>
              some { s.goto p (.certs r rest) with
                sent := s.sent ++ [alertFor r cert threshold] }
      | _ => none
  | .storeFails p =>
      match storeFails X (s.passes p) with
      | some pc => some (s.goto p pc)
      | none => none
  | .insertCertificate c => some { s with db := s.db.insertCertificate c }
  | .scan now endpointID fingerprint certUse =>
      match s.db.upsertEndpointCert now endpointID fingerprint certUse with
      | some db => some { s with db := db }
      | none => some s
  | .purge => some { s with db := s.db.purgeExpiryAlerts.1 }
  | .edit settings => some { s with db := s.db.edit settings }

/-- The pass whose statement it is. -/
def Action.pass : Action → Option Nat
  | .getMailConfig p | .getAlertThresholds p | .listNotifyUsers p _ | .nextUser p _
  | .listCerts p _ _ | .nextCert p _ | .loadTemplate p | .send p _ | .storeFails p => some p
  | .insertCertificate _ | .scan _ _ _ _ | .purge | .edit _ => none

/-! ## §3. The job as an outbox. -/

/-- The slots, who has taken one and is about to send, and what was sent. -/
def Sys.outbox (s : Sys) : Outbox Nat Alert where
  taken := s.db.HasAlert
  held := fun p => (s.passes p).waiting
  delivered := s.sent

/-- What a step does to the outbox. -/
def moveOf (s : Sys) : Action → Outbox.Move Nat Alert
  | .nextCert p now =>
      match s.passes p with
      | .certs r (cert :: _) =>
          let threshold := alertThreshold cert.daysRemaining r.job.thresholds
          if threshold = 0 then .forget
          else
            match s.db.tryInsertExpiryAlert now (alertFor r cert threshold) with
            | some (_, true) => .claim p (alertFor r cert threshold)
            | _ => .forget
      | _ => .forget
  | .send p net =>
      match s.passes p with
      | .sending r _ cert threshold subject _ =>
          match Notifications.send X.parseAddress r.job.sendCfg r.email subject net with
          | .ok _ => .deliver p (alertFor r cert threshold)
          | .error _ => .fail p (alertFor r cert threshold)
      | _ => .forget
  | _ => .forget

variable {X}

theorem loadMailConfig_waiting (cfg : Option MailConfig) :
    (loadMailConfig X cfg).waiting = none := by
  unfold loadMailConfig
  split
  · rfl
  · split
    · rfl
    · split <;> rfl

theorem sortThresholds_waiting (sendCfg : Config) (loaded : Option (List Int)) :
    (sortThresholds sendCfg loaded).waiting = none := by
  unfold sortThresholds
  split
  · rfl
  · split <;> rfl

/-- Where a failing statement leads: the pass ends, a recipient or a certificate is passed
over, or the mail goes out as plain text. -/
theorem storeFails_cases {pc pc' : Pc} (h : storeFails X pc = some pc') :
    (pc' = .done ∧ pc.waiting = none) ∨
    (∃ job rest, pc' = .users job rest ∧ pc.waiting = none) ∨
    (∃ r cert rest, pc = .certs r (cert :: rest) ∧ pc' = .certs r rest) ∨
    ∃ r rest cert threshold subject htmlBody, pc = .claimed r rest cert threshold ∧
      pc' = .sending r rest cert threshold subject htmlBody := by
  cases pc with
  | idle => exact Or.inl ⟨(Option.some.inj h).symm, rfl⟩
  | thresholds _ => exact Or.inl ⟨(Option.some.inj h).symm, rfl⟩
  | recipients _ => exact Or.inl ⟨(Option.some.inj h).symm, rfl⟩
  | users job rest =>
      cases rest with
      | nil => exact absurd h (by simp [storeFails])
      | cons u rest =>
          simp only [storeFails] at h
          split at h
          · exact Or.inr (Or.inl ⟨job, rest, (Option.some.inj h).symm, rfl⟩)
          · exact absurd h (by simp)
  | subscribed r _ => exact Or.inr (Or.inl ⟨r.job, r.rest, (Option.some.inj h).symm, rfl⟩)
  | certs r rest =>
      cases rest with
      | nil => exact absurd h (by simp [storeFails])
      | cons cert rest =>
          simp only [storeFails] at h
          split at h
          · exact absurd h (by simp)
          · exact Or.inr (Or.inr (Or.inl ⟨r, cert, rest, rfl, (Option.some.inj h).symm⟩))
  | claimed r rest cert threshold =>
      exact Or.inr (Or.inr (Or.inr
        ⟨r, rest, cert, threshold, _, _, rfl, (Option.some.inj h).symm⟩))
  | sending _ _ _ _ _ _ => exact absurd h (by simp [storeFails])
  | done => exact absurd h (by simp [storeFails])

/-- A failing statement takes no slot and gives none up. -/
theorem storeFails_waiting {pc pc' : Pc} (h : storeFails X pc = some pc') :
    pc'.waiting = pc.waiting := by
  obtain ⟨rfl, hnone⟩ | ⟨job, rest, rfl, hnone⟩ | ⟨r, cert, rest, rfl, rfl⟩ |
    ⟨r, rest, cert, threshold, subject, htmlBody, rfl, rfl⟩ := storeFails_cases h
  · exact hnone.symm
  · exact hnone.symm
  · rfl
  · rfl

/-- Certificates and current certificates are no slots. -/
theorem hasAlert_insertCertificate {db : DB} {c : Certificate} {alert : Alert}
    (h : (db.insertCertificate c).HasAlert alert) : db.HasAlert alert := by
  unfold DB.insertCertificate at h
  split at h <;> exact h

theorem hasAlert_upsertEndpointCert {db db' : DB} {now : Int}
    {endpointID fingerprint certUse : String} {alert : Alert}
    (h : db.upsertEndpointCert now endpointID fingerprint certUse = some db')
    (ha : db'.HasAlert alert) : db.HasAlert alert := by
  unfold DB.upsertEndpointCert at h
  simp only [Option.map_eq_some_iff] at h
  obtain ⟨_, _, hdb⟩ := h
  subst hdb
  exact ha

/-! ## §4. What a step does. -/

/-- Everything a step can do, seen from the passes and the slots. -/
inductive Effect (X : Externals) (s : Sys) (a : Action) : Sys → Prop
  /-- A pass moves, and neither takes a slot nor gives one up. -/
  | quiet {p : Nat} {pc : Pc} : a.pass = some p → moveOf X s a = .forget →
      pc.waiting = (s.passes p).waiting → Effect X s a (s.goto p pc)
  | claim {p : Nat} {pc : Pc} {alert : Alert} {now : Int} {db : DB} : a.pass = some p →
      moveOf X s a = .claim p alert → (s.passes p).waiting = none → pc.waiting = some alert →
      s.db.tryInsertExpiryAlert now alert = some (db, true) →
      Effect X s a { s.goto p pc with db := db }
  | deliver {p : Nat} {pc : Pc} {alert : Alert} : a.pass = some p →
      moveOf X s a = .deliver p alert → (s.passes p).waiting = some alert → pc.waiting = none →
      Effect X s a { s.goto p pc with sent := s.sent ++ [alert] }
  | fail {p : Nat} {pc : Pc} {alert : Alert} : a.pass = some p →
      moveOf X s a = .fail p alert → (s.passes p).waiting = some alert → pc.waiting = none →
      Effect X s a (s.goto p pc)
  /-- Somebody else changes the tables, and takes no slot. -/
  | tables {db : DB} : a.pass = none → moveOf X s a = .forget →
      (∀ alert, db.HasAlert alert → s.db.HasAlert alert) → Effect X s a { s with db := db }

/-- The inner loop: a certificate takes a slot, or is passed over. -/
theorem nextCert_effect {s t : Sys} {p : Nat} {now : Int}
    (h : step X s (.nextCert p now) = some t) : Effect X s (.nextCert p now) t := by
  simp only [step] at h
  cases hpc : s.passes p with
  | certs r rest =>
      have hnone : (s.passes p).waiting = none := by rw [hpc]; rfl
      rw [hpc] at h
      cases rest with
      | nil =>
          injection h with h
          exact h ▸ .quiet rfl (by simp [moveOf, hpc]) hnone.symm
      | cons cert rest =>
          simp only at h
          split at h
          · next hzero =>
              injection h with h
              exact h ▸ .quiet rfl (by simp [moveOf, hpc, hzero]) hnone.symm
          · next hzero =>
              cases htry : s.db.tryInsertExpiryAlert now
                  (alertFor r cert (alertThreshold cert.daysRemaining r.job.thresholds)) with
              | none =>
                  rw [htry] at h
                  injection h with h
                  exact h ▸ .quiet rfl (by simp [moveOf, hpc, hzero, htry]) hnone.symm
              | some result =>
                  obtain ⟨db, inserted⟩ := result
                  rw [htry] at h
                  cases inserted with
                  | false =>
                      injection h with h
                      exact h ▸ .quiet rfl (by simp [moveOf, hpc, hzero, htry]) hnone.symm
                  | true =>
                      -- the slot was free, and is the pass's now
                      injection h with h
                      exact h ▸ .claim rfl (by simp [moveOf, hpc, hzero, htry]) hnone rfl htry
  | idle => simp [hpc] at h
  | thresholds _ => simp [hpc] at h
  | recipients _ => simp [hpc] at h
  | users _ _ => simp [hpc] at h
  | subscribed _ _ => simp [hpc] at h
  | claimed _ _ _ _ => simp [hpc] at h
  | sending _ _ _ _ _ _ => simp [hpc] at h
  | done => simp [hpc] at h

/-- A Send delivers or fails. -/
theorem send_effect {s t : Sys} {p : Nat} {net : Network}
    (h : step X s (.send p net) = some t) : Effect X s (.send p net) t := by
  simp only [step] at h
  cases hpc : s.passes p with
  | sending r rest cert threshold subject htmlBody =>
      have hholds : (s.passes p).waiting = some (alertFor r cert threshold) := by rw [hpc]; rfl
      rw [hpc] at h
      simp only at h
      cases hsend : Notifications.send X.parseAddress r.job.sendCfg r.email subject net with
      | error e =>
          rw [hsend] at h
          injection h with h
          exact h ▸ .fail rfl (by simp [moveOf, hpc, hsend]) hholds rfl
      | ok u =>
          rw [hsend] at h
          injection h with h
          exact h ▸ .deliver rfl (by simp [moveOf, hpc, hsend]) hholds rfl
  | idle => simp [hpc] at h
  | thresholds _ => simp [hpc] at h
  | recipients _ => simp [hpc] at h
  | users _ _ => simp [hpc] at h
  | subscribed _ _ => simp [hpc] at h
  | certs _ _ => simp [hpc] at h
  | claimed _ _ _ _ => simp [hpc] at h
  | done => simp [hpc] at h

/-- The outer loop takes no slot. -/
theorem nextUser_effect {s t : Sys} {p : Nat} {endpointIDs : List String}
    (h : step X s (.nextUser p endpointIDs) = some t) :
    Effect X s (.nextUser p endpointIDs) t := by
  simp only [step] at h
  split at h
  · next hpc =>
      injection h with h
      exact h ▸ .quiet rfl rfl (by rw [hpc]; rfl)
  · next hpc =>
      split at h
      · injection h with h
        exact h ▸ .quiet rfl rfl (by rw [hpc]; rfl)
      · split at h
        · injection h with h
          exact h ▸ .quiet rfl rfl (by rw [hpc]; rfl)
        · exact absurd h (by simp)
  · exact absurd h (by simp)

/-- **A step has one of these effects.** -/
theorem step_cases {s t : Sys} {a : Action} (h : step X s a = some t) : Effect X s a t := by
  cases a with
  | getMailConfig p =>
      simp only [step] at h
      split at h
      · next hpc =>
          injection h with h
          exact h ▸ .quiet rfl rfl (by rw [hpc, loadMailConfig_waiting]; rfl)
      · exact absurd h (by simp)
  | getAlertThresholds p =>
      simp only [step] at h
      split at h
      · next hpc =>
          injection h with h
          exact h ▸ .quiet rfl rfl (by rw [hpc, sortThresholds_waiting]; rfl)
      · exact absurd h (by simp)
  | listNotifyUsers p rows =>
      simp only [step] at h
      split at h
      · next hpc =>
          split at h
          · injection h with h
            exact h ▸ .quiet rfl rfl (by rw [hpc]; rfl)
          · exact absurd h (by simp)
      · exact absurd h (by simp)
  | nextUser p endpointIDs => exact nextUser_effect h
  | listCerts p now rows =>
      simp only [step] at h
      split at h
      · next hpc =>
          split at h
          · injection h with h
            exact h ▸ .quiet rfl rfl (by rw [hpc]; rfl)
          · exact absurd h (by simp)
      · exact absurd h (by simp)
  | nextCert p now => exact nextCert_effect h
  | loadTemplate p =>
      simp only [step] at h
      split at h
      · next hpc =>
          injection h with h
          exact h ▸ .quiet rfl rfl (by rw [hpc]; rfl)
      · exact absurd h (by simp)
  | send p net => exact send_effect h
  | storeFails p =>
      simp only [step] at h
      split at h
      · next hpc =>
          injection h with h
          exact h ▸ .quiet rfl rfl (storeFails_waiting hpc)
      · exact absurd h (by simp)
  | insertCertificate c =>
      injection h with h
      exact h ▸ .tables rfl rfl fun _ => hasAlert_insertCertificate
  | scan now endpointID fingerprint certUse =>
      simp only [step] at h
      split at h
      · next hscan =>
          injection h with h
          exact h ▸ .tables rfl rfl fun _ => hasAlert_upsertEndpointCert hscan
      · injection h with h
        exact h ▸ .tables rfl rfl fun _ halert => halert
  | purge =>
      injection h with h
      exact h ▸ .tables rfl rfl fun _ halert => (DB.hasAlert_purgeExpiryAlerts.mp halert).1
  | edit settings =>
      injection h with h
      exact h ▸ .tables rfl rfl fun _ => DB.hasAlert_of_edit

/-- A step moves no pass but its own. -/
theorem passes_step {s t : Sys} {a : Action} (h : step X s a = some t) {q : Nat}
    (hq : a.pass ≠ some q) : t.passes q = s.passes q := by
  have hgoto : ∀ p pc, a.pass = some p → (s.goto p pc).passes q = s.passes q := by
    intro p pc hp
    have hne : q ≠ p := fun hqp => hq (hp.trans (congrArg some hqp.symm))
    exact Function.update_of_ne hne _ _
  cases step_cases h with
  | quiet hp _ _ => exact hgoto _ _ hp
  | claim hp _ _ _ _ => exact hgoto _ _ hp
  | deliver hp _ _ _ => exact hgoto _ _ hp
  | fail hp _ _ _ => exact hgoto _ _ hp
  | tables _ _ _ => rfl

/-- A pass that does not move stays where it is. -/
theorem passes_run {s t : Sys} {tr : List (Sys × Action)} (e : Exec (step X) s tr t) {q : Nat}
    (hq : ∀ p ∈ tr, p.2.pass ≠ some q) : ∀ u ∈ visited tr t, u.passes q = s.passes q := by
  refine e.preserves (C := fun _ a => a.pass ≠ some q) (I := fun u => u.passes q = s.passes q)
    (fun u a v hu ha h => ?_) rfl hq
  rw [passes_step h ha, hu]

/-- What the passes wait for after one of them moved. -/
theorem held_goto (s : Sys) (p : Nat) (pc : Pc) :
    (s.goto p pc).outbox.held = Function.update s.outbox.held p pc.waiting := by
  funext q
  show (Function.update s.passes p pc q).waiting = _
  by_cases hq : q = p
  · subst hq
    rw [Function.update_self, Function.update_self]
  · rw [Function.update_of_ne hq, Function.update_of_ne hq]
    rfl

/-- **The job refines the outbox.** -/
theorem refines {s t : Sys} {a : Action} (h : step X s a = some t) :
    Outbox.Moves s.outbox (moveOf X s a) t.outbox := by
  cases step_cases h with
  | @quiet p pc _ hmove hwaiting =>
      rw [hmove]
      refine .forget (fun _ hk => hk) ?_ rfl
      rw [held_goto, hwaiting]
      exact Function.update_eq_self p s.outbox.held
  | @claim p pc alert now db _ hmove hnone hwaiting htry =>
      obtain ⟨hfree, _, htaken⟩ := DB.tryInsertExpiryAlert_inserted htry
      rw [hmove]
      refine .claim p _ hfree hnone htaken ?_ rfl
      exact hwaiting ▸ held_goto s p pc
  | @deliver p pc alert _ hmove hheld hwaiting =>
      rw [hmove]
      refine .deliver p _ hheld rfl ?_ rfl
      exact hwaiting ▸ held_goto s p pc
  | @fail p pc alert _ hmove hheld hwaiting =>
      rw [hmove]
      refine .fail p _ hheld rfl ?_ rfl
      exact hwaiting ▸ held_goto s p pc
  | tables _ hmove hkept =>
      rw [hmove]
      exact .forget hkept rfl rfl

/-! ## §5. Plain externals. -/

/-- Externals to run the model with: the default subject is filled in, other templates are
taken as they stand, and every time is the expiry it is asked for. -/
def plainExternals : Externals where
  parseAddress := fun s => decide ('@' ∈ s.toList)
  decrypt := fun s => some s
  formatRFC1123 := fun _ => "Thu, 01 Jan 2026 00:00:00 UTC"
  renderTextTemplate := fun tmpl data =>
    if tmpl = "Certificate expiring in \x7b\x7b.DaysRemaining\x7d\x7d days — \x7b\x7b.EndpointName\x7d\x7d" then
      some ("Certificate expiring in " ++ toString data.daysRemaining ++ " days — "
        ++ data.endpointName)
    else some tmpl
  renderHTMLTemplate := fun tmpl _ => some tmpl
  defaultBody := "<p>A certificate is about to expire.</p>"

end TLSentinel.Notifications
