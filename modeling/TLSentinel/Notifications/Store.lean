/-
  TLSentinel.Notifications.Store
  ──────────────────────────────
  **WHAT THE ALERT JOB READS, AND THE TABLE IT CLAIMS SLOTS IN.**

  The statements of `internal/db/alerts_store.go`, with PurgeExpiryAlerts of
  `maintenance_store.go`.  What users configure (mail, thresholds, template,
  recipients, endpoints, tags) is one record `Settings`; the current certificates
  are the rows that scans write (`TLSentinel.Scans.Store`); the slots are the rows
  of `tlsentinel.certificate_expiry_alerts`, one for each user, certificate and
  threshold.

  Times are microseconds, as the database keeps them.
-/
import TLSentinel.Scans.Store
import Mathlib.Data.List.Dedup

namespace TLSentinel.Notifications

open Foundation
open TLSentinel.Scans (EndpointCertTable)

/-! ## §1. Rows. -/

/-- The columns of `tlsentinel.users` that the job reads. -/
structure User where
  id : String
  email : Option String
  enabled : Bool
  notify : Bool
  deriving DecidableEq, Repr

/-- The columns of `tlsentinel.endpoints` that the job reads. -/
structure Endpoint where
  id : String
  name : String
  type : String
  enabled : Bool
  deriving DecidableEq, Repr

/-- The columns of `tlsentinel.certificates` that the job reads. -/
structure Certificate where
  fingerprint : String
  commonName : String
  notAfter : Int
  deriving DecidableEq, Repr

/-- `models.MailConfig`; the password is encrypted. -/
structure MailConfig where
  enabled : Bool
  smtpHost : String
  smtpPort : Int
  authType : String
  smtpUsername : String
  smtpPassword : String
  fromAddress : String
  fromName : String
  tlsMode : String
  deriving DecidableEq, Repr

/-- A row of `tlsentinel.notification_templates`. -/
structure NotificationTemplate where
  subject : Option String
  body : String
  deriving DecidableEq, Repr

/-- What an alert is about: a user, a certificate and a threshold. -/
structure Alert where
  userID : String
  fingerprint : String
  thresholdDays : Int
  deriving DecidableEq, Repr

/-- A row of `tlsentinel.certificate_expiry_alerts`. -/
structure CertificateExpiryAlert where
  alert : Alert
  alertedAt : Int
  deriving DecidableEq, Repr

/-- `models.ExpiringCertItem`, the fields that the job reads. -/
structure ExpiringCertItem where
  endpointName : String
  endpointType : String
  fingerprint : String
  commonName : String
  notAfter : Int
  daysRemaining : Int
  deriving DecidableEq, Repr

/-- What users configure. -/
structure Settings where
  mailConfig : Option MailConfig
  /-- The setting of the alert thresholds; `some none` does not decode. -/
  alertThresholds : Option (Option (List Int))
  /-- The override of the template for `cert_expiring` by email. -/
  template : Option NotificationTemplate
  users : Table User.id
  endpoints : Table Endpoint.id
  /-- `tlsentinel.endpoint_tags`: endpoint and tag. -/
  endpointTags : List (String × String)
  /-- `tlsentinel.user_tag_subscriptions`: user and tag. -/
  subscriptions : List (String × String)

/-- The tables. -/
structure DB where
  settings : Settings
  certificates : Table Certificate.fingerprint
  endpointCerts : EndpointCertTable
  alerts : Table CertificateExpiryAlert.alert

namespace DB

/-! ## §2. Queries. -/

/-- `models.DefaultAlertThresholds`. -/
def defaultAlertThresholds : List Int := [30, 14, 7, 1]

/-- `GetAlertThresholds`; `none` is a setting that does not decode. -/
def getAlertThresholds (db : DB) : Option (List Int) :=
  match db.settings.alertThresholds with
  | none => some defaultAlertThresholds
  | some thresholds => thresholds

/-- `ListNotifyUsers`, in storage order. -/
def listNotifyUsers (db : DB) : List User :=
  db.settings.users.rows.filter (fun u => u.enabled && u.notify && u.email.isSome)

/-- The first query of `ListExpiringActiveCertsTagged`: the endpoints that share a tag with
the user's subscriptions. -/
def subscribedEndpoints (db : DB) (userID : String) : List String :=
  (db.settings.endpointTags.filter (fun et =>
    decide ((userID, et.2) ∈ db.settings.subscriptions))).map Prod.fst |>.dedup

/-- The column `days_remaining` of `tlsentinel.v_active_certificates`. -/
def daysRemaining (now notAfter : Int) : Int := (notAfter - now).fdiv (86400 * 1000000)

/-- The row of `tlsentinel.v_active_certificates` that an endpoint certificate gives rise to,
with its endpoint. -/
def activeCertificate (db : DB) (now : Int) (ec : Scans.EndpointCert) :
    Option (String × ExpiringCertItem) :=
  if ec.isCurrent then
    match db.settings.endpoints.find? ec.endpointID, db.certificates.find? ec.fingerprint with
    | some e, some c =>
        if e.enabled then
          some (e.id, ⟨e.name, e.type, c.fingerprint, c.commonName, c.notAfter,
            daysRemaining now c.notAfter⟩)
        else none
    | _, _ => none
  else none

/-- The second query of `ListExpiringActiveCertsTagged`, in storage order; without
subscribed endpoints it is that of `ListExpiringActiveCerts`. -/
def listExpiringActiveCerts (db : DB) (now : Int) (endpointIDs : List String) (maxDays : Int) :
    List ExpiringCertItem :=
  ((db.endpointCerts.rows.filterMap (db.activeCertificate now)).filter (fun row =>
    (endpointIDs.isEmpty || decide (row.1 ∈ endpointIDs)) &&
      decide (row.2.daysRemaining ≤ maxDays))).map Prod.snd

/-- An answer to that query: its rows, the most urgent first. -/
def ListedCerts (db : DB) (now : Int) (endpointIDs : List String) (maxDays : Int)
    (rows : List ExpiringCertItem) : Prop :=
  rows.Perm (db.listExpiringActiveCerts now endpointIDs maxDays) ∧
    rows.Pairwise (fun a b => a.daysRemaining ≤ b.daysRemaining)

instance (db : DB) (now : Int) (endpointIDs : List String) (maxDays : Int)
    (rows : List ExpiringCertItem) :
    Decidable (db.ListedCerts now endpointIDs maxDays rows) :=
  inferInstanceAs (Decidable (_ ∧ _))

/-! ## §3. The slots. -/

/-- The slot of an alert is taken. -/
def HasAlert (db : DB) (alert : Alert) : Prop := ∃ r ∈ db.alerts, r.alert = alert

instance (db : DB) (alert : Alert) : Decidable (db.HasAlert alert) :=
  inferInstanceAs (Decidable (∃ r ∈ db.alerts, r.alert = alert))

/-- The user and the certificate that a new slot refers to exist. -/
def AlertRefs (db : DB) (alert : Alert) : Prop :=
  (∃ u ∈ db.settings.users, u.id = alert.userID) ∧
    ∃ c ∈ db.certificates, c.fingerprint = alert.fingerprint

instance (db : DB) (alert : Alert) : Decidable (db.AlertRefs alert) :=
  inferInstanceAs (Decidable (_ ∧ _))

/-- `TryInsertExpiryAlert`: the tables and whether a row was inserted; `none` is an error.
A slot that is taken is left alone before any foreign key is looked at. -/
def tryInsertExpiryAlert (db : DB) (now : Int) (alert : Alert) : Option (DB × Bool) :=
  match db.alerts.insert ⟨alert, now⟩ with
  | none => some (db, false)
  | some alerts => if db.AlertRefs alert then some ({ db with alerts := alerts }, true) else none

/-- The certificate is current on some endpoint. -/
def isCurrent (db : DB) (fingerprint : String) : Bool :=
  db.endpointCerts.rows.any (fun ec => ec.isCurrent && decide (ec.fingerprint = fingerprint))

/-- `PurgeExpiryAlerts`, with the number of rows deleted. -/
def purgeExpiryAlerts (db : DB) : DB × Nat :=
  let stale := fun r : CertificateExpiryAlert => !db.isCurrent r.alert.fingerprint
  ({ db with alerts := db.alerts.delete stale }, db.alerts.rowsAffected stale)

/-! ## §4. What scans and users change. -/

/-- A certificate is ingested; a stored one stays. -/
def insertCertificate (db : DB) (c : Certificate) : DB :=
  match db.certificates.insert c with
  | some certificates => { db with certificates := certificates }
  | none => db

/-- `upsertEndpointCert` of a scan. -/
def upsertEndpointCert (db : DB) (now : Int) (endpointID fingerprint certUse : String) :
    Option DB :=
  let refs := decide (∃ e ∈ db.settings.endpoints, e.id = endpointID) &&
    decide (∃ c ∈ db.certificates, c.fingerprint = fingerprint)
  (Scans.upsertEndpointCert db.endpointCerts refs now endpointID fingerprint certUse).map
    fun endpointCerts => { db with endpointCerts := endpointCerts }

/-- The settings are edited; what refers to deleted users and endpoints goes with them
(ON DELETE CASCADE). -/
def edit (db : DB) (settings : Settings) : DB :=
  { db with
    settings := settings
    endpointCerts := db.endpointCerts.delete (fun ec =>
      (settings.endpoints.find? ec.endpointID).isNone)
    alerts := db.alerts.delete (fun r => (settings.users.find? r.alert.userID).isNone) }

/-! ## §5. What becomes of the slots. -/

/-- A claim that inserts takes a free slot, for a user and a certificate that exist. -/
theorem tryInsertExpiryAlert_inserted {db db' : DB} {now : Int} {alert : Alert}
    (h : db.tryInsertExpiryAlert now alert = some (db', true)) :
    ¬ db.HasAlert alert ∧ db.AlertRefs alert ∧
      ∀ a, db'.HasAlert a ↔ db.HasAlert a ∨ a = alert := by
  unfold tryInsertExpiryAlert at h
  cases hins : db.alerts.insert ⟨alert, now⟩ with
  | none => simp [hins] at h
  | some alerts =>
      rw [hins] at h
      by_cases hrefs : db.AlertRefs alert
      · simp only [hrefs, if_true, Option.some.injEq, Prod.mk.injEq, and_true] at h
        subst h
        refine ⟨?_, hrefs, fun a => ?_⟩
        · intro htaken
          obtain ⟨r, hr, hkey⟩ := htaken
          exact Table.key_ne_of_insert hins hr hkey
        · show (∃ r ∈ alerts, r.alert = a) ↔ (∃ r ∈ db.alerts, r.alert = a) ∨ a = alert
          constructor
          · intro hr
            obtain ⟨r, hr, hkey⟩ := hr
            rcases (Table.mem_insert hins).mp hr with hr | hr
            · exact .inl ⟨r, hr, hkey⟩
            · exact .inr (hkey ▸ hr ▸ rfl)
          · intro hor
            rcases hor with ⟨r, hr, hkey⟩ | ha
            · exact ⟨r, (Table.mem_insert hins).mpr (.inl hr), hkey⟩
            · exact ⟨⟨alert, now⟩, (Table.mem_insert hins).mpr (.inr rfl), ha.symm⟩
      · simp [hrefs] at h

/-- A claim that does not insert changes nothing. -/
theorem tryInsertExpiryAlert_skipped {db db' : DB} {now : Int} {alert : Alert}
    (h : db.tryInsertExpiryAlert now alert = some (db', false)) : db' = db := by
  unfold tryInsertExpiryAlert at h
  split at h
  · simp only [Option.some.injEq, Prod.mk.injEq, and_true] at h
    exact h.symm
  · split at h <;> simp at h

/-- **A slot survives PurgeExpiryAlerts** exactly if its certificate is current somewhere. -/
theorem hasAlert_purgeExpiryAlerts {db : DB} {alert : Alert} :
    db.purgeExpiryAlerts.1.HasAlert alert ↔
      db.HasAlert alert ∧ db.isCurrent alert.fingerprint = true := by
  show (∃ r ∈ db.alerts.delete _, r.alert = alert) ↔ _
  simp only [Table.mem_delete, Bool.not_eq_false']
  constructor
  · intro h
    obtain ⟨r, ⟨hr, hcurrent⟩, hkey⟩ := h
    exact ⟨⟨r, hr, hkey⟩, hkey ▸ hcurrent⟩
  · intro h
    obtain ⟨⟨r, hr, hkey⟩, hcurrent⟩ := h
    exact ⟨r, ⟨hr, hkey ▸ hcurrent⟩, hkey⟩

/-- Editing the settings takes no slot. -/
theorem hasAlert_of_edit {db : DB} {settings : Settings} {alert : Alert}
    (h : (db.edit settings).HasAlert alert) : db.HasAlert alert := by
  obtain ⟨r, hr, hkey⟩ := h
  exact ⟨r, (Table.mem_delete.mp hr).1, hkey⟩

end DB

end TLSentinel.Notifications
