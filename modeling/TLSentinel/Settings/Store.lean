/-
  TLSentinel.Settings.Store
  ─────────────────────────
  **THE SETTINGS TABLE AND ITS PAGES.**

  `internal/db/settings_store.go` keeps the settings of all kinds in one table, as
  JSON under a key; `internal/settings/handler.go` checks what the pages save.  The
  readers fall back on a default where a key is missing and fail on JSON of another
  kind than theirs.  Over runs neither matters: a page shows what it was last told
  that it had saved, whatever the other pages have done.

  Main results:
    * `getTyped_setSetting`  — a reader after a write, under its key or another;
    * `settings_last_saved`  — what the readers show after any run of the pages.
-/
import TLSentinel.Base
import TLSentinel.Foundation.Registers
import TLSentinel.Foundation.Tables
import TLSentinel.Notifications.Thresholds

namespace TLSentinel.Settings

open Foundation

/-! ## §1. The table. -/

/-- The JSON that `json.Marshal` makes of an int, or of a slice of ints. -/
inductive Value where
  | int (n : Int)
  | ints (ns : List Int)
  deriving DecidableEq, Repr

/-- `json.Unmarshal` into an int. -/
def Value.decodeInt : Value → Option Int
  | .int n => some n
  | .ints _ => none

/-- `json.Unmarshal` into a slice of ints. -/
def Value.decodeInts : Value → Option (List Int)
  | .int _ => none
  | .ints ns => some ns

/-- A row of `tlsentinel.settings`. -/
structure Setting where
  key : String
  value : Value
  deriving DecidableEq, Repr

/-- The rows under their keys. -/
abbrev SettingTable := Table Setting.key

/-- Why a setting is not read. -/
inductive Failure where
  /-- `ErrNotFound`. -/
  | notFound
  | failed
  deriving DecidableEq, Repr

/-- `GetSetting`; `up` says whether the statement finds the database there. -/
def getSetting (up : Bool) (key : String) (t : SettingTable) : Except Failure Value :=
  if up then
    match t.find? key with
    | some row => .ok row.value
    | none => .error .notFound
  else .error .failed

/-- `SetSetting`. -/
def setSetting (up : Bool) (key : String) (value : Value) (t : SettingTable) :
    Option SettingTable :=
  if up then some (t.upsert ⟨key, value⟩) else none

/-- The typed wrappers: a key, how its JSON decodes, and what stands for a missing row. -/
def getTyped {β : Type} (decode : Value → Option β) (absent : β) (key : String) (up : Bool)
    (t : SettingTable) : Except Failure β :=
  match getSetting up key t with
  | .error .notFound => .ok absent
  | .error .failed => .error .failed
  | .ok raw =>
      match decode raw with
      | some v => .ok v
      | none => .error .failed

/-- `models.AlertThresholdsKey`. -/
def alertThresholdsKey : String := "alert_thresholds_days"

/-- `models.DefaultAlertThresholds`. -/
def defaultAlertThresholds : List Int := [30, 14, 7, 1]

/-- `models.ScanHistoryRetentionKey`. -/
def scanHistoryRetentionKey : String := "scan_history_retention_days"

/-- `models.DefaultScanHistoryRetentionDays`. -/
def defaultScanHistoryRetentionDays : Int := 90

/-- `models.AuditLogRetentionKey`. -/
def auditLogRetentionKey : String := "audit_log_retention_days"

/-- `models.DefaultAuditLogRetentionDays`. -/
def defaultAuditLogRetentionDays : Int := 365

/-- `GetAlertThresholds`. -/
def getAlertThresholds : Bool → SettingTable → Except Failure (List Int) :=
  getTyped Value.decodeInts defaultAlertThresholds alertThresholdsKey

/-- `GetScanHistoryRetentionDays`. -/
def getScanHistoryRetentionDays : Bool → SettingTable → Except Failure Int :=
  getTyped Value.decodeInt defaultScanHistoryRetentionDays scanHistoryRetentionKey

/-- `GetAuditLogRetentionDays`. -/
def getAuditLogRetentionDays : Bool → SettingTable → Except Failure Int :=
  getTyped Value.decodeInt defaultAuditLogRetentionDays auditLogRetentionKey

/-- What the first migration leaves in the table. -/
def migrated : SettingTable := ⟨[⟨alertThresholdsKey, .ints [30, 14, 7, 1]⟩], by decide⟩

/-! ## §2. The pages. -/

namespace Handler

/-- How a page answers what a reader returned. -/
def answer {β : Type} (text : String) : Except Failure β → Except HttpError β
  | .ok v => .ok v
  | .error _ => .error ⟨500, text⟩

/-- The page `GetAlertThresholds`. -/
def getAlertThresholds (up : Bool) (t : SettingTable) : Except HttpError (List Int) :=
  answer "failed to get alert thresholds" (Settings.getAlertThresholds up t)

/-- The page `GetScanHistoryRetention`. -/
def getScanHistoryRetention (up : Bool) (t : SettingTable) : Except HttpError Int :=
  answer "failed to get scan history retention" (getScanHistoryRetentionDays up t)

/-- The page `GetAuditLogRetention`. -/
def getAuditLogRetention (up : Bool) (t : SettingTable) : Except HttpError Int :=
  answer "failed to get audit log retention" (getAuditLogRetentionDays up t)

/-- `SetAlertThresholds`, on the decoded body. -/
def setAlertThresholds (body : Option (List Int)) (up : Bool) (t : SettingTable) :
    Except HttpError (List Int) × SettingTable :=
  match body with
  | none => (.error ⟨400, "invalid request body"⟩, t)
  | some thresholds =>
      if thresholds.length = 0 then
        (.error ⟨400, "thresholds must contain at least one value"⟩, t)
      else
        match Notifications.checkThresholds [] thresholds with
        | .error text => (.error ⟨400, text⟩, t)
        | .ok () =>
            let sorted := Notifications.sortDescending thresholds
            match setSetting up alertThresholdsKey (.ints sorted) t with
            | none => (.error ⟨500, "failed to save alert thresholds"⟩, t)
            | some t' => (.ok sorted, t')

/-- The two pages that save a number of days. -/
def setRetention (key text : String) (body : Option Int) (up : Bool) (t : SettingTable) :
    Except HttpError Int × SettingTable :=
  match body with
  | none => (.error ⟨400, "invalid request body"⟩, t)
  | some days =>
      if days < 1 ∨ 3650 < days then
        (.error ⟨400, "retention must be between 1 and 3650 days"⟩, t)
      else
        match setSetting up key (.int days) t with
        | none => (.error ⟨500, text⟩, t)
        | some t' => (.ok days, t')

/-- `SetScanHistoryRetention`. -/
def setScanHistoryRetention :
    Option Int → Bool → SettingTable → Except HttpError Int × SettingTable :=
  setRetention scanHistoryRetentionKey "failed to save scan history retention"

/-- `SetAuditLogRetention`. -/
def setAuditLogRetention :
    Option Int → Bool → SettingTable → Except HttpError Int × SettingTable :=
  setRetention auditLogRetentionKey "failed to save audit log retention"

end Handler

/-! ## §3. One request. -/

section Requests

variable {β : Type} {decode : Value → Option β} {absent v : β} {key key' : String} {up : Bool}
  {value : Value} {t t' : SettingTable}

/-- **A reader after a write**: under its own key it shows what was written, under another key
what it showed before. -/
theorem getTyped_setSetting (h : setSetting up key' value t = some t') :
    getTyped decode absent key true t' =
      if key' = key then
        match decode value with
        | some v => .ok v
        | none => .error .failed
      else getTyped decode absent key true t := by
  unfold setSetting at h
  split at h
  · injection h with h
    subst h
    unfold getTyped getSetting
    rw [if_pos rfl, if_pos rfl, Table.find?_upsert]
    by_cases hkey : key' = key
    · rw [if_pos hkey, if_pos hkey]
    · rw [if_neg hkey, if_neg hkey]
  · cases h

/-- What a page that saves a retention has done. -/
theorem setRetention_cases (key text : String) (body : Option Int) (up : Bool)
    (t : SettingTable) :
    (∃ e, Handler.setRetention key text body up t = (.error e, t))
    ∨ ∃ days t', 1 ≤ days ∧ days ≤ 3650 ∧ setSetting up key (.int days) t = some t' ∧
        Handler.setRetention key text body up t = (.ok days, t') := by
  unfold Handler.setRetention
  cases body with
  | none => exact .inl ⟨_, rfl⟩
  | some days =>
      dsimp only
      by_cases hbounds : days < 1 ∨ 3650 < days
      · rw [if_pos hbounds]
        exact .inl ⟨_, rfl⟩
      · rw [if_neg hbounds]
        cases hset : setSetting up key (.int days) t with
        | none => exact .inl ⟨_, rfl⟩
        | some t' => exact .inr ⟨days, t', by omega, by omega, hset, rfl⟩

/-- What the page of the thresholds has done. -/
theorem setAlertThresholds_cases (body : Option (List Int)) (up : Bool) (t : SettingTable) :
    (∃ e, Handler.setAlertThresholds body up t = (.error e, t))
    ∨ ∃ thresholds t', thresholds ≠ [] ∧ (∀ d ∈ thresholds, 1 ≤ d ∧ d ≤ 365) ∧
        thresholds.Pairwise (fun a b => b < a) ∧
        setSetting up alertThresholdsKey (.ints thresholds) t = some t' ∧
        Handler.setAlertThresholds body up t = (.ok thresholds, t') := by
  unfold Handler.setAlertThresholds
  cases body with
  | none => exact .inl ⟨_, rfl⟩
  | some requested =>
      dsimp only
      by_cases hnil : requested.length = 0
      · rw [if_pos hnil]
        exact .inl ⟨_, rfl⟩
      · rw [if_neg hnil]
        cases hcheck : Notifications.checkThresholds [] requested with
        | error text => exact .inl ⟨_, rfl⟩
        | ok u =>
            obtain ⟨hbounds, hnodup, _⟩ := Notifications.checkThresholds_ok_iff.mp hcheck
            have hperm := Notifications.perm_sortDescending requested
            have hsorted := Notifications.sortDescending_sorted requested
            cases hset : setSetting up alertThresholdsKey
                (.ints (Notifications.sortDescending requested)) t with
            | none => exact .inl ⟨_, rfl⟩
            | some t' =>
                refine .inr ⟨_, t', ?_, ?_, ?_, hset, rfl⟩
                · intro h
                  rw [h] at hperm
                  exact hnil (List.length_eq_zero_iff.mpr hperm.symm.eq_nil)
                · exact fun d hd => hbounds d (hperm.subset hd)
                · -- sorted, and none twice
                  have hdistinct : (Notifications.sortDescending requested).Nodup :=
                    hperm.nodup_iff.mpr hnodup
                  exact (hsorted.and hdistinct).imp fun h => lt_of_le_of_ne h.1 (Ne.symm h.2)

/-- The thresholds in the tables that the alert job reads. -/
def thresholdsSetting (t : SettingTable) : Option (Option (List Int)) :=
  (t.find? alertThresholdsKey).map fun row => row.value.decodeInts

/-- The alert job loads what the page shows. -/
theorem alertJob_loads {db : Notifications.DB}
    (h : db.settings.alertThresholds = thresholdsSetting t) :
    db.getAlertThresholds = (getAlertThresholds true t).toOption := by
  unfold Notifications.DB.getAlertThresholds getAlertThresholds getTyped getSetting
  rw [h, thresholdsSetting, if_pos rfl]
  cases t.find? alertThresholdsKey with
  | none => rfl
  | some row =>
      show row.value.decodeInts = _
      dsimp only
      cases row.value.decodeInts <;> rfl

end Requests

/-! ## §4. Runs. -/

/-- A request that saves something. -/
inductive Action where
  | setAlertThresholds (body : Option (List Int)) (up : Bool)
  | setScanHistoryRetention (body : Option Int) (up : Bool)
  | setAuditLogRetention (body : Option Int) (up : Bool)
  deriving DecidableEq, Repr

/-- One request. -/
def step (t : SettingTable) : Action → Option SettingTable
  | .setAlertThresholds body up => some (Handler.setAlertThresholds body up t).2
  | .setScanHistoryRetention body up => some (Handler.setScanHistoryRetention body up t).2
  | .setAuditLogRetention body up => some (Handler.setAuditLogRetention body up t).2

/-- The row that a request is told it has saved. -/
def saved : SettingTable × Action → Option Setting
  | (t, .setAlertThresholds body up) =>
      (Handler.setAlertThresholds body up t).1.toOption.map fun thresholds =>
        ⟨alertThresholdsKey, .ints thresholds⟩
  | (t, .setScanHistoryRetention body up) =>
      (Handler.setScanHistoryRetention body up t).1.toOption.map fun days =>
        ⟨scanHistoryRetentionKey, .int days⟩
  | (t, .setAuditLogRetention body up) =>
      (Handler.setAuditLogRetention body up t).1.toOption.map fun days =>
        ⟨auditLogRetentionKey, .int days⟩

/-- The part of it that a reader sees. -/
def savedUnder {β : Type} (decode : Value → Option β) (key : String)
    (p : SettingTable × Action) : Option β :=
  (saved p).bind fun row => if row.key = key then decode row.value else none

/-- What an accepted list of thresholds is. -/
def ValidThresholds (thresholds : List Int) : Prop :=
  thresholds ≠ [] ∧ (∀ d ∈ thresholds, 1 ≤ d ∧ d ≤ 365) ∧ thresholds.Pairwise (fun a b => b < a)

/-- What an accepted retention is. -/
def ValidRetention (days : Int) : Prop := 1 ≤ days ∧ days ≤ 3650

/-- What each page writes. -/
inductive Setting.Valid : Setting → Prop
  | thresholds {thresholds : List Int} :
      ValidThresholds thresholds → Valid ⟨alertThresholdsKey, .ints thresholds⟩
  | scanHistory {days : Int} : ValidRetention days → Valid ⟨scanHistoryRetentionKey, .int days⟩
  | auditLog {days : Int} : ValidRetention days → Valid ⟨auditLogRetentionKey, .int days⟩

section Runs

variable {s t : SettingTable} {a : Action}

/-- A page that saves a retention, as a request. -/
theorem saved_setRetention {key text : String} {body : Option Int} {up : Bool}
    (hvalid : ∀ days, ValidRetention days → Setting.Valid ⟨key, .int days⟩) :
    ((Handler.setRetention key text body up s).2 = s
      ∧ (Handler.setRetention key text body up s).1.toOption.map
          (fun days => (⟨key, .int days⟩ : Setting)) = none)
    ∨ ∃ (up' : Bool) (row : Setting),
        setSetting up' row.key row.value s = some (Handler.setRetention key text body up s).2
        ∧ row.Valid
        ∧ (Handler.setRetention key text body up s).1.toOption.map
            (fun days => (⟨key, .int days⟩ : Setting)) = some row := by
  rcases setRetention_cases key text body up s with ⟨e, heq⟩ | ⟨days, t', hmin, hmax, hset, heq⟩
  · rw [heq]
    exact .inl ⟨rfl, rfl⟩
  · rw [heq]
    exact .inr ⟨up, ⟨key, .int days⟩, hset, hvalid days ⟨hmin, hmax⟩, rfl⟩

/-- **A request writes the row that it answers with**, or it changes nothing. -/
theorem step_cases (h : step s a = some t) :
    (t = s ∧ saved (s, a) = none)
    ∨ ∃ up row, setSetting up row.key row.value s = some t ∧ row.Valid
        ∧ saved (s, a) = some row := by
  cases a with
  | setAlertThresholds body up =>
      injection h with h
      subst h
      have hsaved : saved (s, .setAlertThresholds body up) =
          (Handler.setAlertThresholds body up s).1.toOption.map fun thresholds =>
            ⟨alertThresholdsKey, .ints thresholds⟩ := rfl
      rw [hsaved]
      rcases setAlertThresholds_cases body up s with ⟨e, heq⟩ |
        ⟨thresholds, t', hne, hbounds, hsorted, hset, heq⟩
      · rw [heq]
        exact .inl ⟨rfl, rfl⟩
      · rw [heq]
        exact .inr ⟨up, _, hset, .thresholds ⟨hne, hbounds, hsorted⟩, rfl⟩
  | setScanHistoryRetention body up =>
      injection h with h
      subst h
      exact saved_setRetention fun _ h => .scanHistory h
  | setAuditLogRetention body up =>
      injection h with h
      subst h
      exact saved_setRetention fun _ h => .auditLog h

/-- What a reader shows, and a property of it. -/
def Shows {β : Type} (read : Bool → SettingTable → Except Failure β) (P : β → Prop)
    (t : SettingTable) (v : β) : Prop :=
  read true t = .ok v ∧ P v

/-- **A reader after a request**, if what the pages write under its key decodes. -/
theorem shows_step {β : Type} {decode : Value → Option β} {absent v : β} {key : String}
    {P : β → Prop}
    (hdecode : ∀ row : Setting, row.Valid → row.key = key → ∃ w, decode row.value = some w ∧ P w)
    (h : step s a = some t) (hs : Shows (getTyped decode absent key) P s v) :
    Shows (getTyped decode absent key) P t ((savedUnder decode key (s, a)).getD v) := by
  obtain ⟨hget, hP⟩ := hs
  rcases step_cases h with ⟨rfl, hsaved⟩ | ⟨up, row, hset, hvalid, hsaved⟩
  · rw [savedUnder, hsaved]
    exact ⟨hget, hP⟩
  · have hread : getTyped decode absent key true t = _ := getTyped_setSetting hset
    rw [savedUnder, hsaved, Option.bind_some]
    by_cases hkey : row.key = key
    · obtain ⟨w, hw, hPw⟩ := hdecode row hvalid hkey
      rw [if_pos hkey, hw] at hread ⊢
      exact ⟨hread, hPw⟩
    · rw [if_neg hkey] at hread ⊢
      exact ⟨hread.trans hget, hP⟩

/-- No two pages share a key. -/
theorem keys_ne : alertThresholdsKey ≠ scanHistoryRetentionKey
    ∧ alertThresholdsKey ≠ auditLogRetentionKey
    ∧ scanHistoryRetentionKey ≠ auditLogRetentionKey := by decide

theorem decode_thresholds {row : Setting} (hvalid : row.Valid)
    (hkey : row.key = alertThresholdsKey) :
    ∃ w, row.value.decodeInts = some w ∧ ValidThresholds w := by
  obtain ⟨hscan, haudit, _⟩ := keys_ne
  cases hvalid with
  | thresholds h => exact ⟨_, rfl, h⟩
  | scanHistory _ => exact absurd hkey.symm hscan
  | auditLog _ => exact absurd hkey.symm haudit

theorem decode_scanHistory {row : Setting} (hvalid : row.Valid)
    (hkey : row.key = scanHistoryRetentionKey) :
    ∃ w, row.value.decodeInt = some w ∧ ValidRetention w := by
  obtain ⟨hthresholds, _, haudit⟩ := keys_ne
  cases hvalid with
  | thresholds _ => exact absurd hkey hthresholds
  | scanHistory h => exact ⟨_, rfl, h⟩
  | auditLog _ => exact absurd hkey.symm haudit

theorem decode_auditLog {row : Setting} (hvalid : row.Valid)
    (hkey : row.key = auditLogRetentionKey) :
    ∃ w, row.value.decodeInt = some w ∧ ValidRetention w := by
  obtain ⟨_, hthresholds, hscan⟩ := keys_ne
  cases hvalid with
  | thresholds _ => exact absurd hkey hthresholds
  | scanHistory _ => exact absurd hkey hscan
  | auditLog h => exact ⟨_, rfl, h⟩

/-- **What the readers show after any run of the pages**: each the value that its own page was
last told it had saved, or its default; never another page's, never one that was refused, and
always within its bounds. -/
theorem settings_last_saved {tr : List (SettingTable × Action)} (e : Exec step migrated tr t) :
    Shows getAlertThresholds ValidThresholds t
      (lastNamed (savedUnder Value.decodeInts alertThresholdsKey) defaultAlertThresholds tr)
    ∧ Shows getScanHistoryRetentionDays ValidRetention t
      (lastNamed (savedUnder Value.decodeInt scanHistoryRetentionKey)
        defaultScanHistoryRetentionDays tr)
    ∧ Shows getAuditLogRetentionDays ValidRetention t
      (lastNamed (savedUnder Value.decodeInt auditLogRetentionKey)
        defaultAuditLogRetentionDays tr) := by
  have hthresholds : ValidThresholds defaultAlertThresholds := by
    unfold ValidThresholds
    decide
  refine ⟨?_, ?_, ?_⟩
  · exact e.shows_last (fun _ _ _ _ => shows_step fun _ => decode_thresholds) ⟨rfl, hthresholds⟩
  · exact e.shows_last (fun _ _ _ _ => shows_step fun _ => decode_scanHistory)
      ⟨rfl, by decide, by decide⟩
  · exact e.shows_last (fun _ _ _ _ => shows_step fun _ => decode_auditLog)
      ⟨rfl, by decide, by decide⟩

/-- Thirty days are saved, and a request for none is refused. -/
theorem settings_last_saved_thirty :
    ∃ t tr, Exec step migrated tr t
      ∧ Shows getScanHistoryRetentionDays ValidRetention t 30
      ∧ Shows getAuditLogRetentionDays ValidRetention t 365 := by
  have hrun : run step migrated [.setScanHistoryRetention (some 30) true,
      .setScanHistoryRetention (some 0) true] = some _ := rfl
  have e := exec_traceFrom hrun
  obtain ⟨_, hscan, haudit⟩ := settings_last_saved e
  exact ⟨_, _, e, hscan, haudit⟩

end Runs

end TLSentinel.Settings
