/-
  TLSentinel.Notifications.Templates
  ──────────────────────────────────
  **THE TEMPLATES OF THE NOTIFICATIONS.**

  `internal/notifications/defaults.go` embeds a template for every event and channel;
  the pages of `internal/notificationtemplates/handler.go` override one and take the
  override back.  Three readers merge the overrides with the defaults, each in its
  own way: List goes through a map under joined keys, Get looks one row up, and
  `renderEmail` does without the metadata.

  Main results:
    * `find?_run`          — the override in the table is the one saved last, if it has
                             not been reset since;
    * `list_eq`            — List answers what Get answers for every known pair;
    * `templates_agree`    — what the three readers show after any run.
-/
import TLSentinel.Base
import TLSentinel.Foundation.Registers
import TLSentinel.Notifications.Alerts

namespace TLSentinel.Notifications.Templates

open Foundation

/-! ## §1. The embedded templates. -/

/-- `DefaultTemplate`. -/
structure DefaultTemplate where
  subject : String
  body : String
  format : String
  deriving DecidableEq, Repr

/-- `TemplateVariable`. -/
structure TemplateVariable where
  name : String
  description : String
  deriving DecidableEq, Repr

/-- The HTML of the two embedded bodies, which is handed on as it is. -/
structure Bodies where
  expiring : String
  expired : String

/-- An event type and a channel. -/
abbrev Key := String × String

/-- `Defaults`. -/
def defaults (B : Bodies) : List (Key × DefaultTemplate) :=
  [ (("cert_expiring", "email"),
      ⟨"Certificate expiring in \x7b\x7b.DaysRemaining\x7d\x7d days — "
        ++ "\x7b\x7b.EndpointName\x7d\x7d", B.expiring, "html"⟩),
    (("cert_expired", "email"),
      ⟨"Certificate EXPIRED — \x7b\x7b.EndpointName\x7d\x7d", B.expired, "html"⟩) ]

/-- `GetDefault`. -/
def getDefault (B : Bodies) (key : Key) : Option DefaultTemplate := (defaults B).lookup key

/-- `AllEventTypes`. -/
def allEventTypes : List String := ["cert_expiring", "cert_expired"]

/-- `AllChannels`. -/
def allChannels : List String := ["email"]

/-- `EventTypeLabels`; a missing key gives the empty string. -/
def eventTypeLabels (eventType : String) : String :=
  (List.lookup eventType
    [("cert_expiring", "Certificate Expiring"), ("cert_expired", "Certificate Expired")]).getD ""

/-- `TemplateVariables`. -/
def templateVariables (eventType : String) : List TemplateVariable :=
  (List.lookup eventType
    [ ("cert_expiring",
        [ ⟨"EndpointName", "Endpoint display name"⟩,
          ⟨"EndpointType", "Endpoint type (e.g. tls, http)"⟩,
          ⟨"CommonName", "Certificate common name"⟩,
          ⟨"NotAfter", "Certificate expiry date"⟩,
          ⟨"DaysRemaining", "Days until expiry"⟩,
          ⟨"Fingerprint", "Certificate SHA-256 fingerprint"⟩ ]),
      ("cert_expired",
        [ ⟨"EndpointName", "Endpoint display name"⟩,
          ⟨"EndpointType", "Endpoint type"⟩,
          ⟨"CommonName", "Certificate common name"⟩,
          ⟨"NotAfter", "Certificate expiry date"⟩,
          ⟨"Fingerprint", "Certificate SHA-256 fingerprint"⟩ ]) ]).getD []

/-! ## §2. The table. -/

/-- A row of `tlsentinel.notification_templates`. -/
structure Row where
  eventType : String
  channel : String
  subject : Option String
  body : String
  format : String
  deriving DecidableEq, Repr

/-- The primary key. -/
def Row.key (r : Row) : Key := (r.eventType, r.channel)

/-- The overrides under their keys. -/
abbrev TemplateTable := Table Row.key

/-- `UpsertNotificationTemplate`; `up` says whether the statement finds the database there. -/
def upsertNotificationTemplate (up : Bool) (row : Row) (t : TemplateTable) :
    Option TemplateTable :=
  if up then some (t.upsert row) else none

/-- `ResetNotificationTemplate`. -/
def resetNotificationTemplate (up : Bool) (key : Key) (t : TemplateTable) :
    Option TemplateTable :=
  if up then some (t.delete fun r => decide (r.key = key)) else none

/-! ## §3. The pages. -/

/-- `templateResponse`. -/
structure TemplateResponse where
  eventType : String
  channel : String
  label : String
  subject : Option String
  body : String
  format : String
  isCustom : Bool
  templateVariables : List TemplateVariable
  deriving DecidableEq, Repr

/-- The response for a default; an empty subject is none. -/
def DefaultTemplate.response (d : DefaultTemplate) (key : Key) : TemplateResponse where
  eventType := key.1
  channel := key.2
  label := eventTypeLabels key.1
  subject := if d.subject = "" then none else some d.subject
  body := d.body
  format := d.format
  isCustom := false
  templateVariables := templateVariables key.1

/-- The response with the columns of an override. -/
def TemplateResponse.overridden (tr : TemplateResponse) : Option Row → TemplateResponse
  | none => tr
  | some ov =>
      { tr with subject := ov.subject, body := ov.body, format := ov.format, isCustom := true }

/-- The key of the map in `List`. -/
def joined (key : Key) : String := key.1 ++ "|" ++ key.2

/-- The map in `List`: of the rows with a key, the last. -/
def overrides (rows : List Row) (key : String) : Option Row :=
  rows.reverse.find? fun r => decide (joined r.key = key)

/-- `List`, on what ListNotificationTemplates returned. -/
def list (B : Bodies) (loaded : Option (List Row)) : Except HttpError (List TemplateResponse) :=
  match loaded with
  | none => .error ⟨500, "failed to load templates"⟩
  | some rows =>
      .ok ((allEventTypes.flatMap fun et => allChannels.map fun ch => (et, ch)).filterMap fun key =>
        (getDefault B key).map fun d =>
          (d.response key).overridden (overrides rows (joined key)))

/-- `Get`. -/
def get (B : Bodies) (key : Key) (up : Bool) (t : TemplateTable) :
    Except HttpError TemplateResponse :=
  match getDefault B key with
  | none => .error ⟨404, "unknown event type or channel"⟩
  | some d =>
      if up then .ok ((d.response key).overridden (t.find? key))
      else .error ⟨500, "failed to load template"⟩

/-- The body of an Update. -/
structure UpdateRequest where
  subject : Option String
  body : String
  format : String
  deriving DecidableEq, Repr

/-- `Update`, on the decoded body. -/
def update (B : Bodies) (key : Key) (body : Option UpdateRequest) (up : Bool) (t : TemplateTable) :
    Except HttpError TemplateResponse × TemplateTable :=
  match getDefault B key with
  | none => (.error ⟨404, "unknown event type or channel"⟩, t)
  | some _ =>
      match body with
      | none => (.error ⟨400, "invalid request body"⟩, t)
      | some req =>
          if req.body = "" then (.error ⟨400, "body is required"⟩, t)
          else
            let format := if req.format = "" then "html" else req.format
            let saved : Row := ⟨key.1, key.2, req.subject, req.body, format⟩
            match upsertNotificationTemplate up saved t with
            | none => (.error ⟨500, "failed to save template"⟩, t)
            | some t' =>
                (.ok ⟨saved.eventType, saved.channel, eventTypeLabels saved.eventType,
                  saved.subject, saved.body, saved.format, true,
                  templateVariables saved.eventType⟩, t')

/-- `Reset`. -/
def reset (key : Key) (up : Bool) (t : TemplateTable) : Except HttpError Unit × TemplateTable :=
  match resetNotificationTemplate up key t with
  | none => (.error ⟨500, "failed to reset template"⟩, t)
  | some t' => (.ok (), t')

/-! ## §4. The renderer. -/

/-- The templates that `renderEmail` fills in: subject and body. -/
def emailTemplates (B : Bodies) (eventType : String) (up : Bool) (t : TemplateTable) :
    Option (String × String) :=
  if up then
    match t.find? (eventType, "email") with
    | some row => some (row.subject.getD "", row.body)
    | none => (getDefault B (eventType, "email")).map fun d => (d.subject, d.body)
  else none

/-- `renderEmail`; `none` is an error. -/
def renderEmail (X : Externals) (B : Bodies) (eventType : String) (data : CertAlertData) (up : Bool)
    (t : TemplateTable) : Option (String × String) :=
  match emailTemplates B eventType up t with
  | none => none
  | some (subjectTmpl, bodyTmpl) =>
      match X.renderTextTemplate subjectTmpl data with
      | none => none
      | some subject =>
          match X.renderHTMLTemplate bodyTmpl data with
          | none => none
          | some htmlBody => some (subject, htmlBody)

/-- The override that the alert job loads. -/
def alertOverride (t : TemplateTable) : Option NotificationTemplate :=
  (t.find? ("cert_expiring", "email")).map fun row => ⟨row.subject, row.body⟩

/-- **The alert job renders with this table.** -/
theorem renderExpiryEmail_eq {X : Externals} {B : Bodies} (hB : X.defaultBody = B.expiring)
    (cert : ExpiringCertItem) (threshold : Int) (t : TemplateTable) :
    renderExpiryEmail X cert threshold (some (alertOverride t)) =
      renderEmail X B "cert_expiring"
        ⟨cert.endpointName, cert.endpointType, cert.commonName, X.formatRFC1123 cert.notAfter,
          threshold, cert.fingerprint⟩ true t := by
  unfold renderExpiryEmail renderEmail emailTemplates alertOverride
  rw [if_pos rfl]
  cases t.find? ("cert_expiring", "email") with
  | some row => rfl
  | none =>
      have hdefault : getDefault B ("cert_expiring", "email") = some _ := rfl
      rw [hdefault, ← hB]
      rfl

/-! ## §5. Runs. -/

/-- A request that changes a template. -/
inductive Action where
  | update (key : Key) (body : Option UpdateRequest) (up : Bool)
  | reset (key : Key) (up : Bool)
  deriving DecidableEq, Repr

/-- One request. -/
def step (B : Bodies) (t : TemplateTable) : Action → Option TemplateTable
  | .update key body up => some (update B key body up t).2
  | .reset key up => some (reset key up t).2

/-- What a request is told of the template under a key: an override is saved, or there is none
any more. -/
def settled (B : Bodies) (key : Key) : TemplateTable × Action → Option (Option Row)
  | (t, .update k body up) =>
      if k = key then
        (update B k body up t).1.toOption.map fun saved =>
          some ⟨saved.eventType, saved.channel, saved.subject, saved.body, saved.format⟩
      else none
  | (t, .reset k up) => if k = key then (reset k up t).1.toOption.map fun _ => none else none

/-- An override that Update lets through. -/
def Row.Valid (B : Bodies) (r : Row) : Prop :=
  (∃ d, getDefault B r.key = some d) ∧ r.body ≠ "" ∧ r.format ≠ ""

section Runs

variable {B : Bodies} {s t : TemplateTable} {a : Action} {key : Key}

/-- **A request saves the override it answers with**, takes one back, or changes nothing. -/
theorem step_cases (h : step B s a = some t) :
    (t = s ∧ ∀ key, settled B key (s, a) = none)
    ∨ (∃ row : Row, t = s.upsert row ∧ row.Valid B ∧
        ∀ key, settled B key (s, a) = if row.key = key then some (some row) else none)
    ∨ ∃ k, (t = s.delete fun r => decide (r.key = k)) ∧
        ∀ key, settled B key (s, a) = if k = key then some none else none := by
  cases a with
  | update k body up =>
      have ht : (update B k body up s).2 = t := Option.some.inj h
      have hsettled : ∀ key, settled B key (s, .update k body up) = if k = key then
          (update B k body up s).1.toOption.map (fun saved =>
            some (⟨saved.eventType, saved.channel, saved.subject, saved.body, saved.format⟩ : Row))
          else none := fun _ => rfl
      simp only [hsettled]
      subst ht
      unfold update
      cases hdefault : getDefault B k with
      | none => exact .inl ⟨rfl, fun _ => ite_self _⟩
      | some d =>
          cases body with
          | none => exact .inl ⟨rfl, fun _ => ite_self _⟩
          | some req =>
              dsimp only
              by_cases hbody : req.body = ""
              · rw [if_pos hbody]
                exact .inl ⟨rfl, fun _ => ite_self _⟩
              · rw [if_neg hbody]
                cases up with
                | false => exact .inl ⟨rfl, fun _ => ite_self _⟩
                | true =>
                    refine .inr (.inl ⟨_, rfl, ⟨⟨d, hdefault⟩, hbody, ?_⟩, fun _ => rfl⟩)
                    dsimp only
                    split
                    · decide
                    · next hformat => exact hformat
  | reset k up =>
      have ht : (reset k up s).2 = t := Option.some.inj h
      subst ht
      cases up with
      | false => exact .inl ⟨rfl, fun _ => ite_self _⟩
      | true => exact .inr (.inr ⟨k, rfl, fun _ => rfl⟩)

/-- One request on the row under a key. -/
theorem find?_step (h : step B s a = some t) :
    t.find? key = (settled B key (s, a)).getD (s.find? key) := by
  rcases step_cases h with ⟨rfl, hsettled⟩ | ⟨row, rfl, _, hsettled⟩ | ⟨k, rfl, hsettled⟩
  · rw [hsettled]
    rfl
  · rw [hsettled, Table.find?_upsert]
    split <;> rfl
  · rw [hsettled, Table.find?_delete_key]
    by_cases hk : key = k
    · rw [if_pos hk, if_pos hk.symm]
      rfl
    · rw [if_neg hk, if_neg (Ne.symm hk)]
      rfl

/-- **The override in the table** is the one saved last, if it has not been reset since. -/
theorem find?_run {tr : List (TemplateTable × Action)} (e : Exec (step B) Table.empty tr t) :
    t.find? key = lastNamed (settled B key) none tr := by
  refine e.shows_last (R := fun t v => t.find? key = v) ?_ rfl
  intro s a t v h hs
  rw [find?_step h, hs]

/-- Every override has been let through by Update. -/
theorem valid_run {tr : List (TemplateTable × Action)} (e : Exec (step B) Table.empty tr t) :
    ∀ r ∈ t, r.Valid B := by
  suffices hrun : ∀ u ∈ visited tr t, ∀ r ∈ u, r.Valid B from hrun t (last_mem_visited tr t)
  refine e.preserves (C := fun _ _ => True) ?_ Table.forall_mem_empty (fun _ _ => trivial)
  intro s a t hs _ h r hr
  rcases step_cases h with ⟨rfl, _⟩ | ⟨row, rfl, hvalid, _⟩ | ⟨k, rfl, _⟩
  · exact hs r hr
  · rcases Table.mem_upsert.mp hr with ⟨hr, _⟩ | rfl
    · exact hs r hr
    · exact hvalid
  · exact hs r (Table.mem_delete.mp hr).1

/-- The known pairs. -/
theorem mem_of_getDefault {d : DefaultTemplate} (h : getDefault B key = some d) :
    key ∈ [("cert_expiring", "email"), ("cert_expired", "email")] := by
  unfold getDefault at h
  obtain ⟨l₁, l₂, heq, _⟩ := List.lookup_eq_some_iff.mp h
  have hmem : (key, d) ∈ defaults B := by
    rw [heq]
    simp
  exact List.mem_map_of_mem (f := Prod.fst) hmem

/-- Joining loses nothing of the known pairs. -/
theorem joined_inj {key' : Key} {d d' : DefaultTemplate} (h : getDefault B key = some d)
    (h' : getDefault B key' = some d') (heq : joined key = joined key') : key = key' := by
  have hall : ∀ k ∈ [("cert_expiring", "email"), ("cert_expired", "email")],
      ∀ k' ∈ [("cert_expiring", "email"), ("cert_expired", "email")],
        joined k = joined k' → k = k' := by
    decide
  exact hall key (mem_of_getDefault h) key' (mem_of_getDefault h') heq

/-- The map of List finds what a lookup in the table finds. -/
theorem overrides_eq {rows : List Row} (hperm : rows.Perm t.rows) (hvalid : ∀ r ∈ t, r.Valid B)
    {d : DefaultTemplate} (hknown : getDefault B key = some d) :
    overrides rows (joined key) = t.find? key := by
  have hmem : ∀ r, r ∈ rows.reverse ↔ r ∈ t := fun r => by
    rw [List.mem_reverse, hperm.mem_iff, Table.mem_def]
  unfold overrides
  cases hfind : rows.reverse.find? (fun r => decide (joined r.key = joined key)) with
  | some r =>
      have hr : r ∈ t := (hmem r).mp (List.mem_of_find?_eq_some hfind)
      have hjoined : joined r.key = joined key := by simpa using List.find?_some hfind
      obtain ⟨⟨d', hd'⟩, _⟩ := hvalid r hr
      exact (Table.find?_eq_some_iff.mpr ⟨hr, joined_inj hd' hknown hjoined⟩).symm
  | none =>
      refine (Table.find?_eq_none_iff.mpr fun r hr hkey => ?_).symm
      have hnone := List.find?_eq_none.mp hfind r ((hmem r).mpr hr)
      exact hnone (decide_eq_true (congrArg joined hkey))

/-- **List answers what Get answers**, in whatever order the rows come. -/
theorem list_eq {rows : List Row} (hperm : rows.Perm t.rows) (hvalid : ∀ r ∈ t, r.Valid B) :
    list B (some rows) =
      .ok ((allEventTypes.flatMap fun et => allChannels.map fun ch => (et, ch)).filterMap
        fun key => (get B key true t).toOption) := by
  unfold list
  refine congrArg Except.ok (List.filterMap_congr fun key _ => ?_)
  unfold get
  cases hdefault : getDefault B key with
  | none => rfl
  | some d =>
      rw [Option.map_some, overrides_eq hperm hvalid hdefault]
      rfl

/-- The renderer fills in what Get shows; no subject is an empty one. -/
theorem emailTemplates_eq {eventType : String} {shown : TemplateResponse}
    (h : get B (eventType, "email") true t = .ok shown) :
    emailTemplates B eventType true t = some (shown.subject.getD "", shown.body) := by
  unfold get at h
  unfold emailTemplates
  cases hdefault : getDefault B (eventType, "email") with
  | none =>
      rw [hdefault] at h
      cases h
  | some d =>
      rw [hdefault] at h
      injection h with h
      subst h
      rw [if_pos rfl]
      cases t.find? (eventType, "email") with
      | some row => rfl
      | none =>
          show some (d.subject, d.body) =
            some ((if d.subject = "" then none else some d.subject).getD "", d.body)
          by_cases hsubject : d.subject = ""
          · rw [if_pos hsubject, hsubject]
            rfl
          · rw [if_neg hsubject]
            rfl

/-- **What the three readers show after any run**: Get the override that was saved last under its
key and not reset since, or else the default; List what Get shows for every known pair; and the
renderer fills in what Get shows.  Nothing is kept for an unknown pair, and no override is without
a body or a format. -/
theorem templates_agree {tr : List (TemplateTable × Action)}
    (e : Exec (step B) Table.empty tr t) :
    (∀ key d, getDefault B key = some d → get B key true t =
      .ok ((d.response key).overridden (lastNamed (settled B key) none tr)))
    ∧ (∀ rows : List Row, rows.Perm t.rows → list B (some rows) =
        .ok ((allEventTypes.flatMap fun et => allChannels.map fun ch => (et, ch)).filterMap
          fun key => (get B key true t).toOption))
    ∧ (∀ eventType shown, get B (eventType, "email") true t = .ok shown →
        emailTemplates B eventType true t = some (shown.subject.getD "", shown.body))
    ∧ ∀ r ∈ t, r.Valid B := by
  refine ⟨?_, fun rows hperm => list_eq hperm (valid_run e), fun _ _ => emailTemplates_eq,
    valid_run e⟩
  intro key d hdefault
  rw [← find?_run e]
  unfold get
  rw [hdefault]
  rfl

/-- A subject of its own, and back to the default. -/
theorem templates_agree_reset :
    ∃ t tr, Exec (step ⟨"in 30 days", "too late"⟩) Table.empty tr t
      ∧ get ⟨"in 30 days", "too late"⟩ ("cert_expired", "email") true t =
          .ok ⟨"cert_expired", "email", "Certificate Expired", none, "gone", "html", true,
            templateVariables "cert_expired"⟩
      ∧ ∃ d, getDefault ⟨"in 30 days", "too late"⟩ ("cert_expiring", "email") = some d
        ∧ get ⟨"in 30 days", "too late"⟩ ("cert_expiring", "email") true t =
            .ok (d.response ("cert_expiring", "email")) := by
  have hrun : run (step ⟨"in 30 days", "too late"⟩) Table.empty
      [.update ("cert_expiring", "email") (some ⟨some "soon", "soon", "text"⟩) true,
        .update ("cert_expired", "email") (some ⟨none, "gone", ""⟩) true,
        .reset ("cert_expiring", "email") true] = some _ := rfl
  have e := exec_traceFrom hrun
  obtain ⟨hget, _⟩ := templates_agree e
  exact ⟨_, _, e, hget _ _ rfl, _, rfl, hget _ _ rfl⟩

end Runs

end TLSentinel.Notifications.Templates
