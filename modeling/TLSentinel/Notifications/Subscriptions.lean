/-
  TLSentinel.Notifications.Subscriptions
  ──────────────────────────────────────
  **WHICH CERTIFICATES A USER'S TAG SUBSCRIPTIONS LET THROUGH.**

  `ListExpiringActiveCertsTagged` of `internal/db/alerts_store.go` first resolves the
  endpoints that carry a subscribed tag.  Without any it falls back to all
  certificates, whether the user has subscriptions or not.  Its two consumers are
  the alert job (`TLSentinel.Notifications.Alerts`) and the calendar feed of
  `internal/calendar/handler.go`.

  Here rows keep the endpoint they are about; `map_snd_listExpiringActiveCertsTagged`
  links the query to the one that the alert job runs.

  Main results:
    * `listedTagged_scoped_iff` — when the query answers what the subscriptions ask for;
    * `tagsScope_iff`           — the same for the query, the calendar and the mails.
-/
import TLSentinel.Foundation.Paging
import TLSentinel.Notifications.Alerts

namespace TLSentinel.Notifications

open Foundation

namespace DB

/-! ## §1. The queries, with the endpoints of their rows. -/

/-- `tlsentinel.v_active_certificates`: the endpoint, and the other columns. -/
def vActiveCertificates (db : DB) (now : Int) : List (String × ExpiringCertItem) :=
  db.endpointCerts.rows.filterMap (db.activeCertificate now)

/-- The rows of `ListExpiringActiveCerts`, in storage order. -/
def listAllExpiringActiveCerts (db : DB) (now : Int) (maxDays : Int) :
    List (String × ExpiringCertItem) :=
  (db.vActiveCertificates now).filter (fun row => decide (row.2.daysRemaining ≤ maxDays))

/-- The rows of `ListExpiringActiveCertsTagged`, in storage order. -/
def listExpiringActiveCertsTagged (db : DB) (now : Int) (userID : String) (maxDays : Int) :
    List (String × ExpiringCertItem) :=
  let endpointIDs := db.subscribedEndpoints userID
  if endpointIDs.isEmpty then db.listAllExpiringActiveCerts now maxDays
  else (db.vActiveCertificates now).filter (fun row =>
    decide (row.1 ∈ endpointIDs) && decide (row.2.daysRemaining ≤ maxDays))

/-- An answer to it: the most urgent row first. -/
def ListedTagged (db : DB) (now : Int) (userID : String) (maxDays : Int)
    (rows : List (String × ExpiringCertItem)) : Prop :=
  rows.Perm (db.listExpiringActiveCertsTagged now userID maxDays) ∧
    rows.Pairwise (fun a b => a.2.daysRemaining ≤ b.2.daysRemaining)

/-- **The query is the one that the alert job runs.** -/
theorem map_snd_listExpiringActiveCertsTagged (db : DB) (now : Int) (userID : String)
    (maxDays : Int) :
    (db.listExpiringActiveCertsTagged now userID maxDays).map Prod.snd =
      db.listExpiringActiveCerts now (db.subscribedEndpoints userID) maxDays := by
  unfold listExpiringActiveCertsTagged listExpiringActiveCerts listAllExpiringActiveCerts
    vActiveCertificates
  cases hids : (db.subscribedEndpoints userID).isEmpty with
  | true => simp only [hids, if_true, Bool.true_or, Bool.true_and]
  | false => simp only [hids, Bool.false_eq_true, if_false, Bool.false_or]

/-! ## §2. Subscriptions. -/

/-- The user has at least one tag subscription. -/
def HasSubscription (db : DB) (userID : String) : Prop :=
  ∃ tag, (userID, tag) ∈ db.settings.subscriptions

/-- The endpoint carries a tag that the user subscribes to. -/
def CarriesSubscribed (db : DB) (userID endpointID : String) : Prop :=
  ∃ tag, (endpointID, tag) ∈ db.settings.endpointTags ∧
    (userID, tag) ∈ db.settings.subscriptions

/-- The first query resolves the subscriptions. -/
theorem mem_subscribedEndpoints {db : DB} {userID endpointID : String} :
    endpointID ∈ db.subscribedEndpoints userID ↔ db.CarriesSubscribed userID endpointID := by
  unfold subscribedEndpoints CarriesSubscribed
  rw [List.mem_dedup, List.mem_map]
  constructor
  · intro h
    obtain ⟨et, het, rfl⟩ := h
    obtain ⟨hmem, hsub⟩ := List.mem_filter.mp het
    exact ⟨et.2, hmem, of_decide_eq_true hsub⟩
  · intro h
    obtain ⟨tag, hmem, hsub⟩ := h
    exact ⟨(endpointID, tag), List.mem_filter.mpr ⟨hmem, decide_eq_true hsub⟩, rfl⟩

theorem CarriesSubscribed.hasSubscription {db : DB} {userID endpointID : String}
    (h : db.CarriesSubscribed userID endpointID) : db.HasSubscription userID := by
  obtain ⟨tag, _, hsub⟩ := h
  exact ⟨tag, hsub⟩

/-- The endpoint is one that the user wants to hear of: without subscriptions, any. -/
def InScope (db : DB) (userID endpointID : String) : Prop :=
  db.HasSubscription userID → db.CarriesSubscribed userID endpointID

/-- The rows are those in scope that expire within `maxDays`. -/
def Scoped (db : DB) (now : Int) (userID : String) (maxDays : Int)
    (rows : List (String × ExpiringCertItem)) : Prop :=
  ∀ row, row ∈ rows ↔
    row ∈ db.vActiveCertificates now ∧ row.2.daysRemaining ≤ maxDays ∧ db.InScope userID row.1

/-- There is something to resolve the subscriptions to, or nothing to let through. -/
def Resolves (db : DB) (now : Int) (userID : String) (maxDays : Int) : Prop :=
  ¬ db.HasSubscription userID ∨ (∃ endpointID, db.CarriesSubscribed userID endpointID) ∨
    ∀ row ∈ db.vActiveCertificates now, ¬ row.2.daysRemaining ≤ maxDays

/-- What the query selects. -/
theorem mem_listExpiringActiveCertsTagged {db : DB} {now : Int} {userID : String} {maxDays : Int}
    {row : String × ExpiringCertItem} :
    row ∈ db.listExpiringActiveCertsTagged now userID maxDays ↔
      row ∈ db.vActiveCertificates now ∧ row.2.daysRemaining ≤ maxDays ∧
        ((∃ endpointID, db.CarriesSubscribed userID endpointID) →
          db.CarriesSubscribed userID row.1) := by
  simp only [← mem_subscribedEndpoints]
  unfold listExpiringActiveCertsTagged listAllExpiringActiveCerts
  cases hids : db.subscribedEndpoints userID with
  | nil =>
      -- the fallback: nothing is filtered
      simp [List.mem_filter]
  | cons endpointID endpointIDs =>
      simp only [List.isEmpty_cons, Bool.false_eq_true, if_false, List.mem_filter,
        Bool.and_eq_true, decide_eq_true_eq]
      constructor
      · intro h
        exact ⟨h.1, h.2.2, fun _ => h.2.1⟩
      · intro h
        exact ⟨h.1, h.2.2 ⟨endpointID, List.mem_cons_self⟩, h.2.1⟩

/-- There is an answer. -/
theorem exists_listedTagged (db : DB) (now : Int) (userID : String) (maxDays : Int) :
    ∃ rows, db.ListedTagged now userID maxDays rows := by
  let o := OrderBy.asc (fun row : String × ExpiringCertItem => row.2.daysRemaining)
  obtain ⟨rows, hperm, hsorted⟩ :=
    o.exists_listed (db.listExpiringActiveCertsTagged now userID maxDays)
  exact ⟨rows, hperm, hsorted.imp fun h => of_decide_eq_true h⟩

/-- **When the query answers what the subscriptions ask for.** -/
theorem listedTagged_scoped_iff (db : DB) (now : Int) (userID : String) (maxDays : Int) :
    (∀ rows, db.ListedTagged now userID maxDays rows → db.Scoped now userID maxDays rows) ↔
      db.Resolves now userID maxDays := by
  constructor
  · intro h
    by_contra hnot
    unfold Resolves at hnot
    push Not at hnot
    obtain ⟨hsub, hnone, row, hrow, hdays⟩ := hnot
    -- nothing is resolved, so the row is let through
    obtain ⟨rows, hrows⟩ := db.exists_listedTagged now userID maxDays
    have hlisted : row ∈ rows := hrows.1.mem_iff.mpr <|
      mem_listExpiringActiveCertsTagged.mpr
        ⟨hrow, hdays, fun hsome => absurd hsome.choose_spec (hnone _)⟩
    exact hnone _ (((h rows hrows row).mp hlisted).2.2 hsub)
  · intro h rows hrows row
    rw [hrows.1.mem_iff, mem_listExpiringActiveCertsTagged]
    unfold InScope
    rcases h with hno | ⟨endpointID, hcarries⟩ | hnothing
    · -- without subscriptions everything is in scope, and nothing is resolved
      constructor
      · intro hrow
        exact ⟨hrow.1, hrow.2.1, fun hsub => absurd hsub hno⟩
      · intro hrow
        exact ⟨hrow.1, hrow.2.1, fun hsome => absurd hsome.choose_spec.hasSubscription hno⟩
    · -- something is resolved, so the rows are filtered
      constructor
      · intro hrow
        exact ⟨hrow.1, hrow.2.1, fun _ => hrow.2.2 ⟨endpointID, hcarries⟩⟩
      · intro hrow
        exact ⟨hrow.1, hrow.2.1, fun _ => hrow.2.2 hcarries.hasSubscription⟩
    · constructor
      · intro hrow
        exact absurd hrow.2.1 (hnothing row hrow.1)
      · intro hrow
        exact absurd hrow.2.1 (hnothing row hrow.1)

end DB

/-! ## §3. Setting the subscriptions. -/

/-- `SetUserTagSubscriptions`, where `tags` are the ids of `tlsentinel.tags`; `none` is an
error, and the transaction is rolled back. -/
def Settings.setUserTagSubscriptions (s : Settings) (tags : List String) (userID : String)
    (tagIDs : List String) : Option Settings :=
  let cleared := s.subscriptions.filter (fun uts => !decide (uts.1 = userID))
  if tagIDs = [] then some { s with subscriptions := cleared }
  -- the primary key and the two foreign keys
  else if tagIDs.Nodup ∧ (∀ tag ∈ tagIDs, tag ∈ tags) ∧ (∃ u ∈ s.users, u.id = userID) then
    some { s with subscriptions := cleared ++ tagIDs.map (fun tag => (userID, tag)) }
  else none

/-- **The new subscriptions of the user are those given**; those of others stay. -/
theorem mem_setUserTagSubscriptions {s s' : Settings} {tags : List String} {userID : String}
    {tagIDs : List String} (h : s.setUserTagSubscriptions tags userID tagIDs = some s')
    (u tag : String) :
    (u, tag) ∈ s'.subscriptions ↔
      if u = userID then tag ∈ tagIDs else (u, tag) ∈ s.subscriptions := by
  -- the user's old subscriptions are deleted first
  have hcleared : (u, tag) ∈ s.subscriptions.filter (fun uts => !decide (uts.1 = userID)) ↔
      (u, tag) ∈ s.subscriptions ∧ u ≠ userID := by
    simp [List.mem_filter]
  unfold Settings.setUserTagSubscriptions at h
  simp only at h
  split at h
  · next hnil =>
      injection h with h
      subst h
      show (u, tag) ∈ s.subscriptions.filter _ ↔ _
      rw [hcleared, hnil]
      split
      · next hu => simp [hu]
      · next hu => simp [hu]
  · split at h
    · injection h with h
      subst h
      show (u, tag) ∈ s.subscriptions.filter _ ++ tagIDs.map _ ↔ _
      rw [List.mem_append, hcleared]
      split
      · next hu => simp [hu]
      · next hu => simp [hu, Ne.symm hu]
    · exact absurd h (by simp)

/-- After `SetUserTagSubscriptions` the user has a subscription exactly if one was given. -/
theorem hasSubscription_setUserTagSubscriptions {db : DB} {s : Settings} {tags : List String}
    {userID : String} {tagIDs : List String}
    (h : db.settings.setUserTagSubscriptions tags userID tagIDs = some s) :
    ({ db with settings := s } : DB).HasSubscription userID ↔ tagIDs ≠ [] := by
  unfold DB.HasSubscription
  simp only [mem_setUserTagSubscriptions h, if_true]
  exact ⟨fun hsome => List.ne_nil_of_mem hsome.choose_spec, List.exists_mem_of_ne_nil tagIDs⟩

/-! ## §4. The calendar feed. -/

/-- The property of an event, and the alarms before it. -/
structure CalendarEvent where
  uid : String
  summary : String
  description : String
  /-- Start and end of the all-day event. -/
  expiry : Int
  /-- Days before the event, and the text. -/
  alarms : List (Int × String)
  deriving DecidableEq, Repr

/-- `icsSafe`. -/
def icsSafe (s : String) : String :=
  String.ofList ((s.toList.filter (fun c => c ≠ '\r')).map (fun c => if c = '\n' then ' ' else c))

/-- The event of one certificate. -/
def calendarEvent (X : Externals) (cert : ExpiringCertItem) : CalendarEvent :=
  let cn := icsSafe cert.commonName
  let endpointName := icsSafe cert.endpointName
  { uid := cert.fingerprint ++ "@tlsentinel"
    summary := "Certificate expiry: " ++ cn ++ " (" ++ endpointName ++ ")"
    description := "Endpoint: " ++ endpointName ++ "\nType: " ++ icsSafe cert.endpointType
      ++ "\nCommon Name: " ++ cn ++ "\nExpires: " ++ X.formatRFC1123 cert.notAfter
      ++ "\nDays Remaining: " ++ toString cert.daysRemaining
      ++ "\nFingerprint: " ++ cert.fingerprint
    expiry := cert.notAfter
    alarms := [30, 14, 7, 1].map (fun days : Int =>
      (days, "Certificate expiring in " ++ toString days ++ " days: " ++ cn)) }

/-- `GetUserByCalendarToken`, where `calendarToken` is the column of that name by user id. -/
def getUserByCalendarToken (db : DB) (calendarToken : String → Option String) (token : String) :
    Option User :=
  db.settings.users.rows.find? (fun u => decide (calendarToken u.id = some token) && u.enabled)

/-- `ServeUserCalendar` answers a user's token with these events. -/
def ServesUserCalendar (X : Externals) (db : DB) (calendarToken : String → Option String)
    (now : Int) (token userID : String) (events : List CalendarEvent) : Prop :=
  ∃ u rows, getUserByCalendarToken db calendarToken token = some u ∧ u.id = userID ∧
    db.ListedTagged now u.id 365 rows ∧ events = rows.map fun row => calendarEvent X row.2

/-! ## §5. The mails of a pass. -/

/-- The certificates of its recipient that a pass has still to send a mail about, or to pass
over. -/
def Pc.pending : Pc → List ExpiringCertItem
  | .certs _ rest => rest
  | .claimed _ rest cert _ => cert :: rest
  | .sending _ rest cert _ _ _ => cert :: rest
  | _ => []

variable {X : Externals}

theorem loadMailConfig_pending (cfg : Option MailConfig) : (loadMailConfig X cfg).pending = [] := by
  unfold loadMailConfig
  split
  · rfl
  · split
    · rfl
    · split
      · rfl
      · rfl

theorem sortThresholds_pending (sendCfg : Config) (loaded : Option (List Int)) :
    (sortThresholds sendCfg loaded).pending = [] := by
  unfold sortThresholds
  split
  · rfl
  · split
    · rfl
    · rfl

theorem storeFails_pending {pc pc' : Pc} (h : storeFails X pc = some pc') :
    pc'.pending ⊆ pc.pending := by
  obtain ⟨rfl, -⟩ | ⟨job, rest, rfl, -⟩ | ⟨r, cert, rest, rfl, rfl⟩ |
    ⟨r, rest, cert, threshold, subject, htmlBody, rfl, rfl⟩ := storeFails_cases h
  · exact List.nil_subset _
  · exact List.nil_subset _
  · exact List.subset_cons_self cert rest
  · exact List.Subset.refl _

theorem Sys.goto_passes (s : Sys) (p : Nat) (pc : Pc) : (s.goto p pc).passes p = pc := by
  show Function.update s.passes p pc p = pc
  exact Function.update_self p pc s.passes

/-- After a step that moves the pass, it has what its new place has. -/
theorem Sys.goto_pending {s t : Sys} {p : Nat} {pc : Pc} {certs : List ExpiringCertItem}
    (h : some (s.goto p pc) = some t) (hpc : pc.pending ⊆ certs) :
    (t.passes p).pending ⊆ certs := by
  injection h with h
  rw [← h, Sys.goto_passes]
  exact hpc

/-- The inner loop only drops certificates. -/
theorem nextCert_pending {s t : Sys} {p : Nat} {now : Int}
    (h : step X s (.nextCert p now) = some t) :
    (t.passes p).pending ⊆ (s.passes p).pending := by
  simp only [step] at h
  split at h
  · exact Sys.goto_pending h (List.nil_subset _)
  · next r cert rest hpc =>
      rw [hpc]
      split at h
      · exact Sys.goto_pending h (List.subset_cons_self cert rest)
      · split at h
        · exact Sys.goto_pending h (List.subset_cons_self cert rest)
        · exact Sys.goto_pending h (List.subset_cons_self cert rest)
        · -- claimed: the certificate is still to be sent
          injection h with h
          rw [← h]
          show ((s.goto p _).passes p).pending ⊆ _
          rw [Sys.goto_passes]
          exact List.Subset.refl _
  · exact absurd h (by simp)

/-- A step that does not load a pass's certificates gives it no new ones. -/
theorem pending_step {s t : Sys} {a : Action} {p : Nat} (h : step X s a = some t)
    (ha : ∀ now rows, a ≠ .listCerts p now rows) :
    (t.passes p).pending ⊆ (s.passes p).pending := by
  by_cases hp : a.pass = some p
  · -- the pass moves: no statement but the query adds certificates
    cases a with
    | getMailConfig q =>
        obtain rfl := Option.some.inj hp
        simp only [step] at h
        split at h
        · injection h with h
          rw [← h, Sys.goto_passes, loadMailConfig_pending]
          exact List.nil_subset _
        · exact absurd h (by simp)
    | getAlertThresholds q =>
        obtain rfl := Option.some.inj hp
        simp only [step] at h
        split at h
        · injection h with h
          rw [← h, Sys.goto_passes, sortThresholds_pending]
          exact List.nil_subset _
        · exact absurd h (by simp)
    | listNotifyUsers q rows =>
        obtain rfl := Option.some.inj hp
        simp only [step] at h
        split at h
        · split at h
          · exact Sys.goto_pending h (List.nil_subset _)
          · exact absurd h (by simp)
        · exact absurd h (by simp)
    | nextUser q endpointIDs =>
        obtain rfl := Option.some.inj hp
        simp only [step] at h
        split at h
        · exact Sys.goto_pending h (List.nil_subset _)
        · split at h
          · exact Sys.goto_pending h (List.nil_subset _)
          · split at h
            · exact Sys.goto_pending h (List.nil_subset _)
            · exact absurd h (by simp)
        · exact absurd h (by simp)
    | listCerts q now rows =>
        obtain rfl := Option.some.inj hp
        exact absurd rfl (ha now rows)
    | nextCert q now =>
        obtain rfl := Option.some.inj hp
        exact nextCert_pending h
    | loadTemplate q =>
        obtain rfl := Option.some.inj hp
        simp only [step] at h
        split at h
        · next hpc =>
            injection h with h
            rw [← h, Sys.goto_passes, hpc]
            exact List.Subset.refl _
        · exact absurd h (by simp)
    | send q net =>
        obtain rfl := Option.some.inj hp
        simp only [step] at h
        split at h
        · next hpc =>
            rw [hpc]
            split at h
            · exact Sys.goto_pending h (List.subset_cons_self _ _)
            · injection h with h
              rw [← h]
              show ((s.goto q _).passes q).pending ⊆ _
              rw [Sys.goto_passes]
              exact List.subset_cons_self _ _
        · exact absurd h (by simp)
    | storeFails q =>
        obtain rfl := Option.some.inj hp
        simp only [step] at h
        split at h
        · next hfails =>
            exact Sys.goto_pending h (storeFails_pending hfails)
        · exact absurd h (by simp)
    | insertCertificate c => exact absurd hp (by simp [Action.pass])
    | scan now endpointID fingerprint certUse => exact absurd hp (by simp [Action.pass])
    | purge => exact absurd hp (by simp [Action.pass])
    | edit settings => exact absurd hp (by simp [Action.pass])
  · rw [passes_step h hp]
    exact List.Subset.refl _

/-- **Until it loads again** a pass has only certificates that it loaded. -/
theorem pending_run {s t : Sys} {tr : List (Sys × Action)} (e : Exec (step X) s tr t) {p : Nat}
    (htr : ∀ q ∈ tr, ∀ now rows, q.2 ≠ .listCerts p now rows) :
    ∀ u ∈ visited tr t, (u.passes p).pending ⊆ (s.passes p).pending :=
  e.preserves (C := fun _ a => ∀ now rows, a ≠ .listCerts p now rows)
    (I := fun u => (u.passes p).pending ⊆ (s.passes p).pending)
    (fun _ _ _ hu ha h => List.Subset.trans (pending_step h ha) hu) (List.Subset.refl _) htr

/-! ## §6. The scope of the query and of its consumers. -/

/-- A mail about the certificate goes out to the user: a pass at that recipient, whose
endpoints it resolved, loaded its certificates from the tables, and before it loads again it
is about to send. -/
inductive MailOf (X : Externals) (db : DB) (now : Int) (userID : String)
    (cert : ExpiringCertItem) : Prop
  | sending {s s' t : Sys} {p : Nat} {r r' : Recipient} {endpointIDs : List String}
      {rows rest : List ExpiringCertItem} {tr : List (Sys × Action)} {threshold : Int}
      {subject htmlBody : String} :
      s.db = db → s.passes p = .subscribed r endpointIDs → r.userID = userID →
      endpointIDs.Perm (db.subscribedEndpoints userID) →
      step X s (.listCerts p now rows) = some s' → Exec (step X) s' tr t →
      (∀ q ∈ tr, ∀ now rows, q.2 ≠ .listCerts p now rows) →
      t.passes p = .sending r' rest cert threshold subject htmlBody → MailOf X db now userID cert

/-- The order in which the endpoints were resolved makes no difference. -/
theorem DB.listExpiringActiveCerts_perm {db : DB} {now : Int} {ids ids' : List String}
    {maxDays : Int} (h : ids.Perm ids') :
    db.listExpiringActiveCerts now ids maxDays = db.listExpiringActiveCerts now ids' maxDays := by
  unfold DB.listExpiringActiveCerts
  simp only [h.mem_iff, h.isEmpty_eq]

/-- **A mail is about a row of the query.** -/
theorem MailOf.listed {db : DB} {now : Int} {userID : String} {cert : ExpiringCertItem}
    (h : MailOf X db now userID cert) :
    ∃ maxDays, ∃ row ∈ db.listExpiringActiveCertsTagged now userID maxDays, row.2 = cert := by
  cases h with
  | @sending s s' t p r r' ids rows rest tr _ _ _ hdb hpc _ hids hlist e htr hsending =>
      -- the certificate is one that the pass loaded
      have hpending := pending_run e htr t (last_mem_visited tr t)
      rw [hsending] at hpending
      have hcert : cert ∈ (s'.passes p).pending := hpending List.mem_cons_self
      simp only [step, hpc] at hlist
      split at hlist
      · next hrows =>
          injection hlist with hlist
          rw [← hlist, Sys.goto_passes] at hcert
          have hmem := hrows.1.mem_iff.mp hcert
          rw [hdb, DB.listExpiringActiveCerts_perm hids,
            ← DB.map_snd_listExpiringActiveCertsTagged] at hmem
          exact ⟨_, List.mem_map.mp hmem⟩
      · exact absurd hlist (by simp)

/-- What the user sees is what the subscriptions ask for. -/
structure TagsScope (X : Externals) (db : DB) (calendarToken : String → Option String)
    (now : Int) (userID : String) : Prop where
  rows : ∀ maxDays rows, db.ListedTagged now userID maxDays rows →
    db.Scoped now userID maxDays rows
  calendar : ∀ token events, ServesUserCalendar X db calendarToken now token userID events →
    ∀ event, event ∈ events ↔ ∃ row ∈ db.vActiveCertificates now,
      row.2.daysRemaining ≤ 365 ∧ db.InScope userID row.1 ∧ calendarEvent X row.2 = event
  mails : ∀ cert, MailOf X db now userID cert → ∃ row ∈ db.vActiveCertificates now,
    db.InScope userID row.1 ∧ row.2 = cert

/-- The user has no subscription, or some endpoint carries a subscribed tag, or no
certificate is active. -/
def SubscriptionsResolve (db : DB) (now : Int) (userID : String) : Prop :=
  ¬ db.HasSubscription userID ∨ (∃ endpointID, db.CarriesSubscribed userID endpointID) ∨
    db.vActiveCertificates now = []

theorem forall_resolves_iff {db : DB} {now : Int} {userID : String} :
    (∀ maxDays, db.Resolves now userID maxDays) ↔ SubscriptionsResolve db now userID := by
  constructor
  · intro h
    by_contra hnot
    unfold SubscriptionsResolve at hnot
    push Not at hnot
    obtain ⟨hsub, hnone, hactive⟩ := hnot
    obtain ⟨row, hrow⟩ := List.exists_mem_of_ne_nil _ hactive
    -- a bound that lets this row through
    rcases h row.2.daysRemaining with hno | ⟨endpointID, hcarries⟩ | hnothing
    · exact hno hsub
    · exact hnone endpointID hcarries
    · exact hnothing row hrow (Int.le_refl _)
  · intro h maxDays
    rcases h with hno | hsome | hnil
    · exact .inl hno
    · exact .inr (.inl hsome)
    · refine .inr (.inr fun row hrow => ?_)
      rw [hnil] at hrow
      exact absurd hrow List.not_mem_nil

/-- **When tag subscriptions scope what a user sees.** -/
theorem tagsScope_iff (X : Externals) (db : DB) (calendarToken : String → Option String)
    (now : Int) (userID : String) :
    TagsScope X db calendarToken now userID ↔ SubscriptionsResolve db now userID := by
  rw [← forall_resolves_iff]
  constructor
  · intro h maxDays
    exact (db.listedTagged_scoped_iff now userID maxDays).mp (h.rows maxDays)
  · intro h
    have hrows : ∀ maxDays rows, db.ListedTagged now userID maxDays rows →
        db.Scoped now userID maxDays rows :=
      fun maxDays => (db.listedTagged_scoped_iff now userID maxDays).mpr (h maxDays)
    refine ⟨hrows, ?_, ?_⟩
    · -- the events are those of the rows
      intro token events hserves event
      obtain ⟨u, rows, _, hu, hlisted, hevents⟩ := hserves
      rw [hu] at hlisted
      rw [hevents, List.mem_map]
      simp only [hrows 365 rows hlisted _, and_assoc]
    · -- a mail is about a row of some answer
      intro cert hmail
      obtain ⟨maxDays, row, hrow, hcert⟩ := hmail.listed
      obtain ⟨rows, hlisted⟩ := db.exists_listedTagged now userID maxDays
      obtain ⟨hactive, _, hscope⟩ :=
        (hrows maxDays rows hlisted row).mp (hlisted.1.mem_iff.mpr hrow)
      exact ⟨row, hactive, hscope, hcert⟩

/-- One endpoint with a certificate; the only user subscribes to a tag that it does not
carry. -/
def unusedTag : DB where
  settings :=
    { mailConfig := none
      alertThresholds := none
      template := none
      users := ⟨[⟨"ann", none, true, true⟩], by decide⟩
      endpoints := ⟨[⟨"web", "www", "host", true⟩], by decide⟩
      endpointTags := []
      subscriptions := [("ann", "databases")] }
  certificates := ⟨[⟨"A", "www.example.com", 0⟩], by decide⟩
  endpointCerts := ⟨[⟨1, "web", "A", "tls", true, 0, 0⟩], by decide⟩
  alerts := Table.empty

/-- The user is sent the certificate of an endpoint without the tag. -/
theorem unsubscribed_certificate_listed :
    ¬ ∀ (X : Externals) (db : DB) (calendarToken : String → Option String) (now : Int)
      (userID : String), TagsScope X db calendarToken now userID := by
  intro h
  have hrows := (h plainExternals unusedTag (fun _ => none) 0 "ann").rows 30
    [("web", ⟨"www", "host", "A", "www.example.com", 0, 0⟩)] ⟨by decide, by decide⟩
  obtain ⟨_, _, hscope⟩ := (hrows _).mp List.mem_cons_self
  obtain ⟨tag, hcarries, _⟩ := hscope ⟨"databases", List.mem_cons_self⟩
  exact absurd hcarries List.not_mem_nil

end TLSentinel.Notifications
