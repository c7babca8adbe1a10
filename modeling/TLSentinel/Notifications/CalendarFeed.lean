/-
  TLSentinel.Notifications.CalendarFeed
  ─────────────────────────────────────
  **THE EVENTS OF THE CALENDAR FEED AND THEIR UIDS.**

  `ServeUserCalendar` of `internal/calendar/handler.go` makes one event for each row of
  ListExpiringActiveCertsTagged, and names it after the fingerprint of the certificate.
  `v_active_certificates` has a row for each current use of a certificate on an enabled
  endpoint: a certificate in two of them gives two events of one UID, which a calendar
  client takes for one.

  Main results:
    * `serves_calendarEvents` — the events of the handler are those of its rows;
    * `ownEvents_iff`         — when every row has an event of its own.
-/
import TLSentinel.Notifications.Subscriptions

namespace TLSentinel.Notifications

open Foundation

/-! ## §1. The events of a list of rows. -/

/-- The loop of `ServeUserCalendar`. -/
def calendarEvents (X : Externals) (rows : List (String × ExpiringCertItem)) :
    List CalendarEvent :=
  rows.map fun row => calendarEvent X row.2

/-- **The events of the handler** are those of a list that the query returns. -/
theorem serves_calendarEvents {X : Externals} {db : DB} {calendarToken : String → Option String}
    {now : Int} {token userID : String} {events : List CalendarEvent} :
    ServesUserCalendar X db calendarToken now token userID events ↔
      (∃ u, getUserByCalendarToken db calendarToken token = some u ∧ u.id = userID) ∧
        ∃ rows, db.ListedTagged now userID 365 rows ∧ events = calendarEvents X rows := by
  constructor
  · rintro ⟨u, rows, hu, rfl, hlisted, hevents⟩
    exact ⟨⟨u, hu, rfl⟩, rows, hlisted, hevents⟩
  · rintro ⟨⟨u, hu, rfl⟩, rows, hlisted, hevents⟩
    exact ⟨u, rows, hu, rfl, hlisted, hevents⟩

/-- The UIDs are pairwise distinct, and every row has the event that is about it: no other
one has its UID. -/
structure OwnEvents (X : Externals) (rows : List (String × ExpiringCertItem)) : Prop where
  distinct : ((calendarEvents X rows).map CalendarEvent.uid).Nodup
  own : ∀ (i : Nat) (row : String × ExpiringCertItem), rows[i]? = some row →
    (calendarEvents X rows)[i]? = some (calendarEvent X row.2) ∧
      ∀ (j : Nat) (event : CalendarEvent), (calendarEvents X rows)[j]? = some event →
        event.uid = (calendarEvent X row.2).uid → j = i

/-- **UIDs are distinct exactly if no certificate is in two rows.** -/
theorem ownEvents_iff_fingerprints {X : Externals} {rows : List (String × ExpiringCertItem)} :
    OwnEvents X rows ↔ (rows.map fun row => row.2.fingerprint).Nodup := by
  have huid : (calendarEvents X rows).map CalendarEvent.uid =
      (rows.map fun row => row.2.fingerprint).map (· ++ "@tlsentinel") := by
    unfold calendarEvents
    rw [List.map_map, List.map_map]
    rfl
  have hinj : Function.Injective (· ++ "@tlsentinel") := by
    intro a b h
    have htext : a.toList ++ "@tlsentinel".toList = b.toList ++ "@tlsentinel".toList := by
      simpa only [String.toList_append] using congrArg String.toList h
    exact String.toList_inj.mp (List.append_cancel_right htext)
  have hnodup : ((calendarEvents X rows).map CalendarEvent.uid).Nodup ↔
      (rows.map fun row => row.2.fingerprint).Nodup := by
    rw [huid]
    exact List.nodup_map_iff hinj
  refine ⟨fun h => hnodup.mp h.distinct, fun h => ⟨hnodup.mpr h, fun i row hrow => ?_⟩⟩
  have hevent : (calendarEvents X rows)[i]? = some (calendarEvent X row.2) := by
    unfold calendarEvents
    rw [List.getElem?_map, hrow]
    rfl
  refine ⟨hevent, fun j event hj heq => ?_⟩
  -- two places with one UID are one
  have hi : ((calendarEvents X rows).map CalendarEvent.uid)[i]? =
      some (calendarEvent X row.2).uid := by
    rw [List.getElem?_map, hevent]
    rfl
  have hj' : ((calendarEvents X rows).map CalendarEvent.uid)[j]? =
      some (calendarEvent X row.2).uid := by
    rw [List.getElem?_map, hj, ← heq]
    rfl
  have hlt := (List.getElem?_eq_some_iff.mp hj').1
  exact (List.getElem?_inj hlt (hnodup.mpr h)).mp (hj'.trans hi.symm)

/-! ## §2. When a certificate is in two rows. -/

/-- The feed of the user shows this use of a certificate: it is current, the endpoint is
enabled and in the scope that the query gives the user, and the certificate expires within
the year. -/
def Feeds (db : DB) (now : Int) (userID : String) (ec : Scans.EndpointCert) : Prop :=
  ec.isCurrent = true ∧
    (∃ e, db.settings.endpoints.find? ec.endpointID = some e ∧ e.enabled = true) ∧
    (∃ c, db.certificates.find? ec.fingerprint = some c ∧
      DB.daysRemaining now c.notAfter ≤ 365) ∧
    ((∃ endpointID, db.CarriesSubscribed userID endpointID) →
      db.CarriesSubscribed userID ec.endpointID)

/-- No two uses that feed the user's calendar are of one certificate. -/
def OneUseEach (db : DB) (now : Int) (userID : String) : Prop :=
  ∀ a ∈ db.endpointCerts, ∀ b ∈ db.endpointCerts, Feeds db now userID a → Feeds db now userID b →
    a.fingerprint = b.fingerprint → a = b

/-- The row of the query that a use gives. -/
def feedRow (db : DB) (now : Int) (userID : String) (ec : Scans.EndpointCert) :
    Option (String × ExpiringCertItem) :=
  (db.activeCertificate now ec).filter fun row =>
    decide (row.2.daysRemaining ≤ 365) &&
      ((db.subscribedEndpoints userID).isEmpty || decide (row.1 ∈ db.subscribedEndpoints userID))

/-- The rows of the query, use by use. -/
theorem listed_eq_filterMap (db : DB) (now : Int) (userID : String) :
    db.listExpiringActiveCertsTagged now userID 365 =
      db.endpointCerts.rows.filterMap (feedRow db now userID) := by
  unfold DB.listExpiringActiveCertsTagged DB.listAllExpiringActiveCerts DB.vActiveCertificates
    feedRow
  cases db.subscribedEndpoints userID with
  | nil => simp [List.filter_filterMap]
  | cons e es => simp [List.filter_filterMap, Bool.and_comm]

/-- What a row of `v_active_certificates` says of the use it comes from. -/
theorem activeCertificate_eq_some {db : DB} {now : Int} {ec : Scans.EndpointCert}
    {row : String × ExpiringCertItem} :
    db.activeCertificate now ec = some row ↔
      ec.isCurrent = true ∧ ∃ e c, db.settings.endpoints.find? ec.endpointID = some e ∧
        e.enabled = true ∧ db.certificates.find? ec.fingerprint = some c ∧
        (e.id, ⟨e.name, e.type, c.fingerprint, c.commonName, c.notAfter,
          DB.daysRemaining now c.notAfter⟩) = row := by
  unfold DB.activeCertificate
  cases ec.isCurrent with
  | false => simp
  | true =>
      cases db.settings.endpoints.find? ec.endpointID with
      | none => simp
      | some e =>
          cases db.certificates.find? ec.fingerprint with
          | none => simp
          | some c => cases he : e.enabled <;> simp [he]

/-- **A use gives a row exactly if it feeds the calendar.** -/
theorem feedRow_isSome_iff {db : DB} {now : Int} {userID : String} {ec : Scans.EndpointCert} :
    (feedRow db now userID ec).isSome = true ↔ Feeds db now userID ec := by
  -- the scope, as the query has it
  have hscope : ∀ id, ((db.subscribedEndpoints userID).isEmpty ||
        decide (id ∈ db.subscribedEndpoints userID)) = true ↔
      ((∃ endpointID, db.CarriesSubscribed userID endpointID) →
        db.CarriesSubscribed userID id) := by
    intro id
    simp only [← DB.mem_subscribedEndpoints]
    cases db.subscribedEndpoints userID with
    | nil => simp
    | cons e es =>
        have hsome : ∃ endpointID, endpointID ∈ e :: es := ⟨e, List.mem_cons_self⟩
        simp only [hsome, true_imp_iff]
        simp
  unfold feedRow
  rw [Option.isSome_iff_exists]
  simp only [Option.filter_eq_some_iff, Bool.and_eq_true, decide_eq_true_eq, hscope,
    activeCertificate_eq_some]
  constructor
  · intro h
    obtain ⟨row, ⟨hcurrent, e, c, he, henabled, hc, rfl⟩, hdays, hsub⟩ := h
    have hid : e.id = ec.endpointID := Table.key_of_find? he
    exact ⟨hcurrent, ⟨e, he, henabled⟩, ⟨c, hc, hdays⟩, hid ▸ hsub⟩
  · intro h
    obtain ⟨hcurrent, ⟨e, he, henabled⟩, ⟨c, hc, hdays⟩, hsub⟩ := h
    have hid : e.id = ec.endpointID := Table.key_of_find? he
    exact ⟨_, ⟨hcurrent, e, c, he, henabled, hc, rfl⟩, hdays, hid.symm ▸ hsub⟩

/-- The row is about the certificate of the use. -/
theorem feedRow_fingerprint {db : DB} {now : Int} {userID : String} {ec : Scans.EndpointCert}
    {row : String × ExpiringCertItem} (h : feedRow db now userID ec = some row) :
    row.2.fingerprint = ec.fingerprint := by
  unfold feedRow at h
  obtain ⟨hrow, -⟩ := Option.filter_eq_some_iff.mp h
  obtain ⟨-, e, c, -, -, hc, rfl⟩ := activeCertificate_eq_some.mp hrow
  show c.fingerprint = ec.fingerprint
  exact Table.key_of_find? hc

/-- No certificate is in two rows of the query exactly if none has two uses. -/
theorem nodup_fingerprints_iff (db : DB) (now : Int) (userID : String) :
    ((db.listExpiringActiveCertsTagged now userID 365).map fun row => row.2.fingerprint).Nodup ↔
      OneUseEach db now userID := by
  rw [listed_eq_filterMap, List.nodup_iff_pairwise_ne, List.pairwise_map, List.pairwise_filterMap]
  constructor
  · intro h a ha b hb hfa hfb hab
    by_contra hne
    obtain ⟨rowA, hrowA⟩ := Option.isSome_iff_exists.mp (feedRow_isSome_iff.mpr hfa)
    obtain ⟨rowB, hrowB⟩ := Option.isSome_iff_exists.mp (feedRow_isSome_iff.mpr hfb)
    -- apart in the table, they give rows of two certificates
    have hsymm : Std.Symm fun u v : Scans.EndpointCert =>
        ∀ row, feedRow db now userID u = some row → ∀ row', feedRow db now userID v = some row' →
          row.2.fingerprint ≠ row'.2.fingerprint :=
      ⟨fun u v huv row hrow row' hrow' => (huv row' hrow' row hrow).symm⟩
    refine h.forall ha hb hne rowA hrowA rowB hrowB ?_
    rw [feedRow_fingerprint hrowA, feedRow_fingerprint hrowB, hab]
  · intro h
    have hrows : db.endpointCerts.rows.Nodup := List.Nodup.of_map _ db.endpointCerts.nodup
    refine hrows.imp_of_mem ?_
    intro a b ha hb hne rowA hrowA rowB hrowB hfp
    rw [feedRow_fingerprint hrowA, feedRow_fingerprint hrowB] at hfp
    have hfa := feedRow_isSome_iff.mp (Option.isSome_iff_exists.mpr ⟨rowA, hrowA⟩)
    have hfb := feedRow_isSome_iff.mp (Option.isSome_iff_exists.mpr ⟨rowB, hrowB⟩)
    exact hne (h a ha b hb hfa hfb hfp)

/-- **Every row of the feed has an event of its own** exactly if no certificate is current
in two uses that the feed shows. -/
theorem ownEvents_iff (X : Externals) (db : DB) (now : Int) (userID : String) :
    (∀ rows, db.ListedTagged now userID 365 rows → OwnEvents X rows) ↔
      OneUseEach db now userID := by
  rw [← nodup_fingerprints_iff]
  constructor
  · intro h
    obtain ⟨rows, hrows⟩ := db.exists_listedTagged now userID 365
    exact (hrows.1.map _).nodup_iff.mp (ownEvents_iff_fingerprints.mp (h rows hrows))
  · intro h rows hrows
    exact ownEvents_iff_fingerprints.mpr ((hrows.1.map _).nodup_iff.mpr h)

/-- Two enabled endpoints that serve one certificate. -/
def sharedCertificate : DB where
  settings :=
    { mailConfig := none
      alertThresholds := none
      template := none
      users := ⟨[⟨"bob", none, true, true⟩], by decide⟩
      endpoints := ⟨[⟨"web", "www", "host", true⟩, ⟨"mail", "smtp", "host", true⟩], by decide⟩
      endpointTags := []
      subscriptions := [] }
  certificates := ⟨[⟨"A", "*.example.com", 0⟩], by decide⟩
  endpointCerts :=
    ⟨[⟨1, "web", "A", "tls", true, 0, 0⟩, ⟨2, "mail", "A", "tls", true, 0, 0⟩], by decide⟩
  alerts := Table.empty

/-- Their two events are of one UID. -/
theorem shared_uid :
    ¬ ∀ (X : Externals) (db : DB) (now : Int) (userID : String),
      ∀ rows, db.ListedTagged now userID 365 rows → OwnEvents X rows := by
  intro h
  have hown := h plainExternals sharedCertificate 0 "bob"
    [("web", ⟨"www", "host", "A", "*.example.com", 0, 0⟩),
      ("mail", ⟨"smtp", "host", "A", "*.example.com", 0, 0⟩)] ⟨by decide, by decide⟩
  exact absurd (ownEvents_iff_fingerprints.mp hown) (by decide)

end TLSentinel.Notifications
