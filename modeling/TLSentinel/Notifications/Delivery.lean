/-
  TLSentinel.Notifications.Delivery
  ─────────────────────────────────
  **ALERTS: AT MOST ONCE, AND NONE LOST.**

  The slots of `tlsentinel.certificate_expiry_alerts` are to ensure both, and do so
  only under conditions:

    * a slot is purged as soon as its certificate is current on no endpoint; when
      the certificate comes back, the alert that was sent is sent again
      (`sent_atMostOnce`);
    * a slot is taken before the mail is sent and never given back; an alert whose
      mail fails is not tried again (`noneLost_iff`).
-/
import TLSentinel.Notifications.Alerts

namespace TLSentinel.Notifications

open Foundation

variable {X : Externals}

/-! ## §1. At most once. -/

/-- The condition on one step, in the state it finds: an alert that a pass is about to take
the slot of, and that was sent or is about to be sent by another pass, still has its slot. -/
def ClaimsOnce (s : Sys) : Action → Prop
  | .nextCert p _ =>
      match s.passes p with
      | .certs r (cert :: _) =>
          let threshold := alertThreshold cert.daysRemaining r.job.thresholds
          let alert := alertFor r cert threshold
          threshold ≠ 0 → s.db.AlertRefs alert →
            (alert ∈ s.sent ∨ ∃ q, (s.passes q).waiting = some alert) → s.db.HasAlert alert
      | _ => True
  | _ => True

/-- When a claim inserts a row. -/
theorem inserts_iff {db : DB} {now : Int} {alert : Alert} :
    (∃ db', db.tryInsertExpiryAlert now alert = some (db', true)) ↔
      ¬ db.HasAlert alert ∧ db.AlertRefs alert := by
  constructor
  · intro h
    obtain ⟨db', h⟩ := h
    obtain ⟨hfree, hrefs, _⟩ := DB.tryInsertExpiryAlert_inserted h
    exact ⟨hfree, hrefs⟩
  · intro h
    obtain ⟨hfree, hrefs⟩ := h
    unfold DB.tryInsertExpiryAlert
    cases hins : db.alerts.insert ⟨alert, now⟩ with
    | none => exact absurd (Table.insert_eq_none_iff.mp hins) hfree
    | some alerts => exact ⟨_, by simp only [hrefs, if_true]; rfl⟩

/-- The condition is the outbox's. -/
theorem claimsFresh_of_claimsOnce {s : Sys} {a : Action} (h : ClaimsOnce s a) :
    s.outbox.ClaimsFresh (moveOf X s a) := by
  unfold moveOf
  split
  · next p now =>
      split
      · next r cert rest hpc =>
          simp only [ClaimsOnce, hpc] at h
          simp only
          split
          · trivial
          · next hthreshold =>
              split
              · next db htry =>
                  obtain ⟨hfree, hrefs⟩ := inserts_iff.mp ⟨db, htry⟩
                  -- the slot is free, so the alert was not sent and nobody is about to
                  have hno := fun hsent => hfree (h hthreshold hrefs hsent)
                  exact ⟨fun hsent => hno (.inl hsent), fun q hq => hno (.inr ⟨q, hq⟩)⟩
              · trivial
      · trivial
  · split
    · split <;> trivial
    · trivial
  · trivial

/-- Before any pass has started nothing was sent twice. -/
theorem claimedOnce_of_idle {s : Sys} (hsent : s.sent = []) (hidle : ∀ p, s.passes p = .idle) :
    s.outbox.ClaimedOnce := by
  have hheld : ∀ p, s.outbox.held p = none := by
    intro p
    show (s.passes p).waiting = none
    rw [hidle p]
    rfl
  refine ⟨?_, fun p k hk => ?_, fun p q k hk => ?_⟩
  · show s.sent.Nodup
    rw [hsent]
    exact List.nodup_nil
  · rw [hheld p] at hk
    exact absurd hk (by simp)
  · rw [hheld p] at hk
    exact absurd hk (by simp)

/-- **WHEN NO ALERT IS SENT TWICE.**  In a run of any number of passes, scans, purges and
edits of the settings no alert is sent twice, as long as every pass that comes to an alert
that was sent, or is about to be, finds its slot taken. -/
theorem sent_atMostOnce {start t : Sys} {tr : List (Sys × Action)}
    (e : Exec (step X) start tr t) (hsent : start.sent = [])
    (hidle : ∀ p, start.passes p = .idle) (hclaims : ∀ p ∈ tr, ClaimsOnce p.1 p.2) :
    ∀ u ∈ visited tr t, u.sent.Nodup := by
  have hrun : ∀ u ∈ visited tr t, u.outbox.ClaimedOnce := by
    refine e.preserves (C := ClaimsOnce) (fun s a u hs hc h => ?_)
      (claimedOnce_of_idle hsent hidle) hclaims
    exact (Outbox.claimedOnce_iff hs (refines h)).mpr (claimsFresh_of_claimsOnce hc)
  exact fun u hu => (hrun u hu).nodup

/-- The expiry of the certificates, and a time ten days before. -/
def expiry : Int := 1767225600000000
def tenDaysBefore : Int := expiry - 864000000000

/-- One recipient, and one endpoint whose certificate is about to expire. -/
def oneEndpoint (name : String) : Sys where
  db :=
    { settings :=
        { mailConfig := some
            ⟨true, "smtp.example.org", 25, "none", "", "", "tls@example.org", "", "none"⟩
          alertThresholds := none
          template := none
          users := ⟨[⟨"u1", some "ops@example.org", true, true⟩], by decide⟩
          endpoints := ⟨[⟨"e1", name, "host", true⟩], List.nodup_singleton _⟩
          endpointTags := []
          subscriptions := [] }
      certificates := ⟨[⟨"f1", "old", expiry⟩, ⟨"f2", "new", 2 * expiry⟩], by decide⟩
      endpointCerts := ⟨[⟨1, "e1", "f1", "tls", true, 0, 0⟩], by decide⟩
      alerts := Table.empty }
  passes := fun _ => .idle
  sent := []

/-- A pass that comes to that certificate and sends its mail. -/
def pass (name : String) (p : Nat) : List Action :=
  [.getMailConfig p, .getAlertThresholds p,
    .listNotifyUsers p [⟨"u1", some "ops@example.org", true, true⟩],
    .nextUser p [],
    .listCerts p tenDaysBefore [⟨name, "host", "f1", "old", expiry, 10⟩],
    .nextCert p tenDaysBefore, .loadTemplate p, .send p ⟨true, none⟩]

/-- The certificate is replaced, the slots are purged, and the certificate comes back. -/
def replacedAndBack : List Action :=
  pass "web" 0 ++ [.scan tenDaysBefore "e1" "f2" "tls", .purge,
    .scan tenDaysBefore "e1" "f1" "tls"] ++ pass "web" 1

/-- While nothing was sent, and no pass is about to send, every claim is the first. -/
theorem claimsOnce_of_quiet {s : Sys} (hsent : s.sent = [])
    (hnobody : ∀ q, (s.passes q).waiting = none) (a : Action) : ClaimsOnce s a := by
  unfold ClaimsOnce
  split
  · split
    · intro threshold alert _ _ h
      rcases h with h | ⟨q, hq⟩
      · rw [hsent] at h
        exact absurd h List.not_mem_nil
      · rw [hnobody q] at hq
        exact absurd hq (by simp)
    · trivial
  · trivial

/-- The step takes no slot, or finds the one that it comes to taken. -/
def findsTaken (s : Sys) : Action → Bool
  | .nextCert p _ =>
      match s.passes p with
      | .certs r (cert :: _) =>
          decide (s.db.HasAlert
            (alertFor r cert (alertThreshold cert.daysRemaining r.job.thresholds)))
      | _ => true
  | _ => true

theorem claimsOnce_of_findsTaken {s : Sys} {a : Action} (h : findsTaken s a = true) :
    ClaimsOnce s a := by
  unfold ClaimsOnce
  split
  · next p now =>
      split
      · next r cert rest hpc =>
          simp only [findsTaken, hpc, decide_eq_true_eq] at h
          exact fun _ _ _ => h
      · trivial
  · trivial

/-- Passes other than `p` stay idle in a run of the statements of pass `p`. -/
theorem idle_of_pass {start t : Sys} {as : List Action} {p : Nat}
    (hrun : run (step X) start as = some t) (hidle : ∀ q, start.passes q = .idle)
    (has : ∀ a ∈ as, a.pass = some p) :
    ∀ u ∈ visited (traceFrom (step X) start as) t, ∀ q, q ≠ p → u.passes q = .idle := by
  intro u hu q hq
  rw [← hidle q]
  refine passes_run (exec_traceFrom hrun) (fun x hx => ?_) u hu
  rw [has x.2 (mem_of_mem_traceFrom hx)]
  exact fun h => hq (Option.some.inj h).symm

/-- A pass that sends the mail, and a second one that comes to the same certificate. -/
def secondPass : List Action := pass "web" 0 ++ (pass "web" 1).take 6

/-- The guarantee on a concrete run: the second pass finds the slot taken. -/
theorem sent_atMostOnce_secondPass :
    ∃ t, run (step plainExternals) (oneEndpoint "web") secondPass = some t ∧
      t.sent = [⟨"u1", "f1", 14⟩] ∧
      ∀ u ∈ visited (traceFrom (step plainExternals) (oneEndpoint "web") secondPass) t,
        u.sent.Nodup := by
  refine ⟨_, rfl, by decide, ?_⟩
  refine sent_atMostOnce (exec_traceFrom rfl) rfl (fun _ => rfl) fun x hx => ?_
  have hcheck : ∀ y ∈ traceFrom (step plainExternals) (oneEndpoint "web") secondPass,
      findsTaken y.1 y.2 = true ∨ y.1.sent = [] ∧ (y.1.passes 0).waiting = none ∧
        (y.1.passes 1).waiting = none := by decide
  rcases hcheck x hx with htaken | ⟨hsent, hfirst, hsecond⟩
  · exact claimsOnce_of_findsTaken htaken
  · refine claimsOnce_of_quiet hsent (fun q => ?_) x.2
    by_cases hq : q = 0
    · exact hq ▸ hfirst
    by_cases hq' : q = 1
    · exact hq' ▸ hsecond
    -- the other passes have not begun
    have hidle : x.1.passes q = .idle := by
      refine passes_run (s := oneEndpoint "web") (exec_traceFrom rfl) (fun y hy => ?_) x.1
        (mem_visited hx _)
      have hown : ∀ a ∈ secondPass, a.pass = some 0 ∨ a.pass = some 1 := by decide
      rcases hown y.2 (mem_of_mem_traceFrom hy) with h | h
      · rw [h]
        exact fun heq => hq (Option.some.inj heq).symm
      · rw [h]
        exact fun heq => hq' (Option.some.inj heq).symm
    rw [hidle]
    rfl

/-- **An alert is sent twice**: its certificate was replaced, the slots were purged, and the
certificate came back. -/
theorem alert_sent_twice :
    ¬ ∀ (t : Sys) (tr : List (Sys × Action)),
        Exec (step plainExternals) (oneEndpoint "web") tr t → t.sent.Nodup := by
  intro hall
  have hrun : ∃ t, run (step plainExternals) (oneEndpoint "web") replacedAndBack = some t ∧
      t.sent = [⟨"u1", "f1", 14⟩, ⟨"u1", "f1", 14⟩] := ⟨_, rfl, by decide⟩
  obtain ⟨t, hrun, hsent⟩ := hrun
  have hnodup := hall t _ (exec_traceFrom hrun)
  rw [hsent] at hnodup
  exact absurd hnodup (by decide)

/-! ## §2. None lost. -/

/-- **The property**: a slot that no pass holds before its Send stands for a mail that was
sent. -/
def NoneLost (s : Sys) : Prop :=
  ∀ r ∈ s.db.alerts, r.alert ∈ s.sent ∨ ∃ p, (s.passes p).waiting = some r.alert

/-- The condition on one step, in the state it finds: a mail that is about to be sent is
deliverable, or nothing is lost with it: its slot is gone, it was sent before, or another
pass is about to send it. -/
def FailsSafely (X : Externals) (s : Sys) : Action → Prop
  | .send p net =>
      match s.passes p with
      | .sending r _ cert threshold subject _ =>
          Deliverable X.parseAddress r.job.sendCfg r.email subject net ∨
            ¬ s.db.HasAlert (alertFor r cert threshold) ∨
            alertFor r cert threshold ∈ s.sent ∨
            ∃ q, q ≠ p ∧ (s.passes q).waiting = some (alertFor r cert threshold)
      | _ => True
  | _ => True

theorem noneLost_outbox {s : Sys} : NoneLost s ↔ s.outbox.NoneLost := by
  constructor
  · intro h k hk
    obtain ⟨r, hr, hkey⟩ := hk
    exact hkey ▸ h r hr
  · intro h r hr
    exact h r.alert ⟨r, hr, rfl⟩

/-- The condition is the outbox's. -/
theorem failsSafely_iff {s : Sys} {a : Action} :
    FailsSafely X s a ↔ s.outbox.FailsSafely (moveOf X s a) := by
  unfold moveOf
  split
  · next p now =>
      refine iff_of_true trivial ?_
      split
      · simp only
        split
        · trivial
        · split <;> trivial
      · trivial
  · next p net =>
      unfold FailsSafely
      simp only
      cases hpc : s.passes p with
      | sending r rest cert threshold subject htmlBody =>
          simp only
          rw [← send_eq_ok_iff]
          cases hsend : Notifications.send X.parseAddress r.job.sendCfg r.email subject net with
          | ok u => exact iff_of_true (.inl rfl) trivial
          | error e =>
              -- a Send that fails: the slot must not be the last trace of the alert
              show _ ↔ (s.db.HasAlert (alertFor r cert threshold) → _ ∨ _)
              rw [imp_iff_not_or]
              simp only [reduceCtorEq, false_or]
              rfl
      | _ => exact iff_of_true trivial trivial
  · next hsend hclaim =>
      refine iff_of_true ?_ trivial
      cases a with
      | send p net => exact absurd rfl (hclaim p net)
      | _ => trivial

/-- An alert that was not sent and that no pass is about to send has a free slot: the next
pass that comes to it takes it. -/
theorem retried {s : Sys} (h : NoneLost s) {alert : Alert} {now : Int}
    (hsent : alert ∉ s.sent) (hnobody : ∀ p, (s.passes p).waiting ≠ some alert)
    (hrefs : s.db.AlertRefs alert) :
    ∃ db, s.db.tryInsertExpiryAlert now alert = some (db, true) := by
  refine inserts_iff.mpr ⟨fun htaken => ?_, hrefs⟩
  rcases noneLost_outbox.mp h alert htaken with hmem | ⟨p, hp⟩
  · exact hsent hmem
  · exact hnobody p hp

/-- **WHEN NO ALERT IS LOST.**  In a run of any number of passes, scans, purges and edits of
the settings every slot stands in every state reached for a mail that was sent or that its
pass is about to send, if and only if every Send fails safely. -/
theorem noneLost_iff {start t : Sys} {tr : List (Sys × Action)}
    (e : Exec (step X) start tr t) (hstart : NoneLost start) :
    (∀ u ∈ visited tr t, NoneLost u) ↔ ∀ p ∈ tr, FailsSafely X p.1 p.2 := by
  refine e.always_iff (J := fun _ => True) (fun _ _ _ _ _ => trivial)
    (fun s a u _ hs h => ?_) trivial hstart
  rw [noneLost_outbox, failsSafely_iff]
  exact Outbox.noneLost_move_iff (noneLost_outbox.mp hs) (refines h)

/-- The exact condition on a concrete run: one pass, whose mail is sent. -/
theorem noneLost_iff_onePass :
    ∃ t, run (step plainExternals) (oneEndpoint "web") (pass "web" 0) = some t ∧
      ((∀ u ∈ visited (traceFrom (step plainExternals) (oneEndpoint "web") (pass "web" 0)) t,
          NoneLost u) ↔
        ∀ p ∈ traceFrom (step plainExternals) (oneEndpoint "web") (pass "web" 0),
          FailsSafely plainExternals p.1 p.2) := by
  refine ⟨_, rfl, ?_⟩
  exact noneLost_iff (exec_traceFrom rfl) Table.forall_mem_empty

/-- **An alert is lost**: the endpoint's name has a line break, the subject is refused, and
the slot stays. -/
theorem alert_lost :
    ¬ ∀ (t : Sys) (tr : List (Sys × Action)),
        Exec (step plainExternals) (oneEndpoint "web\nprod") tr t → NoneLost t := by
  intro hall
  have hrun : ∃ t, run (step plainExternals) (oneEndpoint "web\nprod") (pass "web\nprod" 0)
      = some t ∧ t.db.HasAlert ⟨"u1", "f1", 14⟩ ∧ t.sent = [] ∧
      ∀ p, (t.passes p).waiting = none := by
    refine ⟨_, rfl, by decide, rfl, fun p => ?_⟩
    by_cases hp : p = 0
    · rw [hp]
      rfl
    · have hidle := @idle_of_pass plainExternals (oneEndpoint "web\nprod") _
        (pass "web\nprod" 0) 0 rfl (fun _ => rfl) (by decide) _ (last_mem_visited _ _) p hp
      rw [hidle]
      rfl
  obtain ⟨t, hrun, ⟨r, hr, _⟩, hsent, hnobody⟩ := hrun
  rcases hall t _ (exec_traceFrom hrun) r hr with hmem | ⟨p, hp⟩
  · rw [hsent] at hmem
    exact absurd hmem List.not_mem_nil
  · rw [hnobody p] at hp
    exact absurd hp (by simp)

end TLSentinel.Notifications
