/-
  TLSentinel.Notifications.Rendering
  ──────────────────────────────────
  **THE DAYS THAT A MAIL SPEAKS OF.**

  Templates may use DaysRemaining, which the settings page explains as the days until
  expiry.  `renderExpiryEmail` fills in the threshold of the alert instead: a certificate
  that is first seen inside a bucket, or alerted late, is said to last longer than it
  does.  The two numbers agree exactly where the days left are themselves a threshold.

  Main results:
    * `sound_step`        — what a pass knows of its thresholds, step by step;
    * `statesDays_iff`    — which mails state the days that are left;
    * `statesDays_broken` — a mail that does not.
-/
import TLSentinel.Notifications.Thresholds

namespace TLSentinel.Notifications

open Foundation

/-! ## §1. What a text says. -/

/-- `certAlertData`, as `renderExpiryEmail` fills it in for a number of days. -/
def alertData (X : Externals) (cert : ExpiringCertItem) (days : Int) : CertAlertData :=
  ⟨cert.endpointName, cert.endpointType, cert.commonName, X.formatRFC1123 cert.notAfter, days,
    cert.fingerprint⟩

/-- A template uses DaysRemaining: other days make another text. -/
def UsesDays (X : Externals) (render : CertAlertData → Option String) (cert : ExpiringCertItem) :
    Prop :=
  ∀ m n text, render (alertData X cert m) = some text → render (alertData X cert n) = some text →
    m = n

/-- The text is the one for that many days. -/
def Shows (X : Externals) (render : CertAlertData → Option String) (cert : ExpiringCertItem)
    (days : Int) (text : String) : Prop :=
  render (alertData X cert days) = some text

section Rendering

variable (X : Externals)

/-- The subject template in force. -/
def subjectOf (override : Option NotificationTemplate) : CertAlertData → Option String :=
  X.renderTextTemplate ((override.getD (getDefault X)).subject.getD "")

/-- The body template in force. -/
def bodyOf (override : Option NotificationTemplate) : CertAlertData → Option String :=
  X.renderHTMLTemplate (override.getD (getDefault X)).body

/-- **What the rendering does**: both templates are filled in with the threshold. -/
theorem renderExpiryEmail_eq_some_iff {cert : ExpiringCertItem} {threshold : Int}
    {override : Option NotificationTemplate} {subject htmlBody : String} :
    renderExpiryEmail X cert threshold (some override) = some (subject, htmlBody) ↔
      Shows X (subjectOf X override) cert threshold subject ∧
        Shows X (bodyOf X override) cert threshold htmlBody := by
  unfold renderExpiryEmail Shows subjectOf bodyOf alertData
  simp only
  cases hsubject : X.renderTextTemplate ((override.getD (getDefault X)).subject.getD "")
      ⟨cert.endpointName, cert.endpointType, cert.commonName, X.formatRFC1123 cert.notAfter,
        threshold, cert.fingerprint⟩ with
  | none => simp
  | some s =>
      cases hbody : X.renderHTMLTemplate (override.getD (getDefault X)).body
          ⟨cert.endpointName, cert.endpointType, cert.commonName, X.formatRFC1123 cert.notAfter,
            threshold, cert.fingerprint⟩ with
      | none => simp
      | some b => simp

/-- A template shows the true days exactly when they are the ones filled in. -/
theorem shows_iff_of_uses {render : CertAlertData → Option String} {cert : ExpiringCertItem}
    {filled days : Int} {text : String} (huses : UsesDays X render cert)
    (h : Shows X render cert filled text) : Shows X render cert days text ↔ days = filled := by
  constructor
  · exact fun hdays => huses _ _ _ hdays h
  · exact fun hdays => hdays ▸ h

/-! ## §2. The runs of the job. -/

/-- A mail that is rendered states the days that its certificate has left, in the subject
and in the body, where their templates use them. -/
def StatesDays (s : Sys) (a : Action) (t : Sys) : Prop :=
  match a with
  | .loadTemplate p =>
      match s.passes p, t.passes p with
      | .claimed _ _ cert threshold, .sending _ _ _ _ subject htmlBody =>
          (renderExpiryEmail X cert threshold (some s.db.settings.template)).isSome →
            (UsesDays X (subjectOf X s.db.settings.template) cert →
              Shows X (subjectOf X s.db.settings.template) cert cert.daysRemaining subject) ∧
            (UsesDays X (bodyOf X s.db.settings.template) cert →
              Shows X (bodyOf X s.db.settings.template) cert cert.daysRemaining htmlBody)
      | _, _ => True
  | _ => True

/-- The certificate that a pass is about to write of has as many days left as one of the
thresholds says, if a template that can be filled in uses them. -/
def OnThreshold (s : Sys) : Action → Prop
  | .loadTemplate p =>
      match s.passes p with
      | .claimed r _ cert threshold =>
          (renderExpiryEmail X cert threshold (some s.db.settings.template)).isSome →
            UsesDays X (subjectOf X s.db.settings.template) cert ∨
              UsesDays X (bodyOf X s.db.settings.template) cert →
            cert.daysRemaining ∈ r.job.thresholds
      | _ => True
  | _ => True

end Rendering

/-- Sorted. -/
def Job.Sorted (job : Job) : Prop := job.thresholds.Pairwise (fun a b => b ≤ a)

/-- What a pass knows: its thresholds are sorted, and the alert it has claimed is for the
threshold that the certificate has reached. -/
def Pc.Sound : Pc → Prop
  | .idle | .thresholds _ | .done => True
  | .recipients job | .users job _ => job.Sorted
  | .subscribed r _ | .certs r _ | .sending r _ _ _ _ _ => r.job.Sorted
  | .claimed r _ cert threshold =>
      r.job.Sorted ∧ threshold = alertThreshold cert.daysRemaining r.job.thresholds ∧
        threshold ≠ 0

section Soundness

variable {X : Externals} {s t : Sys}

theorem sound_loadMailConfig (cfg : Option MailConfig) : (loadMailConfig X cfg).Sound := by
  unfold loadMailConfig
  split
  · trivial
  · split
    · trivial
    · split <;> trivial

theorem sound_sortThresholds (sendCfg : Config) (loaded : Option (List Int)) :
    (sortThresholds sendCfg loaded).Sound := by
  unfold sortThresholds
  split
  · trivial
  · split
    · trivial
    · exact sortDescending_sorted _

theorem sound_storeFails {pc pc' : Pc} (h : storeFails X pc = some pc') (hpc : pc.Sound) :
    pc'.Sound := by
  cases pc with
  | idle => exact Option.some.inj h ▸ trivial
  | thresholds _ => exact Option.some.inj h ▸ trivial
  | recipients _ => exact Option.some.inj h ▸ trivial
  | users job rest =>
      cases rest with
      | nil => exact absurd h (by simp [storeFails])
      | cons u rest =>
          simp only [storeFails] at h
          split at h
          · exact Option.some.inj h ▸ hpc
          · exact absurd h (by simp)
  | subscribed r _ => exact Option.some.inj h ▸ hpc
  | certs r rest =>
      cases rest with
      | nil => exact absurd h (by simp [storeFails])
      | cons cert rest =>
          simp only [storeFails] at h
          split at h
          · exact absurd h (by simp)
          · exact Option.some.inj h ▸ hpc
  | claimed r rest cert threshold => exact Option.some.inj h ▸ hpc.1
  | sending _ _ _ _ _ _ => exact absurd h (by simp [storeFails])
  | done => exact absurd h (by simp [storeFails])

theorem sound_goto (hs : ∀ q, (s.passes q).Sound) {p : Nat} {pc : Pc} (hpc : pc.Sound) :
    ∀ q, ((s.goto p pc).passes q).Sound := by
  intro q
  show (Function.update s.passes p pc q).Sound
  by_cases hq : q = p
  · subst hq
    rw [Function.update_self]
    exact hpc
  · rw [Function.update_of_ne hq]
    exact hs q

/-- The inner loop claims the threshold that the certificate has reached. -/
theorem sound_nextCert {p : Nat} {now : Int} (h : step X s (.nextCert p now) = some t)
    (hs : ∀ q, (s.passes q).Sound) : ∀ q, (t.passes q).Sound := by
  have hp := hs p
  simp only [step] at h
  split at h
  · next r hpc =>
      rw [hpc] at hp
      exact Option.some.inj h ▸ sound_goto hs hp
  · next r cert rest hpc =>
      rw [hpc] at hp
      split at h
      · exact Option.some.inj h ▸ sound_goto hs hp
      · next hzero =>
          split at h
          · exact Option.some.inj h ▸ sound_goto hs hp
          · exact Option.some.inj h ▸ sound_goto hs hp
          · have hclaimed : (Pc.claimed r rest cert
                (alertThreshold cert.daysRemaining r.job.thresholds)).Sound := ⟨hp, rfl, hzero⟩
            exact Option.some.inj h ▸ sound_goto hs hclaimed
  · exact absurd h (by simp)

/-- The outer loop keeps the thresholds. -/
theorem sound_nextUser {p : Nat} {endpointIDs : List String}
    (h : step X s (.nextUser p endpointIDs) = some t) (hs : ∀ q, (s.passes q).Sound) :
    ∀ q, (t.passes q).Sound := by
  have hp := hs p
  simp only [step] at h
  split at h
  · exact Option.some.inj h ▸ sound_goto hs trivial
  · next job u rest hpc =>
      rw [hpc] at hp
      split at h
      · exact Option.some.inj h ▸ sound_goto hs hp
      · split at h
        · exact Option.some.inj h ▸ sound_goto hs hp
        · exact absurd h (by simp)
  · exact absurd h (by simp)

/-- **Every step keeps what the passes know.** -/
theorem sound_step {a : Action} (h : step X s a = some t) (hs : ∀ q, (s.passes q).Sound) :
    ∀ q, (t.passes q).Sound := by
  cases a with
  | getMailConfig p =>
      simp only [step] at h
      split at h
      · exact Option.some.inj h ▸ sound_goto hs (sound_loadMailConfig _)
      · exact absurd h (by simp)
  | getAlertThresholds p =>
      simp only [step] at h
      split at h
      · exact Option.some.inj h ▸ sound_goto hs (sound_sortThresholds _ _)
      · exact absurd h (by simp)
  | listNotifyUsers p rows =>
      have hp := hs p
      simp only [step] at h
      split at h
      · next hpc =>
          rw [hpc] at hp
          split at h
          · exact Option.some.inj h ▸ sound_goto hs hp
          · exact absurd h (by simp)
      · exact absurd h (by simp)
  | nextUser p endpointIDs => exact sound_nextUser h hs
  | listCerts p now rows =>
      have hp := hs p
      simp only [step] at h
      split at h
      · next hpc =>
          rw [hpc] at hp
          split at h
          · exact Option.some.inj h ▸ sound_goto hs hp
          · exact absurd h (by simp)
      · exact absurd h (by simp)
  | nextCert p now => exact sound_nextCert h hs
  | loadTemplate p =>
      have hp := hs p
      simp only [step] at h
      split at h
      · next hpc =>
          rw [hpc] at hp
          exact Option.some.inj h ▸ sound_goto hs hp.1
      · exact absurd h (by simp)
  | send p net =>
      have hp := hs p
      simp only [step] at h
      split at h
      · next hpc =>
          rw [hpc] at hp
          split at h
          · exact Option.some.inj h ▸ sound_goto hs hp
          · exact Option.some.inj h ▸ sound_goto hs hp
      · exact absurd h (by simp)
  | storeFails p =>
      simp only [step] at h
      split at h
      · next hpc => exact Option.some.inj h ▸ sound_goto hs (sound_storeFails hpc (hs p))
      · exact absurd h (by simp)
  | insertCertificate c => exact Option.some.inj h ▸ hs
  | scan now endpointID fingerprint certUse =>
      simp only [step] at h
      split at h
      · exact Option.some.inj h ▸ hs
      · exact Option.some.inj h ▸ hs
  | purge => exact Option.some.inj h ▸ hs
  | edit settings => exact Option.some.inj h ▸ hs

/-- The threshold is the days left exactly when these are a threshold. -/
theorem daysRemaining_eq_iff {r : Recipient} {rest : List ExpiringCertItem}
    {cert : ExpiringCertItem} {threshold : Int} (h : (Pc.claimed r rest cert threshold).Sound) :
    cert.daysRemaining = threshold ↔ cert.daysRemaining ∈ r.job.thresholds := by
  obtain ⟨hsorted, rfl, hreached⟩ := h
  constructor
  · intro heq
    have hexists : ∃ t ∈ r.job.thresholds, cert.daysRemaining ≤ t := by
      by_contra hnone
      push Not at hnone
      exact hreached (alertThreshold_none hnone)
    exact heq ▸ (alertThreshold_spec hsorted hexists).1
  · exact fun hmem => (alertThreshold_of_mem hsorted hmem).symm

/-- A step states the days exactly when they are a threshold. -/
theorem statesDays_step_iff {a : Action} (h : step X s a = some t)
    (hs : ∀ q, (s.passes q).Sound) : StatesDays X s a t ↔ OnThreshold X s a := by
  cases a with
  | loadTemplate p =>
      have hp := hs p
      cases hpc : s.passes p with
      | claimed r rest cert threshold =>
          rw [hpc] at hp
          simp only [step, hpc] at h
          obtain rfl := Option.some.inj h
          simp only [StatesDays, OnThreshold, hpc, Sys.goto, Function.update_self]
          cases hrender : renderExpiryEmail X cert threshold (some s.db.settings.template) with
          | none => simp
          | some text =>
              obtain ⟨subject, htmlBody⟩ := text
              obtain ⟨hsubject, hbody⟩ := (renderExpiryEmail_eq_some_iff X).mp hrender
              have htext : mailText X cert threshold (some s.db.settings.template) =
                  (subject, htmlBody) := by
                rw [mailText, hrender]
                rfl
              rw [htext]
              -- either template, where it uses the days, shows the threshold
              have hiff : ∀ {render : CertAlertData → Option String} {shown : String},
                  Shows X render cert threshold shown →
                  ((UsesDays X render cert → Shows X render cert cert.daysRemaining shown) ↔
                    (UsesDays X render cert → cert.daysRemaining ∈ r.job.thresholds)) := by
                intro render shown hshown
                rw [← daysRemaining_eq_iff hp]
                exact imp_congr_right fun huses => shows_iff_of_uses X huses hshown
              rw [hiff hsubject, hiff hbody]
              simp only [Option.isSome_some, forall_const]
              exact or_imp.symm
      | _ => simp [step, hpc] at h
  | _ => exact iff_of_true trivial trivial

/-- What the passes know in a run that starts before any of them. -/
theorem sound_run {start : Sys} {tr : List (Sys × Action)} (e : Exec (step X) start tr t)
    (hidle : ∀ p, start.passes p = .idle) :
    ∀ u ∈ visited tr t, ∀ q, (u.passes q).Sound := by
  refine e.preserves (C := fun _ _ => True) (fun s a u hs _ h => sound_step h hs) (fun q => ?_)
    fun _ _ => trivial
  rw [hidle q]
  trivial

end Soundness

/-- **WHICH MAILS STATE THE DAYS THAT ARE LEFT.**  In a run of any number of passes, scans,
purges and edits of the settings every mail that is rendered states the days its
certificate has left, if and only if these are one of the thresholds whenever a template
that uses them is filled in. -/
theorem statesDays_iff {X : Externals} {start t : Sys} {tr : List (Sys × Action)}
    (e : Exec (step X) start tr t) (hidle : ∀ p, start.passes p = .idle) :
    (∀ p ∈ tr, ∀ u, step X p.1 p.2 = some u → StatesDays X p.1 p.2 u) ↔
      ∀ p ∈ tr, OnThreshold X p.1 p.2 := by
  have h := e.always_steps_iff (P := fun _ => True) (J := fun s => ∀ q, (s.passes q).Sound)
    (Q := StatesDays X) (C := OnThreshold X) (fun s a u hs h => sound_step h hs)
    (fun s a u hs _ h => by simpa using statesDays_step_iff h hs)
    (fun q => by rw [hidle q]; trivial) trivial
  simpa using h

/-! ## §3. A mail. -/

/-- A certificate with ten days left, and the default template. -/
theorem statesDays_iff_tenDays :
    ∃ t, run (step plainExternals) (oneEndpoint "web") (pass "web" 0) = some t ∧
      ((∀ p ∈ traceFrom (step plainExternals) (oneEndpoint "web") (pass "web" 0),
          ∀ u, step plainExternals p.1 p.2 = some u → StatesDays plainExternals p.1 p.2 u) ↔
        ∀ p ∈ traceFrom (step plainExternals) (oneEndpoint "web") (pass "web" 0),
          OnThreshold plainExternals p.1 p.2) := by
  refine ⟨_, rfl, ?_⟩
  exact statesDays_iff (exec_traceFrom rfl) fun _ => rfl

/-- Different numbers have different texts. -/
theorem toString_int_inj {m n : Int} (h : toString m = toString n) : m = n := by
  have hnat : ∀ {j k : Nat}, Nat.toDigits 10 j = Nat.toDigits 10 k → j = k := by
    intro j k hjk
    rw [← Nat.ofDigitChars_ten_toDigits (n := j), hjk, Nat.ofDigitChars_ten_toDigits]
  have hsign : ∀ {j k : Nat}, Nat.toDigits 10 j ≠ '-' :: Nat.toDigits 10 k := by
    intro j k hjk
    have hdigit : '-'.isDigit = true :=
      Nat.isDigit_of_mem_toDigits (b := 10) (n := j) (by decide) (by decide)
        (hjk ▸ List.mem_cons_self)
    exact absurd hdigit (by decide)
  have htext := congrArg String.toList h
  simp only [Int.toString_eq_repr, Int.repr_eq_if] at htext
  split at htext <;> split at htext <;>
    simp only [String.toList_append, Nat.toList_repr] at htext
  · have := hnat htext
    omega
  · exact absurd htext hsign
  · exact absurd htext.symm hsign
  · have := hnat (List.cons.inj htext).2
    omega

/-- The default subject uses the days. -/
theorem usesDays_default (cert : ExpiringCertItem) :
    UsesDays plainExternals (subjectOf plainExternals none) cert := by
  intro m n text hm hn
  have heq := Option.some.inj (hm.trans hn.symm)
  simp only [alertData, String.append_left_inj, String.append_right_inj] at heq
  exact toString_int_inj heq

/-- **A mail says fourteen days of a certificate that has ten.** -/
theorem statesDays_broken :
    ¬ ∀ (t : Sys) (tr : List (Sys × Action)),
        Exec (step plainExternals) (oneEndpoint "web") tr t →
        ∀ p ∈ tr, ∀ u, step plainExternals p.1 p.2 = some u →
          StatesDays plainExternals p.1 p.2 u := by
  intro hall
  obtain ⟨s, hs, hrow, hpc⟩ : ∃ s, run (step plainExternals) (oneEndpoint "web")
      ((pass "web" 0).take 6) = some s ∧ s.db.settings.template = none ∧
      ∃ r rest, s.passes 0 =
          .claimed r rest ⟨"web", "host", "f1", "old", expiry, 10⟩ 14 ∧
        10 ∉ r.job.thresholds :=
    ⟨_, rfl, rfl, _, _, rfl, by decide⟩
  obtain ⟨r, rest, hpc, hten⟩ := hpc
  have hstep : ∃ t, step plainExternals s (.loadTemplate 0) = some t := by
    simp [step, hpc]
  obtain ⟨t, hstep⟩ := hstep
  have hstates := hall t _ ((exec_traceFrom hs).snoc hstep) (s, .loadTemplate 0) (by simp) t hstep
  have hsound := sound_run (exec_traceFrom hs) (fun _ => rfl) s (last_mem_visited _ _)
  have hthreshold := (statesDays_step_iff hstep hsound).mp hstates
  simp only [OnThreshold, hpc, hrow] at hthreshold
  exact hten (hthreshold rfl (Or.inl (usesDays_default _)))

end TLSentinel.Notifications
