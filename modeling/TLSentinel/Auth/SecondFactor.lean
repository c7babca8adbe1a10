/-
  TLSentinel.Auth.SecondFactor
  ────────────────────────────
  **WHEN THE SECOND FACTOR CANNOT BE BYPASSED.**

  The atomic steps are the token issuers, the TOTP requests and the updates of
  users by admins.  Every issued token is recorded with the tables and the step
  that issued it.

  Login withholds the session from a user with an armed factor, and refuses users
  of the identity provider; Callback does neither: `GetUserForOIDCLogin` does not
  look at the provider.  `second_factor_required_iff`: a run issues no session to
  a local user with an armed factor except after LoginTOTP accepted one, exactly
  if no Callback asserts the username of such a user.
-/
import TLSentinel.Foundation.Runs
import TLSentinel.Auth.Handlers

namespace TLSentinel.Auth.SecondFactor

open Foundation Users

variable {X : Externals}

/-! ## §1. The system. -/

/-- One request, run as one step, with the clock, the order of rows and the
generated values it depends on. -/
inductive Action where
  | login (body : Option LoginRequest) (now : Nat)
  | loginTOTP (body : Option TOTPLoginRequest) (rows : List UserTOTPRecoveryCode) (now : Nat)
  | callback (req : CallbackRequest) (now : Nat)
  | beginSetup (userID encrypted : String)
  | confirmSetup (userID : String) (code : Option String) (now : Nat) (hashes ids : List String)
  | disable (userID : String) (body : Option TOTPHandler.DisableRequest)
      (rows : List UserTOTPRecoveryCode) (now : Nat)
  | regenerateRecoveryCodes (userID : String) (code : Option String) (now : Nat)
      (hashes ids : List String)
  | adminReset (userID : String)
  | update (userID : String) (body : Option UpdateUserRequest)
  | setEnabled (caller userID : String) (body : Option SetEnabledRequest)
  | changePassword (userID : String) (body : Option ChangePasswordRequest) (hash : Option String)
  | delete (caller userID : String)

/-- An issued token, with the tables and the request it was issued in. -/
structure Issue (X : Externals) where
  claims : Claims
  accounts : Accounts X
  action : Action

/-- The tables and the tokens issued so far. -/
structure Sys (X : Externals) where
  accounts : Accounts X
  issues : List (Issue X)

/-- The signed tokens. -/
def Sys.issued (s : Sys X) : List Claims := s.issues.map Issue.claims

/-- New tables. -/
def Sys.set (s : Sys X) : Except HttpError (Accounts X) → Option (Sys X)
  | .ok accounts => some { s with accounts := accounts }
  | .error _ => none

/-- A new token. -/
def Sys.issue (s : Sys X) (a : Action) (accounts : Accounts X) (claims : Claims) : Sys X :=
  ⟨accounts, ⟨claims, s.accounts, a⟩ :: s.issues⟩

/-- One step; a request answered with an error that changed nothing is no step. -/
def step (cfg : Config) (s : Sys X) (a : Action) : Option (Sys X) :=
  match a with
  | .login body now =>
      match login cfg s.accounts body now with
      | .ok claims => some (s.issue a s.accounts claims)
      | .error _ => none
  | .loginTOTP body rows now =>
      match loginTOTP cfg s.accounts s.issued body rows now with
      | .ok (accounts, claims) =>
          -- the listing query is for the user that the challenge names
          if Redemption.Listed s.accounts claims.userID rows then
            some (s.issue a accounts claims)
          else none
      | .error _ => none
  | .callback req now =>
      match callback cfg s.accounts req now with
      | .ok claims => some (s.issue a s.accounts claims)
      | .error _ => none
  | .beginSetup userID encrypted => s.set (TOTPHandler.beginSetup s.accounts userID encrypted)
  | .confirmSetup userID code now hashes ids =>
      some { s with
        accounts := (TOTPHandler.confirmSetup s.accounts userID code now hashes ids).1 }
  | .disable userID body rows now =>
      if Redemption.Listed s.accounts userID rows then
        some { s with accounts := (TOTPHandler.disable s.accounts userID body rows now).1 }
      else none
  | .regenerateRecoveryCodes userID code now hashes ids =>
      s.set (TOTPHandler.regenerateRecoveryCodes s.accounts userID code now hashes ids)
  | .adminReset userID => s.set (TOTPHandler.adminReset s.accounts userID)
  | .update userID body => s.set (update s.accounts userID body)
  | .setEnabled caller userID body => s.set (setEnabled s.accounts caller userID body)
  | .changePassword userID body hash => s.set (changePassword s.accounts userID body hash)
  | .delete caller userID => s.set (delete s.accounts caller userID)

/-- No token has been issued. -/
def start (a : Accounts X) : Sys X := ⟨a, []⟩

/-! ## §2. The property and the condition. -/

/-- The session was issued by a LoginTOTP that accepted a factor of its user. -/
def Issue.byFactor (e : Issue X) (user : User) : Prop :=
  ∃ req rows now, e.action = .loginTOTP (some req) rows now
    ∧ AcceptedFactor e.accounts user req now

/-- The token was issued by the rules: a session for a user who had an armed
factor at that moment came out of LoginTOTP. -/
def Issue.sound (e : Issue X) : Prop :=
  e.claims.purpose = "" → ∀ user, e.accounts.getUserByID e.claims.userID = some user →
    user.hasSecondFactor → e.byFactor user

/-- **The property**: all sessions were issued by the rules, so whatever passes
`verifyJWT` as a user who had an armed factor when it was issued was issued after
that factor had been accepted. -/
structure FactorRequired (s : Sys X) : Prop where
  issued : ∀ e ∈ s.issues, e.sound
  verified : ∀ token now identity, verifyJWT s.issued token now = some identity →
    ∃ e ∈ s.issues, e.claims = token ∧ e.claims.userID = identity.userID
      ∧ ∀ user, e.accounts.getUserByID identity.userID = some user →
          user.hasSecondFactor → e.byFactor user

/-- **The condition on a step**: a Callback does not assert the username of an
enabled local user with an armed factor. -/
def SparesFactor (cfg : Config) (s : Sys X) : Action → Prop
  | .callback req _ => ∀ username, req.asserted cfg = some username →
      ∀ user ∈ s.accounts.users, user.enabled = true →
        X.fold user.username = X.fold username → ¬ user.hasSecondFactor
  | _ => True

/-! ## §3. One step. -/

/-- The second part of the property follows from the first. -/
theorem factorRequired_iff (s : Sys X) : FactorRequired s ↔ ∀ e ∈ s.issues, e.sound := by
  refine ⟨FactorRequired.issued, fun h => ⟨h, fun token now identity hv => ?_⟩⟩
  obtain ⟨hmem, hpurpose, hid⟩ := verifyJWT_eq_some hv
  obtain ⟨e, he, rfl⟩ := List.mem_map.mp hmem
  refine ⟨e, he, rfl, hid.symm, fun user huser => ?_⟩
  rw [hid] at huser
  exact h e he hpurpose user huser

/-- A step that issues a token adds it to those before. -/
theorem factorRequired_issue_iff {s : Sys X} {a : Action} {accounts : Accounts X}
    {claims : Claims} (hs : FactorRequired s) :
    FactorRequired (s.issue a accounts claims) ↔ (⟨claims, s.accounts, a⟩ : Issue X).sound := by
  rw [factorRequired_iff]
  simp only [Sys.issue, List.forall_mem_cons]
  exact ⟨fun h => h.1, fun h => ⟨h, hs.issued⟩⟩

/-- A step that issues none keeps the property. -/
theorem FactorRequired.set {s t : Sys X} (hs : FactorRequired s)
    {r : Except HttpError (Accounts X)} (h : s.set r = some t) : FactorRequired t := by
  cases r with
  | error e => exact absurd h (by simp [Sys.set])
  | ok accounts =>
      injection h with h
      subst h
      exact (factorRequired_iff _).mpr hs.issued

/-- What Login issues is sound. -/
theorem sound_login {cfg : Config} {a : Accounts X} {body : Option LoginRequest} {now : Nat}
    {claims : Claims} (h : login cfg a body now = .ok claims) :
    (⟨claims, a, .login body now⟩ : Issue X).sound := by
  intro hpurpose user huser hfactor
  obtain ⟨v, hv, hid, hplain⟩ := login_ok h
  -- ids are unique: the user of the token is the one that Login selected
  have huv : user = v :=
    Table.eq_of_key (Table.mem_of_find? huser) hv ((Table.key_of_find? huser).trans hid)
  have hoff : v.totpEnabled = false := hplain hpurpose
  rw [← huv, hfactor.2] at hoff
  exact absurd hoff (by simp)

/-- What LoginTOTP issues is sound. -/
theorem sound_loginTOTP {cfg : Config} {a b : Accounts X} {issued : List Claims}
    {body : Option TOTPLoginRequest} {rows : List UserTOTPRecoveryCode} {now : Nat}
    {claims : Claims} (h : loginTOTP cfg a issued body rows now = .ok (b, claims))
    (hrows : Redemption.Listed a claims.userID rows) :
    (⟨claims, a, .loginTOTP body rows now⟩ : Issue X).sound := by
  intro _ user huser _
  obtain ⟨req, v, rfl, hv, haccepted⟩ := loginTOTP_ok h
  have huv : v = user := Option.some.inj (hv.symm.trans huser)
  exact ⟨req, rows, now, rfl, huv ▸ haccepted hrows⟩

/-- What Callback issues is sound exactly if it spared the second factors. -/
theorem sound_callback_iff {cfg : Config} {s : Sys X} {req : CallbackRequest} {now : Nat}
    {claims : Claims} (h : callback cfg s.accounts req now = .ok claims) :
    (⟨claims, s.accounts, .callback req now⟩ : Issue X).sound
      ↔ SparesFactor cfg s (.callback req now) := by
  obtain ⟨username, v, hasserted, hv, hen, hname, rfl⟩ := callback_ok h
  have hfind : s.accounts.getUserByID v.id = some v := Table.find?_eq_some_iff.mpr ⟨hv, rfl⟩
  constructor
  · intro hsound username' hasserted' user huser _ hname' hfactor
    rw [hasserted] at hasserted'
    obtain rfl := Option.some.inj hasserted'
    -- usernames are unique under citext, so the asserted one has one bearer
    have huv : user = v := s.accounts.eq_of_username huser hv (hname'.trans hname.symm)
    subst huv
    obtain ⟨_, _, _, haction, _⟩ := hsound rfl user hfind hfactor
    exact absurd haction (by simp)
  · intro hspares _ user huser hfactor
    have huv : v = user := Option.some.inj (hfind.symm.trans huser)
    exact absurd (huv ▸ hfactor) (hspares username hasserted v hv hen hname)

/-- **One step, exactly**: a step keeps the property if and only if it spares the
second factors. -/
theorem factorRequired_step_iff {cfg : Config} {s t : Sys X} {a : Action}
    (hs : FactorRequired s) (h : step cfg s a = some t) :
    FactorRequired t ↔ SparesFactor cfg s a := by
  cases a with
  | callback req now =>
      simp only [step] at h
      split at h
      · next claims hclaims =>
          injection h with h
          subst h
          rw [factorRequired_issue_iff hs, sound_callback_iff hclaims]
      · exact absurd h (by simp)
  | login body now =>
      refine ⟨fun _ => trivial, fun _ => ?_⟩
      simp only [step] at h
      split at h
      · next claims hclaims =>
          injection h with h
          subst h
          exact (factorRequired_issue_iff hs).mpr (sound_login hclaims)
      · exact absurd h (by simp)
  | loginTOTP body rows now =>
      refine ⟨fun _ => trivial, fun _ => ?_⟩
      simp only [step] at h
      split at h
      · next accounts claims hclaims =>
          split at h
          · next hrows =>
              injection h with h
              subst h
              exact (factorRequired_issue_iff hs).mpr (sound_loginTOTP hclaims hrows)
          · exact absurd h (by simp)
      · exact absurd h (by simp)
  | confirmSetup userID code now hashes ids =>
      refine ⟨fun _ => trivial, fun _ => ?_⟩
      injection h with h
      subst h
      exact (factorRequired_iff _).mpr hs.issued
  | disable userID body rows now =>
      refine ⟨fun _ => trivial, fun _ => ?_⟩
      simp only [step] at h
      split at h
      · injection h with h
        subst h
        exact (factorRequired_iff _).mpr hs.issued
      · exact absurd h (by simp)
  | beginSetup userID encrypted => exact ⟨fun _ => trivial, fun _ => hs.set h⟩
  | regenerateRecoveryCodes userID code now hashes ids =>
      exact ⟨fun _ => trivial, fun _ => hs.set h⟩
  | adminReset userID => exact ⟨fun _ => trivial, fun _ => hs.set h⟩
  | update userID body => exact ⟨fun _ => trivial, fun _ => hs.set h⟩
  | setEnabled caller userID body => exact ⟨fun _ => trivial, fun _ => hs.set h⟩
  | changePassword userID body hash => exact ⟨fun _ => trivial, fun _ => hs.set h⟩
  | delete caller userID => exact ⟨fun _ => trivial, fun _ => hs.set h⟩

/-! ## §4. Runs. -/

theorem factorRequired_start (a : Accounts X) : FactorRequired (start a) :=
  (factorRequired_iff _).mpr (by simp [start])

/-- **WHEN THE SECOND FACTOR CANNOT BE BYPASSED.**  In a run of logins, TOTP
requests and updates of users, every session issued to a local user whose factor
was armed at that moment came out of a LoginTOTP that accepted a valid code or an
unused recovery code of that user, and nothing else passes `verifyJWT` as such a
user, if and only if no accepted Callback asserts the username of an enabled local
user with an armed factor. -/
theorem second_factor_required_iff {cfg : Config} {a : Accounts X} {t : Sys X}
    {tr : List (Sys X × Action)} (r : Exec (step cfg) (start a) tr t) :
    (∀ u ∈ visited tr t, FactorRequired u) ↔ ∀ p ∈ tr, SparesFactor cfg p.1 p.2 :=
  r.always_iff (J := fun _ => True) (P := FactorRequired) (fun _ _ _ _ _ => trivial)
    (fun _ _ _ _ hP h => factorRequired_step_iff hP h) trivial (factorRequired_start a)

/-- A local user with an armed factor. -/
def enrolledUser : User where
  id := "u1"
  username := "bob.smith"
  passwordHash := some "hash:secret"
  provider := .Local
  enabled := true
  notify := false
  role := .admin
  firstName := none
  lastName := none
  email := none
  totpSecret := some "enc:S1"
  totpEnabled := true
  totpEnrolledAt := some 100

/-- A server with that user. -/
def enrolledSys : Sys plainExternals :=
  start ⟨⟨[enrolledUser], by decide⟩, by decide, Table.empty⟩

/-- The default configuration. -/
def defaultConfig : Config := ⟨24 * 60 * 60, "upn"⟩

/-- An identity of the provider that carries the username in another case. -/
def bobAtProvider : Action :=
  .callback ⟨"s", "s", "c", .verified [("upn", some "Bob.Smith")] "sub"⟩ 200

/-- **A Callback logs a local user in without the second factor.** -/
theorem callback_bypasses_second_factor :
    ¬ ∀ (t : Sys plainExternals) (tr : List (Sys plainExternals × Action)),
        Exec (step defaultConfig) enrolledSys tr t → ∀ u ∈ visited tr t, FactorRequired u := by
  intro hall
  have hrun : ∃ t, run (step defaultConfig) enrolledSys [bobAtProvider] = some t
      ∧ t = enrolledSys.issue bobAtProvider enrolledSys.accounts
          (issueToken defaultConfig enrolledUser 200) :=
    ⟨_, rfl, rfl⟩
  obtain ⟨t, hrun, rfl⟩ := hrun
  have hsound := (hall _ _ (exec_traceFrom hrun) _ (last_mem_visited _ _)).issued
    ⟨issueToken defaultConfig enrolledUser 200, enrolledSys.accounts, bobAtProvider⟩
    List.mem_cons_self
  obtain ⟨_, _, _, haction, _⟩ := hsound rfl enrolledUser (by decide) ⟨rfl, rfl⟩
  exact absurd haction (by simp [bobAtProvider])

/-- The exact condition on that run. -/
theorem second_factor_required_iff_enrolled :
    ∃ t, run (step defaultConfig) enrolledSys [bobAtProvider] = some t
      ∧ ((∀ u ∈ visited (traceFrom (step defaultConfig) enrolledSys [bobAtProvider]) t,
            FactorRequired u)
          ↔ ∀ p ∈ traceFrom (step defaultConfig) enrolledSys [bobAtProvider],
              SparesFactor defaultConfig p.1 p.2) := by
  refine ⟨_, rfl, ?_⟩
  exact second_factor_required_iff (exec_traceFrom rfl)

end TLSentinel.Auth.SecondFactor
