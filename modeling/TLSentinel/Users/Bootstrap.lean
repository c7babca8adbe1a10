/-
  TLSentinel.Users.Bootstrap
  ──────────────────────────
  **THE FIRST ADMIN AND BREAK-GLASS RECOVERY AT STARTUP.**

  `EnsureAdminUser` either creates the first admin or, under the break-glass toggle,
  resets the password and the second factor of a named local admin.  The two resets are
  two store calls; the second can fail after the first has written.

  Each store call may fail, and then leaves the tables as they were; what bcrypt makes
  of a password is given.

  Main result:
    * `contract_iff` — accounts are touched as the configuration says and never under
                       an error, except where `HalfReset` holds.
-/
import TLSentinel.Users.Me

namespace TLSentinel.Users.Bootstrap

open Foundation

variable {X : Externals}

/-! ## §1. The configuration. -/

/-- The fields of `config.Config` that are read here. -/
structure Config where
  adminUsername : String
  adminPassword : String
  breakglass : Bool
  breakglassUser : String
  breakglassResetTOTP : Bool
  breakglassResetPassword : Bool
  breakglassPassword : String
  deriving DecidableEq, Repr

/-- `breakglassPlan`. -/
structure BreakglassPlan where
  username : String
  resetTOTP : Bool
  resetPassword : Bool
  newPassword : String
  deriving DecidableEq, Repr

/-- The errors, by their texts. -/
inductive BootstrapError where
  /-- "TLSENTINEL_BREAKGLASS=true requires TLSENTINEL_BREAKGLASS_USER". -/
  | noBreakglassUser
  /-- "TLSENTINEL_BREAKGLASS_RESET_PASSWORD=true requires TLSENTINEL_BREAKGLASS_PASSWORD". -/
  | noBreakglassPassword
  /-- "breakglass: user %q does not exist (typo in TLSENTINEL_BREAKGLASS_USER?)". -/
  | userMissing (username : String)
  /-- "breakglass: lookup user: %w". -/
  | lookupUser
  /-- "breakglass: user %q is role=%q, not admin — refusing". -/
  | notAdmin (username : String) (role : Role)
  /-- "breakglass: user %q is provider=%q, not local — refusing". -/
  | notLocal (username : String) (provider : Provider)
  /-- "breakglass: hash password: %w". -/
  | hashPassword
  /-- "breakglass: update password: %w". -/
  | updatePassword
  /-- "breakglass: disable totp: %w". -/
  | disableTOTP
  /-- "failed to count users: %w". -/
  | countUsers
  /-- "TLSENTINEL_ADMIN_USERNAME and TLSENTINEL_ADMIN_PASSWORD must be set for initial
  bootstrap". -/
  | noAdmin
  /-- "failed to hash admin password: %w". -/
  | hashAdminPassword
  /-- "failed to create admin user: %w". -/
  | createAdmin
  deriving DecidableEq, Repr

/-- `validateBreakglass`. -/
def validateBreakglass (cfg : Config) : Except BootstrapError (Option BreakglassPlan) :=
  if !cfg.breakglass then .ok none
  else if cfg.breakglassUser = "" then .error .noBreakglassUser
  else if !cfg.breakglassResetTOTP && !cfg.breakglassResetPassword then .ok none
  else if cfg.breakglassResetPassword && cfg.breakglassPassword = "" then
    .error .noBreakglassPassword
  else
    .ok (some {
      username := cfg.breakglassUser
      resetTOTP := cfg.breakglassResetTOTP
      resetPassword := cfg.breakglassResetPassword
      newPassword := cfg.breakglassPassword })

/-! ## §2. The two paths. -/

/-- What the store and bcrypt do in one run. -/
structure Env where
  countUsersFails : Bool
  insertUserFails : Bool
  getUserFails : Bool
  updatePasswordFails : Bool
  disableTOTPFails : Bool
  auditFails : Bool
  /-- `bcrypt.GenerateFromPassword`; `none` is its error. -/
  hash : String → Option String
  /-- The id the database generates for a new user. -/
  newID : String

/-- The audit row of a break-glass run. -/
structure AuditEntry where
  resourceID : String
  label : String
  resetTOTP : Bool
  resetPassword : Bool
  deriving DecidableEq, Repr

/-- The accounts and the audit rows written. -/
structure Sys (X : Externals) where
  accounts : Accounts X
  auditLog : List AuditEntry

/-- The password reset of `executeBreakglass`. -/
def resetPassword (env : Env) (plan : BreakglassPlan) (user : User) (a : Accounts X) :
    Accounts X × Except BootstrapError Unit :=
  if plan.resetPassword then
    match env.hash plan.newPassword with
    | none => (a, .error .hashPassword)
    | some hash =>
        if env.updatePasswordFails then (a, .error .updatePassword)
        else
          match a.updateUserPassword user.id hash with
          | .error _ => (a, .error .updatePassword)
          | .ok b => (b, .ok ())
  else (a, .ok ())

/-- The TOTP reset of `executeBreakglass`. -/
def resetTOTP (env : Env) (plan : BreakglassPlan) (user : User) (a : Accounts X) :
    Accounts X × Except BootstrapError Unit :=
  if plan.resetTOTP then
    if env.disableTOTPFails then (a, .error .disableTOTP)
    else
      match a.disableUserTOTP user.id with
      | .error _ => (a, .error .disableTOTP)
      | .ok b => (b, .ok ())
  else (a, .ok ())

/-- `LogSystem`: a row that cannot be written is only logged. -/
def logSystem (env : Env) (entry : AuditEntry) (log : List AuditEntry) : List AuditEntry :=
  if env.auditFails then log else log ++ [entry]

/-- `executeBreakglass`. -/
def executeBreakglass (env : Env) (s : Sys X) (plan : BreakglassPlan) :
    Sys X × Except BootstrapError Unit :=
  if env.getUserFails then (s, .error .lookupUser)
  else
    match s.accounts.getUserByUsername plan.username with
    | none => (s, .error (.userMissing plan.username))
    | some user =>
        if user.role ≠ .admin then (s, .error (.notAdmin plan.username user.role))
        else if user.provider ≠ .Local then
          (s, .error (.notLocal plan.username user.provider))
        else
          match resetPassword env plan user s.accounts with
          | (a, .error e) => ({ s with accounts := a }, .error e)
          | (a, .ok ()) =>
              match resetTOTP env plan user a with
              | (b, .error e) => ({ s with accounts := b }, .error e)
              | (b, .ok ()) =>
                  ({ accounts := b
                     auditLog := logSystem env
                       ⟨user.id, user.username, plan.resetTOTP, plan.resetPassword⟩ s.auditLog },
                    .ok ())

/-- The first-run seed of `EnsureAdminUser`. -/
def seedAdmin (env : Env) (cfg : Config) (s : Sys X) : Sys X × Except BootstrapError Unit :=
  if env.countUsersFails then (s, .error .countUsers)
  else if 0 < s.accounts.users.rows.length then (s, .ok ())
  else if cfg.adminUsername = "" ∨ cfg.adminPassword = "" then (s, .error .noAdmin)
  else
    match env.hash cfg.adminPassword with
    | none => (s, .error .hashAdminPassword)
    | some hash =>
        if env.insertUserFails then (s, .error .createAdmin)
        else
          match s.accounts.insertUser env.newID cfg.adminUsername hash .admin .Local false
            (some "Administrator") none none with
          | .error _ => (s, .error .createAdmin)
          | .ok a => ({ s with accounts := a }, .ok ())

/-- `EnsureAdminUser`. -/
def ensureAdminUser (env : Env) (cfg : Config) (s : Sys X) :
    Sys X × Except BootstrapError Unit :=
  match validateBreakglass cfg with
  | .error e => (s, .error e)
  | .ok (some plan) => executeBreakglass env s plan
  | .ok none => seedAdmin env cfg s

/-! ## §3. What it may touch. -/

/-- One enabled local admin with the configured name is there, who was not, and nobody
else. -/
def Seeded (cfg : Config) (a b : Accounts X) : Prop :=
  b.codes = a.codes ∧ ∃ u, b.users.rows = [u] ∧ u.username = cfg.adminUsername ∧
    u.enabled = true ∧ u.role = .admin ∧ u.provider = .Local

/-- Every user row and every recovery code is as it was. -/
def Untouched (a b : Accounts X) : Prop :=
  (∀ id, b.users.find? id = a.users.find? id) ∧ ∀ c, c ∈ b.codes ↔ c ∈ a.codes

/-- The row with the resets of the plan, `hash` for the new password. -/
def resetRow (plan : BreakglassPlan) (hash : Option String) (u : User) : User :=
  { u with
    passwordHash := if plan.resetPassword then hash else u.passwordHash
    totpSecret := if plan.resetTOTP then none else u.totpSecret
    totpEnabled := if plan.resetTOTP then false else u.totpEnabled
    totpEnrolledAt := if plan.resetTOTP then none else u.totpEnrolledAt }

/-- Only the row of the user and its recovery codes have changed, as the plan says. -/
def ResetOnly (env : Env) (plan : BreakglassPlan) (u : User) (a b : Accounts X) : Prop :=
  (plan.resetPassword = true → (env.hash plan.newPassword).isSome = true) ∧
    (∀ id, b.users.find? id = (a.users.find? id).map fun v =>
      if v.id = u.id then resetRow plan (env.hash plan.newPassword) v else v) ∧
    ∀ c, c ∈ b.codes ↔ c ∈ a.codes ∧ ¬(plan.resetTOTP = true ∧ c.userID = u.id)

/-- The local admin that a plan names. -/
def Names (plan : BreakglassPlan) (a : Accounts X) (u : User) : Prop :=
  a.getUserByUsername plan.username = some u ∧ u.role = .admin ∧ u.provider = .Local

/-- Break-glass touches only what it names, and nothing under an error. -/
structure Contract (env : Env) (cfg : Config) (s : Sys X) : Prop where
  error : ∀ e, (ensureAdminUser env cfg s).2 = .error e →
    Untouched s.accounts (ensureAdminUser env cfg s).1.accounts
  seed : validateBreakglass cfg = .ok none → (ensureAdminUser env cfg s).2 = .ok () →
    if s.accounts.users.rows = [] then
      Seeded cfg s.accounts (ensureAdminUser env cfg s).1.accounts
    else Untouched s.accounts (ensureAdminUser env cfg s).1.accounts
  reset : ∀ plan, validateBreakglass cfg = .ok (some plan) →
    (ensureAdminUser env cfg s).2 = .ok () →
      ∃ u, Names plan s.accounts u ∧
        ResetOnly env plan u s.accounts (ensureAdminUser env cfg s).1.accounts

/-- Both resets of the plan are asked for, the password is written, the TOTP reset fails. -/
def HalfResetOf (env : Env) (s : Sys X) (plan : BreakglassPlan) : Prop :=
  ∃ u hash, env.getUserFails = false ∧ Names plan s.accounts u ∧
    plan.resetPassword = true ∧ plan.resetTOTP = true ∧
    env.hash plan.newPassword = some hash ∧ u.passwordHash ≠ some hash ∧
    env.updatePasswordFails = false ∧ env.disableTOTPFails = true

/-- The configuration has a plan that ends half way. -/
def HalfReset (env : Env) (cfg : Config) (s : Sys X) : Prop :=
  ∃ plan, validateBreakglass cfg = .ok (some plan) ∧ HalfResetOf env s plan

/-! ## §4. One store call each. -/

theorem Untouched.refl (a : Accounts X) : Untouched a a := ⟨fun _ => rfl, fun _ => Iff.rfl⟩

/-- The row with another password hash. -/
def withHash (plan : BreakglassPlan) (hash : Option String) (u : User) : User :=
  { u with passwordHash := if plan.resetPassword then hash else u.passwordHash }

/-- **The password reset**: it fails and leaves the accounts alone, or sets the hash of the
one user. -/
theorem resetPassword_cases (env : Env) (plan : BreakglassPlan) {u : User} {a : Accounts X}
    (hu : u ∈ a.users) :
    (plan.resetPassword = true ∧
        (env.hash plan.newPassword = none ∨ env.updatePasswordFails = true) ∧
        ∃ e, resetPassword env plan u a = (a, .error e)) ∨
      ∃ b, resetPassword env plan u a = (b, .ok ()) ∧ b.codes = a.codes ∧
        (plan.resetPassword = true →
          (env.hash plan.newPassword).isSome = true ∧ env.updatePasswordFails = false) ∧
        ∀ id, b.users.find? id = (a.users.find? id).map fun v =>
          if v.id = u.id then withHash plan (env.hash plan.newPassword) v else v := by
  unfold resetPassword
  by_cases hreset : plan.resetPassword = true
  · rw [if_pos hreset]
    cases hhash : env.hash plan.newPassword with
    | none => exact Or.inl ⟨hreset, Or.inl rfl, _, rfl⟩
    | some hash =>
        by_cases hfails : env.updatePasswordFails = true
        · exact Or.inl ⟨hreset, Or.inr hfails, .updatePassword, by simp [hfails]⟩
        · obtain ⟨b, hb⟩ : ∃ b, a.updateUserPassword u.id hash = .ok b :=
            Accounts.updateUsers_of_mem (fun _ => rfl) hu rfl
          refine Or.inr ⟨b, by dsimp only; rw [if_neg hfails, hb],
            (Accounts.updateUsers_cases hb).2.2, fun _ => ⟨rfl, by simpa using hfails⟩,
            fun id => ?_⟩
          rw [Accounts.find?_updateUsers hb]
          congr 1
          funext v
          simp only [withHash, hreset, if_true]
  · rw [if_neg hreset]
    refine Or.inr ⟨a, rfl, rfl, fun h => absurd h hreset, fun id => ?_⟩
    have hsame : (fun v : User =>
        if v.id = u.id then withHash plan (env.hash plan.newPassword) v else v) =
          fun v => v := by
      funext v
      simp [withHash, hreset]
    rw [hsame, Option.map_id']

/-- The row with the TOTP reset of the plan. -/
def withoutTOTP (plan : BreakglassPlan) (u : User) : User :=
  if plan.resetTOTP then u.disableTOTP else u

/-- **The TOTP reset**: it fails and leaves the accounts alone, or clears the columns and
the codes of the one user. -/
theorem resetTOTP_cases (env : Env) (plan : BreakglassPlan) {u : User} {a : Accounts X}
    (hu : ∃ v ∈ a.users, v.id = u.id) :
    (plan.resetTOTP = true ∧ env.disableTOTPFails = true ∧
        resetTOTP env plan u a = (a, .error .disableTOTP)) ∨
      ¬(plan.resetTOTP = true ∧ env.disableTOTPFails = true) ∧
      ∃ b, resetTOTP env plan u a = (b, .ok ()) ∧
        (∀ id, b.users.find? id = (a.users.find? id).map fun v =>
          if v.id = u.id then withoutTOTP plan v else v) ∧
        ∀ c, c ∈ b.codes ↔ c ∈ a.codes ∧ ¬(plan.resetTOTP = true ∧ c.userID = u.id) := by
  unfold resetTOTP
  by_cases hreset : plan.resetTOTP = true
  · rw [if_pos hreset]
    by_cases hfails : env.disableTOTPFails = true
    · exact Or.inl ⟨hreset, hfails, if_pos hfails⟩
    · obtain ⟨v, hv, hid⟩ := hu
      obtain ⟨b, hb⟩ : ∃ b, a.updateUsers u.id User.disableTOTP (fun _ => rfl) = .ok b :=
        Accounts.updateUsers_of_mem (fun _ => rfl) hv hid
      have hdisable : a.disableUserTOTP u.id =
          .ok { b with codes := b.codes.delete fun c => c.userID = u.id } := by
        unfold Accounts.disableUserTOTP
        rw [hb]
      refine Or.inr ⟨fun h => hfails h.2, _, by rw [if_neg hfails, hdisable], fun id => ?_,
        fun c => ?_⟩
      · refine (Accounts.find?_updateUsers hb id).trans ?_
        congr 1
        funext w
        simp only [withoutTOTP, hreset, if_true]
      · show c ∈ b.codes.delete _ ↔ _
        rw [Table.mem_delete, (Accounts.updateUsers_cases hb).2.2]
        simp [hreset]
  · rw [if_neg hreset]
    refine Or.inr ⟨fun h => hreset h.1, a, rfl, fun id => ?_, fun c => ?_⟩
    · have hsame : (fun v : User => if v.id = u.id then withoutTOTP plan v else v) =
          fun v => v := by
        funext v
        simp [withoutTOTP, hreset]
      rw [hsame, Option.map_id']
    · simp [hreset]

/-- Both resets make the row of the plan. -/
theorem withoutTOTP_withHash (plan : BreakglassPlan) (hash : Option String) (u : User) :
    withoutTOTP plan (withHash plan hash u) = resetRow plan hash u := by
  unfold withoutTOTP withHash resetRow User.disableTOTP
  by_cases h : plan.resetTOTP = true
  · simp [h]
  · simp [h]

/-! ## §5. The whole run. -/

/-- **Break-glass by cases**, for the local admin of the plan. -/
theorem executeBreakglass_names {env : Env} {s : Sys X} {plan : BreakglassPlan} {u : User}
    (hget : env.getUserFails = false) (hu : Names plan s.accounts u) :
    executeBreakglass env s plan =
      match resetPassword env plan u s.accounts with
      | (a, .error e) => ({ s with accounts := a }, .error e)
      | (a, .ok ()) =>
          match resetTOTP env plan u a with
          | (b, .error e) => ({ s with accounts := b }, .error e)
          | (b, .ok ()) =>
              ({ accounts := b
                 auditLog := logSystem env
                   ⟨u.id, u.username, plan.resetTOTP, plan.resetPassword⟩ s.auditLog },
                .ok ()) := by
  obtain ⟨hfound, hrole, hprovider⟩ := hu
  unfold executeBreakglass
  simp only [hget, hfound, hrole, hprovider, Bool.false_eq_true, if_false, ne_eq,
    not_true_eq_false]

/-- Without a local admin that the plan names nothing happens. -/
theorem executeBreakglass_refused {env : Env} {s : Sys X} {plan : BreakglassPlan}
    (h : ¬(env.getUserFails = false ∧ ∃ u, Names plan s.accounts u)) :
    ∃ e, executeBreakglass env s plan = (s, .error e) := by
  unfold executeBreakglass
  by_cases hget : env.getUserFails = true
  · exact ⟨_, if_pos hget⟩
  · rw [if_neg hget]
    split
    · exact ⟨_, rfl⟩
    · next user hfound =>
        by_cases hrole : user.role = .admin
        · by_cases hprovider : user.provider = .Local
          · exact absurd ⟨by simpa using hget, user, hfound, hrole, hprovider⟩ h
          · exact ⟨_, by rw [if_neg (not_not.mpr hrole), if_pos hprovider]⟩
        · exact ⟨_, if_pos hrole⟩

/-- The seed leaves the accounts alone under an error. -/
theorem seedAdmin_error {env : Env} {cfg : Config} {s : Sys X} {e : BootstrapError}
    (h : (seedAdmin env cfg s).2 = .error e) : (seedAdmin env cfg s).1 = s := by
  unfold seedAdmin at h ⊢
  repeat' split at h
  all_goals simp_all

/-- The new user of the seed. -/
theorem seeded_insertUser {cfg : Config} {a b : Accounts X} {id hash : String}
    (hempty : a.users.rows = [])
    (h : a.insertUser id cfg.adminUsername hash .admin .Local false (some "Administrator") none
      none = .ok b) : Seeded cfg a b := by
  unfold Accounts.insertUser at h
  split at h
  · cases h
  · next users hins =>
      split at h
      · injection h with h
        subst h
        unfold Table.insert at hins
        split at hins
        · cases hins
        · injection hins with hins
          subst hins
          refine ⟨rfl, Accounts.newUser id cfg.adminUsername hash .admin .Local false
            (some "Administrator") none none, ?_, rfl, rfl, rfl, rfl⟩
          show a.users.rows ++ _ = _
          rw [hempty]
          rfl
      · cases h

/-- **The seed.** -/
theorem seedAdmin_ok {env : Env} {cfg : Config} {s : Sys X}
    (h : (seedAdmin env cfg s).2 = .ok ()) :
    if s.accounts.users.rows = [] then Seeded cfg s.accounts (seedAdmin env cfg s).1.accounts
    else (seedAdmin env cfg s).1.accounts = s.accounts := by
  unfold seedAdmin at h ⊢
  by_cases hcount : env.countUsersFails = true
  · rw [if_pos hcount] at h
    cases h
  rw [if_neg hcount] at h ⊢
  by_cases hempty : s.accounts.users.rows = []
  · rw [if_pos hempty]
    have hzero : ¬0 < s.accounts.users.rows.length := by simp [hempty]
    rw [if_neg hzero] at h ⊢
    by_cases hconfig : cfg.adminUsername = "" ∨ cfg.adminPassword = ""
    · rw [if_pos hconfig] at h
      cases h
    rw [if_neg hconfig] at h ⊢
    cases hhash : env.hash cfg.adminPassword with
    | none =>
        rw [hhash] at h
        cases h
    | some hash =>
        rw [hhash] at h
        dsimp only at h ⊢
        by_cases hinsert : env.insertUserFails = true
        · rw [if_pos hinsert] at h
          cases h
        rw [if_neg hinsert] at h ⊢
        split at h
        · cases h
        · next a ha =>
            exact seeded_insertUser hempty ha
  · rw [if_neg hempty]
    have hpos : 0 < s.accounts.users.rows.length := List.length_pos_iff.mpr hempty
    rw [if_pos hpos]

/-- A row that the password reset leaves alone. -/
theorem withHash_eq_self {plan : BreakglassPlan} {hash : Option String} {u : User}
    (h : plan.resetPassword = true → u.passwordHash = hash) : withHash plan hash u = u := by
  unfold withHash
  by_cases hreset : plan.resetPassword = true
  · rw [if_pos hreset, ← h hreset]
  · rw [if_neg hreset]

/-- **What break-glass ends with**: an error, which leaves the accounts alone but for a half
reset, or the resets of the plan. -/
theorem executeBreakglass_cases (env : Env) (s : Sys X) (plan : BreakglassPlan) :
    (∃ e, (executeBreakglass env s plan).2 = .error e ∧
        (¬HalfResetOf env s plan →
          Untouched s.accounts (executeBreakglass env s plan).1.accounts)) ∨
      (executeBreakglass env s plan).2 = .ok () ∧
        ∃ u, Names plan s.accounts u ∧
          ResetOnly env plan u s.accounts (executeBreakglass env s plan).1.accounts := by
  by_cases hnamed : env.getUserFails = false ∧ ∃ u, Names plan s.accounts u
  · obtain ⟨hget, u, hu⟩ := hnamed
    have hmem : u ∈ s.accounts.users := List.mem_of_find?_eq_some hu.1
    have hfound : s.accounts.users.find? u.id = some u :=
      Table.find?_eq_some_iff.mpr ⟨hmem, rfl⟩
    rw [executeBreakglass_names hget hu]
    obtain ⟨-, -, e, he⟩ | ⟨a, ha, hcodes, hhash, hrows⟩ := resetPassword_cases env plan hmem
    · rw [he]
      exact Or.inl ⟨e, rfl, fun _ => Untouched.refl _⟩
    · rw [ha]
      dsimp only
      have hthere : ∃ v ∈ a.users, v.id = u.id := by
        have hrow := hrows u.id
        rw [hfound, Option.map_some, if_pos rfl] at hrow
        exact ⟨_, Table.mem_of_find? hrow, Table.key_of_find? hrow⟩
      obtain ⟨htotp, hfails, he⟩ | ⟨-, b, hb, hrows', hcodes'⟩ := resetTOTP_cases env plan hthere
      · rw [he]
        refine Or.inl ⟨_, rfl, fun hhalf => ⟨fun id => ?_, fun c => by rw [hcodes]⟩⟩
        -- the password was not reset, or its hash was there already
        have hkeep : withHash plan (env.hash plan.newPassword) u = u := by
          apply withHash_eq_self
          intro hreset
          obtain ⟨hsome, hupdate⟩ := hhash hreset
          obtain ⟨hash, hhash⟩ := Option.isSome_iff_exists.mp hsome
          by_contra hne
          rw [hhash] at hne
          exact hhalf ⟨u, hash, hget, hu, hreset, htotp, hhash, hne, hupdate, hfails⟩
        show a.users.find? id = _
        rw [hrows]
        cases hv : s.accounts.users.find? id with
        | none => rfl
        | some v =>
            rw [Option.map_some]
            by_cases hid : v.id = u.id
            · have hvu : v = u := Table.eq_of_key (Table.mem_of_find? hv) hmem hid
              rw [if_pos hid, hvu, hkeep]
            · rw [if_neg hid]
      · rw [hb]
        refine Or.inr ⟨rfl, u, hu, fun hreset => (hhash hreset).1, fun id => ?_, fun c => ?_⟩
        · show b.users.find? id = _
          rw [hrows', hrows, Option.map_map]
          congr 1
          funext v
          by_cases hid : v.id = u.id
          · have hkey : (withHash plan (env.hash plan.newPassword) v).id = u.id := hid
            simp only [Function.comp_apply, if_pos hid, if_pos hkey, withoutTOTP_withHash]
          · simp only [Function.comp_apply, if_neg hid]
        · show c ∈ b.codes ↔ _
          rw [hcodes', hcodes]
  · obtain ⟨e, he⟩ := executeBreakglass_refused hnamed
    rw [he]
    exact Or.inl ⟨e, rfl, fun _ => Untouched.refl _⟩

/-- A half reset ends with an error and another password. -/
theorem executeBreakglass_half {env : Env} {s : Sys X} {plan : BreakglassPlan}
    (h : HalfResetOf env s plan) :
    (executeBreakglass env s plan).2 = .error .disableTOTP ∧
      ¬Untouched s.accounts (executeBreakglass env s plan).1.accounts := by
  obtain ⟨u, hash, hget, hu, hpassword, htotp, hhash, hne, hupdate, hfails⟩ := h
  have hmem : u ∈ s.accounts.users := List.mem_of_find?_eq_some hu.1
  have hfound : s.accounts.users.find? u.id = some u := Table.find?_eq_some_iff.mpr ⟨hmem, rfl⟩
  -- the password is written
  obtain ⟨-, hno, -⟩ | ⟨a, ha, -, -, hrows⟩ := resetPassword_cases env plan hmem
  · obtain hnone | hbad := hno
    · rw [hhash] at hnone
      cases hnone
    · rw [hupdate] at hbad
      cases hbad
  have hrun : executeBreakglass env s plan =
      ({ s with accounts := a }, .error .disableTOTP) := by
    rw [executeBreakglass_names hget hu, ha]
    unfold resetTOTP
    simp only [htotp, hfails, if_true]
  rw [hrun]
  refine ⟨rfl, fun hsame => hne ?_⟩
  have hrow := hsame.1 u.id
  rw [hrows, hfound, Option.map_some, if_pos rfl, Option.some.injEq] at hrow
  rw [← hrow]
  simp [withHash, hpassword, hhash]

theorem ensureAdminUser_plan {env : Env} {cfg : Config} {s : Sys X} {plan : BreakglassPlan}
    (hplan : validateBreakglass cfg = .ok (some plan)) :
    ensureAdminUser env cfg s = executeBreakglass env s plan := by
  unfold ensureAdminUser
  rw [hplan]

/-- A configuration that is refused. -/
theorem contract_of_invalid {env : Env} {cfg : Config} {s : Sys X} {e : BootstrapError}
    (hplan : validateBreakglass cfg = .error e) : Contract env cfg s := by
  have hrun : ensureAdminUser env cfg s = (s, .error e) := by
    unfold ensureAdminUser
    rw [hplan]
  constructor
  · intro _ _
    rw [hrun]
    exact Untouched.refl _
  · intro h
    cases hplan.symm.trans h
  · intro plan h
    cases hplan.symm.trans h

/-- A configuration without a plan. -/
theorem contract_of_seed {env : Env} {cfg : Config} {s : Sys X}
    (hplan : validateBreakglass cfg = .ok none) : Contract env cfg s := by
  have hrun : ensureAdminUser env cfg s = seedAdmin env cfg s := by
    unfold ensureAdminUser
    rw [hplan]
  constructor
  · intro e he
    rw [hrun] at he ⊢
    rw [seedAdmin_error he]
    exact Untouched.refl _
  · intro _ hok
    rw [hrun] at hok ⊢
    have hseed := seedAdmin_ok hok
    split
    · next hempty => rwa [if_pos hempty] at hseed
    · next hempty =>
        rw [if_neg hempty] at hseed
        rw [hseed]
        exact Untouched.refl _
  · intro plan h
    cases hplan.symm.trans h

/-- A plan that does not end half way. -/
theorem contract_of_plan {env : Env} {cfg : Config} {s : Sys X} {plan : BreakglassPlan}
    (hplan : validateBreakglass cfg = .ok (some plan)) (hhalf : ¬HalfResetOf env s plan) :
    Contract env cfg s := by
  have hrun : ensureAdminUser env cfg s = executeBreakglass env s plan :=
    ensureAdminUser_plan hplan
  obtain ⟨e, he, hsame⟩ | ⟨hok, hreset⟩ := executeBreakglass_cases env s plan
  · constructor
    · intro _ _
      rw [hrun]
      exact hsame hhalf
    · intro h
      cases hplan.symm.trans h
    · intro _ _ hok
      rw [hrun, he] at hok
      cases hok
  · constructor
    · intro e he
      rw [hrun, hok] at he
      cases he
    · intro h
      cases hplan.symm.trans h
    · intro plan' hplan' _
      cases hplan.symm.trans hplan'
      rw [hrun]
      exact hreset

/-- **Break-glass touches only what it names, except for a half reset.** -/
theorem contract_iff (env : Env) (cfg : Config) (s : Sys X) :
    Contract env cfg s ↔ ¬HalfReset env cfg s := by
  constructor
  · rintro hcontract ⟨plan, hplan, hhalf⟩
    obtain ⟨herror, hchanged⟩ := executeBreakglass_half hhalf
    have hrun : ensureAdminUser env cfg s = executeBreakglass env s plan :=
      ensureAdminUser_plan hplan
    have hsame := hcontract.error .disableTOTP (by rw [hrun, herror])
    rw [hrun] at hsame
    exact hchanged hsame
  · intro hno
    cases hplan : validateBreakglass cfg with
    | error e => exact contract_of_invalid hplan
    | ok p =>
        cases p with
        | none => exact contract_of_seed hplan
        | some plan => exact contract_of_plan hplan fun hhalf => hno ⟨plan, hplan, hhalf⟩

/-- An enrolled local admin. -/
def lockedOut : Sys plainExternals where
  accounts :=
    { users := ⟨[{
        id := "1"
        username := "root"
        passwordHash := some "hash:forgotten"
        provider := .Local
        enabled := true
        notify := false
        role := .admin
        firstName := none
        lastName := none
        email := none
        totpSecret := some "enc:s"
        totpEnabled := true
        totpEnrolledAt := some 0 }], by decide⟩
      usernames := by decide
      codes := Table.empty }
  auditLog := []

/-- **The TOTP reset fails: an error, and another password.** -/
theorem contract_broken :
    ¬∀ (env : Env) (cfg : Config) (s : Sys plainExternals), Contract env cfg s := by
  intro h
  have herror := (h
    { countUsersFails := false
      insertUserFails := false
      getUserFails := false
      updatePasswordFails := false
      disableTOTPFails := true
      auditFails := false
      hash := fun password => some ("hash:" ++ password)
      newID := "2" }
    { adminUsername := ""
      adminPassword := ""
      breakglass := true
      breakglassUser := "root"
      breakglassResetTOTP := true
      breakglassResetPassword := true
      breakglassPassword := "new" }
    lockedOut).error .disableTOTP (by decide)
  exact absurd (herror.1 "1") (by decide)

end TLSentinel.Users.Bootstrap
