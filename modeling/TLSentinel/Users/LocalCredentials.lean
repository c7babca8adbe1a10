/-
  TLSentinel.Users.LocalCredentials
  ─────────────────────────────────
  **WHEN OIDC ACCOUNTS HOLD NO LOCAL CREDENTIALS.**

  An OIDC account should have no password hash and no armed second factor: the
  store clears the hash on a switch to OIDC, BeginSetup refuses OIDC accounts,
  AdminReset relies on it.  Three requests of `internal/users` do not look:

      ChangePassword  sets a hash whatever the provider;
      Update          switches an enrolled user to OIDC, TOTP included;
      ConfirmSetup    arms a secret that was stored before the switch.

  `noLocalCredentials_iff`: from an empty table, every state of a run keeps OIDC
  accounts clean if and only if no accepted request is one of these (`Breaks`).
-/
import TLSentinel.Foundation.Runs
import TLSentinel.Users.Me
import TLSentinel.Users.TOTPHandler

namespace TLSentinel.Users.LocalCredentials

open Foundation

variable {X : Externals}

/-! ## §1. The requests. -/

/-- The requests that write provider, password hash or the TOTP columns. -/
inductive Request where
  | create (body : Option CreateUserRequest) (hash : Option String) (id : String)
  | update (userID : String) (body : Option UpdateUserRequest)
  | updateMe (userID : String) (body : Option UpdateMeRequest)
  | changePassword (userID : String) (body : Option ChangePasswordRequest)
      (hash : Option String)
  | changeMyPassword (userID : String) (body : Option ChangeMyPasswordRequest)
      (hash : Option String)
  | beginSetup (userID encrypted : String)
  | confirmSetup (userID : String) (code : Option String) (now : Nat)
      (hashes ids : List String)
  | disable (userID : String) (body : Option TOTPHandler.DisableRequest)
      (rows : List UserTOTPRecoveryCode) (now : Nat)
  deriving DecidableEq, Repr

/-- The accounts after a request that either writes or is answered with an error. -/
def orUnchanged (a : Accounts X) : Except HttpError (Accounts X) → Accounts X
  | .ok b => b
  | .error _ => a

/-- One request. -/
def step (a : Accounts X) : Request → Option (Accounts X)
  | .create body hash id => some (orUnchanged a (create a body hash id))
  | .update userID body => some (orUnchanged a (update a userID body))
  | .updateMe userID body => some (orUnchanged a (updateMe a userID body))
  | .changePassword userID body hash =>
      some (orUnchanged a (changePassword a userID body hash))
  | .changeMyPassword userID body hash =>
      some (orUnchanged a (changeMyPassword a userID body hash))
  | .beginSetup userID encrypted =>
      some (orUnchanged a (TOTPHandler.beginSetup a userID encrypted))
  | .confirmSetup userID code now hashes ids =>
      some (TOTPHandler.confirmSetup a userID code now hashes ids).1
  | .disable userID body rows now => some (TOTPHandler.disable a userID body rows now).1

/-! ## §2. The property, and what breaks it. -/

/-- An OIDC account without password hash and armed second factor. -/
def Clean (u : User) : Prop :=
  u.provider = .OIDC → u.passwordHash = none ∧ u.totpEnabled = false

instance (u : User) : Decidable (Clean u) :=
  inferInstanceAs (Decidable (u.provider = .OIDC → u.passwordHash = none ∧ u.totpEnabled = false))

/-- **The property.** -/
def NoLocalCredentials (a : Accounts X) : Prop := ∀ u ∈ a.users, Clean u

/-- The checks of `Handler.Update` that come before the UPDATE. -/
structure ValidUpdate (X : Externals) (req : UpdateUserRequest) : Prop where
  username : normalizeUsername req.username ≠ ""
  role : validRoles req.role ≠ none
  provider : validProviders (if req.provider = "" then "local" else req.provider) ≠ none
  email : validateEmailPtr X req.email = true

/-- The request will leave an OIDC account with local credentials. -/
def Breaks (a : Accounts X) : Request → Prop
  | .changePassword userID body hash =>
      (∃ req, body = some req ∧ req.password ≠ "") ∧ hash ≠ none ∧
        ∃ u ∈ a.users, X.uuid userID = some u.id ∧ u.provider = .OIDC
  | .update userID body =>
      ∃ req, body = some req ∧ ValidUpdate X req ∧
        validProviders (if req.provider = "" then "local" else req.provider) = some .OIDC ∧
        ∃ u ∈ a.users, X.uuid userID = some u.id ∧ u.totpEnabled = true ∧
          ¬ a.Taken u.id (normalizeUsername req.username)
  | .confirmSetup userID code now hashes ids =>
      (∃ secret, TOTPHandler.confirmSetupCheck a userID code now = .ok secret) ∧
        (∃ b, a.replaceUserTOTPRecoveryCodes userID hashes ids = .ok b) ∧
        ∃ u ∈ a.users, u.id = userID ∧ u.provider = .OIDC
  | _ => False

/-- **One UPDATE, exactly.** -/
theorem noLocalCredentials_updateUsers_iff {a b : Accounts X} {id : String} {f : User → User}
    {hf : ∀ u, (f u).id = u.id} (ha : NoLocalCredentials a)
    (h : a.updateUsers id f hf = .ok b) :
    NoLocalCredentials b ↔ ∀ u ∈ a.users, u.id = id → Clean (f u) := by
  unfold NoLocalCredentials
  rw [(Accounts.updateUsers_cases h).2.1, Table.forall_mem_update]
  refine forall₂_congr (fun u hu => ?_)
  by_cases hid : u.id = id
  · simp [hid]
  · simp [hid, ha u hu]

/-- UpdateUser keeps the property exactly if it does not make an enrolled user an OIDC user. -/
theorem noLocalCredentials_updateUser_iff {a b : Accounts X} {id username : String}
    {role : Role} {provider : Provider} {notify : Bool}
    {firstName lastName email : Option String} (ha : NoLocalCredentials a)
    (h : a.updateUser id username role provider notify firstName lastName email = .ok b) :
    NoLocalCredentials b ↔
      ∀ u ∈ a.users, u.id = id → provider = .OIDC → u.totpEnabled = false := by
  rw [noLocalCredentials_updateUsers_iff ha h]
  refine forall₃_congr (fun u _ _ => ?_)
  show (provider = .OIDC → (if provider = .OIDC then none else u.passwordHash) = none ∧
    u.totpEnabled = false) ↔ _
  cases provider with
  | Local => simp
  | OIDC => simp

/-! ## §3. One request. -/

/-- `Handler.Update` is accepted for a valid request, an existing user and a username nobody
else has. -/
theorem update_eq_updateUser {a : Accounts X} {userID id : String} {req : UpdateUserRequest}
    {role : Role} {provider : Provider} (hid : X.uuid userID = some id)
    (hname : normalizeUsername req.username ≠ "")
    (hrole : validRoles req.role = some role)
    (hprovider : validProviders (if req.provider = "" then "local" else req.provider)
      = some provider)
    (hemail : validateEmailPtr X req.email = true) :
    update a userID (some req) = storeResponse "failed to update user"
      (a.updateUser id (normalizeUsername req.username) role provider req.notify
        req.firstName req.lastName req.email) := by
  unfold update
  simp only [hname, hrole, hprovider, hemail, hid, if_false, if_true]

/-- An accepted Update carried a valid request. -/
theorem validUpdate_of_ok {a b : Accounts X} {userID : String} {req : UpdateUserRequest}
    (h : update a userID (some req) = .ok b) : ValidUpdate X req := by
  obtain ⟨req', role, provider, id, hreq, hrole, hprovider, _, _⟩ := update_ok h
  injection hreq with hreq
  subst hreq
  have hname : normalizeUsername req.username ≠ "" := by
    intro hname
    simp [update, hname] at h
  refine ⟨hname, by simp [hrole], by simp [hprovider], ?_⟩
  by_contra hemail
  simp [update, hname, hrole, hprovider, hemail] at h

/-- **Update, exactly.** -/
theorem update_keeps_iff {a : Accounts X} (ha : NoLocalCredentials a) (userID : String)
    (body : Option UpdateUserRequest) :
    NoLocalCredentials (orUnchanged a (update a userID body)) ↔
      ¬ Breaks a (.update userID body) := by
  cases hok : update a userID body with
  | error e =>
      refine ⟨fun _ hbreaks => ?_, fun _ => ha⟩
      -- a request that breaks is accepted
      obtain ⟨req, hbody, hvalid, hprovider, u, hu, hid, _, hfree⟩ := hbreaks
      obtain ⟨role, hrole⟩ := Option.ne_none_iff_exists'.mp hvalid.role
      obtain ⟨b, hb⟩ : ∃ b, a.updateUser u.id (normalizeUsername req.username) role .OIDC
          req.notify req.firstName req.lastName req.email = .ok b :=
        Accounts.updateUser_isOk_iff.mpr ⟨⟨u, hu, rfl⟩, hfree⟩
      rw [hbody, update_eq_updateUser hid hvalid.username hrole hprovider hvalid.email, hb] at hok
      exact absurd hok (by simp [storeResponse])
  | ok b =>
      obtain ⟨req, role, provider, id, hbody, _, hprovider, htarget, hupd⟩ := update_ok hok
      rw [orUnchanged, noLocalCredentials_updateUser_iff ha hupd]
      obtain ⟨_, hfree⟩ := Accounts.updateUser_isOk_iff.mp ⟨b, hupd⟩
      constructor
      · intro hall hbreaks
        obtain ⟨req', hbody', _, hprovider', u, hu, hid, henrolled, _⟩ := hbreaks
        rw [hbody, Option.some.injEq] at hbody'
        subst hbody'
        rw [hprovider, Option.some.injEq] at hprovider'
        rw [htarget, Option.some.injEq] at hid
        exact absurd (hall u hu hid.symm hprovider') (by simp [henrolled])
      · intro hno u hu hid hoidc
        subst hbody hoidc hid
        by_contra henrolled
        refine hno ⟨req, rfl, validUpdate_of_ok hok, hprovider, u, hu, htarget, ?_, hfree⟩
        simpa using henrolled

/-- A request that changes nothing and does not break keeps the property. -/
theorem keeps_of_unchanged {a b : Accounts X} (ha : NoLocalCredentials a) {P : Prop}
    (hb : b = a) (hno : ¬ P) : NoLocalCredentials b ↔ ¬ P :=
  ⟨fun _ => hno, fun _ => hb ▸ ha⟩

/-- **ChangePassword, exactly.** -/
theorem changePassword_keeps_iff {a : Accounts X} (ha : NoLocalCredentials a) (userID : String)
    (body : Option ChangePasswordRequest) (hash : Option String) :
    NoLocalCredentials (orUnchanged a (changePassword a userID body hash)) ↔
      ¬ Breaks a (.changePassword userID body hash) := by
  cases body with
  | none => exact keeps_of_unchanged ha rfl fun ⟨⟨_, hreq, _⟩, _⟩ => absurd hreq (by simp)
  | some req =>
      by_cases hempty : req.password = ""
      · refine keeps_of_unchanged ha (by simp [changePassword, hempty, orUnchanged]) ?_
        intro hbreaks
        obtain ⟨⟨req', hreq, hne⟩, _⟩ := hbreaks
        rw [Option.some.injEq] at hreq
        exact hne (hreq ▸ hempty)
      cases hash with
      | none =>
          exact keeps_of_unchanged ha (by simp [changePassword, hempty, orUnchanged])
            fun hbreaks => hbreaks.2.1 rfl
      | some hash =>
          cases hid : X.uuid userID with
          | none =>
              -- the path is no uuid: the statement fails
              refine keeps_of_unchanged ha (by simp [changePassword, hempty, hid, orUnchanged]) ?_
              intro hbreaks
              obtain ⟨_, _, u, _, huid, _⟩ := hbreaks
              rw [hid] at huid
              exact absurd huid (by simp)
          | some id =>
              have hrun : changePassword a userID (some req) (some hash) =
                  storeResponse "failed to update password" (a.updateUserPassword id hash) := by
                simp [changePassword, hempty, hid]
              cases hupd : a.updateUserPassword id hash with
              | error e =>
                  -- an UPDATE of the hash fails only for a user that does not exist
                  refine keeps_of_unchanged ha ?_ ?_
                  · rw [hrun, hupd]
                    cases e <;> rfl
                  · intro hbreaks
                    obtain ⟨_, _, u, hu, huid, _⟩ := hbreaks
                    rw [hid, Option.some.injEq] at huid
                    obtain ⟨b, hb⟩ : ∃ b, a.updateUserPassword id hash = .ok b :=
                      Accounts.updateUsers_of_mem (fun _ => rfl) hu huid.symm
                    rw [hb] at hupd
                    exact absurd hupd (by simp)
              | ok b =>
                  rw [hrun, hupd, storeResponse, orUnchanged,
                    noLocalCredentials_updateUsers_iff ha hupd]
                  constructor
                  · intro hall hbreaks
                    obtain ⟨_, _, u, hu, huid, hoidc⟩ := hbreaks
                    rw [hid, Option.some.injEq] at huid
                    exact absurd (hall u hu huid.symm hoidc).1 (by simp)
                  · intro hno u hu huid hoidc
                    exact absurd ⟨⟨req, rfl, hempty⟩, by simp, u, hu, huid ▸ hid, hoidc⟩ hno

/-- **ConfirmSetup, exactly**: it never looks at the provider. -/
theorem confirmSetup_keeps_iff {a : Accounts X} (ha : NoLocalCredentials a) (userID : String)
    (code : Option String) (now : Nat) (hashes ids : List String) :
    NoLocalCredentials (TOTPHandler.confirmSetup a userID code now hashes ids).1 ↔
      ¬ Breaks a (.confirmSetup userID code now hashes ids) := by
  unfold TOTPHandler.confirmSetup
  cases hcheck : TOTPHandler.confirmSetupCheck a userID code now with
  | error e =>
      refine keeps_of_unchanged ha rfl fun hbreaks => ?_
      obtain ⟨⟨secret, hsecret⟩, _⟩ := hbreaks
      rw [hcheck] at hsecret
      exact absurd hsecret (by simp)
  | ok secret =>
      cases hcodes : a.replaceUserTOTPRecoveryCodes userID hashes ids with
      | error e =>
          refine keeps_of_unchanged ha rfl fun hbreaks => ?_
          obtain ⟨_, ⟨b, hb⟩, _⟩ := hbreaks
          rw [hcodes] at hb
          exact absurd hb (by simp)
      | ok b =>
          -- the users are those before the codes were replaced, and the user is one of them
          have husers : b.users = a.users := Accounts.replaceUserTOTPRecoveryCodes_users hcodes
          have hb : NoLocalCredentials b := by
            unfold NoLocalCredentials
            rw [husers]
            exact ha
          obtain ⟨u, _, hrow, _⟩ := TOTPHandler.loadSecret_ok
            (TOTPHandler.confirmSetupCheck_ok hcheck).choose_spec.2.1
          have hmem : u ∈ b.users := husers ▸ Table.mem_of_find? hrow
          obtain ⟨c, hc⟩ : ∃ c, b.enableUserTOTP userID now = .ok c :=
            Accounts.updateUsers_of_mem (fun _ => rfl) hmem (Table.key_of_find? hrow)
          simp only [hc]
          rw [noLocalCredentials_updateUsers_iff hb hc, husers]
          constructor
          · intro hall hbreaks
            obtain ⟨_, _, v, hv, hid, hoidc⟩ := hbreaks
            exact absurd (hall v hv hid hoidc).2 (by simp [User.enableTOTP])
          · intro hno v hv hid hoidc
            exact absurd ⟨⟨secret, hcheck⟩, ⟨b, hcodes⟩, v, hv, hid, hoidc⟩ hno

/-- Create gives an OIDC user no hash, and nobody TOTP. -/
theorem create_keeps {a : Accounts X} (ha : NoLocalCredentials a)
    (body : Option CreateUserRequest) (hash : Option String) (id : String) :
    NoLocalCredentials (orUnchanged a (create a body hash id)) := by
  cases hok : create a body hash id with
  | error e => exact ha
  | ok b =>
      obtain ⟨req, passwordHash, role, provider, _, hempty, hins⟩ := create_ok hok
      intro u hu
      rcases (Accounts.mem_insertUser hins).mp hu with hu | hu
      · exact ha u hu
      · subst hu
        intro hoidc
        refine ⟨?_, rfl⟩
        show (if passwordHash = "" then none else some passwordHash) = none
        rw [if_pos (hempty hoidc)]

/-- UpdateMe writes the provider that the row has: an OIDC user stays one, and has no second
factor. -/
theorem updateMe_keeps {a : Accounts X} (ha : NoLocalCredentials a) (userID : String)
    (body : Option UpdateMeRequest) :
    NoLocalCredentials (orUnchanged a (updateMe a userID body)) := by
  cases hok : updateMe a userID body with
  | error e => exact ha
  | ok b =>
      obtain ⟨current, req, hrow, hupd⟩ := updateMe_ok hok
      obtain ⟨hmem, hid⟩ := Table.find?_eq_some_iff.mp hrow
      refine (noLocalCredentials_updateUser_iff ha hupd).mpr fun u hu huid hoidc => ?_
      have hsame : u = current := Table.eq_of_key hu hmem (huid.trans hid.symm)
      rw [hsame]
      exact (ha current hmem hoidc).2

/-- Only a user with a password can change it, and no OIDC user has one. -/
theorem changeMyPassword_keeps {a : Accounts X} (ha : NoLocalCredentials a) (userID : String)
    (body : Option ChangeMyPasswordRequest) (hash : Option String) :
    NoLocalCredentials (orUnchanged a (changeMyPassword a userID body hash)) := by
  cases hok : changeMyPassword a userID body hash with
  | error e => exact ha
  | ok b =>
      obtain ⟨user, new, hrow, hhash, hupd⟩ := changeMyPassword_ok hok
      obtain ⟨hmem, hid⟩ := Table.find?_eq_some_iff.mp hrow
      refine (noLocalCredentials_updateUsers_iff ha hupd).mpr fun u hu huid hoidc => ?_
      have hsame : u = user := Table.eq_of_key hu hmem (huid.trans hid.symm)
      subst hsame
      exact absurd (ha u hmem hoidc).1 hhash

/-- BeginSetup clears the flag, and refuses OIDC users. -/
theorem beginSetup_keeps {a : Accounts X} (ha : NoLocalCredentials a)
    (userID encrypted : String) :
    NoLocalCredentials (orUnchanged a (TOTPHandler.beginSetup a userID encrypted)) := by
  unfold TOTPHandler.beginSetup
  cases TOTPHandler.beginSetupCheck a userID with
  | error e => exact ha
  | ok user =>
      cases hupd : a.storeUserTOTPSecret userID encrypted with
      | error e => exact ha
      | ok b =>
          show NoLocalCredentials b
          refine (noLocalCredentials_updateUsers_iff ha hupd).mpr fun u hu _ hoidc => ?_
          exact ⟨(ha u hu hoidc).1, rfl⟩

/-- Spending a recovery code leaves the users alone. -/
theorem consumeRecoveryCode_users (a : Accounts X) (rows : List UserTOTPRecoveryCode)
    (code : String) (now : Nat) :
    (Redemption.consumeRecoveryCode a rows code now).1.users = a.users := by
  unfold Redemption.consumeRecoveryCode
  cases Redemption.firstMatch X rows code <;> rfl

/-- DisableUserTOTP clears the flag. -/
theorem disableUserTOTP_keeps {a b : Accounts X} (ha : NoLocalCredentials a) {userID : String}
    (h : a.disableUserTOTP userID = .ok b) : NoLocalCredentials b := by
  unfold Accounts.disableUserTOTP at h
  cases hupd : a.updateUsers userID User.disableTOTP (fun _ => rfl) with
  | error e => simp [hupd] at h
  | ok c =>
      simp only [hupd, Except.ok.injEq] at h
      have hc : NoLocalCredentials c :=
        (noLocalCredentials_updateUsers_iff ha hupd).mpr fun u hu _ hoidc =>
          ⟨(ha u hu hoidc).1, rfl⟩
      rw [← h]
      exact hc

/-- Disable spends a code at most, and clears the flag. -/
theorem disable_keeps {a : Accounts X} (ha : NoLocalCredentials a) (userID : String)
    (body : Option TOTPHandler.DisableRequest) (rows : List UserTOTPRecoveryCode) (now : Nat) :
    NoLocalCredentials (TOTPHandler.disable a userID body rows now).1 := by
  unfold TOTPHandler.disable
  cases TOTPHandler.disableCheck a userID body with
  | error e => exact ha
  | ok req =>
      cases hload : TOTPHandler.loadSecret a userID with
      | error e => simpa [hload] using ha
      | ok secret =>
          -- the accounts after the code was checked, whichever way
          generalize hr : (if X.validate now secret req.code then (a, true)
            else Redemption.consumeRecoveryCode a rows req.code now) = r
          have husers : r.1.users = a.users := by
            rw [← hr]
            split
            · rfl
            · exact consumeRecoveryCode_users a rows req.code now
          obtain ⟨b, verified⟩ := r
          have hb : NoLocalCredentials b := by
            unfold NoLocalCredentials
            rw [husers]
            exact ha
          simp only [hr]
          cases verified with
          | false => exact hb
          | true =>
              cases hdisable : b.disableUserTOTP userID with
              | error e => simpa [hdisable] using hb
              | ok c => simpa [hdisable] using disableUserTOTP_keeps hb hdisable

/-- **One request, exactly.** -/
theorem step_keeps_iff {a b : Accounts X} (ha : NoLocalCredentials a) {r : Request}
    (h : step a r = some b) : NoLocalCredentials b ↔ ¬ Breaks a r := by
  cases r with
  | create body hash id =>
      injection h with h
      subst h
      exact iff_of_true (create_keeps ha body hash id) not_false
  | update userID body =>
      injection h with h
      subst h
      exact update_keeps_iff ha userID body
  | updateMe userID body =>
      injection h with h
      subst h
      exact iff_of_true (updateMe_keeps ha userID body) not_false
  | changePassword userID body hash =>
      injection h with h
      subst h
      exact changePassword_keeps_iff ha userID body hash
  | changeMyPassword userID body hash =>
      injection h with h
      subst h
      exact iff_of_true (changeMyPassword_keeps ha userID body hash) not_false
  | beginSetup userID encrypted =>
      injection h with h
      subst h
      exact iff_of_true (beginSetup_keeps ha userID encrypted) not_false
  | confirmSetup userID code now hashes ids =>
      injection h with h
      subst h
      exact confirmSetup_keeps_iff ha userID code now hashes ids
  | disable userID body rows now =>
      injection h with h
      subst h
      exact iff_of_true (disable_keeps ha userID body rows now) not_false

/-! ## §4. Runs. -/

/-- **WHEN OIDC ACCOUNTS HOLD NO LOCAL CREDENTIALS.**  From an empty users table, in every
state of a run of these requests OIDC users have neither password hash nor armed second
factor, if and only if no request of the run breaks this. -/
theorem noLocalCredentials_iff {start t : Accounts X} {tr : List (Accounts X × Request)}
    (e : Exec step start tr t) (hempty : start.users.rows = []) :
    (∀ a ∈ visited tr t, NoLocalCredentials a) ↔ ∀ p ∈ tr, ¬ Breaks p.1 p.2 := by
  refine e.always_iff (J := fun _ => True) (fun _ _ _ _ _ => trivial)
    (fun _ _ _ _ ha h => step_keeps_iff ha h) trivial ?_
  intro u hu
  rw [Table.mem_def, hempty] at hu
  exact absurd hu List.not_mem_nil

/-- No user at all. -/
def noUsers : Accounts plainExternals := ⟨Table.empty, List.nodup_nil, Table.empty⟩

/-- An OIDC user is created and then given a password by an admin. -/
def passwordForSSOUser : List Request :=
  [.create (some ⟨"carol", "", "viewer", "oidc", false, none, none, none⟩) none "u1",
    .changePassword "u1" (some ⟨"pw"⟩) (some "hash:pw")]

/-- The exact condition on a concrete run: it fails for the admin's ChangePassword. -/
theorem noLocalCredentials_iff_passwordForSSOUser :
    ∃ t, run step noUsers passwordForSSOUser = some t ∧
      ((∀ a ∈ visited (traceFrom step noUsers passwordForSSOUser) t, NoLocalCredentials a) ↔
        ∀ p ∈ traceFrom step noUsers passwordForSSOUser, ¬ Breaks p.1 p.2) := by
  refine ⟨_, rfl, ?_⟩
  exact noLocalCredentials_iff (exec_traceFrom rfl) rfl

/-- **An OIDC user with a password**: an admin's ChangePassword does not look at the provider. -/
theorem sso_user_with_password :
    ¬ ∀ (start t : Accounts plainExternals)
        (tr : List (Accounts plainExternals × Request)),
        start.users.rows = [] → Exec step start tr t → NoLocalCredentials t := by
  intro hall
  have hrun : ∃ t, run step noUsers passwordForSSOUser = some t ∧ ¬ NoLocalCredentials t :=
    ⟨_, rfl, by unfold NoLocalCredentials; decide⟩
  obtain ⟨t, hrun, hbad⟩ := hrun
  exact hbad (hall noUsers t _ rfl (exec_traceFrom hrun))

end TLSentinel.Users.LocalCredentials
