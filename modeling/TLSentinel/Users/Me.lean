/-
  TLSentinel.Users.Me
  ───────────────────
  **CREATING USERS, AND WHAT A USER MAY CHANGE ITSELF.**

  `Create`, `UpdateMe` and `ChangeMyPassword` of `internal/users/handler.go`.
  UpdateMe reads the row, and writes username, role and provider back as it read
  them; the reading part and the UPDATE are separate functions here, because
  other requests may run in between.
-/
import TLSentinel.Users.Handlers

namespace TLSentinel.Users

open Foundation

variable {X : Externals}

/-! ## §1. When an UPDATE of the username is accepted. -/

namespace Accounts

/-- Another user has the username. -/
def Taken (a : Accounts X) (id username : String) : Prop :=
  ∃ v ∈ a.users, v.id ≠ id ∧ X.fold v.username = X.fold username

instance (a : Accounts X) (id username : String) : Decidable (a.Taken id username) :=
  inferInstanceAs (Decidable (∃ v ∈ a.users, v.id ≠ id ∧ X.fold v.username = X.fold username))

/-- The usernames after an update stay distinct unless the new one is taken. -/
theorem usernames_update_iff {a : Accounts X} {id username : String} {f : User → User}
    {hf : ∀ u, (f u).id = u.id} (hname : ∀ u, (f u).username = username)
    (hrow : ∃ u ∈ a.users, u.id = id) :
    ((a.users.update (fun u => u.id = id) f hf).rows.map
      (fun u => X.fold u.username)).Nodup ↔ ¬ a.Taken id username := by
  have hrows : a.users.rows.Nodup := List.Nodup.of_map _ a.users.nodup
  have hmap : (a.users.update (fun u => u.id = id) f hf).rows.map (fun u => X.fold u.username)
      = a.users.rows.map
          (fun u => X.fold (if u.id = id then username else u.username)) := by
    simp only [Table.update, List.map_map]
    apply List.map_congr_left
    intro u _
    by_cases hu : u.id = id <;> simp [hu, hname]
  rw [hmap, List.nodup_map_iff_inj_on hrows]
  constructor
  · intro hinj htaken
    obtain ⟨u, hu, hid⟩ := hrow
    obtain ⟨v, hv, hne, hfold⟩ := htaken
    have huv : u = v := hinj u hu v hv (by rw [if_pos hid, if_neg hne, hfold])
    exact hne (huv ▸ hid)
  · intro hfree u hu v hv heq
    -- the updated row against the others, and the others among themselves
    by_cases h₁ : u.id = id <;> by_cases h₂ : v.id = id
    · exact Table.eq_of_key hu hv (h₁.trans h₂.symm)
    · rw [if_pos h₁, if_neg h₂] at heq
      exact absurd ⟨v, hv, h₂, heq.symm⟩ hfree
    · rw [if_neg h₁, if_pos h₂] at heq
      exact absurd ⟨u, hu, h₁, heq⟩ hfree
    · rw [if_neg h₁, if_neg h₂] at heq
      exact a.eq_of_username hu hv heq

/-- An update of the username is accepted for an existing user, unless the name is taken. -/
theorem updateUsers_isOk_iff {a : Accounts X} {id username : String} {f : User → User}
    {hf : ∀ u, (f u).id = u.id} (hname : ∀ u, (f u).username = username) :
    (∃ b, a.updateUsers id f hf = .ok b) ↔
      (∃ u ∈ a.users, u.id = id) ∧ ¬ a.Taken id username := by
  constructor
  · intro h
    obtain ⟨b, h⟩ := h
    have hrow := (updateUsers_cases h).1
    refine ⟨hrow, ?_⟩
    unfold updateUsers at h
    split at h
    · next hnodup => exact (usernames_update_iff hname hrow).mp hnodup
    · exact absurd h (by simp)
  · intro h
    obtain ⟨hrow, hfree⟩ := h
    unfold updateUsers
    rw [dif_pos ((usernames_update_iff hname hrow).mpr hfree),
      if_neg (Table.rowsAffected_key_ne_zero_iff.mpr hrow)]
    exact ⟨_, rfl⟩

/-- **UpdateUser is accepted** for an existing user and a username nobody else has. -/
theorem updateUser_isOk_iff {a : Accounts X} {id username : String} {role : Role}
    {provider : Provider} {notify : Bool} {firstName lastName email : Option String} :
    (∃ b, a.updateUser id username role provider notify firstName lastName email = .ok b) ↔
      (∃ u ∈ a.users, u.id = id) ∧ ¬ a.Taken id username :=
  updateUsers_isOk_iff (fun _ => rfl)

/-- The row `InsertUser` writes. -/
def newUser (id username passwordHash : String) (role : Role) (provider : Provider)
    (notify : Bool) (firstName lastName email : Option String) : User where
  id := id
  username := username
  passwordHash := if passwordHash = "" then none else some passwordHash
  provider := provider
  enabled := true
  notify := notify
  role := role
  firstName := firstName
  lastName := lastName
  email := email
  totpSecret := none
  totpEnabled := false
  totpEnrolledAt := none

/-- `InsertUser`; `id` is generated by the database. -/
def insertUser (a : Accounts X) (id username passwordHash : String) (role : Role)
    (provider : Provider) (notify : Bool) (firstName lastName email : Option String) :
    Except StoreError (Accounts X) :=
  match a.users.insert
    (newUser id username passwordHash role provider notify firstName lastName email) with
  | none => .error .failed
  | some users =>
      if h : (users.rows.map (fun u => X.fold u.username)).Nodup then
        .ok { a with users := users, usernames := h }
      else .error .failed

/-- After an insert there is the new row, and the old ones. -/
theorem mem_insertUser {a b : Accounts X} {id username passwordHash : String} {role : Role}
    {provider : Provider} {notify : Bool} {firstName lastName email : Option String}
    (h : a.insertUser id username passwordHash role provider notify firstName lastName email
      = .ok b) {u : User} :
    u ∈ b.users ↔ u ∈ a.users ∨ u = newUser id username passwordHash role provider notify
      firstName lastName email := by
  unfold insertUser at h
  split at h
  · exact absurd h (by simp)
  · next users hins =>
      split at h
      · injection h with h
        rw [← h]
        exact Table.mem_insert hins
      · exact absurd h (by simp)

end Accounts

/-! ## §2. Create. -/

/-- `CreateUserRequest`. -/
structure CreateUserRequest where
  username : String
  password : String
  role : String
  provider : String
  notify : Bool
  firstName : Option String
  lastName : Option String
  email : Option String
  deriving DecidableEq, Repr

/-- `Handler.Create`; `hash` is what bcrypt makes of the password, `id` what the database
generates. -/
def create (a : Accounts X) (body : Option CreateUserRequest) (hash : Option String)
    (id : String) : Except HttpError (Accounts X) :=
  match body with
  | none => .error ⟨400, "invalid request body"⟩
  | some req =>
      let username := normalizeUsername req.username
      if username = "" then .error ⟨400, "username is required"⟩
      else
        match validRoles (if req.role = "" then "viewer" else req.role) with
        | none => .error ⟨400, "role must be 'admin', 'operator', or 'viewer'"⟩
        | some role =>
            match validProviders (if req.provider = "" then "local" else req.provider) with
            | none => .error ⟨400, "provider must be 'local' or 'oidc'"⟩
            | some provider =>
                if provider = .Local ∧ req.password = "" then
                  .error ⟨400, "password is required for local users"⟩
                else if validateEmailPtr X req.email = false then
                  .error ⟨400, "invalid email address"⟩
                else
                  -- only a local user gets a password hash
                  match if provider = .Local then hash else some "" with
                  | none => .error ⟨500, "failed to process password"⟩
                  | some passwordHash =>
                      match a.insertUser id username passwordHash role provider req.notify
                        req.firstName req.lastName req.email with
                      | .error _ => .error ⟨500, "failed to create user"⟩
                      | .ok b => .ok b

/-- An accepted Create inserted a user, without a hash unless the user is local. -/
theorem create_ok {a b : Accounts X} {body : Option CreateUserRequest} {hash : Option String}
    {id : String} (h : create a body hash id = .ok b) :
    ∃ req passwordHash role provider, body = some req ∧
      (provider = .OIDC → passwordHash = "") ∧
      a.insertUser id (normalizeUsername req.username) passwordHash role provider req.notify
        req.firstName req.lastName req.email = .ok b := by
  unfold create at h
  split at h
  · exact absurd h (by simp)
  · next req =>
      simp only at h
      split at h
      · exact absurd h (by simp)
      · split at h
        · exact absurd h (by simp)
        · next role _ =>
            split at h
            · exact absurd h (by simp)
            · next provider _ =>
                split at h
                · exact absurd h (by simp)
                · split at h
                  · exact absurd h (by simp)
                  · split at h
                    · exact absurd h (by simp)
                    · next passwordHash hhash =>
                        split at h
                        · exact absurd h (by simp)
                        · next c hins =>
                            injection h with h
                            subst h
                            refine ⟨req, passwordHash, role, provider, rfl, ?_, hins⟩
                            intro hoidc
                            simpa [hoidc, eq_comm] using hhash

/-! ## §3. UpdateMe. -/

/-- `UpdateMeRequest`. -/
structure UpdateMeRequest where
  notify : Bool
  firstName : Option String
  lastName : Option String
  email : Option String
  deriving DecidableEq, Repr

/-- `Handler.UpdateMe` up to its UPDATE: the row it read and the decoded body. -/
def updateMeCheck (a : Accounts X) (userID : String) (body : Option UpdateMeRequest) :
    Except HttpError (User × UpdateMeRequest) :=
  match a.getUserByID userID with
  | none => .error ⟨404, "user not found"⟩
  | some current =>
      match body with
      | none => .error ⟨400, "invalid request body"⟩
      | some req =>
          if validateEmailPtr X req.email then .ok (current, req)
          else .error ⟨400, "invalid email address"⟩

/-- The UPDATE of `Handler.UpdateMe`: role, username and provider are written as they were
read. -/
def updateMeWrite (a : Accounts X) (userID : String) (current : User) (req : UpdateMeRequest) :
    Except HttpError (Accounts X) :=
  storeResponse "failed to update profile"
    (a.updateUser userID current.username current.role current.provider req.notify
      req.firstName req.lastName req.email)

/-- `Handler.UpdateMe`, run without interruption. -/
def updateMe (a : Accounts X) (userID : String) (body : Option UpdateMeRequest) :
    Except HttpError (Accounts X) :=
  match updateMeCheck a userID body with
  | .error e => .error e
  | .ok (current, req) => updateMeWrite a userID current req

/-! ## §4. ChangeMyPassword. -/

/-- `ChangeMyPasswordRequest`. -/
structure ChangeMyPasswordRequest where
  currentPassword : String
  newPassword : String
  deriving DecidableEq, Repr

/-- `Handler.ChangeMyPassword`; `hash` is what bcrypt makes of the new password. -/
def changeMyPassword (a : Accounts X) (userID : String) (body : Option ChangeMyPasswordRequest)
    (hash : Option String) : Except HttpError (Accounts X) :=
  match body with
  | none => .error ⟨400, "invalid request body"⟩
  | some req =>
      if req.currentPassword = "" ∨ req.newPassword = "" then
        .error ⟨400, "currentPassword and newPassword are required"⟩
      else
        match a.getUserByID userID with
        | none => .error ⟨404, "user not found"⟩
        | some user =>
            match user.passwordHash with
            | none => .error ⟨400, "password change not supported for this account"⟩
            | some current =>
                if X.compareHashAndPassword current req.currentPassword then
                  match hash with
                  | none => .error ⟨500, "failed to process password"⟩
                  | some hash =>
                      match a.updateUserPassword userID hash with
                      | .error _ => .error ⟨500, "failed to update password"⟩
                      | .ok b => .ok b
                else .error ⟨401, "current password is incorrect"⟩

/-! ## §5. What an accepted request did. -/

/-- An UpdateMe read the user's row before it wrote. -/
theorem updateMe_ok {a b : Accounts X} {userID : String} {body : Option UpdateMeRequest}
    (h : updateMe a userID body = .ok b) :
    ∃ (current : User) (req : UpdateMeRequest), a.users.find? userID = some current ∧
      a.updateUser userID current.username current.role current.provider req.notify
        req.firstName req.lastName req.email = .ok b := by
  unfold updateMe updateMeCheck at h
  cases hrow : a.getUserByID userID with
  | none => simp [hrow] at h
  | some current =>
      cases body with
      | none => simp [hrow] at h
      | some req =>
          cases hemail : validateEmailPtr X req.email with
          | false => simp [hrow, hemail] at h
          | true =>
              simp only [hrow, hemail, if_true] at h
              exact ⟨current, req, hrow, storeResponse_eq_ok.mp h⟩

/-- A user that changed its password had one. -/
theorem changeMyPassword_ok {a b : Accounts X} {userID : String}
    {body : Option ChangeMyPasswordRequest} {hash : Option String}
    (h : changeMyPassword a userID body hash = .ok b) :
    ∃ user new, a.users.find? userID = some user ∧ user.passwordHash ≠ none ∧
      a.updateUserPassword userID new = .ok b := by
  unfold changeMyPassword at h
  split at h
  · exact absurd h (by simp)
  · next req =>
      split at h
      · exact absurd h (by simp)
      · split at h
        · exact absurd h (by simp)
        · next user hrow =>
            split at h
            · exact absurd h (by simp)
            · next current hcurrent =>
                split at h
                · split at h
                  · exact absurd h (by simp)
                  · next new =>
                      split at h
                      · exact absurd h (by simp)
                      · next c hupd =>
                          injection h with h
                          subst h
                          exact ⟨user, new, hrow, by simp [hcurrent], hupd⟩
                · exact absurd h (by simp)

end TLSentinel.Users
