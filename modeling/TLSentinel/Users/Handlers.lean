/-
  TLSentinel.Users.Handlers
  ─────────────────────────
  **THE ADMINISTRATION OF USERS.**

  The writing handlers of `internal/users/handler.go`: the checks of the request,
  their answers, and the statements they run.  Update, SetEnabled and
  ChangePassword run one writing statement each; Delete looks the target up,
  counts the admins and deletes in three, with `DeletePc` between them.

  All take the target's id from the path.  The database reads it as a uuid, so it
  may be written in several ways (`X.uuid`), and fails on a text that is none; the
  guards against the caller's own account compare the texts.
-/
import TLSentinel.Users.Store

namespace TLSentinel.Users

open Foundation

variable {X : Externals}

/-! ## §1. The handlers. -/

/-- `UpdateUserRequest`. -/
structure UpdateUserRequest where
  username : String
  role : String
  provider : String
  notify : Bool
  firstName : Option String
  lastName : Option String
  email : Option String
  deriving DecidableEq, Repr

/-- `SetEnabledRequest`. -/
structure SetEnabledRequest where
  enabled : Bool
  deriving DecidableEq, Repr

/-- `ChangePasswordRequest`. -/
structure ChangePasswordRequest where
  password : String
  deriving DecidableEq, Repr

/-- `validateEmailPtr`: a missing or empty address is fine. -/
def validateEmailPtr (X : Externals) : Option String → Bool
  | none => true
  | some e => decide (e = "") || X.parseAddress e

/-- How a handler answers a failed store call. -/
def storeResponse {α : Type} (failedText : String) : Except StoreError α → Except HttpError α
  | .ok a => .ok a
  | .error .notFound => .error ⟨404, "user not found"⟩
  | .error .failed => .error ⟨500, failedText⟩

/-- `Handler.Update`; a body that does not decode is `none`. -/
def update (a : Accounts X) (userID : String) (body : Option UpdateUserRequest) :
    Except HttpError (Accounts X) :=
  match body with
  | none => .error ⟨400, "invalid request body"⟩
  | some req =>
      if normalizeUsername req.username = "" then .error ⟨400, "username is required"⟩
      else
        match validRoles req.role with
        | none => .error ⟨400, "role must be 'admin', 'operator', or 'viewer'"⟩
        | some role =>
            match validProviders (if req.provider = "" then "local" else req.provider) with
            | none => .error ⟨400, "provider must be 'local' or 'oidc'"⟩
            | some provider =>
                if validateEmailPtr X req.email then
                  match X.uuid userID with
                  | none => .error ⟨500, "failed to update user"⟩
                  | some id =>
                      storeResponse "failed to update user"
                        (a.updateUser id (normalizeUsername req.username) role provider
                          req.notify req.firstName req.lastName req.email)
                else .error ⟨400, "invalid email address"⟩

/-- `Handler.SetEnabled`, called by `caller`. -/
def setEnabled (a : Accounts X) (caller userID : String) (body : Option SetEnabledRequest) :
    Except HttpError (Accounts X) :=
  match body with
  | none => .error ⟨400, "invalid request body"⟩
  | some req =>
      if req.enabled = false ∧ caller = userID then
        .error ⟨409, "cannot disable your own account"⟩
      else
        match X.uuid userID with
        | none => .error ⟨500, "failed to update user"⟩
        | some id => storeResponse "failed to update user" (a.setUserEnabled id req.enabled)

/-- `Handler.ChangePassword`; `hash` is what bcrypt makes of the password. -/
def changePassword (a : Accounts X) (userID : String) (body : Option ChangePasswordRequest)
    (hash : Option String) : Except HttpError (Accounts X) :=
  match body with
  | none => .error ⟨400, "invalid request body"⟩
  | some req =>
      if req.password = "" then .error ⟨400, "password is required"⟩
      else
        match hash with
        | none => .error ⟨500, "failed to process password"⟩
        | some hash =>
            match X.uuid userID with
            | none => .error ⟨500, "failed to update password"⟩
            | some id => storeResponse "failed to update password" (a.updateUserPassword id hash)

/-- Where a Delete request stands between its statements, with the id as they read it. -/
inductive DeletePc where
  | idle
  /-- The target is an admin; the count comes next. -/
  | count (id : String)
  /-- All checks passed; the DELETE comes next. -/
  | delete (id : String)
  | done (result : Except HttpError Unit)

/-- `Handler.Delete` up to the lookup of the target. -/
def deleteBegin (a : Accounts X) (caller userID : String) : DeletePc :=
  if caller = userID then .done (.error ⟨409, "cannot delete your own account"⟩)
  else
    match X.uuid userID with
    | none => .done (.error ⟨500, "failed to get user"⟩)
    | some id =>
        match a.getUserByID id with
        | none => .done (.error ⟨404, "user not found"⟩)
        | some target => if target.role = .admin then .count id else .delete id

/-- The guard of `Handler.Delete`. -/
def deleteCount (a : Accounts X) (id : String) : DeletePc :=
  if a.countAdminUsers ≤ 1 then .done (.error ⟨409, "cannot delete the last admin user"⟩)
  else .delete id

/-- The last statement of `Handler.Delete`. -/
def deleteCommit (a : Accounts X) (id : String) : Except HttpError (Accounts X) :=
  storeResponse "failed to delete user" (a.deleteUser id)

/-- `Handler.Delete`, run without interruption. -/
def delete (a : Accounts X) (caller userID : String) : Except HttpError (Accounts X) :=
  match deleteBegin a caller userID with
  | .delete target => deleteCommit a target
  | .count target =>
      match deleteCount a target with
      | .delete target => deleteCommit a target
      | .done (.error e) => .error e
      | _ => .ok a
  | .done (.error e) => .error e
  | _ => .ok a

/-! ## §2. What an accepted request did. -/

/-- A success is the store's. -/
theorem storeResponse_eq_ok {α : Type} {failedText : String} {e : Except StoreError α}
    {b : α} : storeResponse failedText e = .ok b ↔ e = .ok b := by
  cases e with
  | ok a => simp [storeResponse]
  | error e => cases e <;> simp [storeResponse]

/-- An accepted Update ran the UPDATE with a valid role and provider. -/
theorem update_ok {a b : Accounts X} {userID : String} {body : Option UpdateUserRequest}
    (h : update a userID body = .ok b) :
    ∃ req role provider id, body = some req ∧ validRoles req.role = some role
      ∧ validProviders (if req.provider = "" then "local" else req.provider) = some provider
      ∧ X.uuid userID = some id
      ∧ a.updateUser id (normalizeUsername req.username) role provider req.notify
          req.firstName req.lastName req.email = .ok b := by
  unfold update at h
  split at h
  · exact absurd h (by simp)
  · next req =>
      split at h
      · exact absurd h (by simp)
      · split at h
        · exact absurd h (by simp)
        · next role hrole =>
            split at h
            · exact absurd h (by simp)
            · next provider hprovider =>
                split at h
                · split at h
                  · exact absurd h (by simp)
                  · next id hid =>
                      exact ⟨req, role, provider, id, rfl, hrole, hprovider, hid,
                        storeResponse_eq_ok.mp h⟩
                · exact absurd h (by simp)

/-- An accepted SetEnabled ran the UPDATE of the flag. -/
theorem setEnabled_ok {a b : Accounts X} {caller userID : String}
    {body : Option SetEnabledRequest} (h : setEnabled a caller userID body = .ok b) :
    ∃ req id, body = some req ∧ X.uuid userID = some id
      ∧ a.setUserEnabled id req.enabled = .ok b := by
  unfold setEnabled at h
  split at h
  · exact absurd h (by simp)
  · next req =>
      split at h
      · exact absurd h (by simp)
      · split at h
        · exact absurd h (by simp)
        · next id hid => exact ⟨req, id, rfl, hid, storeResponse_eq_ok.mp h⟩

/-- A failed Delete had no target. -/
theorem deleteCommit_error {a : Accounts X} {id : String} {e : HttpError}
    (h : deleteCommit a id = .error e) : ∀ u ∈ a.users, u.id ≠ id := by
  unfold deleteCommit at h
  intro u hu hid
  have hrows : a.users.rowsAffected (fun v => v.id = id) ≠ 0 :=
    Table.rowsAffected_key_ne_zero_iff.mpr ⟨u, hu, hid⟩
  simp [Accounts.deleteUser, hrows, storeResponse] at h

end TLSentinel.Users
