/-
  TLSentinel.Users.TOTPHandler
  ────────────────────────────
  **TOTP ENROLMENT: WHAT EACH HANDLER CHECKS BEFORE IT WRITES.**

  `internal/users/totp_handler.go` reads first and writes later.  The functions
  here are the reading parts, up to the next statement that writes: the outcome
  is the answer that ends the request, or what the write will use.

  Every handler runs for the user that the middleware identified, AdminReset for
  the user of the path, whose id is a canonical uuid text there; a body that does
  not decode is `none`.
-/
import TLSentinel.Users.RecoveryCodes

namespace TLSentinel.Users.TOTPHandler

open Foundation

variable {X : Externals}

/-! ## §1. The checks. -/

/-- `BeginSetup` up to the generation of the secret. -/
def beginSetupCheck (a : Accounts X) (userID : String) : Except HttpError User :=
  match a.getUserByID userID with
  | none => .error ⟨500, "failed to load user"⟩
  | some user =>
      if user.provider ≠ .Local then
        .error ⟨400, "totp is only available for local accounts; SSO users get MFA from their identity provider"⟩
      else if user.totpEnabled then
        .error ⟨409, "totp already enabled — disable first to re-enroll"⟩
      else .ok user

/-- `loadSecret`. -/
def loadSecret (a : Accounts X) (userID : String) : Except HttpError String :=
  match a.getUserTOTPSecret userID with
  | none => .error ⟨500, "failed to load totp secret"⟩
  | some (none, _) => .error ⟨400, "totp not initialized"⟩
  | some (some encrypted, _) =>
      match X.decrypt encrypted with
      | none => .error ⟨500, "failed to decrypt totp secret"⟩
      | some secret => .ok secret

/-- `ConfirmSetup` up to the rotation of the recovery codes: the secret that the
code was valid for. -/
def confirmSetupCheck (a : Accounts X) (userID : String) (code : Option String) (now : Nat) :
    Except HttpError String :=
  match code with
  | none => .error ⟨400, "code is required"⟩
  | some code =>
      if code = "" then .error ⟨400, "code is required"⟩
      else
        match loadSecret a userID with
        | .error e => .error e
        | .ok secret =>
            if X.validate now secret code then .ok secret else .error ⟨400, "invalid code"⟩

/-- `totpDisableRequest`. -/
structure DisableRequest where
  password : String
  code : String
  deriving DecidableEq, Repr

/-- `Disable` up to `loadSecret`: the user, with the password verified. -/
def disableCheck (a : Accounts X) (userID : String) (body : Option DisableRequest) :
    Except HttpError DisableRequest :=
  match body with
  | none => .error ⟨400, "invalid request body"⟩
  | some req =>
      if req.password = "" ∨ req.code = "" then
        .error ⟨400, "password and code are required"⟩
      else
        match a.getUserByID userID with
        | none => .error ⟨500, "failed to load user"⟩
        | some user =>
            if user.totpEnabled = false then .error ⟨400, "totp is not enabled"⟩
            else
              match user.passwordHash with
              | none => .error ⟨400, "password verification not available for this account"⟩
              | some hash =>
                  if X.compareHashAndPassword hash req.password then .ok req
                  else .error ⟨401, "invalid password"⟩

/-- `RegenerateRecoveryCodes` up to `loadSecret`. -/
def regenerateCheck (a : Accounts X) (userID : String) (code : Option String) :
    Except HttpError String :=
  match code with
  | none => .error ⟨400, "code is required"⟩
  | some code =>
      if code = "" then .error ⟨400, "code is required"⟩
      else
        match a.getUserByID userID with
        | none => .error ⟨500, "failed to load user"⟩
        | some user =>
            if user.totpEnabled then .ok code else .error ⟨400, "totp is not enabled"⟩

/-- `AdminReset` up to its write. -/
def adminResetCheck (a : Accounts X) (userID : String) : Except HttpError Unit :=
  if userID = "" then .error ⟨400, "user id is required"⟩
  else
    match a.getUserByID userID with
    | none => .error ⟨404, "user not found"⟩
    | some target =>
        if target.totpEnabled then .ok ()
        else .error ⟨400, "totp is not enabled for this user"⟩

/-! ## §2. The handlers, run without interruption. -/

/-- How these handlers answer a failed store call. -/
def orFail {α : Type} (failedText : String) : Except StoreError α → Except HttpError α
  | .ok a => .ok a
  | .error _ => .error ⟨500, failedText⟩

/-- `BeginSetup`, with the ciphertext of the generated secret. -/
def beginSetup (a : Accounts X) (userID encrypted : String) : Except HttpError (Accounts X) :=
  match beginSetupCheck a userID with
  | .error e => .error e
  | .ok _ => orFail "failed to store totp secret" (a.storeUserTOTPSecret userID encrypted)

/-- `ConfirmSetup`, with the hashes and row ids of the generated codes.  When the
last statement fails the codes have been replaced already. -/
def confirmSetup (a : Accounts X) (userID : String) (code : Option String) (now : Nat)
    (hashes ids : List String) : Accounts X × Except HttpError Unit :=
  match confirmSetupCheck a userID code now with
  | .error e => (a, .error e)
  | .ok _ =>
      match a.replaceUserTOTPRecoveryCodes userID hashes ids with
      | .error _ => (a, .error ⟨500, "failed to store recovery codes"⟩)
      | .ok b =>
          match b.enableUserTOTP userID now with
          | .error _ => (b, .error ⟨500, "failed to enable totp"⟩)
          | .ok c => (c, .ok ())

/-- `Disable`: a TOTP code, or else a recovery code, which is spent. -/
def disable (a : Accounts X) (userID : String) (body : Option DisableRequest)
    (rows : List UserTOTPRecoveryCode) (now : Nat) : Accounts X × Except HttpError Unit :=
  match disableCheck a userID body with
  | .error e => (a, .error e)
  | .ok req =>
      match loadSecret a userID with
      | .error e => (a, .error e)
      | .ok secret =>
          let (b, verified) :=
            if X.validate now secret req.code then (a, true)
            else Redemption.consumeRecoveryCode a rows req.code now
          if verified then
            match b.disableUserTOTP userID with
            | .error _ => (b, .error ⟨500, "failed to disable totp"⟩)
            | .ok c => (c, .ok ())
          else (b, .error ⟨401, "invalid code"⟩)

/-- `RegenerateRecoveryCodes`. -/
def regenerateRecoveryCodes (a : Accounts X) (userID : String) (code : Option String)
    (now : Nat) (hashes ids : List String) : Except HttpError (Accounts X) :=
  match regenerateCheck a userID code with
  | .error e => .error e
  | .ok code =>
      match loadSecret a userID with
      | .error e => .error e
      | .ok secret =>
          if X.validate now secret code then
            orFail "failed to store recovery codes"
              (a.replaceUserTOTPRecoveryCodes userID hashes ids)
          else .error ⟨401, "invalid code"⟩

/-- `AdminReset`. -/
def adminReset (a : Accounts X) (userID : String) : Except HttpError (Accounts X) :=
  match adminResetCheck a userID with
  | .error e => .error e
  | .ok _ => orFail "failed to reset totp" (a.disableUserTOTP userID)

/-! ## §3. What the checks established. -/

/-- A loaded secret is the decrypted secret of the row. -/
theorem loadSecret_ok {a : Accounts X} {userID secret : String}
    (h : loadSecret a userID = .ok secret) :
    ∃ u encrypted, a.getUserByID userID = some u ∧ u.totpSecret = some encrypted
      ∧ X.decrypt encrypted = some secret := by
  unfold loadSecret Accounts.getUserTOTPSecret at h
  cases hu : a.users.find? userID with
  | none => simp [hu] at h
  | some u =>
      cases hs : u.totpSecret with
      | none => simp [hu, hs] at h
      | some encrypted =>
          cases hd : X.decrypt encrypted with
          | none => simp [hu, hs, hd] at h
          | some plain =>
              simp only [hu, hs, hd, Option.map_some, Except.ok.injEq] at h
              exact ⟨u, encrypted, hu, hs, h ▸ hd⟩

/-- A confirmed code was valid for the secret of the row. -/
theorem confirmSetupCheck_ok {a : Accounts X} {userID secret : String} {code : Option String}
    {now : Nat} (h : confirmSetupCheck a userID code now = .ok secret) :
    ∃ c, code = some c ∧ loadSecret a userID = .ok secret ∧ X.validate now secret c = true := by
  unfold confirmSetupCheck at h
  split at h
  · exact absurd h (by simp)
  · next c =>
      split at h
      · exact absurd h (by simp)
      · split at h
        · exact absurd h (by simp)
        · next plain hload =>
            split at h
            · next hv =>
                injection h with h
                subst h
                exact ⟨c, rfl, hload, hv⟩
            · exact absurd h (by simp)

end TLSentinel.Users.TOTPHandler
