/-
  TLSentinel.Auth.Handlers
  ────────────────────────
  **WHO ISSUES SESSION TOKENS, AND WHO ACCEPTS THEM.**

  Three handlers issue tokens: Login and LoginTOTP (`internal/auth/handler.go`)
  and the OIDC Callback (`internal/oidc/handler.go`).  Two consumers read them:
  `verifyJWT` (`internal/auth/middleware.go`) and LoginTOTP.  The purpose claim
  keeps a challenge token from passing for a session.

  A token is its claims: what `ValidateToken` returns for a string whose
  signature it accepts.  Signatures cannot be forged, so the strings it accepts
  are the issued ones, before they expire.
-/
import TLSentinel.Users.TOTPHandler
import TLSentinel.Users.Handlers

namespace TLSentinel.Auth

open Foundation Users

variable {X : Externals}

/-! ## §1. Tokens. -/

/-- `jwt.Claims`; an empty purpose is a full session. -/
structure Claims where
  userID : String
  username : String
  role : Role
  purpose : String
  firstName : Option String
  lastName : Option String
  issuedAt : Nat
  expiresAt : Nat
  deriving DecidableEq, Repr

/-- `PurposeTOTPChallenge`. -/
def purposeTOTPChallenge : String := "totp_challenge"

/-- `challengeTTL`, in seconds. -/
def challengeTTL : Nat := 5 * 60

/-- The configuration the handlers use: the lifetime of a session and the claim
that carries the username. -/
structure Config where
  ttl : Nat
  usernameClaim : String
  deriving DecidableEq, Repr

/-- `signToken`, for the fields of a user. -/
def signToken (u : User) (purpose : String) (ttl now : Nat) : Claims where
  userID := u.id
  username := u.username
  role := u.role
  purpose := purpose
  firstName := u.firstName
  lastName := u.lastName
  issuedAt := now
  expiresAt := now + ttl

/-- `IssueToken`. -/
def issueToken (cfg : Config) (u : User) (now : Nat) : Claims := signToken u "" cfg.ttl now

/-- `IssueTOTPChallengeToken`. -/
def issueTOTPChallengeToken (u : User) (now : Nat) : Claims :=
  signToken u purposeTOTPChallenge challengeTTL now

/-- `ValidateToken`, where `issued` are the tokens signed so far. -/
def validateToken (issued : List Claims) (token : Claims) (now : Nat) : Option Claims :=
  if token ∈ issued ∧ now < token.expiresAt then some token else none

/-- `Identity` of a user. -/
structure Identity where
  userID : String
  username : String
  role : Role
  firstName : Option String
  lastName : Option String
  deriving DecidableEq, Repr

/-- `verifyJWT`: challenge tokens are refused. -/
def verifyJWT (issued : List Claims) (token : Claims) (now : Nat) : Option Identity :=
  match validateToken issued token now with
  | none => none
  | some claims =>
      if claims.purpose ≠ "" then none
      else some ⟨claims.userID, claims.username, claims.role, claims.firstName, claims.lastName⟩

/-! ## §2. Password login. -/

/-- `loginRequest`. -/
structure LoginRequest where
  username : String
  password : String
  deriving DecidableEq, Repr

/-- `Handler.Login`: a session token, or a challenge token when TOTP is armed. -/
def login (cfg : Config) (a : Accounts X) (body : Option LoginRequest) (now : Nat) :
    Except HttpError Claims :=
  match body with
  | none => .error ⟨400, "invalid request body"⟩
  | some req =>
      if normalizeUsername req.username = "" ∨ req.password = "" then
        .error ⟨400, "username and password required"⟩
      else
        match a.getUserByUsername (normalizeUsername req.username) with
        | none => .error ⟨401, "invalid credentials"⟩
        | some user =>
            if user.enabled = false then .error ⟨401, "account disabled"⟩
            else if user.provider ≠ .Local then .error ⟨401, "account requires SSO login"⟩
            else
              match user.passwordHash with
              | none => .error ⟨401, "invalid credentials"⟩
              | some hash =>
                  if X.compareHashAndPassword hash req.password then
                    .ok (if user.totpEnabled then issueTOTPChallengeToken user now
                      else issueToken cfg user now)
                  else .error ⟨401, "invalid credentials"⟩

/-- A string presented as a token. -/
inductive Presented where
  | empty
  /-- A string nobody signed. -/
  | unsigned
  | signed (token : Claims)
  deriving DecidableEq, Repr

/-- `ValidateToken` of a presented string. -/
def Presented.validate (issued : List Claims) (now : Nat) : Presented → Option Claims
  | .signed token => validateToken issued token now
  | _ => none

/-- `totpLoginRequest`. -/
structure TOTPLoginRequest where
  challengeToken : Presented
  code : String
  isRecovery : Bool
  deriving DecidableEq, Repr

/-- The verification in the middle of LoginTOTP. -/
def verifyFactor (a : Accounts X) (secret : String) (req : TOTPLoginRequest)
    (rows : List UserTOTPRecoveryCode) (now : Nat) : Accounts X × Bool :=
  if req.isRecovery then Redemption.consumeRecoveryCode a rows req.code now
  else (a, X.validate now secret req.code)

/-- `Handler.LoginTOTP`: the new session token, and the accounts with the recovery
code spent; `rows` is the answer of the listing query. -/
def loginTOTP (cfg : Config) (a : Accounts X) (issued : List Claims)
    (body : Option TOTPLoginRequest) (rows : List UserTOTPRecoveryCode) (now : Nat) :
    Except HttpError (Accounts X × Claims) :=
  match body with
  | none => .error ⟨400, "invalid request body"⟩
  | some req =>
      if req.challengeToken = .empty ∨ req.code = "" then
        .error ⟨400, "challengeToken and code are required"⟩
      else
        match req.challengeToken.validate issued now with
        | none => .error ⟨401, "invalid or expired challenge"⟩
        | some claims =>
            if claims.purpose ≠ purposeTOTPChallenge then
              .error ⟨401, "invalid or expired challenge"⟩
            else
              match a.getUserByID claims.userID with
              | none => .error ⟨401, "invalid or expired challenge"⟩
              | some user =>
                  if user.enabled = false ∨ user.totpEnabled = false then
                    .error ⟨401, "invalid or expired challenge"⟩
                  else
                    -- GetUserTOTPSecret reads the same row
                    match user.totpSecret with
                    | none => .error ⟨401, "invalid or expired challenge"⟩
                    | some encrypted =>
                        match X.decrypt encrypted with
                        | none => .error ⟨500, "failed to decrypt totp secret"⟩
                        | some secret =>
                            match verifyFactor a secret req rows now with
                            | (b, true) => .ok (b, issueToken cfg user now)
                            | (_, false) => .error ⟨401, "invalid code"⟩

/-! ## §3. OIDC login. -/

/-- The claims of an ID token: a value that is no string is `none`. -/
abbrev IDClaims := List (String × Option String)

/-- `stringClaim`: a missing or non-string claim is the empty string. -/
def stringClaim (claims : IDClaims) (key : String) : String :=
  normalizeUsername (((claims.lookup key).getD none).getD "")

/-- `extractUsername`: the first claim with a value, else the subject. -/
def extractUsername (cfg : Config) (claims : IDClaims) (subject : String) : String :=
  let claim := if cfg.usernameClaim = "" then "upn" else cfg.usernameClaim
  (([claim, "preferred_username", "email"].map (stringClaim claims)).find? (· ≠ "")).getD
    (normalizeUsername subject)

/-- What the identity provider answers to the authorization code. -/
inductive ProviderAnswer where
  | exchangeFailed
  | noIDToken
  | invalidIDToken
  | malformedClaims
  /-- A verified ID token. -/
  | verified (claims : IDClaims) (subject : String)
  deriving DecidableEq, Repr

/-- The callback request, and the provider's answer to its code. -/
structure CallbackRequest where
  /-- The value of the state cookie; empty when it is missing. -/
  cookie : String
  state : String
  code : String
  answer : ProviderAnswer
  deriving DecidableEq, Repr

/-- The username a callback asserts once it is verified. -/
def CallbackRequest.asserted (cfg : Config) (req : CallbackRequest) : Option String :=
  match req.answer with
  | .verified claims subject => some (extractUsername cfg claims subject)
  | _ => none

/-- `Handler.Callback`: the session token of the user the identity resolves to. -/
def callback (cfg : Config) (a : Accounts X) (req : CallbackRequest) (now : Nat) :
    Except HttpError Claims :=
  if req.cookie = "" then .error ⟨400, "missing state cookie"⟩
  else if req.state ≠ req.cookie then .error ⟨400, "state mismatch"⟩
  else if req.code = "" then .error ⟨400, "missing code"⟩
  else
    match req.answer with
    | .exchangeFailed => .error ⟨500, "failed to exchange code"⟩
    | .noIDToken => .error ⟨500, "missing id_token in response"⟩
    | .invalidIDToken => .error ⟨401, "invalid id_token"⟩
    | .malformedClaims => .error ⟨500, "failed to parse claims"⟩
    | .verified claims subject =>
        match a.getUserForOIDCLogin (extractUsername cfg claims subject) with
        | none => .error ⟨401, "account not provisioned or disabled"⟩
        | some user => .ok (issueToken cfg user now)

/-! ## §4. What an issued token says. -/

/-- A token that passes was issued, is a full session and names its user. -/
theorem verifyJWT_eq_some {issued : List Claims} {token : Claims} {now : Nat}
    {identity : Identity} (h : verifyJWT issued token now = some identity) :
    token ∈ issued ∧ token.purpose = "" ∧ identity.userID = token.userID := by
  unfold verifyJWT validateToken at h
  split at h
  · exact absurd h (by simp)
  · next claims hclaims =>
      split at hclaims
      · next hvalid =>
          injection hclaims with hclaims
          subst hclaims
          split at h
          · exact absurd h (by simp)
          · next hpurpose =>
              injection h with h
              exact ⟨hvalid.1, not_not.mp hpurpose, h ▸ rfl⟩
      · exact absurd hclaims (by simp)

/-- Login gives a full session only to a user without an armed factor. -/
theorem login_ok {cfg : Config} {a : Accounts X} {body : Option LoginRequest} {now : Nat}
    {c : Claims} (h : login cfg a body now = .ok c) :
    ∃ user ∈ a.users, c.userID = user.id
      ∧ (c.purpose = "" → user.totpEnabled = false) := by
  unfold login at h
  split at h
  · exact absurd h (by simp)
  · split at h
    · exact absurd h (by simp)
    · split at h
      · exact absurd h (by simp)
      · next user huser =>
          have hmem : user ∈ a.users := List.mem_of_find?_eq_some huser
          split at h
          · exact absurd h (by simp)
          · split at h
            · exact absurd h (by simp)
            · split at h
              · exact absurd h (by simp)
              · split at h
                · injection h with h
                  refine ⟨user, hmem, ?_⟩
                  rw [← h]
                  cases htotp : user.totpEnabled with
                  | true => simp [issueTOTPChallengeToken, signToken, purposeTOTPChallenge]
                  | false => simp [issueToken, signToken]
                · exact absurd h (by simp)

/-- A second factor of `user` that is valid in these tables: a current code of the
user's secret, or one of the user's unused recovery codes. -/
def AcceptedFactor (a : Accounts X) (user : User) (req : TOTPLoginRequest) (now : Nat) : Prop :=
  if req.isRecovery then
    ∃ row ∈ a.codes, row.userID = user.id ∧ row.usedAt = none
      ∧ X.compareHashAndPassword row.codeHash (normalizeRecoveryCode X req.code) = true
  else
    ∃ encrypted secret, user.totpSecret = some encrypted ∧ X.decrypt encrypted = some secret
      ∧ X.validate now secret req.code = true

/-- What LoginTOTP verified is a second factor of the user. -/
theorem acceptedFactor_of_verified {a b : Accounts X} {user : User} {req : TOTPLoginRequest}
    {rows : List UserTOTPRecoveryCode} {now : Nat} {encrypted secret : String}
    (hsecret : user.totpSecret = some encrypted) (hdec : X.decrypt encrypted = some secret)
    (hrows : Redemption.Listed a user.id rows)
    (h : verifyFactor a secret req rows now = (b, true)) : AcceptedFactor a user req now := by
  unfold AcceptedFactor
  cases hr : req.isRecovery with
  | false =>
      simp only [verifyFactor, hr, Bool.false_eq_true, if_false, Prod.mk.injEq] at h ⊢
      exact ⟨encrypted, secret, hsecret, hdec, h.2⟩
  | true =>
      simp only [verifyFactor, hr, if_true, Redemption.consumeRecoveryCode] at h ⊢
      cases hm : Redemption.firstMatch X rows req.code with
      | none => simp [hm] at h
      | some row =>
          obtain ⟨hmem, huser, hunused, hmatch⟩ := Redemption.listed_match hrows hm
          exact ⟨row, hmem, huser, hunused, hmatch⟩

/-- LoginTOTP gives a session to the user whose second factor it accepted; the
codes it looked through are those the listing query returned for that user. -/
theorem loginTOTP_ok {cfg : Config} {a b : Accounts X} {issued : List Claims}
    {body : Option TOTPLoginRequest} {rows : List UserTOTPRecoveryCode} {now : Nat} {c : Claims}
    (h : loginTOTP cfg a issued body rows now = .ok (b, c)) :
    ∃ req user, body = some req ∧ a.getUserByID c.userID = some user
      ∧ (Redemption.Listed a c.userID rows → AcceptedFactor a user req now) := by
  unfold loginTOTP at h
  split at h
  · exact absurd h (by simp)
  · next req =>
      split at h
      · exact absurd h (by simp)
      · split at h
        · exact absurd h (by simp)
        · next claims hclaims =>
            split at h
            · exact absurd h (by simp)
            · split at h
              · exact absurd h (by simp)
              · next user huser =>
                  split at h
                  · exact absurd h (by simp)
                  · split at h
                    · exact absurd h (by simp)
                    · next encrypted hsecret =>
                        split at h
                        · exact absurd h (by simp)
                        · next secret hdec =>
                            have hid : user.id = claims.userID := Table.key_of_find? huser
                            split at h
                            · next hverified =>
                                injection h with h
                                obtain ⟨-, rfl⟩ := Prod.mk.inj h
                                refine ⟨req, user, rfl, ?_, fun hrows => ?_⟩
                                · show a.getUserByID user.id = some user
                                  rw [hid]
                                  exact huser
                                · exact acceptedFactor_of_verified hsecret hdec hrows hverified
                            · exact absurd h (by simp)

/-- Callback gives a session to the enabled user with the asserted username. -/
theorem callback_ok {cfg : Config} {a : Accounts X} {req : CallbackRequest} {now : Nat}
    {c : Claims} (h : callback cfg a req now = .ok c) :
    ∃ username user, req.asserted cfg = some username ∧ user ∈ a.users
      ∧ user.enabled = true ∧ X.fold user.username = X.fold username
      ∧ c = issueToken cfg user now := by
  unfold callback at h
  split at h
  · exact absurd h (by simp)
  · split at h
    · exact absurd h (by simp)
    · split at h
      · exact absurd h (by simp)
      · split at h
        · exact absurd h (by simp)
        · exact absurd h (by simp)
        · exact absurd h (by simp)
        · exact absurd h (by simp)
        · next claims subject hanswer =>
            split at h
            · exact absurd h (by simp)
            · next user huser =>
                injection h with h
                have hsel := List.find?_some huser
                simp only [Bool.and_eq_true, decide_eq_true_eq] at hsel
                exact ⟨_, user, by simp [CallbackRequest.asserted, hanswer],
                  List.mem_of_find?_eq_some huser, hsel.2, hsel.1, h.symm⟩

end TLSentinel.Auth
