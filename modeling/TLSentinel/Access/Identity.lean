/-
  TLSentinel.Access.Identity
  ──────────────────────────
  **WHO A BEARER TOKEN STANDS FOR.**

  `internal/permission`, and of `internal/auth` the token formats (`token.go`),
  the identities (`context.go`) and the middleware `Authenticate`.  A bearer
  token is one of three things, told apart by its prefix:

      stx_s_…   a scanner token: the scanner whose `token_hash` it hashes to;
      stx_p_…   an API key: the enabled owner of the key it hashes to, with the
                role that user has at this moment;
      else      a session token: what its claims say, as long as it is valid.

  SHA-256 is a parameter of which nothing is assumed, so every statement is
  about hashes.  The `last_used_at` columns are left out.
-/
import TLSentinel.Auth.Handlers
import TLSentinel.Foundation.Hex
import TLSentinel.Foundation.UniqueColumn
import TLSentinel.Scanners.Assignment

namespace TLSentinel.Access

open Foundation Users
open TLSentinel.Auth (Claims verifyJWT)
open TLSentinel.Scanners (Scanner)

variable {X : Externals}

/-! ## §1. Permissions. -/

/-- The permissions of `internal/permission`. -/
inductive Permission where
  | endpointsView
  | endpointsEdit
  | certsView
  | certsEdit
  | selfAccess
  | scannersView
  | scannersEdit
  | usersView
  | usersEdit
  | usersCredentials
  | apiKeysAdmin
  | groupsView
  | groupsEdit
  | settingsView
  | settingsEdit
  | logsView
  | maintenance
  | tagsView
  | tagsEdit
  | discoveryView
  | discoveryEdit
  /-- `*`. -/
  | wildcard
  deriving DecidableEq, Repr

/-- `RolePermissions`. -/
def rolePermissions : Role → List Permission
  | .admin => [.wildcard]
  | .viewer => [.endpointsView, .certsView, .groupsView, .tagsView, .discoveryView, .selfAccess]
  | .operator =>
      [.endpointsView, .endpointsEdit, .certsView, .scannersView, .usersView, .groupsView,
        .settingsView, .tagsView, .tagsEdit, .logsView, .maintenance, .discoveryView,
        .discoveryEdit, .selfAccess]

/-- `permission.Has`. -/
def has (role : Role) (perm : Permission) : Bool :=
  (rolePermissions role).any (fun p => decide (p = .wildcard) || decide (p = perm))

/-! ## §2. Tokens. -/

/-- `ScannerTokenPrefix`. -/
def scannerTokenPrefix : List Char := ['s', 't', 'x', '_', 's', '_']

/-- `APIKeyPrefix`. -/
def apiKeyPrefix : List Char := ['s', 't', 'x', '_', 'p', '_']

/-- `IsScannerToken`. -/
def isScannerToken (token : List Char) : Bool := scannerTokenPrefix.isPrefixOf token

/-- `IsAPIKey`. -/
def isAPIKey (token : List Char) : Bool := apiKeyPrefix.isPrefixOf token

/-- What the tokens rest on. -/
structure Primitives where
  /-- `sha256.Sum256`, of the bytes of a string. -/
  sha256 : List Char → List UInt8
  /-- The claims of a string that is signed with the server's secret. -/
  parse : List Char → Option Claims

/-- `hex.EncodeToString`, and the verb `%x` of bytes. -/
def hexString (bytes : List UInt8) : List Char := Hex.encode Nat.digitChar bytes

/-- `db.HashAPIKey`. -/
def hashAPIKey (P : Primitives) (raw : List Char) : String :=
  String.ofList (hexString (P.sha256 raw))

/-- `GenerateScannerToken`, for 32 random bytes: the raw token. -/
def generateScannerToken (b : List UInt8) : List Char := scannerTokenPrefix ++ hexString b

/-- `GenerateAPIKey`, for 4 and 32 random bytes: the raw token and the prefix for display. -/
def generateAPIKey (idBytes secretBytes : List UInt8) : List Char × List Char :=
  (apiKeyPrefix ++ hexString idBytes ++ ['_'] ++ hexString secretBytes,
    apiKeyPrefix ++ hexString idBytes)

theorem isScannerToken_generate (b : List UInt8) :
    isScannerToken (generateScannerToken b) = true := by
  simp [isScannerToken, generateScannerToken]

theorem isAPIKey_generate (idBytes secretBytes : List UInt8) :
    isAPIKey (generateAPIKey idBytes secretBytes).1 = true := by
  simp [isAPIKey, generateAPIKey]

/-- No token has both prefixes. -/
theorem not_isAPIKey_of_isScannerToken {token : List Char} (h : isScannerToken token = true) :
    isAPIKey token = false := by
  obtain ⟨rest, rfl⟩ := List.isPrefixOf_iff_prefix.mp h
  rfl

/-! ## §3. The tables that authenticate. -/

/-- A row of `tlsentinel.user_api_keys`. -/
structure UserAPIKey where
  id : String
  userID : String
  name : String
  keyHash : String
  keyPrefix : String
  deriving DecidableEq, Repr

abbrev APIKeyTable := UniqueTable UserAPIKey.id UserAPIKey.keyHash

abbrev ScannerTokens := UniqueTable Scanner.key Scanner.tokenHash

/-- Everything that authentication reads: the accounts, the API keys, the scanners, and the
session tokens signed so far. -/
structure Sys (X : Externals) where
  accounts : Accounts X
  apiKeys : APIKeyTable
  scanners : ScannerTokens
  issued : List Claims

/-! ## §4. Authentication. -/

/-- `Identity`, by its `IdentityKind`. -/
inductive Identity where
  | user (identity : Auth.Identity)
  | scanner (scannerID : String)
  deriving DecidableEq, Repr

/-- The identity of a row of `tlsentinel.users`. -/
def Identity.ofUser (user : User) : Auth.Identity :=
  ⟨user.id, user.username, user.role, user.firstName, user.lastName⟩

/-- `extractBearerToken`. -/
def extractBearerToken (authorization : List Char) : List Char :=
  if ['B', 'e', 'a', 'r', 'e', 'r', ' '].isPrefixOf authorization then authorization.drop 7 else []

/-- `verifyScannerToken`. -/
def verifyScannerToken (P : Primitives) (s : Sys X) (raw : List Char) : Option Identity :=
  (s.scanners.lookup (hashAPIKey P raw)).map (fun t => .scanner t.id)

/-- `verifyAPIKey`. -/
def verifyAPIKey (P : Primitives) (s : Sys X) (raw : List Char) : Option Identity :=
  match s.apiKeys.lookup (hashAPIKey P raw) with
  | none => none
  | some key =>
      match s.accounts.getUserByID key.userID with
      | none => none
      | some user => if user.enabled then some (.user (Identity.ofUser user)) else none

/-- `verifyJWT`, of a string. -/
def verifySession (P : Primitives) (s : Sys X) (raw : List Char) (now : Nat) : Option Identity :=
  match P.parse raw with
  | none => none
  | some claims => (verifyJWT s.issued claims now).map .user

/-- The verification that `Authenticate` picks for a raw token. -/
def verify (P : Primitives) (s : Sys X) (raw : List Char) (now : Nat) : Option Identity :=
  if isScannerToken raw then verifyScannerToken P s raw
  else if isAPIKey raw then verifyAPIKey P s raw
  else verifySession P s raw now

/-- `Authenticate`: the identity that goes into the request's context. -/
def authenticate (P : Primitives) (s : Sys X) (authorization : List Char) (now : Nat) :
    Except HttpError Identity :=
  if extractBearerToken authorization = [] then .error ⟨401, "unauthorized"⟩
  else
    match verify P s (extractBearerToken authorization) now with
    | none => .error ⟨401, "unauthorized"⟩
    | some identity => .ok identity

/-- The Authorization header that presents a token. -/
def bearer (raw : List Char) : List Char := ['B', 'e', 'a', 'r', 'e', 'r', ' '] ++ raw

@[simp] theorem extractBearerToken_bearer (raw : List Char) :
    extractBearerToken (bearer raw) = raw := by
  simp [extractBearerToken, bearer]

/-- **The kinds of tokens do not cross**: who a scanner token identifies is decided by the
scanners alone. -/
theorem verify_scannerToken {P : Primitives} {s : Sys X} {raw : List Char} {now : Nat}
    (h : isScannerToken raw = true) : verify P s raw now = verifyScannerToken P s raw := by
  rw [verify, if_pos h]

/-- And who an API key identifies by the keys and the users. -/
theorem verify_apiKey {P : Primitives} {s : Sys X} {raw : List Char} {now : Nat}
    (h : isAPIKey raw = true) : verify P s raw now = verifyAPIKey P s raw := by
  have hscanner : ¬ isScannerToken raw = true := by
    intro hs
    rw [not_isAPIKey_of_isScannerToken hs] at h
    exact absurd h (by decide)
  rw [verify, if_neg hscanner, if_pos h]

/-- A request that authenticates carries a token that verifies. -/
theorem authenticate_eq_ok {P : Primitives} {s : Sys X} {authorization : List Char} {now : Nat}
    {identity : Identity} :
    authenticate P s authorization now = .ok identity ↔
      extractBearerToken authorization ≠ [] ∧
        verify P s (extractBearerToken authorization) now = some identity := by
  unfold authenticate
  split
  · next h => simp [h]
  · next h =>
      cases verify P s (extractBearerToken authorization) now with
      | none => simp
      | some i => simp [h]

/-- The identity of a valid session token is the one in its claims. -/
theorem verifyJWT_claims {issued : List Claims} {token : Claims} {now : Nat}
    {identity : Auth.Identity} (h : verifyJWT issued token now = some identity) :
    identity = ⟨token.userID, token.username, token.role, token.firstName, token.lastName⟩ := by
  unfold verifyJWT Auth.validateToken at h
  split at h
  · exact absurd h (by simp)
  · next claims hclaims =>
      split at hclaims
      · injection hclaims with hclaims
        subst hclaims
        split at h
        · exact absurd h (by simp)
        · injection h with h
          exact h.symm
      · exact absurd hclaims (by simp)

/-- A user identity comes from a stored, enabled user with this role, or from a session token
that was issued with it. -/
theorem verify_user {P : Primitives} {s : Sys X} {raw : List Char} {now : Nat}
    {identity : Auth.Identity} (h : verify P s raw now = some (.user identity)) :
    (∃ user ∈ s.accounts.users, user.enabled = true ∧ identity = Identity.ofUser user) ∨
      ∃ claims ∈ s.issued, claims.purpose = "" ∧ claims.userID = identity.userID
        ∧ claims.role = identity.role := by
  unfold verify at h
  split at h
  · -- a scanner token is never a user
    unfold verifyScannerToken at h
    cases hl : s.scanners.lookup (hashAPIKey P raw) <;> simp [hl] at h
  · split at h
    · unfold verifyAPIKey at h
      split at h
      · exact absurd h (by simp)
      · next key _ =>
          split at h
          · exact absurd h (by simp)
          · next user huser =>
              split at h
              · next henabled =>
                  simp only [Option.some.injEq, Identity.user.injEq] at h
                  exact .inl ⟨user, Table.mem_of_find? huser, henabled, h.symm⟩
              · exact absurd h (by simp)
    · unfold verifySession at h
      split at h
      · exact absurd h (by simp)
      · next claims _ =>
          obtain ⟨i, hi, heq⟩ := Option.map_eq_some_iff.mp h
          injection heq with heq
          subst heq
          obtain ⟨hmem, hpurpose, _⟩ := Auth.verifyJWT_eq_some hi
          rw [verifyJWT_claims hi]
          exact .inr ⟨claims, hmem, hpurpose, rfl, rfl⟩

/-! ## §5. A small system. -/

/-- An admin. -/
def alice : User :=
  ⟨"u1", "alice", some "hash:a", .Local, true, false, .admin, none, none, none, none, false, none⟩

/-- A viewer. -/
def bob : User :=
  ⟨"u2", "bob", some "hash:b", .Local, true, false, .viewer, none, none, none, none, false, none⟩

/-- A session of Alice's. -/
def aliceSession : Claims := ⟨"u1", "alice", .admin, "", none, none, 0, 1000⟩

/-- A session of Bob's. -/
def bobSession : Claims := ⟨"u2", "bob", .viewer, "", none, none, 0, 1000⟩

/-- A hash to run the model with, and two signed strings. -/
def plainPrimitives : Primitives where
  sha256 := fun raw => raw.map (fun c => UInt8.ofNat c.toNat)
  parse := fun raw =>
    if raw = ['a'] then some aliceSession else if raw = ['b'] then some bobSession else none

/-- Alice and Bob, both logged in. -/
def smallSys : Sys plainExternals where
  accounts := ⟨⟨[alice, bob], by decide⟩, by decide, Table.empty⟩
  apiKeys := .empty
  scanners := .empty
  issued := [aliceSession, bobSession]

theorem bob_authenticates : authenticate plainPrimitives smallSys (bearer ['b']) 5
    = .ok (.user ⟨"u2", "bob", .viewer, none, none⟩) := rfl

end TLSentinel.Access
