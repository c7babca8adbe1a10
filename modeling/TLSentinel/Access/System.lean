/-
  TLSentinel.Access.System
  ────────────────────────
  **THE SERVER AS ITS CALLERS SEE IT.**

  The API key handlers (`internal/apikeys/handler.go`), the writing handlers of
  scanners (`internal/scanners/handler.go`) with their statements, and one
  system of all requests: a request is routed, guarded, and handled with the
  identity that the guards put into its context.  Handlers that write accounts,
  API keys, scanners or session tokens are `Call`s with the inputs they take
  from outside; the others leave this state alone (`reads`).

  UpdateMe writes role and username back as it read them, and other requests
  may come in between, so its UPDATE is a step of its own (`finishUpdateMe`).
  The other requests run one at a time.

  A request comes with the row that the router takes for it, any that fits, so
  the runs include those of every router.  Ids in paths are canonical uuid texts,
  but where `Users.Handlers` has the database read them.
-/
import TLSentinel.Access.Routes
import TLSentinel.Users.LocalCredentials

namespace TLSentinel.Access

open Foundation Foundation.Routing Users
open TLSentinel.Auth (Claims)
open TLSentinel.Scanners (Scanner)

variable {X : Externals}

/-! ## §1. API keys. -/

namespace Sys

/-- `CreateAPIKey`; `id` is generated by the database.  A missing user violates the foreign
key, a stored hash the unique constraint. -/
def createAPIKey (s : Sys X) (id userID name keyHash keyPrefix : String) :
    Except StoreError (Sys X) :=
  if s.accounts.getUserByID userID = none then .error .failed
  else
    match s.apiKeys.insert ⟨id, userID, name, keyHash, keyPrefix⟩ with
    | none => .error .failed
    | some apiKeys => .ok { s with apiKeys := apiKeys }

/-- `DELETE FROM user_api_keys WHERE p`, and the check of the affected rows. -/
def deleteAPIKeys (s : Sys X) (p : UserAPIKey → Bool) : Except StoreError (Sys X) :=
  if s.apiKeys.table.rowsAffected p = 0 then .error .notFound
  else .ok { s with apiKeys := s.apiKeys.delete p }

/-- `DeleteAPIKey`: scoped to the owner. -/
def deleteAPIKey (s : Sys X) (userID keyID : String) : Except StoreError (Sys X) :=
  s.deleteAPIKeys (fun k => decide (k.id = keyID) && decide (k.userID = userID))

/-- `DeleteAPIKeyAdmin`. -/
def deleteAPIKeyAdmin (s : Sys X) (keyID : String) : Except StoreError (Sys X) :=
  s.deleteAPIKeys (fun k => decide (k.id = keyID))

/-- The keys of the deleted user that the text names go with it (ON DELETE CASCADE). -/
def withoutKeysOf (s : Sys X) (userID : String) : Sys X :=
  { s with apiKeys := s.apiKeys.delete (fun k => decide (X.uuid userID = some k.userID)) }

end Sys

/-- The answer of a failed API key deletion. -/
def apiKeyResponse {α : Type} (failedText : String) : Except StoreError α → Except HttpError α
  | .ok a => .ok a
  | .error .notFound => .error ⟨404, "not found"⟩
  | .error .failed => .error ⟨500, failedText⟩

/-- `apikeys.Handler.Create`: the raw token is answered, its hash is stored.  A body that does
not decode is `none`; `bytes` are the random bytes. -/
def apikeysCreate (P : Primitives) (s : Sys X) (userID : String) (name : Option String)
    (bytes : List UInt8 × List UInt8) (id : String) : Except HttpError (Sys X × List Char) :=
  match name with
  | none => .error ⟨400, "name is required"⟩
  | some name =>
      if name = "" then .error ⟨400, "name is required"⟩
      else
        let raw := generateAPIKey bytes.1 bytes.2
        match s.createAPIKey id userID name (hashAPIKey P raw.1) (String.ofList raw.2) with
        | .error _ => .error ⟨500, "failed to create api key"⟩
        | .ok t => .ok (t, raw.1)

/-- An accepted Create stored a key of its caller under the hash of the token it answered. -/
theorem apikeysCreate_ok {P : Primitives} {s t : Sys X} {userID id : String}
    {name : Option String} {bytes : List UInt8 × List UInt8} {raw : List Char}
    (h : apikeysCreate P s userID name bytes id = .ok (t, raw)) :
    ∃ key keys, key.userID = userID ∧ key.keyHash = hashAPIKey P raw ∧ key.id = id
      ∧ raw = (generateAPIKey bytes.1 bytes.2).1
      ∧ (∃ user, s.accounts.getUserByID userID = some user)
      ∧ s.apiKeys.insert key = some keys ∧ t = { s with apiKeys := keys } := by
  unfold apikeysCreate at h
  split at h
  · exact absurd h (by simp)
  · next name =>
      split at h
      · exact absurd h (by simp)
      · simp only at h
        split at h
        · exact absurd h (by simp)
        · next t' ht =>
            simp only [Except.ok.injEq, Prod.mk.injEq] at h
            obtain ⟨rfl, rfl⟩ := h
            unfold Sys.createAPIKey at ht
            split at ht
            · exact absurd ht (by simp)
            · next huser =>
                split at ht
                · exact absurd ht (by simp)
                · next keys hkeys =>
                    injection ht with ht
                    exact ⟨_, keys, rfl, rfl, rfl, rfl, Option.ne_none_iff_exists'.mp huser,
                      hkeys, ht.symm⟩

/-- `apikeys.Handler.Delete`. -/
def apikeysDelete (s : Sys X) (userID keyID : String) : Except HttpError (Sys X) :=
  apiKeyResponse "failed to delete api key" (s.deleteAPIKey userID keyID)

/-- `apikeys.Handler.DeleteAdmin`. -/
def apikeysDeleteAdmin (s : Sys X) (keyID : String) : Except HttpError (Sys X) :=
  apiKeyResponse "failed to revoke api key" (s.deleteAPIKeyAdmin keyID)

/-! ## §2. Scanners. -/

/-- `createScannerTokenRequest` and `updateScannerTokenRequest`. -/
structure ScannerRequest where
  name : String
  scanCronExpression : String
  scanConcurrency : Int
  deriving DecidableEq, Repr

/-- The defaults of Create and Update. -/
def ScannerRequest.withDefaults (req : ScannerRequest) : ScannerRequest :=
  { req with
    scanCronExpression :=
      if req.scanCronExpression = "" then "0 * * * *" else req.scanCronExpression
    scanConcurrency := if req.scanConcurrency ≤ 0 then 5 else req.scanConcurrency }

/-- `patchScannerTokenRequest`. -/
structure PatchScannerRequest where
  name : Option String
  scanCronExpression : Option String
  scanConcurrency : Option Int
  deriving DecidableEq, Repr

/-- How the scanner handlers answer a failed store call. -/
def scannerResponse {α : Type} (failedText : String) : Except StoreError α → Except HttpError α
  | .ok a => .ok a
  | .error .notFound => .error ⟨404, "scanner token not found"⟩
  | .error .failed => .error ⟨500, failedText⟩

namespace Sys

/-- `UPDATE scanners SET f WHERE id = ?` of columns other than id and token. -/
def updateScanners (s : Sys X) (id : String) (f : Scanner → Scanner)
    (hf : ∀ r, (f r).key = r.key) (hhash : ∀ r, (f r).tokenHash = r.tokenHash) :
    Except StoreError (Sys X) :=
  if s.scanners.table.rowsAffected (fun r => r.key = id) = 0 then .error .notFound
  else .ok { s with scanners := s.scanners.modify (fun r => decide (r.key = id)) f hf hhash }

/-- `InsertScannerToken`. -/
def insertScannerToken (s : Sys X) (id tokenHash : String) (req : ScannerRequest) :
    Except StoreError (Sys X) :=
  match s.scanners.insert (Scanners.newScanner id req.name tokenHash req.scanCronExpression
      req.scanConcurrency) with
  | none => .error .failed
  | some scanners => .ok { s with scanners := scanners }

/-- `RotateScannerTokenHash`; a hash that another scanner has violates the unique constraint. -/
def rotateScannerTokenHash (s : Sys X) (id tokenHash : String) : Except StoreError (Sys X) :=
  match s.scanners.set (fun r => decide (r.key = id)) (fun r => { r with tokenHash := tokenHash })
      (fun _ => rfl) with
  | none => .error .failed
  | some scanners =>
      if s.scanners.table.rowsAffected (fun r => r.key = id) = 0 then .error .notFound
      else .ok { s with scanners := scanners }

/-- `UpdateScannerToken`. -/
def updateScannerToken (s : Sys X) (id : String) (req : ScannerRequest) :
    Except StoreError (Sys X) :=
  s.updateScanners id
    (fun r => { r with
      name := req.name
      scanCronExpression := req.scanCronExpression
      scanConcurrency := req.scanConcurrency })
    (fun _ => rfl) (fun _ => rfl)

/-- `SetDefaultScannerToken`: the flags of all others are cleared first. -/
def setDefaultScannerToken (s : Sys X) (id : String) : Except StoreError (Sys X) :=
  { s with
    scanners := s.scanners.modify (fun r => r.isDefault) (Scanner.withDefault false)
      (fun _ => rfl) (fun _ => rfl) }.updateScanners id (Scanner.withDefault true)
        (fun _ => rfl) (fun _ => rfl)

/-- `DeleteScannerToken`. -/
def deleteScannerToken (s : Sys X) (id : String) : Except StoreError (Sys X) :=
  if s.scanners.table.rowsAffected (fun r => r.key = id) = 0 then .error .notFound
  else .ok { s with scanners := s.scanners.delete (fun r => decide (r.key = id)) }

end Sys

/-- `scanners.Handler.Create`: the raw token is answered, its hash is stored. -/
def scannersCreate (P : Primitives) (s : Sys X) (body : Option ScannerRequest)
    (bytes : List UInt8) (id : String) : Except HttpError (Sys X × List Char) :=
  match body with
  | none => .error ⟨400, "invalid request body"⟩
  | some req =>
      if req.name = "" then .error ⟨400, "name is required"⟩
      else
        let raw := generateScannerToken bytes
        match s.insertScannerToken id (hashAPIKey P raw) req.withDefaults with
        | .error _ => .error ⟨500, "failed to create scanner token"⟩
        | .ok t => .ok (t, raw)

/-- `scanners.Handler.Update`. -/
def scannersUpdate (s : Sys X) (id : String) (body : Option ScannerRequest) :
    Except HttpError (Sys X) :=
  match body with
  | none => .error ⟨400, "invalid request body"⟩
  | some req =>
      if req.name = "" then .error ⟨400, "name is required"⟩
      else
        scannerResponse "failed to update scanner token" (s.updateScannerToken id req.withDefaults)

/-- `scanners.Handler.Patch`: an omitted field keeps its value. -/
def scannersPatch (s : Sys X) (id : String) (body : Option PatchScannerRequest) :
    Except HttpError (Sys X) :=
  match s.scanners.find? id with
  | none => .error ⟨404, "scanner token not found"⟩
  | some current =>
      match body with
      | none => .error ⟨400, "invalid request body"⟩
      | some req =>
          if req.name = some "" then .error ⟨400, "name must not be empty"⟩
          else if req.scanCronExpression = some "" then
            .error ⟨400, "scanCronExpression must not be empty"⟩
          else if (req.scanConcurrency.getD 1) ≤ 0 then
            .error ⟨400, "scanConcurrency must be positive"⟩
          else
            scannerResponse "failed to patch scanner token" (s.updateScannerToken id
              ⟨req.name.getD current.name, req.scanCronExpression.getD current.scanCronExpression,
                req.scanConcurrency.getD current.scanConcurrency⟩)

/-- `scanners.Handler.RegenerateToken`: the new raw token is answered. -/
def scannersRegenerateToken (P : Primitives) (s : Sys X) (id : String) (bytes : List UInt8) :
    Except HttpError (Sys X × List Char) :=
  match s.scanners.find? id with
  | none => .error ⟨404, "scanner token not found"⟩
  | some _ =>
      let raw := generateScannerToken bytes
      match scannerResponse "failed to rotate scanner token"
          (s.rotateScannerTokenHash id (hashAPIKey P raw)) with
      | .error e => .error e
      | .ok t => .ok (t, raw)

/-- `scanners.Handler.SetDefault`. -/
def scannersSetDefault (s : Sys X) (id : String) : Except HttpError (Sys X) :=
  scannerResponse "failed to set default scanner token" (s.setDefaultScannerToken id)

/-- `scanners.Handler.Delete`. -/
def scannersDelete (s : Sys X) (id : String) : Except HttpError (Sys X) :=
  scannerResponse "failed to delete scanner token" (s.deleteScannerToken id)

/-! ## §3. Requests. -/

/-- What a handler takes from outside: bodies, hashes, random bytes, generated ids, and the
answers of listing queries. -/
inductive Call where
  | login (body : Option Auth.LoginRequest)
  | loginTOTP (body : Option Auth.TOTPLoginRequest) (rows : List UserTOTPRecoveryCode)
  | callback (req : Auth.CallbackRequest)
  | usersCreate (body : Option CreateUserRequest) (hash : Option String) (id : String)
  | usersUpdate (body : Option UpdateUserRequest)
  | usersDelete
  | usersSetEnabled (body : Option SetEnabledRequest)
  | usersChangePassword (body : Option ChangePasswordRequest) (hash : Option String)
  | totpAdminReset
  | updateMe (body : Option UpdateMeRequest)
  | changeMyPassword (body : Option ChangeMyPasswordRequest) (hash : Option String)
  | beginSetup (encrypted : String)
  | confirmSetup (code : Option String) (hashes ids : List String)
  | disable (body : Option TOTPHandler.DisableRequest) (rows : List UserTOTPRecoveryCode)
  | regenerateRecoveryCodes (code : Option String) (hashes ids : List String)
  | apikeysCreate (name : Option String) (bytes : List UInt8 × List UInt8) (id : String)
  | apikeysDelete
  | apikeysDeleteAdmin
  | scannersCreate (body : Option ScannerRequest) (bytes : List UInt8) (id : String)
  | scannersUpdate (body : Option ScannerRequest)
  | scannersPatch (body : Option PatchScannerRequest)
  | scannersDelete
  | scannersSetDefault
  | scannersRegenerateToken (bytes : List UInt8)
  /-- A handler that writes none of this. -/
  | reads (h : Handler)

/-- The handler that is called. -/
def Call.handler : Call → Handler
  | .login _ => .authLogin
  | .loginTOTP _ _ => .authLoginTOTP
  | .callback _ => .oidcCallback
  | .usersCreate _ _ _ => .usersCreate
  | .usersUpdate _ => .usersUpdate
  | .usersDelete => .usersDelete
  | .usersSetEnabled _ => .usersSetEnabled
  | .usersChangePassword _ _ => .usersChangePassword
  | .totpAdminReset => .totpAdminReset
  | .updateMe _ => .usersUpdateMe
  | .changeMyPassword _ _ => .usersChangeMyPassword
  | .beginSetup _ => .totpBeginSetup
  | .confirmSetup _ _ _ => .totpConfirmSetup
  | .disable _ _ => .totpDisable
  | .regenerateRecoveryCodes _ _ _ => .totpRegenerateRecoveryCodes
  | .apikeysCreate _ _ _ => .apikeysCreate
  | .apikeysDelete => .apikeysDelete
  | .apikeysDeleteAdmin => .apikeysDeleteAdmin
  | .scannersCreate _ _ _ => .scannersCreate
  | .scannersUpdate _ => .scannersUpdate
  | .scannersPatch _ => .scannersPatch
  | .scannersDelete => .scannersDelete
  | .scannersSetDefault => .scannersSetDefault
  | .scannersRegenerateToken _ => .scannersRegenerateToken
  | .reads h => h

/-- The handlers that write accounts, API keys, scanners or session tokens. -/
def writers : List Handler :=
  [.authLogin, .authLoginTOTP, .oidcCallback, .usersCreate, .usersUpdate, .usersDelete,
    .usersSetEnabled, .usersChangePassword, .totpAdminReset, .usersUpdateMe,
    .usersChangeMyPassword, .totpBeginSetup, .totpConfirmSetup, .totpDisable,
    .totpRegenerateRecoveryCodes, .apikeysCreate, .apikeysDelete, .apikeysDeleteAdmin,
    .scannersCreate, .scannersUpdate, .scannersPatch, .scannersDelete, .scannersSetDefault,
    .scannersRegenerateToken]

/-- The server: its tables and tokens, and the UpdateMe requests that have read the caller's
row and not yet written it. -/
structure Server (X : Externals) where
  sys : Sys X
  editing : List (String × User × UpdateMeRequest)

/-- `identity.UserID`, which is empty for a scanner and where no identity is set. -/
def callerID : Option Identity → String
  | some (.user u) => u.userID
  | _ => ""

/-- `chi.URLParam`. -/
def urlParam (ps : Params) (name : String) : String := (ps.lookup name).getD ""

/-- The answers of listing queries that a call brings with it are answers. -/
def Call.Answered (a : Accounts X) (caller : String) : Call → Prop
  | .disable _ rows => Redemption.Listed a caller rows
  | .loginTOTP (some req) rows =>
      match req.challengeToken with
      | .signed token => Redemption.Listed a token.userID rows
      | _ => True
  | .reads h => h ∉ writers
  | _ => True

instance (a : Accounts X) (caller : String) (c : Call) : Decidable (c.Answered a caller) := by
  unfold Call.Answered
  split
  · infer_instance
  · split <;> infer_instance
  · infer_instance
  · infer_instance

/-- The state after a request that either writes or is answered with an error. -/
def orSame (s : Sys X) : Except HttpError (Sys X) → Sys X
  | .ok t => t
  | .error _ => s

/-- The part of an answer that is kept was part of an answer. -/
theorem except_map_eq_ok {α β : Type*} {f : α → β} {e : Except HttpError α} {b : β}
    (h : e.map f = .ok b) : ∃ a, e = .ok a ∧ f a = b := by
  cases e with
  | error _ => exact absurd h (by simp [Except.map])
  | ok a =>
      simp only [Except.map, Except.ok.injEq] at h
      exact ⟨a, rfl, h⟩

/-- With the accounts that a handler left. -/
def Sys.withAccounts (s : Sys X) (a : Accounts X) : Sys X := { s with accounts := a }

/-- With a session token that a handler signed. -/
def Sys.withToken (s : Sys X) : Except HttpError Claims → Sys X
  | .ok token => { s with issued := token :: s.issued }
  | .error _ => s

/-- The tables and tokens after a handler ran, called by `caller` at `now`. -/
def perform (P : Primitives) (cfg : Auth.Config) (s : Sys X) (caller : String) (ps : Params)
    (now : Nat) : Call → Sys X
  | .login body => s.withToken (Auth.login cfg s.accounts body now)
  | .loginTOTP body rows =>
      match Auth.loginTOTP cfg s.accounts s.issued body rows now with
      | .ok (a, token) => (s.withAccounts a).withToken (.ok token)
      | .error _ => s
  | .callback req => s.withToken (Auth.callback cfg s.accounts req now)
  | .usersCreate body hash id =>
      s.withAccounts (LocalCredentials.orUnchanged s.accounts (create s.accounts body hash id))
  | .usersUpdate body =>
      s.withAccounts (LocalCredentials.orUnchanged s.accounts
        (update s.accounts (urlParam ps "userID") body))
  | .usersDelete =>
      match Users.delete s.accounts caller (urlParam ps "userID") with
      | .ok a => (s.withAccounts a).withoutKeysOf (urlParam ps "userID")
      | .error _ => s
  | .usersSetEnabled body =>
      s.withAccounts (LocalCredentials.orUnchanged s.accounts
        (setEnabled s.accounts caller (urlParam ps "userID") body))
  | .usersChangePassword body hash =>
      s.withAccounts (LocalCredentials.orUnchanged s.accounts
        (changePassword s.accounts (urlParam ps "userID") body hash))
  | .totpAdminReset =>
      s.withAccounts (LocalCredentials.orUnchanged s.accounts
        (TOTPHandler.adminReset s.accounts (urlParam ps "userID")))
  | .changeMyPassword body hash =>
      s.withAccounts (LocalCredentials.orUnchanged s.accounts
        (changeMyPassword s.accounts caller body hash))
  | .beginSetup encrypted =>
      s.withAccounts (LocalCredentials.orUnchanged s.accounts
        (TOTPHandler.beginSetup s.accounts caller encrypted))
  | .confirmSetup code hashes ids =>
      s.withAccounts (TOTPHandler.confirmSetup s.accounts caller code now hashes ids).1
  | .disable body rows =>
      s.withAccounts (TOTPHandler.disable s.accounts caller body rows now).1
  | .regenerateRecoveryCodes code hashes ids =>
      s.withAccounts (LocalCredentials.orUnchanged s.accounts
        (TOTPHandler.regenerateRecoveryCodes s.accounts caller code now hashes ids))
  | .apikeysCreate name bytes id =>
      orSame s ((apikeysCreate P s caller name bytes id).map Prod.fst)
  | .apikeysDelete => orSame s (apikeysDelete s caller (urlParam ps "id"))
  | .apikeysDeleteAdmin => orSame s (apikeysDeleteAdmin s (urlParam ps "id"))
  | .scannersCreate body bytes id =>
      orSame s ((scannersCreate P s body bytes id).map Prod.fst)
  | .scannersUpdate body => orSame s (scannersUpdate s (urlParam ps "scannerID") body)
  | .scannersPatch body => orSame s (scannersPatch s (urlParam ps "scannerID") body)
  | .scannersDelete => orSame s (scannersDelete s (urlParam ps "scannerID"))
  | .scannersSetDefault => orSame s (scannersSetDefault s (urlParam ps "scannerID"))
  | .scannersRegenerateToken bytes =>
      orSame s ((scannersRegenerateToken P s (urlParam ps "scannerID") bytes).map Prod.fst)
  -- UpdateMe has only read so far
  | .updateMe _ => s
  | .reads _ => s

/-- The UpdateMe requests that are under way after a handler ran. -/
def begun (s : Sys X) (caller : String) : Call → List (String × User × UpdateMeRequest)
  | .updateMe body =>
      match updateMeCheck s.accounts caller body with
      | .ok (current, req) => [(caller, current, req)]
      | .error _ => []
  | _ => []

/-- A request. -/
structure Request where
  method : Method
  path : List String
  /-- The Authorization header. -/
  authorization : List Char
  now : Nat
  call : Call
  /-- The route that the router takes. -/
  row : Entry Method Guard Handler

/-- What can happen next. -/
inductive Action where
  | request (r : Request)
  /-- An UpdateMe under way runs its UPDATE. -/
  | finishUpdateMe (i : Nat)

/-- Routing and guards: the path parameters and the identity that the handler runs with, or
the error of a guard.  No router takes a row that does not fit. -/
def dispatch (oidc : Bool) (P : Primitives) (s : Sys X) (r : Request) :
    Option (Except HttpError (Params × Option Identity)) :=
  if r.row ∈ tableOf (registerRoutes oidc) ∧ r.row.handler = r.call.handler
      ∧ Accepts r.row.method r.method then
    match r.row.pattern.matchPrefix r.path with
    | none => none
    | some (ps, left) =>
        if Finished left then
          match runGuards (check P s r.authorization r.now) r.row.guards none with
          | .ok ctx => some (.ok (ps, ctx))
          | .error e => some (.error e)
        else none
  else none

/-- One step of the server. -/
def step (oidc : Bool) (P : Primitives) (cfg : Auth.Config) (s : Server X) :
    Action → Option (Server X)
  | .request r =>
      match dispatch oidc P s.sys r with
      | none => none
      | some (.error _) => some s
      | some (.ok (ps, ctx)) =>
          if r.call.Answered s.sys.accounts (callerID ctx) then
            some ⟨perform P cfg s.sys (callerID ctx) ps r.now r.call,
              s.editing ++ begun s.sys (callerID ctx) r.call⟩
          else none
  | .finishUpdateMe i =>
      match s.editing[i]? with
      | none => none
      | some (userID, current, req) =>
          some ⟨s.sys.withAccounts (LocalCredentials.orUnchanged s.sys.accounts
              (updateMeWrite s.sys.accounts userID current req)), s.editing.eraseIdx i⟩

/-! ## §4. What a step does. -/

/-- The handler of a dispatched request runs with what the router and the guards give it. -/
theorem handled_of_dispatch {oidc : Bool} {P : Primitives} {s : Sys X} {r : Request}
    {ps : Params} {ctx : Option Identity} (h : dispatch oidc P s r = some (.ok (ps, ctx))) :
    Handled oidc P s r.method r.path r.authorization r.now r.call.handler ps ctx := by
  unfold dispatch at h
  split at h
  · next hrow =>
      obtain ⟨hmem, hh, hm⟩ := hrow
      split at h
      · exact absurd h (by simp)
      · next qs left hp =>
          split at h
          · next hleft =>
              split at h
              · next ctx' hgs =>
                  simp only [Option.some.injEq, Except.ok.injEq, Prod.mk.injEq] at h
                  obtain ⟨rfl, rfl⟩ := h
                  exact served_iff.mpr ⟨r.row, hmem, hh, hm, ⟨left, hp, hleft⟩, hgs⟩
              · exact absurd h (by simp)
          · exact absurd h (by simp)
  · exact absurd h (by simp)

/-- **Everything a step can do.** -/
theorem step_cases {oidc : Bool} {P : Primitives} {cfg : Auth.Config} {s t : Server X}
    {a : Action} (h : step oidc P cfg s a = some t) :
    (∃ r e, a = .request r ∧ dispatch oidc P s.sys r = some (.error e) ∧ t = s)
    ∨ (∃ r ps ctx, a = .request r ∧ dispatch oidc P s.sys r = some (.ok (ps, ctx))
        ∧ r.call.Answered s.sys.accounts (callerID ctx)
        ∧ t = ⟨perform P cfg s.sys (callerID ctx) ps r.now r.call,
            s.editing ++ begun s.sys (callerID ctx) r.call⟩)
    ∨ ∃ i userID current req, a = .finishUpdateMe i ∧ s.editing[i]? = some (userID, current, req)
        ∧ t = ⟨s.sys.withAccounts (LocalCredentials.orUnchanged s.sys.accounts
            (updateMeWrite s.sys.accounts userID current req)), s.editing.eraseIdx i⟩ := by
  cases a with
  | request r =>
      simp only [step] at h
      split at h
      · exact absurd h (by simp)
      · next e hdispatch =>
          injection h with h
          exact .inl ⟨r, e, rfl, hdispatch, h.symm⟩
      · next ps ctx hdispatch =>
          split at h
          · next hanswered =>
              injection h with h
              exact .inr (.inl ⟨r, ps, ctx, rfl, hdispatch, hanswered, h.symm⟩)
          · exact absurd h (by simp)
  | finishUpdateMe i =>
      simp only [step] at h
      split at h
      · exact absurd h (by simp)
      · next userID current req hi =>
          injection h with h
          exact .inr (.inr ⟨i, userID, current, req, rfl, hi, h.symm⟩)

/-! ## §5. A small server. -/

/-- Nobody is editing. -/
def smallServer : Server plainExternals := ⟨smallSys, []⟩

/-- Bob creates an API key. -/
def bobCreatesKey : Request where
  method := .post
  path := ["api", "v1", "me", "api-keys"]
  authorization := bearer ['b']
  now := 5
  call := .apikeysCreate (some "laptop") ([1], [2]) "k1"
  row := ⟨some .post, [.lit "api", .lit "v1", .lit "me", .lit "api-keys"],
    [.authenticate, .requirePermission .selfAccess], .apikeysCreate⟩

/-- Alice creates a scanner. -/
def aliceCreatesScanner : Request where
  method := .post
  path := ["api", "v1", "scanners"]
  authorization := bearer ['a']
  now := 5
  call := .scannersCreate (some ⟨"dmz", "", 0⟩) [7] "s1"
  row := ⟨some .post, [.lit "api", .lit "v1", .lit "scanners"],
    [.authenticate, .requirePermission .scannersEdit], .scannersCreate⟩

example : ((step true plainPrimitives ⟨60, ""⟩ smallServer (.request bobCreatesKey)).map
    (fun s => s.sys.apiKeys.table.rows.length)) = some 1 := rfl

end TLSentinel.Access
