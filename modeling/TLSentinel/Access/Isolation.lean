/-
  TLSentinel.Access.Isolation
  ───────────────────────────
  **NOBODY BUT A USER OR AN ADMIN TOUCHES A USER'S ACCOUNT.**

  A user's account is its row, its recovery codes, its API keys, its session
  tokens and its UpdateMe requests under way (`accountOf`).  Over any run of the
  server, UpdateMe interleaved:

      `account_isolated`    an account changes only through requests that
                            authenticate as that user or as an admin, and
                            through logins as that user; so nobody else gains a
                            token that stands for the user, or loses one;
      `admins_within`       while no admin acts, nobody becomes an admin, and no
                            token says so.
-/
import TLSentinel.Access.System

namespace TLSentinel.Access

open Foundation Foundation.Routing Users
open TLSentinel.Auth (Claims verifyJWT)

variable {X : Externals}

/-! ## §1. Statements about other users. -/

/-- A TOTP handler that stored something. -/
theorem orFail_eq_ok {α : Type} {failedText : String} {e : Except StoreError α} {b : α}
    (h : TOTPHandler.orFail failedText e = .ok b) : e = .ok b := by
  cases e with
  | ok _ => simpa [TOTPHandler.orFail] using h
  | error _ => exact absurd h (by simp [TOTPHandler.orFail])

/-- A string that validates is the signed string of its claims. -/
theorem signed_of_validate {issued : List Claims} {now : Nat} {p : Auth.Presented}
    {claims : Claims} (h : p.validate issued now = some claims) : p = .signed claims := by
  cases p with
  | empty => exact absurd h (by simp [Auth.Presented.validate])
  | unsigned => exact absurd h (by simp [Auth.Presented.validate])
  | signed token =>
      simp only [Auth.Presented.validate, Auth.validateToken] at h
      split at h
      · injection h with h
        rw [h]
      · exact absurd h (by simp)

/-- What an accepted LoginTOTP saw: a signed challenge of the user that the new token names. -/
theorem loginTOTP_cases {cfg : Auth.Config} {a b : Accounts X} {issued : List Claims}
    {body : Option Auth.TOTPLoginRequest} {rows : List UserTOTPRecoveryCode} {now : Nat}
    {token : Claims} (h : Auth.loginTOTP cfg a issued body rows now = .ok (b, token)) :
    ∃ req challenge user secret, body = some req ∧ req.challengeToken = .signed challenge
      ∧ a.getUserByID challenge.userID = some user ∧ token = Auth.issueToken cfg user now
      ∧ Auth.verifyFactor a secret req rows now = (b, true) := by
  unfold Auth.loginTOTP at h
  split at h
  · exact absurd h (by simp)
  · next req =>
      split at h
      · exact absurd h (by simp)
      · split at h
        · exact absurd h (by simp)
        · next claims hclaims =>
            split at h
            · exact absurd h (by simp)
            · split at h
              · exact absurd h (by simp)
              · next user huser =>
                  split at h
                  · exact absurd h (by simp)
                  · split at h
                    · exact absurd h (by simp)
                    · split at h
                      · exact absurd h (by simp)
                      · next secret _ =>
                          split at h
                          · next b' hb =>
                              simp only [Except.ok.injEq, Prod.mk.injEq] at h
                              obtain ⟨rfl, rfl⟩ := h
                              exact ⟨req, claims, user, secret, rfl, signed_of_validate hclaims,
                                huser, rfl, hb⟩
                          · exact absurd h (by simp)

/-- The row and the recovery codes of `v` are the same. -/
structure SameUser (v : String) (a b : Accounts X) : Prop where
  row : b.users.find? v = a.users.find? v
  codes : b.codes.rows.filter (fun c => decide (c.userID = v))
    = a.codes.rows.filter (fun c => decide (c.userID = v))

theorem SameUser.refl (v : String) (a : Accounts X) : SameUser v a a := ⟨rfl, rfl⟩

theorem SameUser.trans {v : String} {a b c : Accounts X} (h : SameUser v a b)
    (h' : SameUser v b c) : SameUser v a c :=
  ⟨h'.row.trans h.row, h'.codes.trans h.codes⟩

/-- An UPDATE of another user. -/
theorem SameUser.updateUsers {v : String} {a b : Accounts X} {id : String} {f : User → User}
    {hf : ∀ u, (f u).id = u.id} (h : a.updateUsers id f hf = .ok b) (hv : id ≠ v) :
    SameUser v a b := by
  refine ⟨?_, by rw [(Accounts.updateUsers_cases h).2.2]⟩
  rw [Accounts.find?_updateUsers h]
  cases hrow : a.users.find? v with
  | none => rfl
  | some u =>
      have hid : u.id ≠ id := fun heq => hv (heq.symm.trans (Table.key_of_find? hrow))
      simp [hid]

/-- What a user does to its own account: others stay the same, and nobody gets another role. -/
structure OwnChange (id : String) (a b : Accounts X) : Prop where
  others : ∀ v, id ≠ v → SameUser v a b
  roles : ∀ u ∈ b.users, ∃ w ∈ a.users, w.id = u.id ∧ w.role = u.role

namespace OwnChange

variable {id : String} {a b c : Accounts X}

theorem refl (id : String) (a : Accounts X) : OwnChange id a a :=
  ⟨fun v _ => .refl v a, fun u hu => ⟨u, hu, rfl, rfl⟩⟩

theorem trans (h : OwnChange id a b) (h' : OwnChange id b c) : OwnChange id a c := by
  refine ⟨fun v hv => (h.others v hv).trans (h'.others v hv), fun u hu => ?_⟩
  obtain ⟨w, hw, hid, hrole⟩ := h'.roles u hu
  obtain ⟨x, hx, hid', hrole'⟩ := h.roles w hw
  exact ⟨x, hx, hid'.trans hid, hrole'.trans hrole⟩

/-- An UPDATE that does not set the role. -/
theorem updateUsers {f : User → User} {hf : ∀ u, (f u).id = u.id}
    (h : a.updateUsers id f hf = .ok b) (hrole : ∀ u, (f u).role = u.role) :
    OwnChange id a b := by
  refine ⟨fun v hv => .updateUsers h hv, fun u hu => ?_⟩
  rw [(Accounts.updateUsers_cases h).2.1] at hu
  obtain ⟨w, hw, rfl⟩ := Table.mem_update.mp hu
  refine ⟨w, hw, ?_⟩
  split
  · exact ⟨(hf w).symm, (hrole w).symm⟩
  · exact ⟨rfl, rfl⟩

/-- A change of the user's recovery codes. -/
theorem codes (husers : b.users = a.users)
    (hcodes : ∀ v, id ≠ v → b.codes.rows.filter (fun c => decide (c.userID = v))
      = a.codes.rows.filter (fun c => decide (c.userID = v))) : OwnChange id a b := by
  refine ⟨fun v hv => ⟨by rw [husers], hcodes v hv⟩, fun u hu => ?_⟩
  rw [husers] at hu
  exact ⟨u, hu, rfl, rfl⟩

/-- Deleting codes of another user. -/
theorem filter_deleteCodes {v : String} {t : Table UserTOTPRecoveryCode.id} (hv : id ≠ v) :
    (t.delete (fun c => decide (c.userID = id))).rows.filter (fun c => decide (c.userID = v))
      = t.rows.filter (fun c => decide (c.userID = v)) := by
  refine Table.filter_delete fun c _ hc => ?_
  rw [of_decide_eq_true hc]
  exact decide_eq_false hv

/-- Inserting codes of another user. -/
theorem filter_insertCodes {v : String} {t u : Table UserTOTPRecoveryCode.id}
    {rows : List UserTOTPRecoveryCode} (hrows : ∀ r ∈ rows, r.userID ≠ v)
    (h : Accounts.insertCodes t rows = some u) :
    u.rows.filter (fun c => decide (c.userID = v))
      = t.rows.filter (fun c => decide (c.userID = v)) := by
  induction rows generalizing t with
  | nil =>
      injection h with h
      rw [h]
  | cons r rows ih =>
      unfold Accounts.insertCodes at h
      split at h
      · exact absurd h (by simp)
      · next w hw =>
          rw [ih (fun r hr => hrows r (List.mem_cons_of_mem _ hr)) h]
          exact Table.filter_insert hw (decide_eq_false (hrows r List.mem_cons_self))

/-- The generated codes are the user's. -/
theorem userID_of_mem_zipWith {hashes ids : List String} {r : UserTOTPRecoveryCode}
    (hr : r ∈ hashes.zipWith (fun hash i => UserTOTPRecoveryCode.mk i id hash none) ids) :
    r.userID = id := by
  induction hashes generalizing ids with
  | nil => exact absurd hr (by simp)
  | cons hash hashes ih =>
      cases ids with
      | nil => exact absurd hr (by simp)
      | cons i ids =>
          rcases List.mem_cons.mp hr with rfl | hr
          · rfl
          · exact ih hr

/-- `ReplaceUserTOTPRecoveryCodes`. -/
theorem replaceCodes {hashes ids : List String}
    (h : a.replaceUserTOTPRecoveryCodes id hashes ids = .ok b) : OwnChange id a b := by
  refine codes (Accounts.replaceUserTOTPRecoveryCodes_users h) fun v hv => ?_
  unfold Accounts.replaceUserTOTPRecoveryCodes at h
  simp only at h
  split at h
  · exact absurd h (by simp)
  · split at h
    · exact absurd h (by simp)
    · next t ht =>
        injection h with h
        rw [← h]
        refine (filter_insertCodes (fun r hr => ?_) ht).trans (filter_deleteCodes hv)
        rw [userID_of_mem_zipWith hr]
        exact hv

/-- `DisableUserTOTP`. -/
theorem disableUserTOTP (h : a.disableUserTOTP id = .ok b) : OwnChange id a b := by
  unfold Accounts.disableUserTOTP at h
  split at h
  · exact absurd h (by simp)
  · next c hc =>
      injection h with h
      rw [← h]
      exact (updateUsers hc fun _ => rfl).trans (codes rfl fun v hv => filter_deleteCodes hv)

/-- Spending a recovery code. -/
theorem consumeRecoveryCode {code : String} {rows : List UserTOTPRecoveryCode} {now : Nat}
    (hrows : Redemption.Listed a id rows) :
    OwnChange id a (Redemption.consumeRecoveryCode a rows code now).1 := by
  unfold Redemption.consumeRecoveryCode
  cases hm : Redemption.firstMatch X rows code with
  | none => exact .refl id a
  | some row =>
      obtain ⟨hmem, hid, _⟩ := Redemption.listed_match hrows hm
      refine codes rfl fun v hv => ?_
      unfold Accounts.markUserTOTPRecoveryCodeUsed
      apply Table.filter_update
      · exact fun _ => rfl
      · -- the marked row is the matched one, which is not `v`'s
        intro c hc hp
        rw [Bool.and_eq_true, decide_eq_true_eq] at hp
        have hsame : c = row := Table.eq_of_key hc hmem hp.1
        have hne : ¬ c.userID = v := fun heq => hv (hid.symm.trans (hsame ▸ heq))
        exact ⟨decide_eq_false hne, decide_eq_false hne⟩

/-! ### The handlers that act on their caller. -/

/-- It is enough to look at requests that are accepted. -/
theorem orUnchanged {e : Except HttpError (Accounts X)} (h : ∀ b, e = .ok b → OwnChange id a b) :
    OwnChange id a (LocalCredentials.orUnchanged a e) := by
  cases e with
  | ok b => exact h b rfl
  | error _ => exact .refl id a

theorem changeMyPassword (body : Option ChangeMyPasswordRequest) (hash : Option String) :
    OwnChange id a
      (LocalCredentials.orUnchanged a (Users.changeMyPassword a id body hash)) := by
  refine orUnchanged fun b hb => ?_
  obtain ⟨_, new, _, _, hupd⟩ := changeMyPassword_ok hb
  exact updateUsers hupd fun _ => rfl

theorem beginSetup (encrypted : String) :
    OwnChange id a (LocalCredentials.orUnchanged a (TOTPHandler.beginSetup a id encrypted)) := by
  refine orUnchanged fun b hb => ?_
  unfold TOTPHandler.beginSetup at hb
  split at hb
  · exact absurd hb (by simp)
  · exact updateUsers (orFail_eq_ok hb) fun _ => rfl

theorem confirmSetup (code : Option String) (now : Nat) (hashes ids : List String) :
    OwnChange id a (TOTPHandler.confirmSetup a id code now hashes ids).1 := by
  unfold TOTPHandler.confirmSetup
  split
  · exact .refl id a
  · split
    · exact .refl id a
    · next b hb =>
        split
        · exact replaceCodes hb
        · next c hc => exact (replaceCodes hb).trans (updateUsers hc fun _ => rfl)

theorem disable (body : Option TOTPHandler.DisableRequest) {rows : List UserTOTPRecoveryCode}
    (hrows : Redemption.Listed a id rows) (now : Nat) :
    OwnChange id a (TOTPHandler.disable a id body rows now).1 := by
  unfold TOTPHandler.disable
  split
  · exact .refl id a
  · next req _ =>
      split
      · exact .refl id a
      · next secret _ =>
          -- the accounts after the code was checked, whichever way
          generalize hr : (if X.validate now secret req.code then (a, true)
            else Redemption.consumeRecoveryCode a rows req.code now) = r
          have hsame : OwnChange id a r.1 := by
            rw [← hr]
            split
            · exact .refl id a
            · exact consumeRecoveryCode hrows
          obtain ⟨b, verified⟩ := r
          cases verified with
          | false => exact hsame
          | true =>
              cases hdisable : b.disableUserTOTP id with
              | error e => simpa [hdisable] using hsame
              | ok c => simpa [hdisable] using hsame.trans (disableUserTOTP hdisable)

theorem regenerateRecoveryCodes (code : Option String) (now : Nat) (hashes ids : List String) :
    OwnChange id a (LocalCredentials.orUnchanged a
      (TOTPHandler.regenerateRecoveryCodes a id code now hashes ids)) := by
  refine orUnchanged fun b hb => ?_
  unfold TOTPHandler.regenerateRecoveryCodes at hb
  split at hb
  · exact absurd hb (by simp)
  · split at hb
    · exact absurd hb (by simp)
    · split at hb
      · exact replaceCodes (orFail_eq_ok hb)
      · exact absurd hb (by simp)

/-- LoginTOTP spends a code of the user it signs a token for. -/
theorem loginTOTP {cfg : Auth.Config} {issued : List Claims}
    {body : Option Auth.TOTPLoginRequest} {rows : List UserTOTPRecoveryCode} {now : Nat}
    {token : Claims} {caller : String}
    (h : Auth.loginTOTP cfg a issued body rows now = .ok (b, token))
    (hrows : (Call.loginTOTP body rows).Answered a caller) : OwnChange token.userID a b := by
  obtain ⟨req, challenge, user, secret, rfl, hreq, huser, rfl, hverified⟩ := loginTOTP_cases h
  have hid : user.id = challenge.userID := Table.key_of_find? huser
  simp only [Call.Answered, hreq] at hrows
  show OwnChange user.id a b
  unfold Auth.verifyFactor at hverified
  split at hverified
  · have hb : b = (Redemption.consumeRecoveryCode a rows req.code now).1 := by rw [hverified]
    rw [hb, hid]
    exact consumeRecoveryCode hrows
  · simp only [Prod.mk.injEq] at hverified
    exact hverified.1 ▸ .refl _ a

end OwnChange

/-! ## §2. Who acts. -/

/-- The action is the user's: a request that authenticates as it, or its UpdateMe under way. -/
def ActsAs (P : Primitives) (v : String) (s : Server X) : Action → Prop
  | .request r => ∃ u, authenticate P s.sys r.authorization r.now = .ok (.user u) ∧ u.userID = v
  | .finishUpdateMe i => ∃ current req, s.editing[i]? = some (v, current, req)

/-- The action is a request that authenticates with the role admin. -/
def ActsAsAdmin (P : Primitives) (s : Server X) : Action → Prop
  | .request r =>
      ∃ u, authenticate P s.sys r.authorization r.now = .ok (.user u) ∧ u.role = .admin
  | .finishUpdateMe _ => False

/-- The session token that a handler signs. -/
def signed (cfg : Auth.Config) (s : Sys X) (now : Nat) : Call → Option Claims
  | .login body => (Auth.login cfg s.accounts body now).toOption
  | .loginTOTP body rows =>
      (Auth.loginTOTP cfg s.accounts s.issued body rows now).toOption.map Prod.snd
  | .callback req => (Auth.callback cfg s.accounts req now).toOption
  | _ => none

/-- The action is a login as the user: a token that names it is signed. -/
def LogsIn (cfg : Auth.Config) (v : String) (s : Server X) : Action → Prop
  | .request r => ∃ token, signed cfg s.sys r.now r.call = some token ∧ token.userID = v
  | .finishUpdateMe _ => False

/-- A handler for users runs for the user that the request authenticates as. -/
theorem caller_of_handled {oidc : Bool} {P : Primitives} {s : Sys X} {m : Method}
    {path : List String} {authorization : List Char} {now : Nat} {h : Handler} {ps : Params}
    {ctx : Option Identity} (hh : Handled oidc P s m path authorization now h ps ctx)
    {perm : Permission} (hp : policy h = .holders perm) :
    ∃ u, ctx = some (.user u) ∧ authenticate P s authorization now = .ok (.user u)
      ∧ has u.role perm = true := by
  have hadmits := handled_policy hh
  rw [hp] at hadmits
  obtain ⟨u, hauth, hhas, hctx⟩ := hadmits
  exact ⟨u, hctx, hauth, hhas⟩

/-- A handler that asks for an admin permission runs for admins. -/
theorem admin_of_handled {oidc : Bool} {P : Primitives} {s : Server X} {r : Request}
    {ps : Params} {ctx : Option Identity}
    (hh : Handled oidc P s.sys r.method r.path r.authorization r.now r.call.handler ps ctx)
    {perm : Permission} (hp : policy r.call.handler = .holders perm)
    (hperm : perm ∈ adminPermissions) : ActsAsAdmin P s (.request r) := by
  obtain ⟨u, _, hauth, hhas⟩ := caller_of_handled hh hp
  refine ⟨u, hauth, ?_⟩
  by_contra hrole
  rw [not_has_adminPermission hrole hperm] at hhas
  exact absurd hhas (by decide)

/-- A handler of the caller's own account runs for the user that acts. -/
theorem self_of_handled {oidc : Bool} {P : Primitives} {s : Server X} {r : Request}
    {ps : Params} {ctx : Option Identity}
    (hh : Handled oidc P s.sys r.method r.path r.authorization r.now r.call.handler ps ctx)
    (hp : policy r.call.handler = .holders .selfAccess) :
    ActsAs P (callerID ctx) s (.request r) := by
  obtain ⟨u, rfl, hauth, _⟩ := caller_of_handled hh hp
  exact ⟨u, hauth, rfl⟩

/-! ## §3. An account. -/

/-- What belongs to a user. -/
structure Account where
  row : Option User
  codes : List UserTOTPRecoveryCode
  apiKeys : List UserAPIKey
  sessions : List Claims
  editing : List (String × User × UpdateMeRequest)
  deriving DecidableEq

/-- The account of `v`. -/
def accountOf (v : String) (s : Server X) : Account where
  row := s.sys.accounts.users.find? v
  codes := s.sys.accounts.codes.rows.filter (fun c => decide (c.userID = v))
  apiKeys := s.sys.apiKeys.table.rows.filter (fun k => decide (k.userID = v))
  sessions := s.sys.issued.filter (fun c => decide (c.userID = v))
  editing := s.editing.filter (fun e => decide (e.1 = v))

/-- The account is the same when its parts are. -/
theorem accountOf_eq {v : String} {s t : Server X}
    (haccounts : SameUser v s.sys.accounts t.sys.accounts)
    (hkeys : t.sys.apiKeys.table.rows.filter (fun k => decide (k.userID = v))
      = s.sys.apiKeys.table.rows.filter (fun k => decide (k.userID = v)))
    (hsessions : t.sys.issued.filter (fun c => decide (c.userID = v))
      = s.sys.issued.filter (fun c => decide (c.userID = v)))
    (hediting : t.editing.filter (fun e => decide (e.1 = v))
      = s.editing.filter (fun e => decide (e.1 = v))) : accountOf v t = accountOf v s := by
  unfold accountOf
  rw [haccounts.row, haccounts.codes, hkeys, hsessions, hediting]

/-- The tables and tokens of `v` are the same. -/
structure SameSys (v : String) (s t : Sys X) : Prop where
  accounts : SameUser v s.accounts t.accounts
  keys : t.apiKeys.table.rows.filter (fun k => decide (k.userID = v))
    = s.apiKeys.table.rows.filter (fun k => decide (k.userID = v))
  sessions : t.issued.filter (fun c => decide (c.userID = v))
    = s.issued.filter (fun c => decide (c.userID = v))

theorem SameSys.refl (v : String) (s : Sys X) : SameSys v s s := ⟨.refl v _, rfl, rfl⟩

/-- A handler that changes the accounts alone. -/
theorem SameSys.withAccounts {v : String} {s : Sys X} {a : Accounts X}
    (h : SameUser v s.accounts a) : SameSys v s (s.withAccounts a) := ⟨h, rfl, rfl⟩

/-- A token for another user. -/
theorem SameSys.withToken {v : String} {s : Sys X} {e : Except HttpError Claims}
    (h : ∀ token, e = .ok token → token.userID ≠ v) : SameSys v s (s.withToken e) := by
  cases e with
  | error _ => exact .refl v s
  | ok token =>
      refine ⟨.refl v _, rfl, ?_⟩
      show (token :: s.issued).filter _ = _
      rw [List.filter_cons_of_neg (by simpa using h token rfl)]

/-- Create stores a key of its caller. -/
theorem SameSys.apikeysCreate {v : String} {P : Primitives} {s : Sys X} {caller : String}
    (hv : caller ≠ v) (name : Option String) (bytes : List UInt8 × List UInt8) (id : String) :
    SameSys v s (orSame s ((Access.apikeysCreate P s caller name bytes id).map Prod.fst)) := by
  cases hc : Access.apikeysCreate P s caller name bytes id with
  | error e => exact .refl v s
  | ok p =>
      obtain ⟨t, raw⟩ := p
      obtain ⟨key, keys, huser, _, _, _, _, hins, rfl⟩ := apikeysCreate_ok hc
      refine ⟨.refl v _, ?_, rfl⟩
      exact Table.filter_insert (UniqueTable.table_insert hins) (by simp [huser, hv])

/-- Delete removes a key of its caller. -/
theorem SameSys.apikeysDelete {v : String} {s : Sys X} {caller keyID : String}
    (hv : caller ≠ v) : SameSys v s (orSame s (Access.apikeysDelete s caller keyID)) := by
  unfold Access.apikeysDelete Sys.deleteAPIKey Sys.deleteAPIKeys
  split
  · exact .refl v s
  · refine ⟨.refl v _, Table.filter_delete fun k _ hk => ?_, rfl⟩
    rw [Bool.and_eq_true, decide_eq_true_eq, decide_eq_true_eq] at hk
    exact decide_eq_false fun heq => hv (hk.2.symm.trans heq)

/-! ## §4. One step. -/

/-- The token that an accepted request signs. -/
theorem signed_of_ok {e : Except HttpError Claims} {token : Claims} (h : e = .ok token) :
    e.toOption = some token := by
  rw [h]
  rfl

/-- **One handler.**  It leaves the tables and tokens of `v` alone, unless its caller is `v` or
an admin, or it signs a token for `v`. -/
theorem sameSys_perform {oidc : Bool} {P : Primitives} {cfg : Auth.Config} {v : String}
    {s : Server X} {r : Request} {ps : Params} {ctx : Option Identity}
    (hh : Handled oidc P s.sys r.method r.path r.authorization r.now r.call.handler ps ctx)
    (hanswered : r.call.Answered s.sys.accounts (callerID ctx))
    (hv : ¬ ActsAs P v s (.request r)) (hadmin : ¬ ActsAsAdmin P s (.request r))
    (hlogin : ¬ LogsIn cfg v s (.request r)) :
    SameSys v s.sys (perform P cfg s.sys (callerID ctx) ps r.now r.call) := by
  have hself : policy r.call.handler = .holders .selfAccess → callerID ctx ≠ v :=
    fun hp heq => hv (heq ▸ self_of_handled hh hp)
  have hnot : ∀ perm ∈ adminPermissions, policy r.call.handler ≠ .holders perm :=
    fun _ hperm hp => hadmin (admin_of_handled hh hp hperm)
  have hsigned : ∀ token, signed cfg s.sys r.now r.call = some token → token.userID ≠ v :=
    fun token htoken heq => hlogin ⟨token, htoken, heq⟩
  generalize r.call = call at hself hnot hsigned hanswered
  cases call with
  | login body => exact .withToken fun token h => hsigned token (signed_of_ok h)
  | callback req => exact .withToken fun token h => hsigned token (signed_of_ok h)
  | loginTOTP body rows =>
      simp only [perform]
      split
      · next a token hok =>
          have htoken : token.userID ≠ v := hsigned token (by simp [signed, hok, Except.toOption])
          exact ⟨(OwnChange.loginTOTP hok hanswered).others v htoken, rfl, (SameSys.withToken (s := s.sys)
            (e := .ok token) fun t ht => Except.ok.inj ht ▸ htoken).sessions⟩
      · exact .refl v _
  -- what asks for an admin permission
  | usersCreate body hash id => exact absurd rfl (hnot .usersEdit (by decide))
  | usersUpdate body => exact absurd rfl (hnot .usersEdit (by decide))
  | usersDelete => exact absurd rfl (hnot .usersEdit (by decide))
  | usersSetEnabled body => exact absurd rfl (hnot .usersEdit (by decide))
  | usersChangePassword body hash => exact absurd rfl (hnot .usersCredentials (by decide))
  | totpAdminReset => exact absurd rfl (hnot .usersCredentials (by decide))
  | apikeysDeleteAdmin => exact absurd rfl (hnot .apiKeysAdmin (by decide))
  | scannersCreate body bytes id => exact absurd rfl (hnot .scannersEdit (by decide))
  | scannersUpdate body => exact absurd rfl (hnot .scannersEdit (by decide))
  | scannersPatch body => exact absurd rfl (hnot .scannersEdit (by decide))
  | scannersDelete => exact absurd rfl (hnot .scannersEdit (by decide))
  | scannersSetDefault => exact absurd rfl (hnot .scannersEdit (by decide))
  | scannersRegenerateToken bytes => exact absurd rfl (hnot .scannersEdit (by decide))
  -- what acts on the caller
  | updateMe body => exact .refl v _
  | changeMyPassword body hash =>
      exact .withAccounts ((OwnChange.changeMyPassword body hash).others v (hself rfl))
  | beginSetup encrypted =>
      exact .withAccounts ((OwnChange.beginSetup encrypted).others v (hself rfl))
  | confirmSetup code hashes ids =>
      exact .withAccounts ((OwnChange.confirmSetup code r.now hashes ids).others v (hself rfl))
  | disable body rows =>
      exact .withAccounts ((OwnChange.disable body hanswered r.now).others v (hself rfl))
  | regenerateRecoveryCodes code hashes ids =>
      exact .withAccounts
        ((OwnChange.regenerateRecoveryCodes code r.now hashes ids).others v (hself rfl))
  | apikeysCreate name bytes id => exact .apikeysCreate (hself rfl) name bytes id
  | apikeysDelete => exact .apikeysDelete (hself rfl)
  | reads h => exact .refl v _

/-- The UpdateMe requests that a handler begins are its caller's. -/
theorem caller_of_begun {s : Sys X} {caller : String} {c : Call}
    {e : String × User × UpdateMeRequest} (h : e ∈ begun s caller c) :
    e.1 = caller ∧ (∃ body, c = .updateMe body) ∧ s.accounts.getUserByID caller = some e.2.1 := by
  unfold begun at h
  split at h
  · next body =>
      split at h
      · next current req hcheck =>
          rw [List.mem_singleton] at h
          subst h
          refine ⟨rfl, ⟨body, rfl⟩, ?_⟩
          unfold updateMeCheck at hcheck
          split at hcheck
          · exact absurd hcheck (by simp)
          · next user huser =>
              split at hcheck
              · exact absurd hcheck (by simp)
              · split at hcheck
                · simp only [Except.ok.injEq, Prod.mk.injEq] at hcheck
                  rw [huser, hcheck.1]
                · exact absurd hcheck (by simp)
      · exact absurd h List.not_mem_nil
  · exact absurd h List.not_mem_nil

/-- Erasing an element that `q` does not hold of. -/
theorem filter_eraseIdx {α : Type*} {q : α → Bool} {l : List α} {i : Nat} {x : α}
    (hi : l[i]? = some x) (hx : q x = false) : (l.eraseIdx i).filter q = l.filter q := by
  induction l generalizing i with
  | nil => simp
  | cons y l ih =>
      cases i with
      | zero =>
          simp only [List.getElem?_cons_zero, Option.some.injEq] at hi
          simp [hi, hx]
      | succ i =>
          rw [List.getElem?_cons_succ] at hi
          rw [List.eraseIdx_cons_succ, List.filter_cons, List.filter_cons, ih hi]

/-- **One step.** -/
theorem account_step {oidc : Bool} {P : Primitives} {cfg : Auth.Config} {v : String}
    {s t : Server X} {a : Action} (h : step oidc P cfg s a = some t) (hv : ¬ ActsAs P v s a)
    (hadmin : ¬ ActsAsAdmin P s a) (hlogin : ¬ LogsIn cfg v s a) :
    accountOf v t = accountOf v s := by
  rcases step_cases h with ⟨_, _, _, _, rfl⟩ | ⟨r, ps, ctx, rfl, hd, hanswered, rfl⟩ |
    ⟨i, userID, current, req, rfl, hi, rfl⟩
  · rfl
  · have hh := handled_of_dispatch hd
    obtain ⟨haccounts, hkeys, hsessions⟩ := sameSys_perform hh hanswered hv hadmin hlogin
    refine accountOf_eq haccounts hkeys hsessions ?_
    show (s.editing ++ _).filter _ = _
    rw [List.filter_append]
    have hnone : (begun s.sys (callerID ctx) r.call).filter (fun e => decide (e.1 = v)) = [] := by
      refine List.filter_eq_nil_iff.mpr fun e he hev => ?_
      obtain ⟨hcaller, ⟨body, hcall⟩, _⟩ := caller_of_begun he
      have hself := self_of_handled hh (by rw [hcall]; rfl)
      rw [← hcaller, of_decide_eq_true hev] at hself
      exact hv hself
    rw [hnone, List.append_nil]
  · have hne : userID ≠ v := fun heq => hv ⟨current, req, heq ▸ hi⟩
    refine accountOf_eq ?_ rfl rfl (filter_eraseIdx hi (decide_eq_false hne))
    show SameUser v s.sys.accounts (LocalCredentials.orUnchanged s.sys.accounts _)
    cases hw : updateMeWrite s.sys.accounts userID current req with
    | error _ => exact .refl v _
    | ok b => exact .updateUsers (storeResponse_eq_ok.mp hw) hne

/-! ## §5. Tokens that stand for a user. -/

/-- Who a token stands for depends on that user's account alone. -/
theorem verify_of_account {P : Primitives} {v : String} {s t : Server X}
    (h : accountOf v t = accountOf v s) {raw : List Char} {now : Nat} {i : Auth.Identity}
    (hi : i.userID = v) (hraw : verify P t.sys raw now = some (.user i)) :
    verify P s.sys raw now = some (.user i) := by
  unfold accountOf at h
  obtain ⟨hrow, _, hkeys, hsessions, _⟩ := Account.mk.inj h
  unfold verify at hraw ⊢
  split at hraw
  · -- a scanner token is never a user
    unfold verifyScannerToken at hraw
    cases hl : t.sys.scanners.lookup (hashAPIKey P raw) <;> simp [hl] at hraw
  · next hscanner =>
      rw [if_neg hscanner]
      split at hraw
      · next hkey =>
          rw [if_pos hkey]
          unfold verifyAPIKey at hraw ⊢
          split at hraw
          · exact absurd hraw (by simp)
          · next key hlookup =>
              split at hraw
              · exact absurd hraw (by simp)
              · next user huser =>
                  split at hraw
                  · next henabled =>
                      simp only [Option.some.injEq, Identity.user.injEq] at hraw
                      have hid : user.id = v := by
                        rw [← hraw] at hi
                        exact hi
                      have howner : key.userID = v :=
                        (Table.key_of_find? huser).symm.trans hid
                      -- the key is one of the user's, so it was there before
                      obtain ⟨hmem, hhash⟩ := UniqueTable.lookup_eq_some_iff.mp hlookup
                      have hmem' : key ∈ s.sys.apiKeys.table.rows.filter
                          (fun k => decide (k.userID = v)) := by
                        rw [← hkeys]
                        exact List.mem_filter.mpr ⟨hmem, decide_eq_true howner⟩
                      have hlookup' : s.sys.apiKeys.lookup (hashAPIKey P raw) = some key :=
                        UniqueTable.lookup_eq_some_iff.mpr ⟨(List.mem_filter.mp hmem').1, hhash⟩
                      have huser' : s.sys.accounts.getUserByID key.userID = some user := by
                        rw [howner]
                        rw [howner] at huser
                        exact hrow.symm.trans huser
                      simp only [hlookup', huser', henabled, if_true, hraw]
                  · exact absurd hraw (by simp)
      · next hkey =>
          rw [if_neg hkey]
          unfold verifySession at hraw ⊢
          split at hraw
          · exact absurd hraw (by simp)
          · next claims hclaims =>
              obtain ⟨j, hj, heq⟩ := Option.map_eq_some_iff.mp hraw
              injection heq with heq
              subst heq
              obtain ⟨hmem, hpurpose, hid⟩ := Auth.verifyJWT_eq_some hj
              have hmem' : claims ∈ s.sys.issued.filter (fun c => decide (c.userID = v)) := by
                rw [← hsessions]
                exact List.mem_filter.mpr ⟨hmem, decide_eq_true (hid.symm.trans hi)⟩
              have hj' : verifyJWT s.sys.issued claims now = some j := by
                unfold verifyJWT Auth.validateToken at hj ⊢
                simpa [hmem, (List.mem_filter.mp hmem').1] using hj
              simp [hj']

/-- **NOBODY BUT A USER OR AN ADMIN TOUCHES A USER'S ACCOUNT.**  In a run in which no action is
`v`'s or an admin's and nobody logs in as `v`, the account of `v` stays what it was, and the
tokens that stand for `v` stay the same, at every time. -/
theorem account_isolated {oidc : Bool} {P : Primitives} {cfg : Auth.Config} {v : String}
    {start t : Server X} {tr : List (Server X × Action)}
    (e : Exec (step oidc P cfg) start tr t)
    (hothers : ∀ p ∈ tr, ¬ ActsAs P v p.1 p.2 ∧ ¬ ActsAsAdmin P p.1 p.2 ∧ ¬ LogsIn cfg v p.1 p.2) :
    ∀ s ∈ visited tr t, accountOf v s = accountOf v start ∧
      ∀ raw now i, i.userID = v →
        (verify P s.sys raw now = some (.user i) ↔ verify P start.sys raw now = some (.user i)) := by
  have hsame : ∀ s ∈ visited tr t, accountOf v s = accountOf v start := by
    refine e.preserves (C := fun s a => ¬ ActsAs P v s a ∧ ¬ ActsAsAdmin P s a ∧ ¬ LogsIn cfg v s a)
      ?_ rfl hothers
    intro s a u hs hothers h
    exact (account_step h hothers.1 hothers.2.1 hothers.2.2).trans hs
  intro s hs
  refine ⟨hsame s hs, fun raw now i hi => ⟨?_, ?_⟩⟩
  · exact verify_of_account (hsame s hs) hi
  · exact verify_of_account (hsame s hs).symm hi

theorem bob_acts : authenticate plainPrimitives smallServer.sys bobCreatesKey.authorization
    bobCreatesKey.now = .ok (.user ⟨"u2", "bob", .viewer, none, none⟩) := bob_authenticates

theorem bob_runs : ∃ t, run (step true plainPrimitives ⟨60, ""⟩) smallServer
    [.request bobCreatesKey] = some t := ⟨_, rfl⟩

/-- A viewer who creates an API key leaves the admin's account alone. -/
theorem account_isolated_alice :
    ∃ t, run (step true plainPrimitives ⟨60, ""⟩) smallServer [.request bobCreatesKey] = some t
      ∧ accountOf "u1" t = accountOf "u1" smallServer := by
  obtain ⟨t, ht⟩ := bob_runs
  refine ⟨t, ht, ?_⟩
  refine (account_isolated (exec_traceFrom ht) (fun p hp => ?_) _ (last_mem_visited _ _)).1
  rw [List.mem_singleton.mp hp]
  refine ⟨fun h => ?_, fun h => ?_, fun h => ?_⟩
  · obtain ⟨u, hauth, hid⟩ := h
    rw [bob_acts] at hauth
    injection hauth with hauth
    injection hauth with hauth
    exact absurd (hauth ▸ hid) (by decide)
  · obtain ⟨u, hauth, hrole⟩ := h
    rw [bob_acts] at hauth
    injection hauth with hauth
    injection hauth with hauth
    exact absurd (hauth ▸ hrole) (by decide)
  · obtain ⟨token, htoken, _⟩ := h
    exact absurd htoken (by simp [signed, bobCreatesKey])

/-! ## §6. Where admins come from. -/

/-- The admins are among `A`: those stored, those that session tokens speak of, and those that
an UpdateMe under way will write. -/
structure AdminsWithin (A : String → Prop) (s : Server X) : Prop where
  users : ∀ u ∈ s.sys.accounts.users, u.role = .admin → A u.id
  sessions : ∀ c ∈ s.sys.issued, c.role = .admin → A c.userID
  editing : ∀ e ∈ s.editing, e.2.1.role = .admin → A e.1

/-- Who acts as an admin then acts as one of `A`. -/
theorem AdminsWithin.actsAs {P : Primitives} {A : String → Prop} {s : Server X} {a : Action}
    (hs : AdminsWithin A s) (h : ActsAsAdmin P s a) : ∃ v, A v ∧ ActsAs P v s a := by
  cases a with
  | finishUpdateMe i => exact absurd h id
  | request r =>
      obtain ⟨u, hauth, hrole⟩ := h
      refine ⟨u.userID, ?_, u, hauth, rfl⟩
      obtain ⟨_, hverify⟩ := authenticate_eq_ok.mp hauth
      rcases verify_user hverify with ⟨user, hmem, _, rfl⟩ | ⟨claims, hmem, _, hid, hclaims⟩
      · exact hs.users user hmem hrole
      · rw [← hid]
        exact hs.sessions claims hmem (hclaims.trans hrole)

/-- A signed token speaks of a stored user with its role. -/
theorem row_of_signed {cfg : Auth.Config} {s : Sys X} {now : Nat} {c : Call} {token : Claims}
    (h : signed cfg s now c = some token) :
    ∃ user ∈ s.accounts.users, token.userID = user.id ∧ token.role = user.role := by
  cases c with
  | login body =>
      simp only [signed, Auth.login] at h
      split at h
      · exact absurd h (by simp [Except.toOption])
      · split at h
        · exact absurd h (by simp [Except.toOption])
        · split at h
          · exact absurd h (by simp [Except.toOption])
          · next user huser =>
              split at h
              · exact absurd h (by simp [Except.toOption])
              · split at h
                · exact absurd h (by simp [Except.toOption])
                · split at h
                  · exact absurd h (by simp [Except.toOption])
                  · split at h
                    · refine ⟨user, List.mem_of_find?_eq_some huser, ?_⟩
                      simp only [Except.toOption, Option.some.injEq] at h
                      rw [← h]
                      split <;> exact ⟨rfl, rfl⟩
                    · exact absurd h (by simp [Except.toOption])
  | loginTOTP body rows =>
      simp only [signed] at h
      cases hok : Auth.loginTOTP cfg s.accounts s.issued body rows now with
      | error _ => simp [hok, Except.toOption] at h
      | ok r =>
          obtain ⟨b, c⟩ := r
          simp only [hok, Except.toOption, Option.map_some, Option.some.injEq] at h
          obtain ⟨_, _, user, _, _, _, huser, rfl, _⟩ := loginTOTP_cases hok
          subst h
          exact ⟨user, Table.mem_of_find? huser, rfl, rfl⟩
  | callback req =>
      simp only [signed] at h
      cases hok : Auth.callback cfg s.accounts req now with
      | error _ => simp [hok, Except.toOption] at h
      | ok c =>
          simp only [hok, Except.toOption, Option.some.injEq] at h
          subst h
          obtain ⟨_, user, _, hmem, _, _, rfl⟩ := Auth.callback_ok hok
          exact ⟨user, hmem, rfl, rfl⟩
  | _ => exact absurd h (by simp [signed])

/-- What a handler does to roles and session tokens when its caller is no admin: nobody gets
another role, and a new token is the one it signs. -/
structure Unprivileged (cfg : Auth.Config) (now : Nat) (c : Call) (s t : Sys X) : Prop where
  roles : ∀ u ∈ t.accounts.users, ∃ w ∈ s.accounts.users, w.id = u.id ∧ w.role = u.role
  issued : ∀ token ∈ t.issued, token ∈ s.issued ∨ signed cfg s now c = some token

theorem Unprivileged.refl (cfg : Auth.Config) (now : Nat) (c : Call) (s : Sys X) :
    Unprivileged cfg now c s s :=
  ⟨fun u hu => ⟨u, hu, rfl, rfl⟩, fun _ h => .inl h⟩

theorem Unprivileged.ownChange {cfg : Auth.Config} {now : Nat} {c : Call} {s : Sys X}
    {id : String} {a : Accounts X} (h : OwnChange id s.accounts a) :
    Unprivileged cfg now c s (s.withAccounts a) :=
  ⟨h.roles, fun _ h => .inl h⟩

/-- API keys are neither. -/
theorem Unprivileged.keys {cfg : Auth.Config} {now : Nat} {c : Call} {s : Sys X}
    {e : Except HttpError (Sys X)}
    (h : ∀ t, e = .ok t → t.accounts = s.accounts ∧ t.issued = s.issued) :
    Unprivileged cfg now c s (orSame s e) := by
  cases e with
  | error _ => exact .refl cfg now c s
  | ok t =>
      obtain ⟨haccounts, hissued⟩ := h t rfl
      refine ⟨fun u hu => ⟨u, ?_, rfl, rfl⟩, fun token htoken => .inl ?_⟩
      · rw [← haccounts]
        exact hu
      · rw [← hissued]
        exact htoken

theorem Unprivileged.withToken {cfg : Auth.Config} {now : Nat} {c : Call} {s : Sys X}
    {e : Except HttpError Claims} (h : ∀ token, e = .ok token → signed cfg s now c = some token) :
    Unprivileged cfg now c s (s.withToken e) := by
  cases e with
  | error _ => exact .refl cfg now c s
  | ok token =>
      refine ⟨fun u hu => ⟨u, hu, rfl, rfl⟩, fun t ht => ?_⟩
      rcases List.mem_cons.mp ht with rfl | ht
      · exact .inr (h t rfl)
      · exact .inl ht

/-- **One handler**, called by no admin. -/
theorem unprivileged_perform {oidc : Bool} {P : Primitives} {cfg : Auth.Config}
    {s : Server X} {r : Request} {ps : Params} {ctx : Option Identity}
    (hh : Handled oidc P s.sys r.method r.path r.authorization r.now r.call.handler ps ctx)
    (hanswered : r.call.Answered s.sys.accounts (callerID ctx))
    (hadmin : ¬ ActsAsAdmin P s (.request r)) :
    Unprivileged cfg r.now r.call s.sys (perform P cfg s.sys (callerID ctx) ps r.now r.call) := by
  have hnot : ∀ perm ∈ adminPermissions, policy r.call.handler ≠ .holders perm :=
    fun _ hperm hp => hadmin (admin_of_handled hh hp hperm)
  generalize r.call = call at hnot hanswered
  cases call with
  | login body => exact .withToken fun token h => signed_of_ok h
  | callback req => exact .withToken fun token h => signed_of_ok h
  | loginTOTP body rows =>
      simp only [perform]
      split
      · next a token hok =>
          refine ⟨(OwnChange.loginTOTP hok hanswered).roles, fun t ht => ?_⟩
          rcases List.mem_cons.mp ht with rfl | ht
          · exact .inr (by simp [signed, hok, Except.toOption])
          · exact .inl ht
      · exact .refl _ _ _ _
  -- what asks for an admin permission
  | usersCreate body hash id => exact absurd rfl (hnot .usersEdit (by decide))
  | usersUpdate body => exact absurd rfl (hnot .usersEdit (by decide))
  | usersDelete => exact absurd rfl (hnot .usersEdit (by decide))
  | usersSetEnabled body => exact absurd rfl (hnot .usersEdit (by decide))
  | usersChangePassword body hash => exact absurd rfl (hnot .usersCredentials (by decide))
  | totpAdminReset => exact absurd rfl (hnot .usersCredentials (by decide))
  | apikeysDeleteAdmin => exact absurd rfl (hnot .apiKeysAdmin (by decide))
  | scannersCreate body bytes id => exact absurd rfl (hnot .scannersEdit (by decide))
  | scannersUpdate body => exact absurd rfl (hnot .scannersEdit (by decide))
  | scannersPatch body => exact absurd rfl (hnot .scannersEdit (by decide))
  | scannersDelete => exact absurd rfl (hnot .scannersEdit (by decide))
  | scannersSetDefault => exact absurd rfl (hnot .scannersEdit (by decide))
  | scannersRegenerateToken bytes => exact absurd rfl (hnot .scannersEdit (by decide))
  -- what acts on the caller
  | updateMe body => exact .refl _ _ _ _
  | changeMyPassword body hash => exact .ownChange (.changeMyPassword body hash)
  | beginSetup encrypted => exact .ownChange (.beginSetup encrypted)
  | confirmSetup code hashes ids => exact .ownChange (.confirmSetup code r.now hashes ids)
  | disable body rows => exact .ownChange (.disable body hanswered r.now)
  | regenerateRecoveryCodes code hashes ids =>
      exact .ownChange (.regenerateRecoveryCodes code r.now hashes ids)
  | apikeysCreate name bytes id =>
      refine .keys fun t ht => ?_
      obtain ⟨⟨t', raw⟩, hc, rfl⟩ := except_map_eq_ok ht
      obtain ⟨_, _, _, _, _, _, _, _, rfl⟩ := apikeysCreate_ok hc
      exact ⟨rfl, rfl⟩
  | apikeysDelete =>
      refine .keys fun t ht => ?_
      unfold apikeysDelete Sys.deleteAPIKey Sys.deleteAPIKeys at ht
      split at ht
      · exact absurd ht (by simp [apiKeyResponse])
      · simp only [apiKeyResponse, Except.ok.injEq] at ht
        subst ht
        exact ⟨rfl, rfl⟩
  | reads h => exact .refl _ _ _ _

/-- **One step.** -/
theorem adminsWithin_step {oidc : Bool} {P : Primitives} {cfg : Auth.Config} {A : String → Prop}
    {s t : Server X} {a : Action} (h : step oidc P cfg s a = some t) (hs : AdminsWithin A s)
    (hA : ∀ v, A v → ¬ ActsAs P v s a) : AdminsWithin A t := by
  have hadmin : ¬ ActsAsAdmin P s a := by
    intro hact
    obtain ⟨v, hv, hacts⟩ := hs.actsAs hact
    exact hA v hv hacts
  rcases step_cases h with ⟨_, _, _, _, rfl⟩ | ⟨r, ps, ctx, rfl, hd, hanswered, rfl⟩ |
    ⟨i, userID, current, req, rfl, hi, rfl⟩
  · exact hs
  · have hperform : Unprivileged cfg r.now r.call s.sys
        (perform P cfg s.sys (callerID ctx) ps r.now r.call) :=
      unprivileged_perform (handled_of_dispatch hd) hanswered hadmin
    refine ⟨?_, ?_, ?_⟩
    · intro u hu hrole
      obtain ⟨w, hw, hid, hwrole⟩ := hperform.roles u hu
      rw [← hid]
      exact hs.users w hw (hwrole.trans hrole)
    · intro token htoken hrole
      rcases hperform.issued token htoken with htoken | hsigned
      · exact hs.sessions token htoken hrole
      · obtain ⟨user, hmem, hid, huser⟩ := row_of_signed hsigned
        rw [hid]
        exact hs.users user hmem (huser.symm.trans hrole)
    · intro e he hrole
      rcases List.mem_append.mp he with he | he
      · exact hs.editing e he hrole
      · obtain ⟨hcaller, _, hrow⟩ := caller_of_begun he
        have hid : e.2.1.id = callerID ctx := Table.key_of_find? hrow
        rw [hcaller, ← hid]
        exact hs.users e.2.1 (Table.mem_of_find? hrow) hrole
  · refine ⟨?_, hs.sessions, fun e he => hs.editing e (List.mem_of_mem_eraseIdx he)⟩
    show ∀ u ∈ (LocalCredentials.orUnchanged s.sys.accounts _).users, _
    cases hw : updateMeWrite s.sys.accounts userID current req with
    | error _ => exact hs.users
    | ok b =>
        intro u hu hrole
        have hupd := (Accounts.updateUsers_cases (storeResponse_eq_ok.mp hw)).2.1
        rw [show LocalCredentials.orUnchanged s.sys.accounts (.ok b) = b from rfl, hupd] at hu
        obtain ⟨w, hw, rfl⟩ := Table.mem_update.mp hu
        split at hrole
        · next hid =>
            -- the role that is written is the one that was read
            rw [if_pos hid]
            show A w.id
            rw [of_decide_eq_true hid]
            exact hs.editing _ (List.mem_of_getElem? hi) hrole
        · next hid =>
            rw [if_neg hid]
            exact hs.users w hw hrole

/-- **WHERE ADMINS COME FROM.**  In a run in which none of the users in `A` acts, if at the
start all admins, and all tokens and updates that speak of one, are among `A`, then so they are
in every state: nobody becomes an admin except through an admin. -/
theorem admins_within {oidc : Bool} {P : Primitives} {cfg : Auth.Config} {A : String → Prop}
    {start t : Server X} {tr : List (Server X × Action)}
    (e : Exec (step oidc P cfg) start tr t) (hstart : AdminsWithin A start)
    (hA : ∀ p ∈ tr, ∀ v, A v → ¬ ActsAs P v p.1 p.2) :
    ∀ s ∈ visited tr t, AdminsWithin A s :=
  e.preserves (C := fun s a => ∀ v, A v → ¬ ActsAs P v s a)
    (fun _ _ _ hs hA h => adminsWithin_step h hs hA) hstart hA

/-- Bob's request makes nobody an admin: Alice is the only one before and after. -/
theorem admins_within_alice :
    ∃ t, run (step true plainPrimitives ⟨60, ""⟩) smallServer [.request bobCreatesKey] = some t
      ∧ AdminsWithin (fun v => v = "u1") t := by
  obtain ⟨t, ht⟩ := bob_runs
  refine ⟨t, ht, ?_⟩
  refine admins_within (exec_traceFrom ht) ⟨?_, ?_, ?_⟩ (fun p hp v hv h => ?_) _
    (last_mem_visited _ _)
  · intro u hu hrole
    rcases List.mem_cons.mp hu with rfl | hu
    · rfl
    · rw [List.mem_singleton.mp hu] at hrole
      exact absurd hrole (by decide)
  · intro c hc hrole
    rcases List.mem_cons.mp hc with rfl | hc
    · rfl
    · rw [List.mem_singleton.mp hc] at hrole
      exact absurd hrole (by decide)
  · exact fun e he => absurd he List.not_mem_nil
  · rw [List.mem_singleton.mp hp] at h
    obtain ⟨u, hauth, hid⟩ := h
    rw [bob_acts] at hauth
    injection hauth with hauth
    injection hauth with hauth
    subst hauth hv
    exact absurd hid (by decide)

end TLSentinel.Access
