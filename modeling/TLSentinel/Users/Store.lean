/-
  TLSentinel.Users.Store
  ──────────────────────
  **USER ACCOUNTS AND RECOVERY CODES AS THE STORE KEEPS THEM.**

  The tables `tlsentinel.users` and `tlsentinel.user_totp_recovery_codes` with
  the statements of `internal/db/users_store.go` and `users_totp_store.go`.  A
  statement is one atomic function on the two tables; the handlers, which run
  several of them, are modelled where their interleavings matter.

  The tables carry their constraints: ids are primary keys, and usernames are
  unique under the case folding of the `citext` column.  An UPDATE that would
  break the latter fails, as it does in the database.

  Ids are canonical uuid texts, in the form in which the database writes them.  A
  handler that takes an id from its path first has `Externals.uuid` read it.

  Everything outside the repository that the account handlers call is one record
  `Externals`; no property of it is assumed.
-/
import TLSentinel.Base
import TLSentinel.Foundation.Tables

namespace TLSentinel.Users

open Foundation

/-! ## §1. Rows. -/

/-- The roles of `internal/permission`. -/
inductive Role where
  | admin
  | operator
  | viewer
  deriving DecidableEq, Repr

/-- The providers of `internal/provider`. -/
inductive Provider where
  | Local
  | OIDC
  deriving DecidableEq, Repr

/-- `validRoles`. -/
def validRoles : String → Option Role
  | "admin" => some .admin
  | "operator" => some .operator
  | "viewer" => some .viewer
  | _ => none

/-- `validProviders`. -/
def validProviders : String → Option Provider
  | "local" => some .Local
  | "oidc" => some .OIDC
  | _ => none

/-- A row of `tlsentinel.users`. -/
structure User where
  id : String
  username : String
  /-- NULL for OIDC users. -/
  passwordHash : Option String
  provider : Provider
  enabled : Bool
  notify : Bool
  role : Role
  firstName : Option String
  lastName : Option String
  email : Option String
  /-- The encrypted secret; NULL when not enrolled. -/
  totpSecret : Option String
  totpEnabled : Bool
  totpEnrolledAt : Option Nat
  deriving DecidableEq, Repr

/-- An enabled user with role admin. -/
def User.isEnabledAdmin (u : User) : Prop := u.enabled = true ∧ u.role = .admin

instance (u : User) : Decidable u.isEnabledAdmin :=
  inferInstanceAs (Decidable (u.enabled = true ∧ u.role = .admin))

/-- A local user with an armed second factor. -/
def User.hasSecondFactor (u : User) : Prop := u.provider = .Local ∧ u.totpEnabled = true

/-- The SET clause of `StoreUserTOTPSecret`: the flag is cleared whatever it was. -/
def User.storeTOTPSecret (encryptedSecret : String) (u : User) : User :=
  { u with totpSecret := some encryptedSecret, totpEnabled := false }

/-- The SET clause of `EnableUserTOTP`: an existing enrolment time is kept. -/
def User.enableTOTP (now : Nat) (u : User) : User :=
  { u with totpEnabled := true, totpEnrolledAt := u.totpEnrolledAt.or (some now) }

/-- The SET clause of `DisableUserTOTP`. -/
def User.disableTOTP (u : User) : User :=
  { u with totpSecret := none, totpEnabled := false, totpEnrolledAt := none }

/-- A row of `tlsentinel.user_totp_recovery_codes`. -/
structure UserTOTPRecoveryCode where
  id : String
  userID : String
  codeHash : String
  usedAt : Option Nat
  deriving DecidableEq, Repr

/-- What the account code uses from outside the repository. -/
structure Externals where
  /-- The case folding behind equality in a `citext` column. -/
  fold : String → String
  /-- The uuid that a text names, in canonical form; `none` where a `uuid` column refuses the
  text. -/
  uuid : String → Option String
  /-- `unicode.ToUpper`. -/
  upperRune : Char → Char
  /-- `mail.ParseAddress` accepts the string. -/
  parseAddress : String → Bool
  /-- `bcrypt.CompareHashAndPassword(hash, password) == nil`. -/
  compareHashAndPassword : String → String → Bool
  /-- `Encryptor.Decrypt`: AES-GCM under the configured key. -/
  decrypt : String → Option String
  /-- `totp.Validate(secret, code)` at a clock reading. -/
  validate : Nat → String → String → Bool

/-- `models.NormalizeUsername`. -/
def normalizeUsername (s : String) : String := trimSpace s

/-- `totp.NormalizeRecoveryCode`. -/
def normalizeRecoveryCode (X : Externals) (s : String) : String :=
  toUpper X.upperRune (removeRune ' ' (removeRune '-' (trimSpace s)))

/-! ## §2. The two tables. -/

/-- The users with their recovery codes. -/
structure Accounts (X : Externals) where
  users : Table User.id
  /-- UNIQUE (username), on a `citext` column. -/
  usernames : (users.rows.map (fun u => X.fold u.username)).Nodup
  codes : Table UserTOTPRecoveryCode.id

/-- How a store function fails. -/
inductive StoreError where
  /-- `ErrNotFound`. -/
  | notFound
  /-- Any other error, such as a violated constraint. -/
  | failed
  deriving DecidableEq, Repr

variable {X : Externals}

namespace Accounts

/-- `UPDATE tlsentinel.users SET f WHERE id = ?`, then the check of the affected
rows that every caller makes. -/
def updateUsers (a : Accounts X) (id : String) (f : User → User)
    (hf : ∀ u, (f u).id = u.id) : Except StoreError (Accounts X) :=
  if h : ((a.users.update (fun u => u.id = id) f hf).rows.map
      (fun u => X.fold u.username)).Nodup then
    if a.users.rowsAffected (fun u => u.id = id) = 0 then .error .notFound
    else .ok { a with users := a.users.update (fun u => u.id = id) f hf, usernames := h }
  else .error .failed

/-- `GetUserByID`. -/
def getUserByID (a : Accounts X) (id : String) : Option User := a.users.find? id

/-- `GetUserByUsername`. -/
def getUserByUsername (a : Accounts X) (username : String) : Option User :=
  a.users.rows.find? (fun u => X.fold u.username = X.fold username)

/-- `GetUserForOIDCLogin`. -/
def getUserForOIDCLogin (a : Accounts X) (username : String) : Option User :=
  a.users.rows.find? (fun u => decide (X.fold u.username = X.fold username) && u.enabled)

/-- `CountAdminUsers`. -/
def countAdminUsers (a : Accounts X) : Nat := a.users.rows.countP (fun u => u.role = .admin)

/-- `UpdateUser`; switching to OIDC clears the password hash. -/
def updateUser (a : Accounts X) (id username : String) (role : Role) (provider : Provider)
    (notify : Bool) (firstName lastName email : Option String) :
    Except StoreError (Accounts X) :=
  a.updateUsers id
    (fun u => { u with
      username := username
      role := role
      provider := provider
      notify := notify
      firstName := firstName
      lastName := lastName
      email := email
      passwordHash := if provider = .OIDC then none else u.passwordHash })
    (fun _ => rfl)

/-- `UpdateUserPassword`. -/
def updateUserPassword (a : Accounts X) (id passwordHash : String) :
    Except StoreError (Accounts X) :=
  a.updateUsers id (fun u => { u with passwordHash := some passwordHash }) (fun _ => rfl)

/-- `SetUserEnabled`. -/
def setUserEnabled (a : Accounts X) (id : String) (enabled : Bool) :
    Except StoreError (Accounts X) :=
  a.updateUsers id (fun u => { u with enabled := enabled }) (fun _ => rfl)

/-- `DeleteUser`; the recovery codes go with the user (ON DELETE CASCADE). -/
def deleteUser (a : Accounts X) (id : String) : Except StoreError (Accounts X) :=
  if a.users.rowsAffected (fun u => u.id = id) = 0 then .error .notFound
  else
    .ok { users := a.users.delete (fun u => u.id = id)
          usernames := (List.filter_sublist.map _).nodup a.usernames
          codes := a.codes.delete (fun c => c.userID = id) }

/-! ## §3. TOTP statements. -/

/-- `GetUserTOTPSecret`. -/
def getUserTOTPSecret (a : Accounts X) (id : String) : Option (Option String × Bool) :=
  (a.users.find? id).map (fun u => (u.totpSecret, u.totpEnabled))

/-- `StoreUserTOTPSecret`. -/
def storeUserTOTPSecret (a : Accounts X) (id encryptedSecret : String) :
    Except StoreError (Accounts X) :=
  a.updateUsers id (User.storeTOTPSecret encryptedSecret) (fun _ => rfl)

/-- `EnableUserTOTP`. -/
def enableUserTOTP (a : Accounts X) (id : String) (now : Nat) :
    Except StoreError (Accounts X) :=
  a.updateUsers id (User.enableTOTP now) (fun _ => rfl)

/-- `DisableUserTOTP`: one transaction over both tables. -/
def disableUserTOTP (a : Accounts X) (id : String) : Except StoreError (Accounts X) :=
  match a.updateUsers id User.disableTOTP (fun _ => rfl) with
  | .error e => .error e
  | .ok b => .ok { b with codes := b.codes.delete (fun c => c.userID = id) }

/-- INSERT of several rows. -/
def insertCodes (codes : Table UserTOTPRecoveryCode.id) :
    List UserTOTPRecoveryCode → Option (Table UserTOTPRecoveryCode.id)
  | [] => some codes
  | row :: rows =>
      match codes.insert row with
      | none => none
      | some codes => insertCodes codes rows

/-- `ReplaceUserTOTPRecoveryCodes`, one transaction; `ids` are the values the
database generates for the new rows.  A missing user violates the foreign key. -/
def replaceUserTOTPRecoveryCodes (a : Accounts X) (userID : String) (hashes ids : List String) :
    Except StoreError (Accounts X) :=
  let rows := hashes.zipWith (fun hash id => ⟨id, userID, hash, none⟩) ids
  if rows ≠ [] ∧ a.users.find? userID = none then .error .failed
  else
    match insertCodes (a.codes.delete (fun c => c.userID = userID)) rows with
    | none => .error .failed
    | some codes => .ok { a with codes := codes }

/-- `ListUnusedUserTOTPRecoveryCodes`, in storage order. -/
def listUnusedUserTOTPRecoveryCodes (a : Accounts X) (userID : String) :
    List UserTOTPRecoveryCode :=
  a.codes.rows.filter (fun c => decide (c.userID = userID) && c.usedAt.isNone)

/-- `MarkUserTOTPRecoveryCodeUsed`: how many rows matched is not looked at. -/
def markUserTOTPRecoveryCodeUsed (a : Accounts X) (codeID : String) (now : Nat) : Accounts X :=
  { a with
    codes := a.codes.update (fun c => decide (c.id = codeID) && c.usedAt.isNone)
      (fun c => { c with usedAt := some now }) (fun _ => rfl) }

/-! ## §4. What the statements do. -/

/-- The username identifies the user. -/
theorem eq_of_username (a : Accounts X) {u v : User} (hu : u ∈ a.users) (hv : v ∈ a.users)
    (h : X.fold u.username = X.fold v.username) : u = v :=
  List.inj_on_of_nodup_map a.usernames hu hv h

/-- `GetUserForOIDCLogin` finds the user who has the name, up to case, and is enabled. -/
theorem getUserForOIDCLogin_eq_some_iff {a : Accounts X} {username : String} {u : User} :
    a.getUserForOIDCLogin username = some u ↔
      u ∈ a.users ∧ X.fold u.username = X.fold username ∧ u.enabled = true := by
  unfold getUserForOIDCLogin
  constructor
  · intro h
    have hfound := List.find?_some h
    rw [Bool.and_eq_true, decide_eq_true_eq] at hfound
    exact ⟨List.mem_of_find?_eq_some h, hfound⟩
  · rintro ⟨hu, hname, henabled⟩
    have hp : (decide (X.fold u.username = X.fold username) && u.enabled) = true := by
      rw [Bool.and_eq_true, decide_eq_true_eq]
      exact ⟨hname, henabled⟩
    obtain ⟨v, hv⟩ := Option.isSome_iff_exists.mp (List.find?_isSome
      (p := fun u => decide (X.fold u.username = X.fold username) && u.enabled).mpr ⟨u, hu, hp⟩)
    have hfound := List.find?_some hv
    rw [Bool.and_eq_true, decide_eq_true_eq] at hfound
    -- the first row that fits is the only one: the column is UNIQUE up to case
    rw [hv, a.eq_of_username (List.mem_of_find?_eq_some hv) hu (hfound.1.trans hname.symm)]

/-- Everything a `WHERE id = ?` update of the users can do. -/
theorem updateUsers_cases {a b : Accounts X} {id : String} {f : User → User}
    {hf : ∀ u, (f u).id = u.id} (h : a.updateUsers id f hf = .ok b) :
    (∃ u ∈ a.users, u.id = id)
      ∧ b.users = a.users.update (fun u => u.id = id) f hf ∧ b.codes = a.codes := by
  unfold updateUsers at h
  split at h
  · split at h
    · exact absurd h (by simp)
    · next hrows =>
        injection h with h
        subst h
        exact ⟨Table.rowsAffected_key_ne_zero_iff.mp hrows, rfl, rfl⟩
  · exact absurd h (by simp)

/-- An update of an existing row that leaves the username alone succeeds. -/
theorem updateUsers_of_mem {a : Accounts X} {id : String} {f : User → User}
    {hf : ∀ u, (f u).id = u.id} (hname : ∀ u, (f u).username = u.username)
    {u : User} (hu : u ∈ a.users) (hid : u.id = id) :
    ∃ b, a.updateUsers id f hf = .ok b := by
  have hnodup : ((a.users.update (fun u => u.id = id) f hf).rows.map
      (fun u => X.fold u.username)).Nodup := by
    have hsame : (a.users.update (fun u => u.id = id) f hf).rows.map
        (fun u => X.fold u.username) = a.users.rows.map (fun u => X.fold u.username) := by
      simp only [Table.update, List.map_map]
      apply List.map_congr_left
      intro v _
      by_cases hv : v.id = id <;> simp [hv, hname]
    rw [hsame]
    exact a.usernames
  have hrows : a.users.rowsAffected (fun u => u.id = id) ≠ 0 :=
    Table.rowsAffected_key_ne_zero_iff.mpr ⟨u, hu, hid⟩
  exact ⟨{ a with users := a.users.update (fun u => u.id = id) f hf, usernames := hnodup },
    by rw [updateUsers, dif_pos hnodup, if_neg hrows]⟩

/-- Everything `DeleteUser` can do. -/
theorem deleteUser_cases {a b : Accounts X} {id : String} (h : a.deleteUser id = .ok b) :
    (∃ u ∈ a.users, u.id = id)
      ∧ b.users = a.users.delete (fun u => u.id = id)
      ∧ b.codes = a.codes.delete (fun c => c.userID = id) := by
  unfold deleteUser at h
  split at h
  · exact absurd h (by simp)
  · next hrows =>
      injection h with h
      subst h
      exact ⟨Table.rowsAffected_key_ne_zero_iff.mp hrows, rfl, rfl⟩

/-- Replacing the recovery codes leaves the users alone. -/
theorem replaceUserTOTPRecoveryCodes_users {a b : Accounts X} {userID : String}
    {hashes ids : List String} (h : a.replaceUserTOTPRecoveryCodes userID hashes ids = .ok b) :
    b.users = a.users := by
  unfold replaceUserTOTPRecoveryCodes at h
  simp only at h
  split at h
  · exact absurd h (by simp)
  · split at h
    · exact absurd h (by simp)
    · injection h with h
      rw [← h]

/-- The row of a user after an update of that user. -/
theorem find?_updateUsers {a b : Accounts X} {id : String} {f : User → User}
    {hf : ∀ u, (f u).id = u.id} (h : a.updateUsers id f hf = .ok b) (id' : String) :
    b.users.find? id' = (a.users.find? id').map (fun u => if u.id = id then f u else u) := by
  obtain ⟨_, hb, _⟩ := updateUsers_cases h
  rw [hb, Table.find?_update]
  simp

end Accounts

/-- Externals to run the model with: ASCII case mapping, uuids that differ from their texts
in case alone, and a hash, a ciphertext and a code that are the password, the secret and the
secret behind a prefix. -/
def plainExternals : Externals where
  fold := fun s => String.ofList (s.toList.map Char.toLower)
  uuid := fun s => some (String.ofList (s.toList.map Char.toLower))
  upperRune := Char.toUpper
  parseAddress := fun s => decide ('@' ∈ s.toList)
  compareHashAndPassword := fun hash password => decide (hash = "hash:" ++ password)
  decrypt := fun s =>
    match s.toList with
    | 'e' :: 'n' :: 'c' :: ':' :: secret => some (String.ofList secret)
    | _ => none
  validate := fun _ secret code => decide (code = "code:" ++ secret)

end TLSentinel.Users
