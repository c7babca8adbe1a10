/-
  TLSentinel.Users.Enrolment
  ──────────────────────────
  **WHEN AN ARMED SECOND FACTOR IS ONE THE USER HAS PROVEN.**

  The TOTP requests of one user, each reading and writing in separate statements:

      BeginSetup    read the flag,   then StoreUserTOTPSecret
      ConfirmSetup  read the secret, then replace the codes, then EnableUserTOTP
      Disable       read the flag, read the secret (or redeem a recovery code),
                    then DisableUserTOTP
      Regenerate    read the flag, read the secret, then replace the codes
      AdminReset    read the flag,   then DisableUserTOTP

  StoreUserTOTPSecret clears the flag and EnableUserTOTP sets it whatever the row
  has become since the check.  `enrolment_sound_iff`: the flag is only ever up
  over a proven secret, and only DisableUserTOTP takes it down, exactly if every
  StoreUserTOTPSecret finds it down and every EnableUserTOTP finds a secret that a
  valid code has been submitted for.
-/
import TLSentinel.Users.TOTPHandler

namespace TLSentinel.Users.Enrolment

open Foundation TOTPHandler

variable {X : Externals}

/-! ## §1. The system. -/

/-- Where a request stands between its statements. -/
inductive Pc where
  | idle
  /-- BeginSetup, before StoreUserTOTPSecret. -/
  | storing
  /-- Before `loadSecret`: of Disable, or of RegenerateRecoveryCodes. -/
  | loading (disable : Bool) (code : String)
  /-- Disable with a wrong TOTP code, before the recovery codes are listed. -/
  | redeeming (code : String)
  /-- Disable, before the matched recovery code is marked. -/
  | marking (codeID : String)
  /-- Before the recovery codes are replaced: of ConfirmSetup, or of Regenerate. -/
  | rotating (confirm : Bool)
  /-- ConfirmSetup, before EnableUserTOTP. -/
  | enabling
  /-- Disable and AdminReset, before DisableUserTOTP, with their text for its failure. -/
  | disabling (failedText : String)
  | done (result : Except HttpError Unit)

/-- The accounts, the requests of the user, and the secrets a request of the user
has submitted a valid code for. -/
structure Sys (X : Externals) where
  accounts : Accounts X
  reqs : Nat → Pc
  proven : List String

/-- The statements, with what they depend on besides the state: the body of the
request, the clock, the generated secret, hashes and ids, the order of rows. -/
inductive Action where
  | beginSetup (req : Nat)
  | storeSecret (req : Nat) (encrypted : String)
  | confirmSetup (req : Nat) (code : Option String) (now : Nat)
  | disable (req : Nat) (body : Option DisableRequest)
  | regenerate (req : Nat) (code : Option String)
  | adminReset (req : Nat)
  | loadSecret (req : Nat) (now : Nat)
  | listCodes (req : Nat) (rows : List UserTOTPRecoveryCode)
  | markCode (req : Nat) (now : Nat)
  | replaceCodes (req : Nat) (hashes ids : List String)
  | enable (req : Nat) (now : Nat)
  | disableTOTP (req : Nat)
  /-- The request ends with an error: a store call or a local operation fails. -/
  | fail (req : Nat) (e : HttpError)

/-- Move request `req` to `pc`. -/
def Sys.goto (s : Sys X) (req : Nat) (pc : Pc) : Sys X :=
  { s with reqs := Function.update s.reqs req pc }

/-- The outcome of a checking part: on to `pc`, or the error response. -/
def Sys.after {α : Type} (s : Sys X) (req : Nat) (r : Except HttpError α) (pc : α → Pc) :
    Sys X :=
  match r with
  | .ok a => s.goto req (pc a)
  | .error e => s.goto req (.done (.error e))

/-- A writing statement: on to `pc` with the new tables, or the error response. -/
def Sys.write (s : Sys X) (req : Nat) (r : Except StoreError (Accounts X)) (pc : Pc)
    (failedText : String) : Sys X :=
  match r with
  | .ok accounts => { (s.goto req pc) with accounts := accounts }
  | .error _ => s.goto req (.done (.error ⟨500, failedText⟩))

/-- `Disable` with the proof accepted, before its write. -/
def Pc.disablingOwn : Pc := .disabling "failed to disable totp"

/-- `RecoveryCodeCount`. -/
def recoveryCodeCount : Nat := 10

/-- One step of the requests of user `userID`. -/
def step (userID : String) (s : Sys X) : Action → Option (Sys X)
  | .beginSetup req =>
      match s.reqs req with
      | .idle => some (s.after req (beginSetupCheck s.accounts userID) fun _ => .storing)
      | _ => none
  | .storeSecret req encrypted =>
      match s.reqs req with
      | .storing =>
          -- whatever the row has become since the check
          some (s.write req (s.accounts.storeUserTOTPSecret userID encrypted) (.done (.ok ()))
            "failed to store totp secret")
      | _ => none
  | .confirmSetup req code now =>
      match s.reqs req with
      | .idle =>
          match confirmSetupCheck s.accounts userID code now with
          | .ok secret =>
              some { (s.goto req (.rotating true)) with proven := secret :: s.proven }
          | .error e => some (s.goto req (.done (.error e)))
      | _ => none
  | .disable req body =>
      match s.reqs req with
      | .idle =>
          some (s.after req (disableCheck s.accounts userID body) fun r => .loading true r.code)
      | _ => none
  | .regenerate req code =>
      match s.reqs req with
      | .idle =>
          some (s.after req (regenerateCheck s.accounts userID code) fun c => .loading false c)
      | _ => none
  | .adminReset req =>
      match s.reqs req with
      | .idle =>
          some (s.after req (adminResetCheck s.accounts userID) fun _ =>
            .disabling "failed to reset totp")
      | _ => none
  | .loadSecret req now =>
      match s.reqs req with
      | .loading disable code =>
          match TOTPHandler.loadSecret s.accounts userID with
          | .error e => some (s.goto req (.done (.error e)))
          | .ok secret =>
              if X.validate now secret code then
                some { (s.goto req (if disable then .disablingOwn else .rotating false)) with
                  proven := secret :: s.proven }
              -- Disable goes on to the recovery codes, RegenerateRecoveryCodes does not
              else if disable then some (s.goto req (.redeeming code))
              else some (s.goto req (.done (.error ⟨401, "invalid code"⟩)))
      | _ => none
  | .listCodes req rows =>
      match s.reqs req with
      | .redeeming code =>
          if Redemption.Listed s.accounts userID rows then
            match Redemption.firstMatch X rows code with
            | some row => some (s.goto req (.marking row.id))
            | none => some (s.goto req (.done (.error ⟨401, "invalid code"⟩)))
          else none
      | _ => none
  | .markCode req now =>
      match s.reqs req with
      | .marking codeID =>
          some { (s.goto req .disablingOwn) with
            accounts := s.accounts.markUserTOTPRecoveryCodeUsed codeID now }
      | _ => none
  | .replaceCodes req hashes ids =>
      match s.reqs req with
      | .rotating confirm =>
          if hashes.length = recoveryCodeCount ∧ ids.length = recoveryCodeCount then
            some (s.write req (s.accounts.replaceUserTOTPRecoveryCodes userID hashes ids)
              (if confirm then .enabling else .done (.ok ())) "failed to store recovery codes")
          else none
      | _ => none
  | .enable req now =>
      match s.reqs req with
      | .enabling =>
          -- the secret in the row may be another one by now
          some (s.write req (s.accounts.enableUserTOTP userID now) (.done (.ok ()))
            "failed to enable totp")
      | _ => none
  | .disableTOTP req =>
      match s.reqs req with
      | .disabling failedText =>
          some (s.write req (s.accounts.disableUserTOTP userID) (.done (.ok ())) failedText)
      | _ => none
  | .fail req e =>
      match s.reqs req with
      -- only a request under way can fail
      | .idle | .done _ => none
      | _ => some (s.goto req (.done (.error e)))

/-- No request has started and nothing is proven. -/
def start (a : Accounts X) : Sys X := ⟨a, fun _ => .idle, []⟩

/-! ## §2. The property and the condition. -/

/-- The flag of the user is up. -/
def Armed (userID : String) (s : Sys X) : Prop :=
  ∃ u, s.accounts.getUserByID userID = some u ∧ u.totpEnabled = true

/-- The secret in the row of the user is one a valid code was submitted for. -/
def SecretProven (userID : String) (s : Sys X) : Prop :=
  ∀ u, s.accounts.getUserByID userID = some u →
    ∃ encrypted secret, u.totpSecret = some encrypted ∧ X.decrypt encrypted = some secret
      ∧ secret ∈ s.proven

/-- **The property of states**: an armed second factor is a proven one. -/
def ArmedProven (userID : String) (s : Sys X) : Prop := Armed userID s → SecretProven userID s

/-- **The property of steps**: only DisableUserTOTP takes the flag down. -/
def DropsOnlyByDisable (userID : String) (s : Sys X) (a : Action) (t : Sys X) : Prop :=
  Armed userID s → ¬ Armed userID t → ∃ req, a = .disableTOTP req

/-- **The condition on a step**: a secret is stored while the flag is down, and
the flag is raised over a proven secret. -/
def WritesInOrder (userID : String) (s : Sys X) : Action → Prop
  | .storeSecret _ _ => ¬ Armed userID s
  | .enable _ _ => SecretProven userID s
  | _ => True

/-! ## §3. The handlers are runs of their steps. -/

/-- The request can run to its end, no other request moving, with these tables
and this answer. -/
def RunsTo (userID : String) (s : Sys X) (req : Nat) (o : Accounts X × Except HttpError Unit) :
    Prop :=
  ∃ as t, run (step userID) s as = some t ∧ t.accounts = o.1 ∧ t.reqs req = .done o.2

/-- The tables and the answer after a handler that writes at most once. -/
def outcome (a : Accounts X) : Except HttpError (Accounts X) → Accounts X × Except HttpError Unit
  | .ok b => (b, .ok ())
  | .error e => (a, .error e)

/-- `BeginSetup`. -/
theorem run_beginSetup {userID : String} {s : Sys X} {req : Nat} (hidle : s.reqs req = .idle)
    (encrypted : String) :
    RunsTo userID s req (outcome s.accounts (beginSetup s.accounts userID encrypted)) := by
  cases hcheck : beginSetupCheck s.accounts userID with
  | error e =>
      exact ⟨[.beginSetup req], s.goto req (.done (.error e)),
        by simp [run, step, hidle, hcheck, Sys.after],
        by simp [beginSetup, hcheck, outcome, Sys.goto],
        by simp [beginSetup, hcheck, outcome, Sys.goto]⟩
  | ok user =>
      refine ⟨[.beginSetup req, .storeSecret req encrypted], _,
        by simp [run, step, hidle, hcheck, Sys.after, Sys.goto]; rfl, ?_, ?_⟩
      all_goals
        cases hstore : s.accounts.storeUserTOTPSecret userID encrypted <;>
          simp [beginSetup, hcheck, hstore, orFail, outcome, Sys.write, Sys.goto]

/-- `ConfirmSetup`. -/
theorem run_confirmSetup {userID : String} {s : Sys X} {req : Nat} (hidle : s.reqs req = .idle)
    (code : Option String) (now : Nat) {hashes ids : List String}
    (hlen : hashes.length = recoveryCodeCount ∧ ids.length = recoveryCodeCount) :
    RunsTo userID s req (confirmSetup s.accounts userID code now hashes ids) := by
  cases hcheck : confirmSetupCheck s.accounts userID code now with
  | error e =>
      exact ⟨[.confirmSetup req code now], _, by simp [run, step, hidle, hcheck]; rfl,
        by simp [confirmSetup, hcheck, Sys.goto], by simp [confirmSetup, hcheck, Sys.goto]⟩
  | ok secret =>
      cases hrep : s.accounts.replaceUserTOTPRecoveryCodes userID hashes ids with
      | error e =>
          exact ⟨[.confirmSetup req code now, .replaceCodes req hashes ids], _,
            by simp [run, step, hidle, hcheck, Sys.goto, hlen, Sys.write, hrep]; rfl,
            by simp [confirmSetup, hcheck, hrep], by simp [confirmSetup, hcheck, hrep]⟩
      | ok b =>
          refine ⟨[.confirmSetup req code now, .replaceCodes req hashes ids, .enable req now], _,
            by simp [run, step, hidle, hcheck, Sys.goto, hlen, Sys.write, hrep]; rfl, ?_, ?_⟩
          all_goals
            cases hen : b.enableUserTOTP userID now <;> simp [confirmSetup, hcheck, hrep, hen]

/-- `AdminReset`. -/
theorem run_adminReset {userID : String} {s : Sys X} {req : Nat} (hidle : s.reqs req = .idle) :
    RunsTo userID s req (outcome s.accounts (adminReset s.accounts userID)) := by
  cases hcheck : adminResetCheck s.accounts userID with
  | error e =>
      exact ⟨[.adminReset req], _, by simp [run, step, hidle, hcheck, Sys.after]; rfl,
        by simp [adminReset, hcheck, outcome, Sys.goto],
        by simp [adminReset, hcheck, outcome, Sys.goto]⟩
  | ok _ =>
      refine ⟨[.adminReset req, .disableTOTP req], _,
        by simp [run, step, hidle, hcheck, Sys.after, Sys.goto]; rfl, ?_, ?_⟩
      all_goals
        cases hdis : s.accounts.disableUserTOTP userID <;>
          simp [adminReset, hcheck, hdis, orFail, outcome, Sys.write, Sys.goto]

/-- `RegenerateRecoveryCodes`. -/
theorem run_regenerateRecoveryCodes {userID : String} {s : Sys X} {req : Nat}
    (hidle : s.reqs req = .idle) (code : Option String) (now : Nat) {hashes ids : List String}
    (hlen : hashes.length = recoveryCodeCount ∧ ids.length = recoveryCodeCount) :
    RunsTo userID s req (outcome s.accounts
      (regenerateRecoveryCodes s.accounts userID code now hashes ids)) := by
  cases hcheck : regenerateCheck s.accounts userID code with
  | error e =>
      exact ⟨[.regenerate req code], _, by simp [run, step, hidle, hcheck, Sys.after]; rfl,
        by simp [regenerateRecoveryCodes, hcheck, outcome, Sys.goto],
        by simp [regenerateRecoveryCodes, hcheck, outcome, Sys.goto]⟩
  | ok c =>
      cases hload : TOTPHandler.loadSecret s.accounts userID with
      | error e =>
          exact ⟨[.regenerate req code, .loadSecret req now], _,
            by simp [run, step, hidle, hcheck, hload, Sys.after, Sys.goto]; rfl,
            by simp [regenerateRecoveryCodes, hcheck, hload, outcome],
            by simp [regenerateRecoveryCodes, hcheck, hload, outcome]⟩
      | ok secret =>
          cases hv : X.validate now secret c with
          | false =>
              exact ⟨[.regenerate req code, .loadSecret req now], _,
                by simp [run, step, hidle, hcheck, hload, hv, Sys.after, Sys.goto]; rfl,
                by simp [regenerateRecoveryCodes, hcheck, hload, hv, outcome],
                by simp [regenerateRecoveryCodes, hcheck, hload, hv, outcome]⟩
          | true =>
              refine ⟨[.regenerate req code, .loadSecret req now, .replaceCodes req hashes ids], _,
                by simp [run, step, hidle, hcheck, hload, hv, Sys.after, Sys.goto, hlen]; rfl,
                ?_, ?_⟩
              all_goals
                cases hrep : s.accounts.replaceUserTOTPRecoveryCodes userID hashes ids <;>
                  simp [regenerateRecoveryCodes, hcheck, hload, hv, hrep, orFail, outcome,
                    Sys.write, Sys.goto]

/-- `Disable`, with either kind of code. -/
theorem run_disable {userID : String} {s : Sys X} {req : Nat} (hidle : s.reqs req = .idle)
    (body : Option DisableRequest) {rows : List UserTOTPRecoveryCode}
    (hrows : Redemption.Listed s.accounts userID rows) (now : Nat) :
    RunsTo userID s req (disable s.accounts userID body rows now) := by
  cases hcheck : disableCheck s.accounts userID body with
  | error e =>
      exact ⟨[.disable req body], _, by simp [run, step, hidle, hcheck, Sys.after]; rfl,
        by simp [disable, hcheck, Sys.goto], by simp [disable, hcheck, Sys.goto]⟩
  | ok r =>
      cases hload : TOTPHandler.loadSecret s.accounts userID with
      | error e =>
          exact ⟨[.disable req body, .loadSecret req now], _,
            by simp [run, step, hidle, hcheck, hload, Sys.after, Sys.goto]; rfl,
            by simp [disable, hcheck, hload], by simp [disable, hcheck, hload]⟩
      | ok secret =>
          cases hv : X.validate now secret r.code with
          | true =>
              refine ⟨[.disable req body, .loadSecret req now, .disableTOTP req], _,
                by simp [run, step, hidle, hcheck, hload, hv, Sys.after, Sys.goto,
                    Pc.disablingOwn]
                   rfl, ?_, ?_⟩
              all_goals
                cases hdis : s.accounts.disableUserTOTP userID <;>
                  simp [disable, hcheck, hload, hv, hdis, Sys.write, Sys.goto]
          | false =>
              cases hm : Redemption.firstMatch X rows r.code with
              | none =>
                  exact ⟨[.disable req body, .loadSecret req now, .listCodes req rows], _,
                    by simp [run, step, hidle, hcheck, hload, hv, hrows, hm, Sys.after, Sys.goto]
                       rfl,
                    by simp [disable, hcheck, hload, hv, hm, Redemption.consumeRecoveryCode],
                    by simp [disable, hcheck, hload, hv, hm, Redemption.consumeRecoveryCode]⟩
              | some row =>
                  refine ⟨[.disable req body, .loadSecret req now, .listCodes req rows,
                      .markCode req now, .disableTOTP req], _,
                    by simp [run, step, hidle, hcheck, hload, hv, hrows, hm, Sys.after, Sys.goto,
                        Pc.disablingOwn]
                       rfl, ?_, ?_⟩
                  all_goals
                    cases hdis : (s.accounts.markUserTOTPRecoveryCodeUsed row.id now).disableUserTOTP
                        userID <;>
                      simp [disable, hcheck, hload, hv, hm, hdis, Redemption.consumeRecoveryCode,
                        Sys.write, Sys.goto]

/-! ## §4. What a step does to the row of the user. -/

/-- The row of the user. -/
def Sys.row (s : Sys X) (userID : String) : Option User := s.accounts.getUserByID userID

/-- Some code is valid, at some time, for this secret, which is the one in the row. -/
def Submitted (userID : String) (s : Sys X) (secret : String) : Prop :=
  ∃ u encrypted code now, s.row userID = some u ∧ u.totpSecret = some encrypted
    ∧ X.decrypt encrypted = some secret ∧ X.validate now secret code = true

/-- What is proven stays so, and what is new was submitted in the state before. -/
def ProvenGrows (userID : String) (s t : Sys X) : Prop :=
  s.proven ⊆ t.proven ∧ ∀ secret ∈ t.proven, secret ∈ s.proven ∨ Submitted userID s secret

theorem ProvenGrows.of_eq {userID : String} {s t : Sys X} (h : t.proven = s.proven) :
    ProvenGrows userID s t := by
  refine ⟨fun secret hs => ?_, fun secret hs => .inl ?_⟩
  · rwa [h]
  · rwa [h] at hs

/-- A secret is proven by a valid code for the secret that `loadSecret` returned. -/
theorem ProvenGrows.of_cons {userID secret code : String} {s t : Sys X} {now : Nat}
    (h : t.proven = secret :: s.proven)
    (hload : TOTPHandler.loadSecret s.accounts userID = .ok secret)
    (hv : X.validate now secret code = true) : ProvenGrows userID s t := by
  refine ⟨fun other hs => ?_, fun other hs => ?_⟩
  · rw [h]
    exact List.mem_cons_of_mem _ hs
  · rw [h] at hs
    rcases List.mem_cons.mp hs with rfl | hs
    · obtain ⟨u, encrypted, hu, henc, hdec⟩ := loadSecret_ok hload
      exact .inr ⟨u, encrypted, code, now, hu, henc, hdec, hv⟩
    · exact .inl hs

@[simp] theorem row_goto (s : Sys X) (req : Nat) (pc : Pc) (userID : String) :
    (s.goto req pc).row userID = s.row userID := rfl

@[simp] theorem proven_goto (s : Sys X) (req : Nat) (pc : Pc) :
    (s.goto req pc).proven = s.proven := rfl

@[simp] theorem row_after {α : Type} (s : Sys X) (req : Nat) (r : Except HttpError α)
    (pc : α → Pc) (userID : String) : (s.after req r pc).row userID = s.row userID := by
  cases r <;> rfl

@[simp] theorem proven_after {α : Type} (s : Sys X) (req : Nat) (r : Except HttpError α)
    (pc : α → Pc) : (s.after req r pc).proven = s.proven := by
  cases r <;> rfl

@[simp] theorem proven_write (s : Sys X) (req : Nat) (r : Except StoreError (Accounts X))
    (pc : Pc) (failedText : String) : (s.write req r pc failedText).proven = s.proven := by
  cases r <;> rfl

/-- An UPDATE of the user that keeps the username changes the row as it says; it
fails only when there is no row. -/
theorem row_write_updateUsers (s : Sys X) (req : Nat) (pc : Pc) (failedText userID : String)
    (f : User → User) (hf : ∀ u, (f u).id = u.id) (hname : ∀ u, (f u).username = u.username) :
    (s.write req (s.accounts.updateUsers userID f hf) pc failedText).row userID
      = (s.row userID).map f := by
  cases hrow : s.row userID with
  | some u =>
      obtain ⟨hu, hid⟩ := Table.find?_eq_some_iff.mp hrow
      obtain ⟨b, hb⟩ : ∃ b, s.accounts.updateUsers userID f hf = .ok b :=
        Accounts.updateUsers_of_mem hname hu hid
      have hfind := Accounts.find?_updateUsers hb userID
      rw [hb]
      show b.users.find? userID = _
      rw [hfind, show s.accounts.users.find? userID = some u from hrow]
      simp [hid]
  | none =>
      cases hb : s.accounts.updateUsers userID f hf with
      | error e => exact hrow
      | ok b =>
          show b.users.find? userID = _
          rw [Accounts.find?_updateUsers hb userID,
            show s.accounts.users.find? userID = none from hrow]
          rfl

/-- `StoreUserTOTPSecret` sets the secret and takes the flag down. -/
theorem row_write_storeUserTOTPSecret (s : Sys X) (req : Nat) (pc : Pc)
    (failedText userID encrypted : String) :
    (s.write req (s.accounts.storeUserTOTPSecret userID encrypted) pc failedText).row userID
      = (s.row userID).map (User.storeTOTPSecret encrypted) :=
  row_write_updateUsers s req pc failedText userID (User.storeTOTPSecret encrypted)
    (fun _ => rfl) (fun _ => rfl)

/-- `EnableUserTOTP` raises the flag. -/
theorem row_write_enableUserTOTP (s : Sys X) (req : Nat) (pc : Pc)
    (failedText userID : String) (now : Nat) :
    (s.write req (s.accounts.enableUserTOTP userID now) pc failedText).row userID
      = (s.row userID).map (User.enableTOTP now) :=
  row_write_updateUsers s req pc failedText userID (User.enableTOTP now)
    (fun _ => rfl) (fun _ => rfl)

/-- `DisableUserTOTP` clears the row of the user. -/
theorem row_write_disableUserTOTP (s : Sys X) (req : Nat) (pc : Pc)
    (failedText userID : String) :
    (s.write req (s.accounts.disableUserTOTP userID) pc failedText).row userID
      = (s.row userID).map User.disableTOTP := by
  rw [← row_write_updateUsers s req pc failedText userID User.disableTOTP (fun _ => rfl)
    (fun _ => rfl)]
  unfold Accounts.disableUserTOTP
  cases s.accounts.updateUsers userID User.disableTOTP (fun _ => rfl) <;> rfl

/-- Replacing the recovery codes leaves the row alone. -/
theorem row_write_replaceCodes (s : Sys X) (req : Nat) (pc : Pc)
    (failedText userID : String) (hashes ids : List String) :
    (s.write req (s.accounts.replaceUserTOTPRecoveryCodes userID hashes ids) pc failedText).row
      userID = s.row userID := by
  cases h : s.accounts.replaceUserTOTPRecoveryCodes userID hashes ids with
  | error e => rfl
  | ok b =>
      show b.users.find? userID = s.accounts.users.find? userID
      rw [Accounts.replaceUserTOTPRecoveryCodes_users h]

/-- **Everything a step can do to the row**: one of three writes, or nothing;
what is proven stays proven. -/
theorem step_cases {userID : String} {s t : Sys X} {a : Action}
    (h : step userID s a = some t) :
    (∃ req encrypted, a = .storeSecret req encrypted ∧ t.proven = s.proven
        ∧ t.row userID = (s.row userID).map (User.storeTOTPSecret encrypted))
      ∨ (∃ req now, a = .enable req now ∧ t.proven = s.proven
        ∧ t.row userID = (s.row userID).map (User.enableTOTP now))
      ∨ (∃ req, a = .disableTOTP req ∧ t.proven = s.proven
        ∧ t.row userID = (s.row userID).map User.disableTOTP)
      ∨ ((∀ u : Sys X, WritesInOrder userID u a) ∧ ProvenGrows userID s t
        ∧ t.row userID = s.row userID) := by
  cases a with
  | storeSecret req encrypted =>
      simp only [step] at h
      split at h
      · injection h with h
        subst h
        exact .inl ⟨req, encrypted, rfl, by simp, row_write_storeUserTOTPSecret _ _ _ _ _ _⟩
      · exact absurd h (by simp)
  | enable req now =>
      simp only [step] at h
      split at h
      · injection h with h
        subst h
        exact .inr (.inl ⟨req, now, rfl, by simp, row_write_enableUserTOTP _ _ _ _ _ _⟩)
      · exact absurd h (by simp)
  | disableTOTP req =>
      simp only [step] at h
      split at h
      · injection h with h
        subst h
        exact .inr (.inr (.inl ⟨req, rfl, by simp, row_write_disableUserTOTP _ _ _ _ _⟩))
      · exact absurd h (by simp)
  | beginSetup req =>
      simp only [step] at h
      split at h
      · injection h with h
        subst h
        exact .inr (.inr (.inr ⟨fun _ => trivial, .of_eq (by simp), by simp⟩))
      · exact absurd h (by simp)
  | confirmSetup req code now =>
      simp only [step] at h
      split at h
      · split at h
        · next secret hcheck =>
            injection h with h
            subst h
            obtain ⟨c, _, hload, hv⟩ := confirmSetupCheck_ok hcheck
            exact .inr (.inr (.inr ⟨fun _ => trivial, .of_cons rfl hload hv, rfl⟩))
        · injection h with h
          subst h
          exact .inr (.inr (.inr ⟨fun _ => trivial, .of_eq (by simp), rfl⟩))
      · exact absurd h (by simp)
  | disable req body =>
      simp only [step] at h
      split at h
      · injection h with h
        subst h
        exact .inr (.inr (.inr ⟨fun _ => trivial, .of_eq (by simp), by simp⟩))
      · exact absurd h (by simp)
  | regenerate req code =>
      simp only [step] at h
      split at h
      · injection h with h
        subst h
        exact .inr (.inr (.inr ⟨fun _ => trivial, .of_eq (by simp), by simp⟩))
      · exact absurd h (by simp)
  | adminReset req =>
      simp only [step] at h
      split at h
      · injection h with h
        subst h
        exact .inr (.inr (.inr ⟨fun _ => trivial, .of_eq (by simp), by simp⟩))
      · exact absurd h (by simp)
  | loadSecret req now =>
      simp only [step] at h
      split at h
      · split at h
        · injection h with h
          subst h
          exact .inr (.inr (.inr ⟨fun _ => trivial, .of_eq (by simp), rfl⟩))
        · next secret hload =>
            split at h
            · next hv =>
                injection h with h
                subst h
                exact .inr (.inr (.inr ⟨fun _ => trivial, .of_cons rfl hload hv, rfl⟩))
            · split at h <;>
              · injection h with h
                subst h
                exact .inr (.inr (.inr ⟨fun _ => trivial, .of_eq (by simp), rfl⟩))
      · exact absurd h (by simp)
  | listCodes req rows =>
      simp only [step] at h
      split at h
      · split at h
        · split at h <;>
          · injection h with h
            subst h
            exact .inr (.inr (.inr ⟨fun _ => trivial, .of_eq (by simp), rfl⟩))
        · exact absurd h (by simp)
      · exact absurd h (by simp)
  | markCode req now =>
      simp only [step] at h
      split at h
      · injection h with h
        subst h
        exact .inr (.inr (.inr ⟨fun _ => trivial, .of_eq (by simp), rfl⟩))
      · exact absurd h (by simp)
  | replaceCodes req hashes ids =>
      simp only [step] at h
      split at h
      · split at h
        · injection h with h
          subst h
          exact .inr (.inr (.inr ⟨fun _ => trivial, .of_eq (by simp),
            row_write_replaceCodes _ _ _ _ _ _ _⟩))
        · exact absurd h (by simp)
      · exact absurd h (by simp)
  | fail req e =>
      simp only [step] at h
      split at h
      · exact absurd h (by simp)
      · exact absurd h (by simp)
      · injection h with h
        subst h
        exact .inr (.inr (.inr ⟨fun _ => trivial, .of_eq (by simp), rfl⟩))

/-- A secret becomes proven only in a state where a code was valid for the secret
of the row. -/
theorem proven_step {userID : String} {s t : Sys X} {a : Action}
    (h : step userID s a = some t) {secret : String} (hs : secret ∈ t.proven) :
    secret ∈ s.proven ∨ Submitted userID s secret := by
  rcases step_cases h with ⟨_, _, _, heq, _⟩ | ⟨_, _, _, heq, _⟩ | ⟨_, _, heq, _⟩
    | ⟨_, hgrows, _⟩
  · exact .inl (heq ▸ hs)
  · exact .inl (heq ▸ hs)
  · exact .inl (heq ▸ hs)
  · exact hgrows.2 secret hs

/-- **What proven means**: every proven secret was, in some state of the run, the
secret of the row with a code valid for it. -/
theorem proven_submitted {userID : String} {a : Accounts X} {t : Sys X}
    {tr : List (Sys X × Action)} (r : Exec (step userID) (start a) tr t) {secret : String}
    (hs : secret ∈ t.proven) : ∃ p ∈ tr, Submitted userID p.1 secret := by
  rcases r.arises (Z := fun s => secret ∈ s.proven) (Q := fun s _ => Submitted userID s secret)
      (fun _ _ _ h hs => proven_step h hs) hs with h | h
  · exact absurd h List.not_mem_nil
  · exact h

/-! ## §5. One step, and runs. -/

/-- **One step, exactly**: from a state where the armed factor is proven, a step
keeps it so and takes the flag down only by DisableUserTOTP if and only if it
writes in order. -/
theorem armedProven_step_iff {userID : String} {s t : Sys X} {a : Action}
    (hs : ArmedProven userID s) (h : step userID s a = some t) :
    (ArmedProven userID t ∧ DropsOnlyByDisable userID s a t) ↔ WritesInOrder userID s a := by
  rcases step_cases h with ⟨req, encrypted, rfl, -, hrow⟩ | ⟨req, now, rfl, hproven, hrow⟩
    | ⟨req, rfl, -, hrow⟩ | ⟨hC, hproven, hrow⟩
  · -- the flag is down afterwards: the drop is the only question
    have hdown : ¬ Armed userID t := by
      intro h
      obtain ⟨u, hu, hon⟩ := h
      rw [show t.accounts.getUserByID userID = t.row userID from rfl, hrow] at hu
      obtain ⟨v, _, rfl⟩ := Option.map_eq_some_iff.mp hu
      simp [User.storeTOTPSecret] at hon
    constructor
    · intro h hup
      obtain ⟨_, hdrop⟩ := h
      obtain ⟨q, hq⟩ := hdrop hup hdown
      exact absurd hq (by simp)
    · intro hC
      exact ⟨fun hup => absurd hup hdown, fun hup => absurd hup hC⟩
  · -- the flag is up afterwards: the proof of the secret is the only question
    have hup : ∀ u, s.row userID = some u → Armed userID t := by
      intro u hu
      refine ⟨u.enableTOTP now, ?_, rfl⟩
      rw [show t.accounts.getUserByID userID = t.row userID from rfl, hrow, hu]
      rfl
    have hsecret : SecretProven userID t ↔ SecretProven userID s := by
      unfold SecretProven
      rw [hproven, show t.accounts.getUserByID userID = t.row userID from rfl, hrow,
        show s.accounts.getUserByID userID = s.row userID from rfl]
      cases s.row userID <;> simp [User.enableTOTP]
    constructor
    · intro h u hu
      obtain ⟨hP, _⟩ := h
      exact hsecret.mp (hP (hup u hu)) u hu
    · intro hC
      refine ⟨fun _ => hsecret.mpr hC, fun ⟨u, hu, _⟩ hdown => ?_⟩
      exact absurd (hup u hu) hdown
  · have hdown : ¬ Armed userID t := by
      intro h
      obtain ⟨u, hu, hon⟩ := h
      rw [show t.accounts.getUserByID userID = t.row userID from rfl, hrow] at hu
      obtain ⟨v, _, rfl⟩ := Option.map_eq_some_iff.mp hu
      simp [User.disableTOTP] at hon
    exact ⟨fun _ => trivial, fun _ => ⟨fun hup => absurd hup hdown, fun _ _ => ⟨req, rfl⟩⟩⟩
  · -- the row is as it was
    have hsame : t.accounts.getUserByID userID = s.accounts.getUserByID userID := hrow
    refine ⟨fun _ => hC s, fun _ => ⟨fun hup => ?_, fun hup hdown => ?_⟩⟩
    · have hups : Armed userID s := by
        unfold Armed at hup ⊢
        rwa [hsame] at hup
      intro u hu
      rw [hsame] at hu
      obtain ⟨encrypted, secret, h1, h2, h3⟩ := hs hups u hu
      exact ⟨encrypted, secret, h1, h2, hproven.1 h3⟩
    · refine absurd ?_ hdown
      unfold Armed at hup ⊢
      rwa [hsame]

/-- **WHEN AN ARMED SECOND FACTOR IS A PROVEN ONE.**  Start from any tables in
which the user's flag is down.  In every interleaving of any number of BeginSetup,
ConfirmSetup, Disable, RegenerateRecoveryCodes and AdminReset requests of the user,
the flag is up only over a secret some request has submitted a valid code for, and
only DisableUserTOTP takes it down, if and only if every StoreUserTOTPSecret finds
the flag down and every EnableUserTOTP finds a proven secret. -/
theorem enrolment_sound_iff {userID : String} {a : Accounts X} {t : Sys X}
    {tr : List (Sys X × Action)} (r : Exec (step userID) (start a) tr t)
    (hdown : ∀ u, a.getUserByID userID = some u → u.totpEnabled = false) :
    ((∀ u ∈ visited tr t, ArmedProven userID u)
        ∧ ∀ p ∈ tr, ∀ u, step userID p.1 p.2 = some u → DropsOnlyByDisable userID p.1 p.2 u)
      ↔ ∀ p ∈ tr, WritesInOrder userID p.1 p.2 := by
  refine r.always_steps_iff (J := fun _ => True) (P := ArmedProven userID)
    (Q := DropsOnlyByDisable userID) (fun _ _ _ _ _ => trivial)
    (fun _ _ _ _ hP h => armedProven_step_iff hP h) trivial ?_
  intro h
  obtain ⟨u, hu, hup⟩ := h
  rw [hdown u hu] at hup
  exact absurd hup (by simp)

/-- A local user who has never enrolled. -/
def newUser : User where
  id := "u1"
  username := "alice"
  passwordHash := some "hash:secret"
  provider := .Local
  enabled := true
  notify := false
  role := .viewer
  firstName := none
  lastName := none
  email := none
  totpSecret := none
  totpEnabled := false
  totpEnrolledAt := none

/-- The table of that user, without recovery codes. -/
def newAccounts : Accounts plainExternals :=
  ⟨⟨[newUser], by decide⟩, by decide, Table.empty⟩

/-- Ten hashes of recovery codes. -/
def tenHashes : List String :=
  ["hash:A", "hash:B", "hash:C", "hash:D", "hash:E", "hash:F", "hash:G", "hash:H", "hash:I",
    "hash:J"]

/-- The ids of their rows. -/
def tenIDs : List String := ["c0", "c1", "c2", "c3", "c4", "c5", "c6", "c7", "c8", "c9"]

/-- Set up once, submit the code, and set up again before the flag is raised. -/
def setupDuringConfirm : List Action :=
  [.beginSetup 0, .storeSecret 0 "enc:S1",
    .confirmSetup 1 (some "code:S1") 100, .replaceCodes 1 tenHashes tenIDs,
    .beginSetup 2, .storeSecret 2 "enc:S2",
    .enable 1 101]

/-- **A second BeginSetup between the check and the write of ConfirmSetup arms a
secret nobody has proven.** -/
theorem confirm_arms_unproven_secret :
    ¬ ∀ (t : Sys plainExternals) (tr : List (Sys plainExternals × Action)),
        Exec (step "u1") (start newAccounts) tr t →
          (∀ u ∈ visited tr t, ArmedProven "u1" u)
          ∧ ∀ p ∈ tr, ∀ u, step "u1" p.1 p.2 = some u → DropsOnlyByDisable "u1" p.1 p.2 u := by
  intro hall
  have hrun : ∃ t, run (step "u1") (start newAccounts) setupDuringConfirm = some t
      ∧ t.accounts.getUserByID "u1" = some { newUser with
          totpSecret := some "enc:S2", totpEnabled := true, totpEnrolledAt := some 101 }
      ∧ t.proven = ["S1"] :=
    ⟨_, rfl, by decide, by decide⟩
  obtain ⟨t, hrun, hrow, hproven⟩ := hrun
  have harmed := (hall t _ (exec_traceFrom hrun)).1 t (last_mem_visited _ _)
  obtain ⟨encrypted, secret, h1, h2, h3⟩ := harmed ⟨_, hrow, rfl⟩ _ hrow
  rw [hproven, List.mem_singleton] at h3
  subst h3
  cases h1
  exact absurd h2 (by decide)

/-- The exact condition on that run. -/
theorem enrolment_sound_iff_newUser :
    ∃ t, run (step "u1") (start newAccounts) setupDuringConfirm = some t
      ∧ (((∀ u ∈ visited (traceFrom (step "u1") (start newAccounts) setupDuringConfirm) t,
              ArmedProven "u1" u)
            ∧ ∀ p ∈ traceFrom (step "u1") (start newAccounts) setupDuringConfirm,
                ∀ u, step "u1" p.1 p.2 = some u → DropsOnlyByDisable "u1" p.1 p.2 u)
          ↔ ∀ p ∈ traceFrom (step "u1") (start newAccounts) setupDuringConfirm,
              WritesInOrder "u1" p.1 p.2) := by
  refine ⟨_, rfl, ?_⟩
  exact enrolment_sound_iff (exec_traceFrom rfl) (by decide)

end TLSentinel.Users.Enrolment
