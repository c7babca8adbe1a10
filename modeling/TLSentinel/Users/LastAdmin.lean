/-
  TLSentinel.Users.LastAdmin
  ──────────────────────────
  **WHEN AN ENABLED ADMIN REMAINS.**

  Three requests of `internal/users/handler.go` can take an enabled admin away:

      Update      rewrites the role, with no guard;
      SetEnabled  clears the flag, guarded against the caller's own account;
      Delete      guarded against the caller's own account and by a count of
                  the admin rows, which does not look at the enabled flag and is
                  a statement of its own, before the one that deletes.

  The guards against the own account compare the path with the caller's id as texts,
  the statements compare uuids: the own id in upper case passes the guards.

  `enabled_admin_remains_iff`: a run of these requests keeps an enabled admin
  exactly if no step takes it from the only one.
-/
import TLSentinel.Foundation.Runs
import TLSentinel.Users.Handlers

namespace TLSentinel.Users.LastAdmin

open Foundation

variable {X : Externals}

/-! ## §1. The system. -/

/-- The accounts, the ids of the users that authenticated as admins, and the
Delete requests in flight. -/
structure Sys (X : Externals) where
  accounts : Accounts X
  sessions : List String
  deletes : Nat → DeletePc

/-- What can happen next. -/
inductive Action where
  /-- An enabled admin obtains a session or presents an API key. -/
  | authenticate (userID : String)
  | update (caller userID : String) (body : Option UpdateUserRequest)
  | setEnabled (caller userID : String) (body : Option SetEnabledRequest)
  | deleteBegin (req : Nat) (caller userID : String)
  | deleteCount (req : Nat)
  | deleteCommit (req : Nat)

/-- One step.  Only authenticated admins make requests (`users:edit`); an Update
or SetEnabled that is answered with an error changes nothing and is no step. -/
def step (s : Sys X) : Action → Option (Sys X)
  | .authenticate userID =>
      match s.accounts.getUserByID userID with
      | some u =>
          if u.enabled = true ∧ u.role = .admin then
            some { s with sessions := userID :: s.sessions }
          else none
      | none => none
  | .update caller userID body =>
      if caller ∈ s.sessions then
        match update s.accounts userID body with
        | .ok accounts => some { s with accounts := accounts }
        | .error _ => none
      else none
  | .setEnabled caller userID body =>
      if caller ∈ s.sessions then
        match setEnabled s.accounts caller userID body with
        | .ok accounts => some { s with accounts := accounts }
        | .error _ => none
      else none
  | .deleteBegin req caller userID =>
      match s.deletes req with
      | .idle =>
          if caller ∈ s.sessions then
            some { s with
              deletes := Function.update s.deletes req (deleteBegin s.accounts caller userID) }
          else none
      | _ => none
  | .deleteCount req =>
      match s.deletes req with
      | .count userID =>
          some { s with
            deletes := Function.update s.deletes req (deleteCount s.accounts userID) }
      | _ => none
  | .deleteCommit req =>
      match s.deletes req with
      | .delete userID =>
          match deleteCommit s.accounts userID with
          | .ok accounts =>
              some { s with
                accounts := accounts
                deletes := Function.update s.deletes req (.done (.ok ())) }
          | .error e =>
              some { s with deletes := Function.update s.deletes req (.done (.error e)) }
      | _ => none

/-- **The steps of one Delete request, run alone, are `Handler.Delete`.** -/
theorem run_delete {s : Sys X} {req : Nat} {caller : String} (userID : String)
    (hidle : s.deletes req = .idle) (hcaller : caller ∈ s.sessions) :
    ∃ as t, run step s as = some t ∧
      match delete s.accounts caller userID with
      | .ok accounts => t.accounts = accounts ∧ t.deletes req = .done (.ok ())
      | .error e => t.accounts = s.accounts ∧ t.deletes req = .done (.error e) := by
  by_cases hown : caller = userID
  · -- the guard refuses the own id as the caller's token has it
    exact ⟨[.deleteBegin req caller userID], _,
      by simp [run, step, hidle, hcaller]; rfl, by simp [delete, deleteBegin, hown]⟩
  · cases hid : X.uuid userID with
    | none =>
        exact ⟨[.deleteBegin req caller userID], _,
          by simp [run, step, hidle, hcaller]; rfl, by simp [delete, deleteBegin, hown, hid]⟩
    | some id =>
        cases htarget : s.accounts.getUserByID id with
        | none =>
            exact ⟨[.deleteBegin req caller userID], _,
              by simp [run, step, hidle, hcaller]; rfl,
              by simp [delete, deleteBegin, hown, hid, htarget]⟩
        | some target =>
            by_cases hrole : target.role = .admin
            · by_cases hcount : s.accounts.countAdminUsers ≤ 1
              · exact ⟨[.deleteBegin req caller userID, .deleteCount req], _,
                  by simp [run, step, hidle, hcaller, deleteBegin, hown, hid, htarget, hrole]; rfl,
                  by simp [delete, deleteBegin, deleteCount, hown, hid, htarget, hrole, hcount]⟩
              · cases hcommit : deleteCommit s.accounts id <;>
                  exact ⟨[.deleteBegin req caller userID, .deleteCount req, .deleteCommit req], _,
                    by simp [run, step, hidle, hcaller, deleteBegin, deleteCount, hown, hid,
                      htarget, hrole, hcount, hcommit]; rfl,
                    by simp [delete, deleteBegin, deleteCount, hown, hid, htarget, hrole, hcount,
                      hcommit]⟩
            · cases hcommit : deleteCommit s.accounts id <;>
                exact ⟨[.deleteBegin req caller userID, .deleteCommit req], _,
                  by simp [run, step, hidle, hcaller, deleteBegin, hown, hid, htarget, hrole,
                    hcommit]; rfl,
                  by simp [delete, deleteBegin, hown, hid, htarget, hrole, hcommit]⟩

/-! ## §2. The property and the condition. -/

/-- **The property**: somebody can still administer the server. -/
def HasEnabledAdmin (s : Sys X) : Prop := ∃ u ∈ s.accounts.users, u.isEnabledAdmin

/-- Whose admin role, enabled flag or account the step takes away: the user that the path
names, however it is written. -/
def strips (s : Sys X) : Action → Option String
  | .update _ userID (some req) =>
      if validRoles req.role = some .admin then none else X.uuid userID
  | .setEnabled _ userID (some req) => if req.enabled then none else X.uuid userID
  | .deleteCommit req =>
      match s.deletes req with
      | .delete id => some id
      | _ => none
  | _ => none

/-- **The condition on a step**: the user it strips is not the only enabled
admin. -/
def SparesLastAdmin (s : Sys X) (a : Action) : Prop :=
  ∀ id, strips s a = some id → ∃ u ∈ s.accounts.users, u.isEnabledAdmin ∧ u.id ≠ id

/-! ## §3. One step. -/

/-- An update of one user that keeps an enabled admin an enabled admin keeps the
property. -/
theorem exists_enabledAdmin_update {a b : Accounts X} {userID : String} {f : User → User}
    {hf : ∀ u, (f u).id = u.id} (h : a.updateUsers userID f hf = .ok b)
    (hkeep : ∀ u, u.isEnabledAdmin → (f u).isEnabledAdmin)
    (ha : ∃ u ∈ a.users, u.isEnabledAdmin) : ∃ u ∈ b.users, u.isEnabledAdmin := by
  obtain ⟨_, hb, _⟩ := Accounts.updateUsers_cases h
  obtain ⟨u, hu, hadmin⟩ := ha
  rw [hb, Table.exists_mem_update]
  refine ⟨u, hu, ?_⟩
  by_cases hid : u.id = userID
  · simpa [hid] using hkeep u hadmin
  · simpa [hid] using hadmin

/-- An update that makes its target no enabled admin leaves the others. -/
theorem exists_enabledAdmin_update_iff {a b : Accounts X} {userID : String}
    {f : User → User} {hf : ∀ u, (f u).id = u.id}
    (h : a.updateUsers userID f hf = .ok b) (hstrip : ∀ u, ¬ (f u).isEnabledAdmin) :
    (∃ u ∈ b.users, u.isEnabledAdmin)
      ↔ ∃ u ∈ a.users, u.isEnabledAdmin ∧ u.id ≠ userID := by
  obtain ⟨_, hb, _⟩ := Accounts.updateUsers_cases h
  rw [hb, Table.exists_mem_update]
  apply exists_congr
  intro u
  by_cases hid : u.id = userID <;> simp [hid, hstrip]

/-- A condition about no user is met. -/
theorem sparesLastAdmin_of_none {s : Sys X} {a : Action} (h : strips s a = none) :
    SparesLastAdmin s a := by
  intro userID hs
  rw [h] at hs
  exact absurd hs (by simp)

/-- A condition about one user. -/
theorem sparesLastAdmin_of_some {s : Sys X} {a : Action} {id : String}
    (h : strips s a = some id) :
    SparesLastAdmin s a ↔ ∃ u ∈ s.accounts.users, u.isEnabledAdmin ∧ u.id ≠ id := by
  simp [SparesLastAdmin, h]

/-- Everything a step can do, seen from the accounts. -/
inductive Effect (s : Sys X) : Action → Sys X → Prop
  /-- Nothing to the accounts. -/
  | quiet {a : Action} {t : Sys X} : strips s a = none → t.accounts = s.accounts → Effect s a t
  | update {caller userID : String} {body : Option UpdateUserRequest} {b : Accounts X} :
      update s.accounts userID body = .ok b →
      Effect s (.update caller userID body) { s with accounts := b }
  | setEnabled {caller userID : String} {body : Option SetEnabledRequest} {b : Accounts X} :
      setEnabled s.accounts caller userID body = .ok b →
      Effect s (.setEnabled caller userID body) { s with accounts := b }
  | delete {req : Nat} {userID : String} {t : Sys X} : s.deletes req = .delete userID →
      deleteCommit s.accounts userID = .ok t.accounts → Effect s (.deleteCommit req) t
  | deleteFails {req : Nat} {userID : String} {e : HttpError} {t : Sys X} :
      s.deletes req = .delete userID → deleteCommit s.accounts userID = .error e →
      t.accounts = s.accounts → Effect s (.deleteCommit req) t

/-- **A step has one of these effects.** -/
theorem step_cases {s t : Sys X} {a : Action} (h : step s a = some t) : Effect s a t := by
  cases a with
  | authenticate userID =>
      simp only [step] at h
      split at h
      · split at h
        · exact Option.some.inj h ▸ .quiet rfl rfl
        · exact absurd h (by simp)
      · exact absurd h (by simp)
  | update caller userID body =>
      simp only [step] at h
      split at h
      · split at h
        · next hok => exact Option.some.inj h ▸ .update hok
        · exact absurd h (by simp)
      · exact absurd h (by simp)
  | setEnabled caller userID body =>
      simp only [step] at h
      split at h
      · split at h
        · next hok => exact Option.some.inj h ▸ .setEnabled hok
        · exact absurd h (by simp)
      · exact absurd h (by simp)
  | deleteBegin req caller userID =>
      simp only [step] at h
      split at h
      · split at h
        · exact Option.some.inj h ▸ .quiet rfl rfl
        · exact absurd h (by simp)
      · exact absurd h (by simp)
  | deleteCount req =>
      simp only [step] at h
      split at h
      · exact Option.some.inj h ▸ .quiet rfl rfl
      · exact absurd h (by simp)
  | deleteCommit req =>
      simp only [step] at h
      split at h
      · next hpc =>
          split at h
          · next hok => exact Option.some.inj h ▸ .delete hpc hok
          · next herror => exact Option.some.inj h ▸ .deleteFails hpc herror rfl
      · exact absurd h (by simp)

/-- **One step, exactly**: from a state with an enabled admin, a step leaves one
if and only if it spares the last one. -/
theorem hasEnabledAdmin_step_iff {s t : Sys X} {a : Action} (hs : HasEnabledAdmin s)
    (h : step s a = some t) : HasEnabledAdmin t ↔ SparesLastAdmin s a := by
  -- a step that strips nobody and keeps an enabled admin
  have keep : strips s a = none → HasEnabledAdmin t →
      (HasEnabledAdmin t ↔ SparesLastAdmin s a) := fun hnone ht =>
    ⟨fun _ => sparesLastAdmin_of_none hnone, fun _ => ht⟩
  cases step_cases h with
  | quiet hnone hsame => exact keep hnone (by rw [HasEnabledAdmin, hsame]; exact hs)
  | @update caller userID body b hok =>
      obtain ⟨req, role, provider, id, rfl, hrole, _, hid, hupd⟩ := update_ok hok
      -- an Update strips its target exactly if the new role is another one
      by_cases hr : role = .admin
      · exact keep (by simp [strips, hrole, hr]) (exists_enabledAdmin_update hupd
          (fun u hu => ⟨hu.1, hr⟩) hs)
      · have hsome : strips s (.update caller userID (some req)) = some id := by
          simp [strips, hrole, hr, hid]
        rw [sparesLastAdmin_of_some hsome]
        exact exists_enabledAdmin_update_iff hupd (fun u hu => hr hu.2)
  | @setEnabled caller userID body b hok =>
      obtain ⟨req, id, rfl, hid, hupd⟩ := setEnabled_ok hok
      cases he : req.enabled with
      | true =>
          exact keep (by simp [strips, he]) (exists_enabledAdmin_update hupd
            (fun u hu => ⟨by simpa using he, hu.2⟩) hs)
      | false =>
          have hsome : strips s (.setEnabled caller userID (some req)) = some id := by
            simp [strips, he, hid]
          rw [sparesLastAdmin_of_some hsome]
          exact exists_enabledAdmin_update_iff hupd (fun u hu => by simpa [he] using hu.1)
  | @delete req userID t hpc hok =>
      have hsome : strips s (.deleteCommit req) = some userID := by simp [strips, hpc]
      obtain ⟨_, husers, _⟩ := Accounts.deleteUser_cases (storeResponse_eq_ok.mp hok)
      rw [sparesLastAdmin_of_some hsome, HasEnabledAdmin, husers]
      apply exists_congr
      intro u
      simp only [Table.mem_delete, decide_eq_false_iff_not]
      tauto
  | @deleteFails req userID e t hpc herror hsame =>
      -- the DELETE found no row: nothing changed, and the target is no admin
      have hsome : strips s (.deleteCommit req) = some userID := by simp [strips, hpc]
      rw [sparesLastAdmin_of_some hsome, HasEnabledAdmin, hsame]
      constructor
      · intro h
        obtain ⟨u, hu, hadmin⟩ := h
        exact ⟨u, hu, hadmin, deleteCommit_error herror u hu⟩
      · intro h
        obtain ⟨u, hu, hadmin, _⟩ := h
        exact ⟨u, hu, hadmin⟩

/-! ## §4. Runs. -/

/-- **WHEN AN ENABLED ADMIN REMAINS.**  From every state with an enabled admin,
a run of Update, SetEnabled and (three-step) Delete requests of authenticated
admins, interleaved in any way, passes only through states with an enabled admin
if and only if every step spares the last one. -/
theorem enabled_admin_remains_iff {s t : Sys X} {tr : List (Sys X × Action)}
    (r : Exec step s tr t) (hs : HasEnabledAdmin s) :
    (∀ u ∈ visited tr t, HasEnabledAdmin u) ↔ ∀ p ∈ tr, SparesLastAdmin p.1 p.2 :=
  r.always_iff (J := fun _ => True) (fun _ _ _ _ _ => trivial)
    (fun _ _ _ _ hP h => hasEnabledAdmin_step_iff hP h) trivial hs

/-- The user that bootstrap creates. -/
def bootstrapAdmin : User where
  id := "0198c6a2-5d1e-7b3f-9a40-2f6e8c1b7d55"
  username := "admin"
  passwordHash := some "hash:secret"
  provider := .Local
  enabled := true
  notify := false
  role := .admin
  firstName := none
  lastName := none
  email := none
  totpSecret := none
  totpEnabled := false
  totpEnrolledAt := none

/-- A server whose only user is that admin. -/
def bootstrapSys : Sys plainExternals where
  accounts := ⟨⟨[bootstrapAdmin], by decide⟩, by decide, Table.empty⟩
  sessions := []
  deletes := fun _ => .idle

/-- The admin signs in and rewrites the own role. -/
def demoteSelf : List Action :=
  [.authenticate bootstrapAdmin.id,
    .update bootstrapAdmin.id bootstrapAdmin.id
      (some ⟨"admin", "viewer", "local", false, none, none, none⟩)]

/-- **The only admin can demote itself**: Update has no guard. -/
theorem sole_admin_demotes_itself :
    ¬ ∀ (t : Sys plainExternals) (tr : List (Sys plainExternals × Action)),
        Exec step bootstrapSys tr t → ∀ u ∈ visited tr t, HasEnabledAdmin u := by
  intro hall
  have hrun : ∃ t, run step bootstrapSys demoteSelf = some t
      ∧ t.accounts.users.rows = [{ bootstrapAdmin with role := .viewer }] :=
    ⟨_, rfl, by decide⟩
  obtain ⟨t, hrun, hrows⟩ := hrun
  obtain ⟨u, hu, hadmin⟩ := hall t _ (exec_traceFrom hrun) t (last_mem_visited _ _)
  rw [Table.mem_def, hrows, List.mem_singleton] at hu
  subst hu
  exact absurd hadmin.2 (by decide)

/-- The admin signs in, is refused to disable the own account, and disables it under its id
in upper case. -/
def disableSelf : List Action :=
  [.authenticate bootstrapAdmin.id,
    .setEnabled bootstrapAdmin.id "0198C6A2-5D1E-7B3F-9A40-2F6E8C1B7D55" (some ⟨false⟩)]

/-- The exact condition on that run, which leaves no enabled admin. -/
theorem enabled_admin_remains_iff_disableSelf :
    setEnabled bootstrapSys.accounts bootstrapAdmin.id bootstrapAdmin.id (some ⟨false⟩) =
        .error ⟨409, "cannot disable your own account"⟩ ∧
      ∃ t, run step bootstrapSys disableSelf = some t
        ∧ t.accounts.users.rows = [{ bootstrapAdmin with enabled := false }]
        ∧ ((∀ u ∈ visited (traceFrom step bootstrapSys disableSelf) t, HasEnabledAdmin u)
            ↔ ∀ p ∈ traceFrom step bootstrapSys disableSelf, SparesLastAdmin p.1 p.2) := by
  refine ⟨rfl, _, rfl, by decide, ?_⟩
  exact enabled_admin_remains_iff (exec_traceFrom rfl)
    ⟨bootstrapAdmin, List.mem_singleton_self _, rfl, rfl⟩

end TLSentinel.Users.LastAdmin
