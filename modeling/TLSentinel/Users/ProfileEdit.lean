/-
  TLSentinel.Users.ProfileEdit
  ────────────────────────────
  **WHO DECIDES A USER'S NAME, ROLE AND PROVIDER.**

  These are not self-serviceable, says UpdateMe, and writes them back as it read
  them.  An admin's Update that commits between the read and the write is undone
  by the write: the user that was demoted is promoted again.

  `identity_respected_iff`: in a run of UpdateMe and Update requests the three
  columns hold, in every state reached, what the last accepted Update of the user
  wrote (or the initial values) if and only if every UpdateMe writes back what
  the row still has, or is refused because its username has been given away.
-/
import TLSentinel.Foundation.Registers
import TLSentinel.Users.Me

namespace TLSentinel.Users.ProfileEdit

open Foundation

variable {X : Externals}

/-! ## §1. The system. -/

/-- The columns that a user cannot change itself. -/
structure Identity where
  username : String
  role : Role
  provider : Provider
  deriving DecidableEq, Repr

/-- The identity columns of a row. -/
def identity (u : User) : Identity := ⟨u.username, u.role, u.provider⟩

/-- Where an UpdateMe request stands. -/
inductive UpdateMePc where
  | idle
  /-- The row is read and the body checked; the UPDATE comes next. -/
  | write (userID : String) (current : User) (req : UpdateMeRequest)
  | done (result : Except HttpError Unit)

/-- The accounts, and the UpdateMe requests in flight. -/
structure Sys (X : Externals) where
  accounts : Accounts X
  mes : Nat → UpdateMePc

/-- What can happen next. -/
inductive Action where
  | updateMeRead (req : Nat) (userID : String) (body : Option UpdateMeRequest)
  | updateMeWrite (req : Nat)
  | update (userID : String) (body : Option UpdateUserRequest)
  deriving DecidableEq, Repr

/-- One step; an Update that is answered with an error changes nothing. -/
def step (s : Sys X) : Action → Option (Sys X)
  | .updateMeRead req userID body =>
      match s.mes req with
      | .idle =>
          match updateMeCheck s.accounts userID body with
          | .ok (current, me) =>
              some { s with mes := Function.update s.mes req (.write userID current me) }
          | .error e => some { s with mes := Function.update s.mes req (.done (.error e)) }
      | _ => none
  | .updateMeWrite req =>
      match s.mes req with
      | .write userID current me =>
          match updateMeWrite s.accounts userID current me with
          | .ok accounts =>
              some { accounts := accounts, mes := Function.update s.mes req (.done (.ok ())) }
          | .error e => some { s with mes := Function.update s.mes req (.done (.error e)) }
      | _ => none
  | .update userID body =>
      match update s.accounts userID body with
      | .ok accounts => some { s with accounts := accounts }
      | .error _ => some s

/-- **The steps of one UpdateMe request, run alone, are `Handler.UpdateMe`.** -/
theorem run_updateMe {s : Sys X} {req : Nat} (userID : String) (body : Option UpdateMeRequest)
    (hidle : s.mes req = .idle) :
    ∃ as t, run step s as = some t ∧
      match updateMe s.accounts userID body with
      | .ok accounts => t.accounts = accounts ∧ t.mes req = .done (.ok ())
      | .error e => t.accounts = s.accounts ∧ t.mes req = .done (.error e) := by
  unfold updateMe
  cases hcheck : updateMeCheck s.accounts userID body with
  | error e =>
      exact ⟨[.updateMeRead req userID body], _, by simp [run, step, hidle, hcheck]; rfl, by simp⟩
  | ok r =>
      obtain ⟨current, me⟩ := r
      cases hwrite : updateMeWrite s.accounts userID current me with
      | error e =>
          exact ⟨[.updateMeRead req userID body, .updateMeWrite req], _,
            by simp [run, step, hidle, hcheck, hwrite]; rfl, by simp [hwrite]⟩
      | ok accounts =>
          exact ⟨[.updateMeRead req userID body, .updateMeWrite req], _,
            by simp [run, step, hidle, hcheck, hwrite]; rfl, by simp [hwrite]⟩

/-! ## §2. The identity of one user as a register. -/

/-- The identity columns of the user's row. -/
def identityOf (userID : String) (s : Sys X) : Option Identity :=
  (s.accounts.users.find? userID).map identity

/-- The identity that an Update request asks for. -/
def requested (req : UpdateUserRequest) : Option Identity :=
  match validRoles req.role,
    validProviders (if req.provider = "" then "local" else req.provider) with
  | some role, some provider => some ⟨normalizeUsername req.username, role, provider⟩
  | _, _ => none

/-- What an accepted Update of the user names, whose path may write the id in any form; no
other step names anything. -/
def written (userID : String) (p : Sys X × Action) : Option (Option Identity) :=
  match p.2 with
  | .update id body =>
      if X.uuid id = some userID then
        match update p.1.accounts id body with
        | .ok _ => some (body.bind requested)
        | .error _ => none
      else none
  | _ => none

/-- The condition on one step, in the state it finds: an UpdateMe of the user that is about
to write has a snapshot whose identity the row still has, or a username that another user
has taken since. -/
def UpToDate (userID : String) (s : Sys X) : Action → Prop
  | .updateMeWrite req =>
      match s.mes req with
      | .write id current _ =>
          id = userID → s.accounts.Taken userID current.username ∨
            ∀ u ∈ s.accounts.users, u.id = userID → identity u = identity current
      | _ => True
  | _ => True

/-- UpdateUser writes the identity it is given, and to that user alone. -/
theorem identity_updateUser {a b : Accounts X} {id username : String} {role : Role}
    {provider : Provider} {notify : Bool} {firstName lastName email : Option String}
    (h : a.updateUser id username role provider notify firstName lastName email = .ok b)
    (userID : String) :
    (b.users.find? userID).map identity =
      if id = userID then some ⟨username, role, provider⟩
      else (a.users.find? userID).map identity := by
  rw [Accounts.find?_updateUsers h userID]
  by_cases hid : id = userID
  · subst hid
    obtain ⟨u, hu, huid⟩ := (Accounts.updateUsers_cases h).1
    have hrow : a.users.find? id = some u := Table.find?_eq_some_iff.mpr ⟨hu, huid⟩
    simp [hrow, huid, identity]
  · rw [if_neg hid]
    cases hrow : a.users.find? userID with
    | none => rfl
    | some u =>
        have huid : u.id = userID := Table.key_of_find? hrow
        have hne : ¬ userID = id := fun heq => hid heq.symm
        simp [huid, hne]

/-- An accepted Update writes what it asked for. -/
theorem identity_update {a b : Accounts X} {id : String} {body : Option UpdateUserRequest}
    (h : update a id body = .ok b) (userID : String) :
    (b.users.find? userID).map identity =
      if X.uuid id = some userID then body.bind requested
      else (a.users.find? userID).map identity := by
  obtain ⟨req, role, provider, target, hbody, hrole, hprovider, htarget, hok⟩ := update_ok h
  rw [identity_updateUser hok]
  simp [hbody, requested, hrole, hprovider, htarget]

/-- An accepted write of an UpdateMe writes the identity of its snapshot. -/
theorem identity_updateMeWrite {a b : Accounts X} {id : String} {current : User}
    {me : UpdateMeRequest} (h : updateMeWrite a id current me = .ok b) (userID : String) :
    (b.users.find? userID).map identity =
      if id = userID then some (identity current) else (a.users.find? userID).map identity :=
  identity_updateUser (storeResponse_eq_ok.mp h) userID

/-- The write of an UpdateMe is refused for a username that is taken, or without a row. -/
theorem updateMeWrite_refused {a : Accounts X} {id : String} {current : User}
    {me : UpdateMeRequest} {e : HttpError} (h : updateMeWrite a id current me = .error e) :
    a.Taken id current.username ∨ ∀ u ∈ a.users, u.id ≠ id := by
  by_contra hno
  obtain ⟨hfree, hrow⟩ := not_or.mp hno
  have hexists : ∃ u ∈ a.users, u.id = id := by
    by_contra hnone
    exact hrow fun u hu hid => hnone ⟨u, hu, hid⟩
  obtain ⟨b, hb⟩ : ∃ b, a.updateUser id current.username current.role current.provider
      me.notify me.firstName me.lastName me.email = .ok b :=
    Accounts.updateUser_isOk_iff.mpr ⟨hexists, hfree⟩
  rw [updateMeWrite, hb, storeResponse] at h
  exact absurd h (by simp)

/-! ## §3. One step. -/

/-- Everything a step can do. -/
inductive Effect (s : Sys X) : Action → Sys X → Prop
  /-- Reading changes no account. -/
  | read {req : Nat} {id : String} {body : Option UpdateMeRequest} {pc : UpdateMePc} :
      Effect s (.updateMeRead req id body) { s with mes := Function.update s.mes req pc }
  | write {req : Nat} {id : String} {current : User} {me : UpdateMeRequest} {b : Accounts X} :
      s.mes req = .write id current me → updateMeWrite s.accounts id current me = .ok b →
      Effect s (.updateMeWrite req)
        { accounts := b, mes := Function.update s.mes req (.done (.ok ())) }
  | writeRefused {req : Nat} {id : String} {current : User} {me : UpdateMeRequest}
      {e : HttpError} :
      s.mes req = .write id current me → updateMeWrite s.accounts id current me = .error e →
      Effect s (.updateMeWrite req) { s with mes := Function.update s.mes req (.done (.error e)) }
  | update {id : String} {body : Option UpdateUserRequest} {b : Accounts X} :
      update s.accounts id body = .ok b → Effect s (.update id body) { s with accounts := b }
  | updateRefused {id : String} {body : Option UpdateUserRequest} {e : HttpError} :
      update s.accounts id body = .error e → Effect s (.update id body) s

/-- **A step has one of these effects.** -/
theorem step_cases {s t : Sys X} {a : Action} (h : step s a = some t) : Effect s a t := by
  cases a with
  | updateMeRead req id body =>
      simp only [step] at h
      split at h
      · split at h
        · exact Option.some.inj h ▸ .read
        · exact Option.some.inj h ▸ .read
      · exact absurd h (by simp)
  | updateMeWrite req =>
      simp only [step] at h
      split at h
      · next hpc =>
          split at h
          · next hok => exact Option.some.inj h ▸ .write hpc hok
          · next herror => exact Option.some.inj h ▸ .writeRefused hpc herror
      · exact absurd h (by simp)
  | update id body =>
      simp only [step] at h
      split at h
      · next hok => exact Option.some.inj h ▸ .update hok
      · next herror => exact Option.some.inj h ▸ .updateRefused herror

/-- An accepted write of an UpdateMe keeps the identity exactly if the row has that of the
snapshot. -/
theorem identity_updateMeWrite_iff {a b : Accounts X} {id : String} {current : User}
    {me : UpdateMeRequest} (h : updateMeWrite a id current me = .ok b) (userID : String) :
    (b.users.find? userID).map identity = (a.users.find? userID).map identity ↔
      (id = userID → a.Taken userID current.username ∨
        ∀ u ∈ a.users, u.id = userID → identity u = identity current) := by
  rw [identity_updateMeWrite h]
  by_cases hid : id = userID
  · subst hid
    obtain ⟨⟨u, hu, huid⟩, hfree⟩ : (∃ u ∈ a.users, u.id = id) ∧ ¬ a.Taken id current.username :=
      Accounts.updateUser_isOk_iff.mp ⟨b, storeResponse_eq_ok.mp h⟩
    have hrow : a.users.find? id = some u := Table.find?_eq_some_iff.mpr ⟨hu, huid⟩
    rw [if_pos rfl, hrow, Option.map_some, Option.some.injEq]
    constructor
    · intro heq _
      refine .inr fun v hv hvid => ?_
      rw [Table.eq_of_key hv hu (hvid.trans huid.symm), heq]
    · intro hcond
      rcases hcond rfl with htaken | hall
      · exact absurd htaken hfree
      · exact (hall u hu huid).symm
  · simp [hid]

/-- **One step, exactly**: the identity of the user is what the step names, or what it was,
if and only if the step is up to date. -/
theorem identityOf_step_iff {userID : String} {s t : Sys X} {a : Action}
    (h : step s a = some t) :
    identityOf userID t = (written userID (s, a)).getD (identityOf userID s) ↔
      UpToDate userID s a := by
  cases step_cases h with
  | read => simp [identityOf, written, UpToDate]
  | write hpc hok =>
      simp only [UpToDate, hpc]
      exact identity_updateMeWrite_iff hok userID
  | @writeRefused req id current me e hpc herror =>
      simp only [UpToDate, hpc]
      refine ⟨fun _ hid => ?_, fun _ => rfl⟩
      subst hid
      rcases updateMeWrite_refused herror with htaken | hnone
      · exact .inl htaken
      · exact .inr fun u hu hid => absurd hid (hnone u hu)
  | @update id body b hok =>
      simp only [UpToDate, iff_true, written, hok]
      show (b.users.find? userID).map identity = _
      rw [identity_update hok]
      by_cases hid : X.uuid id = some userID
      · rw [if_pos hid, if_pos hid, Option.getD_some]
      · rw [if_neg hid, if_neg hid]
        rfl
  | updateRefused herror => simp [UpToDate, written, herror]

/-! ## §4. Runs. -/

/-- **WHEN SELF-SERVICE LEAVES THE IDENTITY ALONE.**  In a run of UpdateMe and Update
requests, any number of them in flight, the user's username, role and provider are in every
state reached those of the last accepted Update, or the initial ones, if and only if every
write of an UpdateMe finds them as it read them, or is refused. -/
theorem identity_respected_iff (userID : String) {start t : Sys X}
    {tr : List (Sys X × Action)} (e : Exec step start tr t) :
    Respects step (identityOf userID) (written userID) start tr ↔
      ∀ p ∈ tr, UpToDate userID p.1 p.2 :=
  e.respects_iff (J := fun _ => True) (fun _ _ _ _ _ => trivial)
    (fun _ _ _ _ h => identityOf_step_iff h) trivial

/-- One user, an admin. -/
def alice : User :=
  ⟨"u1", "alice", some "hash:pw", .Local, true, false, .admin, none, none, none, none, false,
    none⟩

/-- The system with that user and no request in flight. -/
def oneAdmin : Sys plainExternals where
  accounts := ⟨⟨[alice], by decide⟩, by decide, Table.empty⟩
  mes := fun _ => .idle

/-- Alice edits her profile; in between she is demoted. -/
def demotedMeanwhile : List Action :=
  [.updateMeRead 0 "u1" (some ⟨true, none, none, none⟩),
    .update "u1" (some ⟨"alice", "viewer", "local", false, none, none, none⟩),
    .updateMeWrite 0]

/-- The exact condition on a concrete run: it fails for the write after the demotion. -/
theorem identity_respected_iff_demoted :
    ∃ t, run step oneAdmin demotedMeanwhile = some t ∧
      (Respects step (identityOf "u1") (written "u1") oneAdmin
          (traceFrom step oneAdmin demotedMeanwhile) ↔
        ∀ p ∈ traceFrom step oneAdmin demotedMeanwhile, UpToDate "u1" p.1 p.2) := by
  refine ⟨_, rfl, ?_⟩
  exact identity_respected_iff "u1" (exec_traceFrom rfl)

/-- **A demoted admin promotes herself again**, by an edit of her profile that was under way
when she was demoted. -/
theorem profile_edit_undoes_demotion :
    ¬ ∀ (t : Sys plainExternals) (tr : List (Sys plainExternals × Action)),
        Exec step oneAdmin tr t → Respects step (identityOf "u1") (written "u1") oneAdmin tr := by
  intro hall
  have hrun : ∃ t, run step oneAdmin demotedMeanwhile = some t ∧
      identityOf "u1" t = some ⟨"alice", .admin, .Local⟩ ∧
      lastNamed (written "u1") (identityOf "u1" oneAdmin)
        (traceFrom step oneAdmin demotedMeanwhile) = some ⟨"alice", .viewer, .Local⟩ :=
    ⟨_, rfl, by decide, by decide⟩
  obtain ⟨t, hrun, hfinal, hlast⟩ := hrun
  have hresp := hall t _ (exec_traceFrom hrun) _ [] t (List.append_nil _).symm
    (exec_traceFrom hrun)
  rw [hfinal, hlast] at hresp
  exact absurd hresp (by decide)

end TLSentinel.Users.ProfileEdit
