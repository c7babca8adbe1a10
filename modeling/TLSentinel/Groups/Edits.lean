/-
  TLSentinel.Groups.Edits
  ───────────────────────
  **CREATING AND UPDATING A GROUP WITH ITS MEMBERS.**

  `Create` and `Update` of `internal/groups/handler.go` write the group row and the
  members in two steps that do not share a transaction: when the second fails, the first
  stays.  It fails for every non-empty list of members (`replaceGroupHosts_isOk_iff`).  The
  group's id in the path is a canonical uuid text.

  Main results:
    * `replacesHosts_iff`       — when ReplaceGroupHosts replaces the members;
    * `create_allOrNothing_iff`, `update_allOrNothing_iff` — when a request that fails
                                  leaves no trace;
    * `groupEdits_iff`          — the three together.
-/
import TLSentinel.Base
import TLSentinel.Groups.Store

namespace TLSentinel.Groups

open Foundation
open TLSentinel.Tags (StoreError)

/-! ## §1. The handlers. -/

/-- `CreateGroupRequest` and `UpdateGroupRequest`. -/
structure GroupRequest where
  name : String
  description : Option String
  hostIDs : List String
  deriving DecidableEq, Repr

/-- `GetGroupByID`. -/
def DB.getGroupByID (up : Up) (id : String) (db : DB) : Except StoreError Group :=
  if up.getGroup then
    match db.groups.find? id with
    | none => .error .notFound
    | some g => .ok g
  else .error .failed

/-- `UpdateGroup`: the UPDATE, and the row read back. -/
def DB.updateGroup (up : Up) (id : String) (now : Int) (name : String)
    (description : Option String) (db : DB) : DB × Except StoreError Group :=
  match db.updateGroupRow up id now name description with
  | none => (db, .error .failed)
  | some (db', n) => if n = 0 then (db', .error .notFound) else (db', db'.getGroupByID up id)

/-- What a request answers once the members are replaced. -/
def hostsResponse (failedText : String) (g : Group) :
    Except ReplaceError Unit × DB → DB × Except HttpError Group
  | (.ok _, db) => (db, .ok g)
  | (.error .invalidInput, db) => (db, .error ⟨400, "one or more host ids are invalid"⟩)
  | (.error _, db) => (db, .error ⟨500, failedText⟩)

/-- `Handler.Create`, with the id and the time that the database gives. -/
def create (up : Up) (db : DB) (id : String) (now : Int) (body : Option GroupRequest) :
    DB × Except HttpError Group :=
  match body with
  | none => (db, .error ⟨400, "invalid request body"⟩)
  | some req =>
      if req.name = "" then (db, .error ⟨400, "name is required"⟩)
      else
        match db.insertGroup up id now req.name req.description with
        | none => (db, .error ⟨500, "failed to create group"⟩)
        | some db' =>
            let group : Group := ⟨id, req.name, req.description, now, now⟩
            if req.hostIDs = [] then (db', .ok group)
            else hostsResponse "failed to assign hosts" group
              (replaceGroupHosts up id req.hostIDs db')

/-- `Handler.Update`. -/
def update (up : Up) (db : DB) (id : String) (now : Int) (body : Option GroupRequest) :
    DB × Except HttpError Group :=
  match body with
  | none => (db, .error ⟨400, "invalid request body"⟩)
  | some req =>
      if req.name = "" then (db, .error ⟨400, "name is required"⟩)
      else
        match db.updateGroup up id now req.name req.description with
        | (db', .error .notFound) => (db', .error ⟨404, "group not found"⟩)
        | (db', .error _) => (db', .error ⟨500, "failed to update group"⟩)
        | (db', .ok group) => hostsResponse "failed to update hosts" group
            (replaceGroupHosts up id req.hostIDs db')

/-! ## §2. What the statements of the group row leave. -/

variable {up : Up} {db db' : DB} {id name : String} {now : Int} {description : Option String}

/-- An InsertGroup that is not refused. -/
def DB.Insertable (db : DB) (up : Up) (id name : String) : Prop :=
  up.insertGroup = true ∧ (∀ g ∈ db.groups, g.id ≠ id) ∧ ∀ g ∈ db.groups, g.name ≠ name

theorem insertGroup_isSome_iff :
    (∃ db', db.insertGroup up id now name description = some db') ↔ db.Insertable up id name := by
  unfold DB.insertGroup DB.Insertable
  constructor
  · rintro ⟨db', h⟩
    split at h
    · cases h
    · next groups hins =>
        split at h
        · next hfree =>
            exact ⟨hfree.1, fun g hg => Table.key_ne_of_insert hins hg, hfree.2⟩
        · cases h
  · rintro ⟨hup, hid, hname⟩
    split
    · next hnone =>
        obtain ⟨g, hg, hkey⟩ := Table.insert_eq_none_iff.mp hnone
        exact absurd hkey (hid g hg)
    · exact ⟨_, dif_pos ⟨hup, hname⟩⟩

/-- An inserted group is a new row. -/
theorem insertGroup_changes (h : db.insertGroup up id now name description = some db') :
    db'.groups ≠ db.groups := by
  unfold DB.insertGroup at h
  split at h
  · cases h
  · next groups hins =>
      split at h
      · injection h with h
        subst h
        intro heq
        have hnew : (⟨id, name, description, now, now⟩ : Group) ∈ groups :=
          (Table.mem_insert hins).mpr (Or.inr rfl)
        have hold : (⟨id, name, description, now, now⟩ : Group) ∈ db.groups := heq ▸ hnew
        exact Table.key_ne_of_insert hins hold rfl
      · cases h

/-- The rows after the UPDATE of a group. -/
def updatedGroups (db : DB) (id : String) (now : Int) (name : String)
    (description : Option String) : Table Group.id :=
  db.groups.update (fun g => decide (g.id = id)) (DB.withGroup name description now)
    (DB.withGroup_id name description now)

theorem updateGroupRow_eq_some {n : Nat}
    (h : db.updateGroupRow up id now name description = some (db', n)) :
    db'.groups = updatedGroups db id now name description ∧ db'.hostGroups = db.hostGroups ∧
      n = db.groups.rowsAffected fun g => decide (g.id = id) := by
  unfold DB.updateGroupRow at h
  simp only at h
  split at h
  · injection h with h
    obtain ⟨rfl, rfl⟩ := Prod.mk.inj h
    exact ⟨rfl, rfl, rfl⟩
  · cases h

/-- No other group has the name. -/
def DB.NameFree (db : DB) (id name : String) : Prop :=
  ∀ g ∈ db.groups, g.id ≠ id → g.name ≠ name

/-- **Names stay unique** exactly if the new one is free, where there is a group to rename. -/
theorem namesUnique_updatedGroups {g : Group} (hg : g ∈ db.groups) (hid : g.id = id) :
    NamesUnique (updatedGroups db id now name description) ↔ db.NameFree id name := by
  have hself : DB.withGroup name description now g ∈
      updatedGroups db id now name description :=
    Table.update_mem_of_pos hg (decide_eq_true hid)
  constructor
  · intro h o ho hother hname
    have hkept : o ∈ updatedGroups db id now name description :=
      Table.update_mem_of_neg ho (decide_eq_false hother)
    have heq := h _ hkept _ hself hname
    exact hother (heq ▸ hid)
  · intro hfree _ hnewA _ hnewB hname
    obtain ⟨a, ha, rfl⟩ := Table.mem_update.mp hnewA
    obtain ⟨b, hb, rfl⟩ := Table.mem_update.mp hnewB
    by_cases haid : a.id = id <;> by_cases hbid : b.id = id <;>
      simp only [haid, hbid, decide_true, decide_false, if_true, if_false, Bool.false_eq_true]
        at hname ⊢
    · rw [show a = b from Table.eq_of_key ha hb (haid.trans hbid.symm)]
    · exact absurd hname.symm (hfree b hb hbid)
    · exact absurd hname (hfree a ha haid)
    · exact db.namesUnique a ha b hb hname

theorem updateGroupRow_isSome_iff {g : Group} (hg : g ∈ db.groups) (hid : g.id = id) :
    (∃ p, db.updateGroupRow up id now name description = some p) ↔
      up.updateGroup = true ∧ db.NameFree id name := by
  unfold DB.updateGroupRow
  simp only
  rw [← @namesUnique_updatedGroups db id name now description g hg hid]
  constructor
  · rintro ⟨p, h⟩
    split at h
    · next hfree => exact hfree
    · cases h
  · intro h
    exact ⟨_, dif_pos h⟩

/-- The UPDATE changes the table exactly if it changes the row. -/
theorem updatedGroups_eq_self_iff {g : Group} (hg : g ∈ db.groups) (hid : g.id = id) :
    updatedGroups db id now name description = db.groups ↔
      DB.withGroup name description now g = g := by
  constructor
  · intro h
    have hself : DB.withGroup name description now g ∈
        updatedGroups db id now name description :=
      Table.update_mem_of_pos hg (decide_eq_true hid)
    have hold : DB.withGroup name description now g ∈ db.groups := h ▸ hself
    exact Table.eq_of_key hold hg rfl
  · intro h
    apply Table.ext
    show db.groups.rows.map _ = db.groups.rows
    conv_rhs => rw [← List.map_id db.groups.rows]
    apply List.map_congr_left
    intro o ho
    split
    · next hoid =>
        rw [show o = g from Table.eq_of_key ho hg ((of_decide_eq_true hoid).trans hid.symm)]
        exact h
    · rfl

/-! ## §3. The members. -/

/-- The members of a group are replaced as a set: the transaction succeeds unless a
statement is lost, and afterwards the group has the members given and the others what they
had. -/
structure ReplacesHosts (db : DB) (groupID : String) (hostIDs : List String) : Prop where
  succeeds : (replaceGroupHosts .all groupID hostIDs db).1 = .ok ()
  exact : ∀ up db', replaceGroupHosts up groupID hostIDs db = (.ok (), db') →
    ∀ group host, db'.IsMember group host ↔
      if group = groupID then host ∈ hostIDs else db.IsMember group host

/-- **The members are replaced** exactly if there are no new ones. -/
theorem replacesHosts_iff {groupID : String} {hostIDs : List String} :
    ReplacesHosts db groupID hostIDs ↔ hostIDs = [] := by
  constructor
  · intro h
    exact (replaceGroupHosts_isOk_iff.mp h.succeeds).1
  · rintro rfl
    refine ⟨replaceGroupHosts_isOk_iff.mpr ⟨rfl, rfl, rfl⟩, fun up db' h group host => ?_⟩
    rw [replaceGroupHosts_ok h, isMember_clearGroupHosts]

/-! ## §4. All or nothing. -/

/-- A request that failed has changed neither a group nor its members. -/
def AllOrNothing (db : DB) (r : DB × Except HttpError Group) : Prop :=
  ∀ e, r.2 = .error e → r.1.groups = db.groups ∧ r.1.hostGroups = db.hostGroups

theorem allOrNothing_self (e : Except HttpError Group) : AllOrNothing db (db, e) :=
  fun _ _ => ⟨rfl, rfl⟩

/-- A request whose members are replaced, or not. -/
theorem hostsResponse_cases (failedText : String) (g : Group) (groupID : String)
    (hostIDs : List String) (db : DB) :
    (hostIDs = [] ∧ up.clear = true ∧ up.commit = true ∧
        hostsResponse failedText g (replaceGroupHosts up groupID hostIDs db) =
          (db.clearGroupHosts groupID, .ok g)) ∨
      ¬(hostIDs = [] ∧ up.clear = true ∧ up.commit = true) ∧
        ∃ e, hostsResponse failedText g (replaceGroupHosts up groupID hostIDs db) =
          (db, .error e) := by
  have hok := @replaceGroupHosts_isOk_iff up db groupID hostIDs
  rcases hrun : replaceGroupHosts up groupID hostIDs db with ⟨e | ⟨⟨⟩⟩, db'⟩
  · rw [hrun] at hok
    refine Or.inr ⟨fun h => (nomatch hok.mpr h), ?_⟩
    rw [replaceGroupHosts_error hrun]
    cases e <;> exact ⟨_, rfl⟩
  · obtain ⟨hnil, hclear, hcommit⟩ := hok.mp (congrArg Prod.fst hrun)
    refine Or.inl ⟨hnil, hclear, hcommit, ?_⟩
    rw [replaceGroupHosts_ok hrun]
    rfl

/-- No group is left behind by a Create that fails at its members. -/
def CreateSafe (up : Up) (db : DB) (id : String) (body : Option GroupRequest) : Prop :=
  ∀ req, body = some req → req.name ≠ "" → db.Insertable up id req.name → req.hostIDs = []

/-- **When a Create that fails leaves no trace.** -/
theorem create_allOrNothing_iff {body : Option GroupRequest} :
    AllOrNothing db (create up db id now body) ↔ CreateSafe up db id body := by
  unfold create CreateSafe
  cases body with
  | none => exact ⟨fun _ req h => (nomatch h), fun _ => allOrNothing_self _⟩
  | some req =>
      simp only [Option.some.injEq, forall_eq']
      by_cases hname : req.name = ""
      · rw [if_pos hname]
        exact ⟨fun _ h => absurd hname h, fun _ => allOrNothing_self _⟩
      · rw [if_neg hname]
        have hinsert := @insertGroup_isSome_iff up db id req.name now req.description
        cases hrow : db.insertGroup up id now req.name req.description with
        | none =>
            refine ⟨fun _ _ hable => ?_, fun _ => allOrNothing_self _⟩
            obtain ⟨db', h⟩ := hinsert.mpr hable
            rw [hrow] at h
            cases h
        | some db' =>
            have hable := hinsert.mp ⟨db', hrow⟩
            by_cases hnil : req.hostIDs = []
            · simp only [hnil, if_true]
              exact ⟨fun _ _ _ => trivial, fun _ e h => nomatch h⟩
            · simp only [hnil, if_false]
              obtain ⟨habs, -⟩ | ⟨-, e, hresponse⟩ := @hostsResponse_cases up
                "failed to assign hosts" ⟨id, req.name, req.description, now, now⟩ id req.hostIDs
                db'
              · exact absurd habs hnil
              · rw [hresponse]
                refine ⟨fun h => ?_, fun h => absurd (h hname hable) not_false⟩
                exact absurd (h e rfl).1 (insertGroup_changes hrow)

/-- No group is left changed by an Update that fails after its UPDATE. -/
def UpdateSafe (up : Up) (db : DB) (id : String) (now : Int) (body : Option GroupRequest) :
    Prop :=
  ∀ req, body = some req → req.name ≠ "" → up.updateGroup = true → db.NameFree id req.name →
    ∀ g ∈ db.groups, g.id = id → DB.withGroup req.name req.description now g ≠ g →
      up.getGroup = true ∧ req.hostIDs = [] ∧ up.clear = true ∧ up.commit = true

/-- What `UpdateGroup` does where there is a group to update. -/
theorem updateGroup_cases {g : Group} (hg : g ∈ db.groups) (hid : g.id = id) :
    (¬(up.updateGroup = true ∧ db.NameFree id name) ∧
        db.updateGroup up id now name description = (db, .error .failed)) ∨
      (up.updateGroup = true ∧ db.NameFree id name) ∧
        ∃ db', db'.groups = updatedGroups db id now name description ∧
          db'.hostGroups = db.hostGroups ∧
          db.updateGroup up id now name description = (db',
            if up.getGroup then .ok (DB.withGroup name description now g)
            else .error .failed) := by
  have hsome := @updateGroupRow_isSome_iff up db id name now description g hg hid
  unfold DB.updateGroup
  cases hrow : db.updateGroupRow up id now name description with
  | none =>
      refine Or.inl ⟨fun h => ?_, rfl⟩
      obtain ⟨p, hp⟩ := hsome.mpr h
      rw [hrow] at hp
      cases hp
  | some p =>
      obtain ⟨db', n⟩ := p
      obtain ⟨hgroups, hmembers, hn⟩ := updateGroupRow_eq_some hrow
      refine Or.inr ⟨hsome.mp ⟨_, hrow⟩, db', hgroups, hmembers, ?_⟩
      have hne : n ≠ 0 := by
        rw [hn]
        exact Table.rowsAffected_key_ne_zero_iff.mpr ⟨g, hg, hid⟩
      have hread : db'.groups.find? id = some (DB.withGroup name description now g) := by
        rw [hgroups]
        unfold updatedGroups
        rw [Table.find?_update, Table.find?_eq_some_iff.mpr ⟨hg, hid⟩, Option.map_some,
          if_pos (decide_eq_true hid)]
      simp only [if_neg hne]
      unfold DB.getGroupByID
      rw [hread]

/-- And where there is none. -/
theorem updateGroup_of_missing (h : ∀ g ∈ db.groups, g.id ≠ id) :
    ∃ db' e, db'.groups = db.groups ∧ db'.hostGroups = db.hostGroups ∧
      db.updateGroup up id now name description = (db', .error e) := by
  unfold DB.updateGroup
  cases hrow : db.updateGroupRow up id now name description with
  | none => exact ⟨db, _, rfl, rfl, rfl⟩
  | some p =>
      obtain ⟨db', n⟩ := p
      obtain ⟨hgroups, hmembers, hn⟩ := updateGroupRow_eq_some hrow
      have hzero : n = 0 := by
        rw [hn]
        exact Table.rowsAffected_eq_zero_iff.mpr fun g hg => decide_eq_false (h g hg)
      refine ⟨db', .notFound, ?_, hmembers, by simp [hzero]⟩
      rw [hgroups]
      exact Table.update_eq_self _ fun g hg => decide_eq_false (h g hg)

/-- **When an Update that fails leaves no trace.** -/
theorem update_allOrNothing_iff {body : Option GroupRequest} :
    AllOrNothing db (update up db id now body) ↔ UpdateSafe up db id now body := by
  unfold update UpdateSafe
  cases body with
  | none => exact ⟨fun _ req h => (nomatch h), fun _ => allOrNothing_self _⟩
  | some req =>
      simp only [Option.some.injEq, forall_eq']
      by_cases hname : req.name = ""
      · rw [if_pos hname]
        exact ⟨fun _ h => absurd hname h, fun _ => allOrNothing_self _⟩
      · rw [if_neg hname]
        by_cases hrow : ∃ g ∈ db.groups, g.id = id
        · obtain ⟨g, hg, hid⟩ := hrow
          -- the group is unique, so the condition is about this one
          have honly : (∀ g' ∈ db.groups, g'.id = id →
                DB.withGroup req.name req.description now g' ≠ g' →
                up.getGroup = true ∧ req.hostIDs = [] ∧ up.clear = true ∧ up.commit = true) ↔
              (DB.withGroup req.name req.description now g ≠ g →
                up.getGroup = true ∧ req.hostIDs = [] ∧ up.clear = true ∧ up.commit = true) := by
            refine ⟨fun h => h g hg hid, fun h g' hg' hid' => ?_⟩
            rwa [show g' = g from Table.eq_of_key hg' hg (hid'.trans hid.symm)]
          rw [honly]
          obtain ⟨hrefused, hupdate⟩ | ⟨⟨hup, hfree⟩, db', hgroups, hmembers, hupdate⟩ :=
            @updateGroup_cases up db id req.name now req.description g hg hid
          · rw [hupdate]
            exact ⟨fun _ _ hup hfree => absurd ⟨hup, hfree⟩ hrefused, fun _ => allOrNothing_self _⟩
          · rw [hupdate]
            -- nothing has changed exactly if the row is as it was
            have hsame : db'.groups = db.groups ∧ db'.hostGroups = db.hostGroups ↔
                DB.withGroup req.name req.description now g = g := by
              rw [hgroups, and_iff_left hmembers]
              exact updatedGroups_eq_self_iff hg hid
            cases hread : up.getGroup with
            | false =>
                simp only [Bool.false_eq_true, if_false, false_and]
                constructor
                · intro h _ _ _ hne
                  exact hne (hsame.mp (h _ rfl))
                · intro h e _
                  exact hsame.mpr (not_not.mp (h hname hup hfree))
            | true =>
                simp only [if_true, true_and]
                obtain ⟨hnil, hclear, hcommit, hresponse⟩ | ⟨hfails, e, hresponse⟩ :=
                  @hostsResponse_cases up "failed to update hosts"
                    (DB.withGroup req.name req.description now g) id req.hostIDs db'
                · rw [hresponse]
                  exact ⟨fun _ _ _ _ _ => ⟨hnil, hclear, hcommit⟩, fun _ e h => nomatch h⟩
                · rw [hresponse]
                  constructor
                  · intro h _ _ _ hne
                    exact absurd (hsame.mp (h e rfl)) hne
                  · intro h _ _
                    exact hsame.mpr (not_not.mp fun hne => hfails (h hname hup hfree hne))
        · push Not at hrow
          obtain ⟨db', e, hgroups, hmembers, hupdate⟩ := @updateGroup_of_missing up db id
            req.name now req.description hrow
          rw [hupdate]
          refine ⟨fun _ _ _ _ g hg hid => absurd hid (hrow g hg), fun _ => ?_⟩
          cases e <;> exact fun _ _ => ⟨hgroups, hmembers⟩

/-- **Group edits**: members are replaced only by none; a Create that fails leaves no trace
unless it got as far as its members, and an Update unless its UPDATE changed the group. -/
theorem groupEdits_iff (db : DB) :
    (∀ groupID hostIDs, ReplacesHosts db groupID hostIDs ↔ hostIDs = []) ∧
      (∀ up id now body, AllOrNothing db (create up db id now body) ↔
        CreateSafe up db id body) ∧
      ∀ up id now body, AllOrNothing db (update up db id now body) ↔
        UpdateSafe up db id now body :=
  ⟨fun _ _ => replacesHosts_iff, fun _ _ _ _ => create_allOrNothing_iff,
    fun _ _ _ _ => update_allOrNothing_iff⟩

/-- One endpoint, and a group without members. -/
def oneGroup : DB where
  endpoints := ⟨["shop"], List.nodup_singleton _⟩
  groups := ⟨[⟨"web", "Web", none, 0, 0⟩], List.nodup_singleton _⟩
  hostGroups := Table.empty
  otherIDs := fun _ => Table.empty
  namesUnique := by decide
  refs := Table.forall_mem_empty

/-- **An endpoint cannot be put into a group**, and the attempt to create a group with one
leaves a group without members. -/
theorem group_edits_broken :
    (¬∀ (db : DB) (groupID : String) (hostIDs : List String),
        (∃ g ∈ db.groups, g.id = groupID) → (∀ id ∈ hostIDs, id ∈ db.endpoints) →
        ReplacesHosts db groupID hostIDs) ∧
      ¬∀ (db : DB) (id : String) (now : Int) (body : Option GroupRequest),
        AllOrNothing db (create .all db id now body) := by
  constructor
  · intro h
    have hnil := replacesHosts_iff.mp (h oneGroup "web" ["shop"] (by decide) (by decide))
    cases hnil
  · intro h
    have hsafe := create_allOrNothing_iff.mp
      (h oneGroup "mail" 0 (some ⟨"Mail", none, ["shop"]⟩))
    have hnil := hsafe _ rfl (by decide) ⟨rfl, by decide, by decide⟩
    cases hnil

end TLSentinel.Groups
