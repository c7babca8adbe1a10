/-
  TLSentinel.Groups.Store
  ───────────────────────
  **GROUPS AND THEIR MEMBERS.**

  `tlsentinel.groups` and `host_groups` (migration 000001), and the functions of
  `internal/db/groups_store.go` that write them, statement by statement.

  `ReplaceGroupHosts` validates the ids against `tlsentinel.hosts`, a table that no
  migration creates: `host_groups.host_id` refers to `tlsentinel.endpoints`.  The schema is
  what the CREATE and DROP statements of the migrations leave (`relations`), and a
  SELECT from a relation that is not there fails.

  Ids, those of a path or a body too, are canonical uuid texts: two texts are the same uuid
  exactly if they are equal.

  Main results:
    * `replaceGroupHosts_isOk_iff` — when a replacement succeeds;
    * `replaceGroupHosts_ok`, `replaceGroupHosts_error` — what it leaves.
-/
import TLSentinel.Foundation.Transactions
import TLSentinel.Tags.Store

namespace TLSentinel.Groups

open Foundation
open TLSentinel.Tags (IDTable)

/-! ## §1. The schema. -/

/-- A statement of a migration that makes or drops a table or view. -/
inductive DDL where
  | create (name : String)
  | drop (name : String)
  deriving DecidableEq, Repr

/-- The relations after a statement. -/
def DDL.apply (relations : List String) : DDL → List String
  | .create name => name :: relations
  | .drop name => relations.filter fun r => decide (r ≠ name)

/-- What the migrations create and drop in the schema `tlsentinel`, in their order. -/
def migrations : List DDL :=
  [ -- 000001
   .create "certificates", .create "users", .create "scanners", .create "endpoints",
   .create "endpoint_scan_history", .create "endpoint_tls_profiles", .create "mail_config",
   .create "settings", .create "certificate_expiry_alerts", .create "groups",
   .create "host_groups", .create "user_groups", .create "v_active_certificates",
   -- 000019 to 000022
   .drop "v_active_certificates", .create "v_active_certificates", .create "audit_logs",
   .create "endpoint_hosts", .create "endpoint_saml", .drop "v_active_certificates",
   .create "v_endpoints_hosts_full", .create "v_endpoints_saml_full",
   .create "v_active_certificates", .drop "v_active_certificates",
   .create "v_active_certificates",
   -- 000023 and 000025
   .create "tag_categories", .create "tags", .create "endpoint_tags", .create "endpoint_certs",
   .drop "v_active_certificates", .create "v_active_certificates",
   .drop "v_endpoints_hosts_full", .drop "v_endpoints_saml_full",
   .create "v_endpoints_hosts_full", .create "v_endpoints_saml_full",
   -- 000027 to 000048
   .create "user_tag_subscriptions", .create "scheduled_jobs", .create "user_api_keys",
   .create "notification_templates", .create "discovery_networks", .create "discovery_inbox",
   .drop "v_active_certificates", .create "v_active_certificates",
   .create "saml_metadata_history", .create "root_stores", .create "root_store_anchors",
   .create "certificate_trust", .create "user_totp_recovery_codes"]

/-- The tables and views after all migrations. -/
def relations : List String := migrations.foldl DDL.apply []

/-! ## §2. Rows. -/

/-- A row of `tlsentinel.groups`. -/
structure Group where
  id : String
  name : String
  description : Option String
  createdAt : Int
  updatedAt : Int
  deriving DecidableEq, Repr

/-- A row of `tlsentinel.host_groups`. -/
structure HostGroup where
  hostID : String
  groupID : String
  deriving DecidableEq, Repr

/-- PRIMARY KEY (host_id, group_id). -/
def HostGroup.key (r : HostGroup) : String × String := (r.hostID, r.groupID)

/-- UNIQUE (name). -/
def NamesUnique (groups : Table Group.id) : Prop :=
  ∀ g ∈ groups, ∀ h ∈ groups, g.name = h.name → g = h

instance (groups : Table Group.id) : Decidable (NamesUnique groups) :=
  inferInstanceAs (Decidable (∀ g ∈ groups, ∀ h ∈ groups, g.name = h.name → g = h))

/-- The foreign keys of `host_groups`. -/
def HostGroupRefs (endpoints : IDTable) (groups : Table Group.id)
    (hostGroups : Table HostGroup.key) : Prop :=
  ∀ r ∈ hostGroups, r.hostID ∈ endpoints ∧ ∃ g ∈ groups, g.id = r.groupID

instance (endpoints : IDTable) (groups : Table Group.id) (hostGroups : Table HostGroup.key) :
    Decidable (HostGroupRefs endpoints groups hostGroups) :=
  inferInstanceAs (Decidable (∀ r ∈ hostGroups, _))

/-- The tables; of those that groups do not use only the ids. -/
structure DB where
  endpoints : IDTable
  groups : Table Group.id
  hostGroups : Table HostGroup.key
  otherIDs : String → IDTable
  namesUnique : NamesUnique groups
  refs : HostGroupRefs endpoints groups hostGroups

namespace DB

/-- The ids of a relation, if the schema has it. -/
def idsOf (db : DB) (relation : String) : Option IDTable :=
  if relation ∈ relations then
    some (if relation = "endpoints" then db.endpoints else db.otherIDs relation)
  else none

/-- The endpoint is in the group. -/
def IsMember (db : DB) (groupID hostID : String) : Prop := ⟨hostID, groupID⟩ ∈ db.hostGroups

/-! ## §3. ReplaceGroupHosts. -/

/-- `SELECT count(*) FROM tlsentinel.<relation> WHERE id IN (ids)`. -/
def countIDs (db : DB) (relation : String) (ids : List String) : Option Nat :=
  (db.idsOf relation).map fun table => table.rowsAffected fun id => decide (id ∈ ids)

/-- DELETE of the members of a group. -/
def clearGroupHosts (groupID : String) (db : DB) : DB :=
  { db with
    hostGroups := db.hostGroups.delete fun r => decide (r.groupID = groupID)
    refs := fun r hr => db.refs r (Table.mem_delete.mp hr).1 }

/-- INSERT of members; the keys are checked at its end. -/
def insertGroupHosts (groupID : String) (hostIDs : List String) (db : DB) : Option DB :=
  match db.hostGroups.insertAll (hostIDs.map fun id => ⟨id, groupID⟩) with
  | none => none
  | some hostGroups =>
      if hrefs : HostGroupRefs db.endpoints db.groups hostGroups then
        some { db with hostGroups := hostGroups, refs := hrefs }
      else none

end DB

/-- How `ReplaceGroupHosts` fails. -/
inductive ReplaceError where
  /-- `ErrInvalidInput`. -/
  | invalidInput
  /-- "failed to validate host ids". -/
  | validate
  /-- "failed to clear group hosts". -/
  | clear
  /-- "failed to insert group hosts". -/
  | insert
  /-- The commit fails. -/
  | commit
  deriving DecidableEq, Repr

/-- Which statements find the database there. -/
structure Up where
  /-- InsertGroup. -/
  insertGroup : Bool
  /-- UpdateGroup, and GetGroupByID after it. -/
  updateGroup : Bool
  getGroup : Bool
  /-- ReplaceGroupHosts. -/
  count : Bool
  clear : Bool
  insertHosts : Bool
  commit : Bool
  deriving DecidableEq, Repr

/-- Every statement finds the database there. -/
def Up.all : Up := ⟨true, true, true, true, true, true, true⟩

/-- `if len(unique) > 0`: the ids are validated. -/
def validateHosts (up : Up) (ids : List String) : Tx DB ReplaceError Unit := do
  let count ← Tx.statement up.count .validate fun db =>
    (db.countIDs "hosts" ids).map fun count => (count, db)
  Tx.when (count ≠ ids.length) (Tx.fail .invalidInput)

/-- The body of the transaction; `ids` are the ids without repetitions. -/
def replaceHostsBody (up : Up) (groupID : String) (ids : List String) :
    Tx DB ReplaceError Unit := do
  Tx.when (ids ≠ []) (validateHosts up ids)
  Tx.write up.clear .clear fun db => some (db.clearGroupHosts groupID)
  Tx.when (ids ≠ []) (Tx.write up.insertHosts .insert (DB.insertGroupHosts groupID ids))

/-- `ReplaceGroupHosts`. -/
def replaceGroupHosts (up : Up) (groupID : String) (hostIDs : List String) (db : DB) :
    Except ReplaceError Unit × DB :=
  runInTx up.commit .commit (replaceHostsBody up groupID (Tags.DB.uniqueIDs [] hostIDs)) db

/-! ## §4. When it succeeds. -/

variable {up : Up} {db db' : DB} {groupID : String} {hostIDs ids : List String}

/-- **No migration creates the table that the ids are looked up in.** -/
theorem hosts_not_migrated : "hosts" ∉ relations := by decide

/-- So that no list of ids is valid. -/
theorem validateHosts_exec (db : DB) (ids : List String) :
    (validateHosts up ids).exec db = (.error .validate, db) := by
  have hcount : (db.countIDs "hosts" ids).map (fun count => (count, db)) = none := by
    unfold DB.countIDs DB.idsOf
    rw [if_neg hosts_not_migrated]
    rfl
  exact Tx.exec_bind_of_error (Tx.exec_statement_error_iff.mpr ⟨Or.inr hcount, rfl, rfl⟩)

/-- **A replacement succeeds** exactly if there is nothing to validate, and no statement is
lost. -/
theorem replaceGroupHosts_isOk_iff :
    (replaceGroupHosts up groupID hostIDs db).1 = .ok () ↔
      hostIDs = [] ∧ up.clear = true ∧ up.commit = true := by
  have hnil : Tags.DB.uniqueIDs [] hostIDs = [] ↔ hostIDs = [] := by
    simp [List.eq_nil_iff_forall_not_mem, Tags.DB.mem_uniqueIDs]
  unfold replaceGroupHosts
  rw [runInTx_isOk_iff]
  constructor
  · rintro ⟨hcommit, db', h⟩
    obtain ⟨db₁, hvalidate, hrest⟩ := Tx.exec_seq_ok_iff.mp h
    obtain ⟨-, hvalid⟩ | ⟨hempty, -⟩ := Tx.exec_when_ok_iff.mp hvalidate
    · rw [validateHosts_exec] at hvalid
      cases hvalid
    · obtain ⟨db₂, hclear, -⟩ := Tx.exec_seq_ok_iff.mp hrest
      exact ⟨hnil.mp (not_not.mp hempty), (Tx.exec_write_ok_iff.mp hclear).1, hcommit⟩
  · rintro ⟨hempty, hclear, hcommit⟩
    have hne : ¬ Tags.DB.uniqueIDs [] hostIDs ≠ [] := not_not.mpr (hnil.mpr hempty)
    refine ⟨hcommit, db.clearGroupHosts groupID, Tx.exec_seq_ok_iff.mpr ⟨db, ?_, ?_⟩⟩
    · exact Tx.exec_when_ok_iff.mpr (Or.inr ⟨hne, rfl⟩)
    · refine Tx.exec_seq_ok_iff.mpr ⟨_, Tx.exec_write_ok_iff.mpr ⟨hclear, rfl⟩, ?_⟩
      exact Tx.exec_when_ok_iff.mpr (Or.inr ⟨hne, rfl⟩)

/-- What a replacement that succeeds leaves. -/
theorem replaceGroupHosts_ok (h : replaceGroupHosts up groupID hostIDs db = (.ok (), db')) :
    db' = db.clearGroupHosts groupID := by
  obtain ⟨-, hbody⟩ := runInTx_ok_iff.mp h
  obtain ⟨db₁, hvalidate, hrest⟩ := Tx.exec_seq_ok_iff.mp hbody
  obtain ⟨-, hvalid⟩ | ⟨hempty, rfl⟩ := Tx.exec_when_ok_iff.mp hvalidate
  · rw [validateHosts_exec] at hvalid
    cases hvalid
  · obtain ⟨db₂, hclear, hinsert⟩ := Tx.exec_seq_ok_iff.mp hrest
    obtain ⟨-, hclear⟩ := Tx.exec_write_ok_iff.mp hclear
    injection hclear with hclear
    obtain ⟨hne, -⟩ | ⟨-, rfl⟩ := Tx.exec_when_ok_iff.mp hinsert
    · exact absurd hne hempty
    · exact hclear.symm

/-- A replacement that fails changes nothing. -/
theorem replaceGroupHosts_error {e : ReplaceError}
    (h : replaceGroupHosts up groupID hostIDs db = (.error e, db')) : db' = db :=
  runInTx_eq_error h

/-- **The members after it.** -/
theorem isMember_clearGroupHosts (group host : String) :
    (db.clearGroupHosts groupID).IsMember group host ↔
      if group = groupID then host ∈ ([] : List String) else db.IsMember group host := by
  show ⟨host, group⟩ ∈ db.hostGroups.delete _ ↔ _
  rw [Table.mem_delete, decide_eq_false_iff_not]
  by_cases hgroup : group = groupID
  · simp [hgroup]
  · simp [hgroup, DB.IsMember]

/-! ## §5. The group row. -/

namespace DB

/-- `InsertGroup`, with the id that the database gives; an error is a name that is taken, or
a lost statement. -/
def insertGroup (up : Up) (id : String) (now : Int) (name : String)
    (description : Option String) (db : DB) : Option DB :=
  match hins : db.groups.insert ⟨id, name, description, now, now⟩ with
  | none => none
  | some groups =>
      if hfree : up.insertGroup = true ∧ ∀ g ∈ db.groups, g.name ≠ name then
        some { db with
          groups := groups
          namesUnique := fun g hg h hh heq => by
            obtain hg | rfl := (Table.mem_insert hins).mp hg
            · obtain hh | rfl := (Table.mem_insert hins).mp hh
              · exact db.namesUnique g hg h hh heq
              · exact absurd heq (hfree.2 g hg)
            · obtain hh | rfl := (Table.mem_insert hins).mp hh
              · exact absurd heq.symm (hfree.2 h hh)
              · rfl
          refs := fun r hr => by
            obtain ⟨hend, g, hg, hid⟩ := db.refs r hr
            exact ⟨hend, g, (Table.mem_insert hins).mpr (Or.inl hg), hid⟩ }
      else none

/-- The SET clauses of `UpdateGroup`. -/
def withGroup (name : String) (description : Option String) (now : Int) (g : Group) : Group :=
  { g with name := name, description := description, updatedAt := now }

theorem withGroup_id (name : String) (description : Option String) (now : Int) (g : Group) :
    (withGroup name description now g).id = g.id := rfl

/-- The UPDATE of `UpdateGroup`: the tables, and the number of rows; `none` is a name that
another group has, or a lost statement. -/
def updateGroupRow (up : Up) (id : String) (now : Int) (name : String)
    (description : Option String) (db : DB) : Option (DB × Nat) :=
  let groups := db.groups.update (fun g => decide (g.id = id)) (withGroup name description now)
    (withGroup_id name description now)
  if hfree : up.updateGroup = true ∧ NamesUnique groups then
    some ({ db with
      groups := groups
      namesUnique := hfree.2
      refs := fun r hr => by
        obtain ⟨hend, g, hg, hid⟩ := db.refs r hr
        refine ⟨hend, _, Table.update_mem hg, ?_⟩
        split
        · exact hid
        · exact hid }, db.groups.rowsAffected fun g => decide (g.id = id))
  else none

end DB

end TLSentinel.Groups
