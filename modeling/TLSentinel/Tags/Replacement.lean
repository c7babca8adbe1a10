/-
  TLSentinel.Tags.Replacement
  ───────────────────────────
  **REPLACING THE TAGS OF AN ENDPOINT, STATEMENT BY STATEMENT.**

  `SetEndpointTags` of `internal/db/tags_store.go` removes repeated ids, counts the tags
  with one of the rest, deletes the tags of the endpoint and inserts the new ones, in one
  transaction.  The count means that all tags exist because the ids are different
  (`Table.rowsAffected_mem_eq_length_iff`).  Ids are canonical uuid texts: two texts are
  the same id exactly if they are equal.

  `TLSentinel.Tags.Store` has the transaction as one function; `setEndpointTags_refines`
  says that it is this one.

  Main results:
    * `setEndpointTagsTx_isOk_iff`, `setEndpointTagsTx_invalidInput_iff` — when it
                                    succeeds, and when it answers ErrInvalidInput;
    * `setEndpointTags_exact`     — the tags after it.
-/
import TLSentinel.Foundation.JoinTables
import TLSentinel.Foundation.Transactions
import TLSentinel.Tags.Store

namespace TLSentinel.Tags

open Foundation

/-! ## §1. The transaction. -/

/-- How `SetEndpointTags` fails. -/
inductive SetTagsError where
  /-- `ErrInvalidInput`. -/
  | invalidInput
  /-- "failed to validate tag ids". -/
  | validate
  /-- "failed to clear endpoint tags". -/
  | clear
  /-- "failed to insert endpoint tags". -/
  | insert
  /-- The commit fails. -/
  | commit
  deriving DecidableEq, Repr

/-- Which statements find the database there. -/
structure TagsUp where
  count : Bool
  clear : Bool
  insert : Bool
  commit : Bool
  deriving DecidableEq, Repr

/-- Every statement finds the database there. -/
def TagsUp.all : TagsUp := ⟨true, true, true, true⟩

/-- DELETE of the tags of an endpoint. -/
def clearTags (endpointID : String) (db : DB) : DB :=
  { db with
    endpointTags := db.endpointTags.delete fun r => decide (r.endpointID = endpointID)
    endpointTagRefs := fun r hr => db.endpointTagRefs r (Table.mem_delete.mp hr).1 }

/-- INSERT of tags of an endpoint; the keys are checked at its end. -/
def insertTags (endpointID : String) (ids : List String) (db : DB) : Option DB :=
  match db.endpointTags.insertAll (ids.map fun id => ⟨endpointID, id⟩) with
  | none => none
  | some endpointTags =>
      if hrefs : EndpointTagRefs db.endpoints db.tags endpointTags then
        some { db with endpointTags := endpointTags, endpointTagRefs := hrefs }
      else none

/-- The count of the tags with one of the ids. -/
def countTags (ids : List String) (db : DB) : Nat :=
  db.tags.rowsAffected fun t => decide (t.id ∈ ids)

/-- `if len(unique) > 0`: the ids are validated. -/
def validateTags (up : TagsUp) (ids : List String) : Tx DB SetTagsError Unit := do
  let count ← Tx.query up.count .validate (countTags ids)
  Tx.when (count ≠ ids.length) (Tx.fail .invalidInput)

/-- The body of the transaction; `ids` are the ids without repetitions. -/
def setTagsBody (up : TagsUp) (endpointID : String) (ids : List String) :
    Tx DB SetTagsError Unit := do
  Tx.when (ids ≠ []) (validateTags up ids)
  Tx.write up.clear .clear fun db => some (clearTags endpointID db)
  Tx.when (ids ≠ []) (Tx.write up.insert .insert (insertTags endpointID ids))

/-- `SetEndpointTags`. -/
def setEndpointTagsTx (up : TagsUp) (endpointID : String) (tagIDs : List String) (db : DB) :
    Except SetTagsError Unit × DB :=
  runInTx up.commit .commit (setTagsBody up endpointID (DB.uniqueIDs [] tagIDs)) db

/-! ## §2. What its statements do. -/

variable {db db' : DB} {up : TagsUp} {endpointID : String} {ids tagIDs : List String}

/-- The tags given exist. -/
def TagsExist (db : DB) (ids : List String) : Prop := ∀ id ∈ ids, ∃ t ∈ db.tags, t.id = id

theorem validateTags_ok_iff (hids : ids.Nodup) :
    (validateTags up ids).exec db = (.ok (), db') ↔
      up.count = true ∧ TagsExist db ids ∧ db' = db := by
  have hcount : countTags ids db = ids.length ↔ TagsExist db ids :=
    Table.rowsAffected_mem_eq_length_iff hids
  unfold validateTags
  rw [Tx.exec_bind_ok_iff]
  constructor
  · rintro ⟨count, db₁, hquery, hrest⟩
    obtain ⟨hup, rfl, rfl⟩ := Tx.exec_query_ok_iff.mp hquery
    obtain ⟨-, hfail⟩ | ⟨heq, rfl⟩ := Tx.exec_when_ok_iff.mp hrest
    · cases hfail
    · exact ⟨hup, hcount.mp (not_not.mp heq), rfl⟩
  · rintro ⟨hup, hexist, rfl⟩
    refine ⟨_, _, Tx.exec_query_ok_iff.mpr ⟨hup, rfl, rfl⟩, Tx.exec_when_ok_iff.mpr ?_⟩
    exact Or.inr ⟨not_not.mpr (hcount.mpr hexist), rfl⟩

/-- **The new tags after the old ones are gone.** -/
theorem insertTags_clearTags (hids : ids.Nodup) (hexist : TagsExist db ids) :
    (∃ db', insertTags endpointID ids (clearTags endpointID db) = some db') ↔
      (ids ≠ [] → endpointID ∈ db.endpoints) := by
  obtain ⟨endpointTags, hreplace, hrows⟩ := DB.replaceTags_eq_some db.endpointTags endpointID hids
  have hinsert : (clearTags endpointID db).endpointTags.insertAll
      (ids.map fun id => ⟨endpointID, id⟩) = some endpointTags := hreplace
  have hrefs : EndpointTagRefs db.endpoints db.tags endpointTags ↔
      (ids ≠ [] → endpointID ∈ db.endpoints) := by
    constructor
    · intro h hne
      obtain ⟨id, hid⟩ := List.exists_mem_of_ne_nil _ hne
      exact (h ⟨endpointID, id⟩ ((hrows _).mpr (Or.inr ⟨rfl, hid⟩))).1
    · intro h r hr
      obtain ⟨hr, -⟩ | ⟨hend, hid⟩ := (hrows r).mp hr
      · exact db.endpointTagRefs r hr
      · exact ⟨hend ▸ h (List.ne_nil_of_mem hid), hexist _ hid⟩
  unfold insertTags
  rw [hinsert]
  constructor
  · rintro ⟨db', h⟩
    simp only at h
    split at h
    · next hr => exact hrefs.mp hr
    · cases h
  · intro h
    exact ⟨_, dif_pos (hrefs.mpr h)⟩

/-- The rows after the insert. -/
theorem mem_insertTags (h : insertTags endpointID ids (clearTags endpointID db) = some db')
    (id tagID : String) :
    db'.HasTag id tagID ↔ if id = endpointID then tagID ∈ ids else db.HasTag id tagID := by
  unfold insertTags at h
  split at h
  · cases h
  · next endpointTags hins =>
      split at h
      · injection h with h
        subst h
        show ⟨id, tagID⟩ ∈ endpointTags ↔ _
        rw [Table.mem_insertAll hins]
        show ⟨id, tagID⟩ ∈ db.endpointTags.delete _ ∨ _ ↔ _
        rw [Table.mem_delete, decide_eq_false_iff_not, List.mem_map]
        by_cases hid : id = endpointID
        · simp [hid]
        · simp [hid, Ne.symm hid, DB.HasTag]
      · cases h

theorem hasTag_clearTags (id tagID : String) :
    (clearTags endpointID db).HasTag id tagID ↔
      if id = endpointID then tagID ∈ ([] : List String) else db.HasTag id tagID := by
  show ⟨id, tagID⟩ ∈ db.endpointTags.delete _ ↔ _
  rw [Table.mem_delete, decide_eq_false_iff_not]
  by_cases hid : id = endpointID
  · simp [hid]
  · simp [hid, DB.HasTag]

/-- **What a body that ends well did.** -/
theorem setTagsBody_ok_iff (hids : ids.Nodup) :
    (setTagsBody up endpointID ids).exec db = (.ok (), db') ↔
      up.clear = true ∧
        ((ids = [] ∧ db' = clearTags endpointID db) ∨
          (ids ≠ [] ∧ up.count = true ∧ TagsExist db ids ∧ up.insert = true ∧
            insertTags endpointID ids (clearTags endpointID db) = some db')) := by
  unfold setTagsBody
  rw [Tx.exec_seq_ok_iff]
  simp only [Tx.exec_seq_ok_iff, Tx.exec_when_ok_iff, Tx.exec_write_ok_iff,
    validateTags_ok_iff hids, ne_eq, not_not, Option.some.injEq]
  constructor
  · rintro ⟨db₁, hvalidate, db₂, ⟨hclear, rfl⟩, hinsert⟩
    refine ⟨hclear, ?_⟩
    obtain ⟨hne, hcount, htags, rfl⟩ | ⟨hnil, rfl⟩ := hvalidate
    · obtain ⟨-, hup, hwrite⟩ | ⟨hnil, -⟩ := hinsert
      · exact Or.inr ⟨hne, hcount, htags, hup, hwrite⟩
      · exact absurd hnil hne
    · obtain ⟨hne, -⟩ | ⟨-, rfl⟩ := hinsert
      · exact absurd hnil hne
      · exact Or.inl ⟨hnil, rfl⟩
  · rintro ⟨hclear, ⟨hnil, rfl⟩ | ⟨hne, hcount, htags, hup, hwrite⟩⟩
    · exact ⟨db, Or.inr ⟨hnil, rfl⟩, _, ⟨hclear, rfl⟩, Or.inr ⟨hnil, rfl⟩⟩
    · exact ⟨db, Or.inl ⟨hne, hcount, htags, rfl⟩, _, ⟨hclear, rfl⟩, Or.inl ⟨hne, hup, hwrite⟩⟩

/-! ## §3. The transaction as a whole. -/

/-- The statements that the transaction runs find the database there. -/
def TagsUp.Runs (up : TagsUp) (tagIDs : List String) : Prop :=
  up.clear = true ∧ up.commit = true ∧ (tagIDs ≠ [] → up.count = true ∧ up.insert = true)

theorem mem_unique (id : String) : id ∈ DB.uniqueIDs [] tagIDs ↔ id ∈ tagIDs := by
  simp [DB.mem_uniqueIDs]

theorem unique_eq_nil_iff : DB.uniqueIDs [] tagIDs = [] ↔ tagIDs = [] := by
  simp only [List.eq_nil_iff_forall_not_mem, mem_unique]

/-- **SetEndpointTags succeeds** exactly if the tags and the endpoint exist, and no
statement is lost. -/
theorem setEndpointTagsTx_isOk_iff :
    (setEndpointTagsTx up endpointID tagIDs db).1 = .ok () ↔
      up.Runs tagIDs ∧ db.SetAccepted endpointID tagIDs := by
  have hnodup := DB.nodup_uniqueIDs tagIDs []
  have hexist : TagsExist db (DB.uniqueIDs [] tagIDs) ↔ ∀ id ∈ tagIDs, ∃ t ∈ db.tags, t.id = id :=
    forall_congr' fun id => by rw [mem_unique]
  unfold setEndpointTagsTx
  rw [runInTx_isOk_iff]
  simp only [setTagsBody_ok_iff hnodup, unique_eq_nil_iff, ne_eq, hexist]
  by_cases hnil : tagIDs = []
  · subst hnil
    constructor
    · rintro ⟨hcommit, -, hclear, -⟩
      exact ⟨⟨hclear, hcommit, fun h => absurd rfl h⟩,
        fun id hid => absurd hid List.not_mem_nil, fun h => absurd rfl h⟩
    · rintro ⟨⟨hclear, hcommit, -⟩, -⟩
      exact ⟨hcommit, _, hclear, Or.inl ⟨rfl, rfl⟩⟩
  · have hne : DB.uniqueIDs [] tagIDs ≠ [] := fun h => hnil (unique_eq_nil_iff.mp h)
    constructor
    · rintro ⟨hcommit, db', hclear, ⟨habs, -⟩ | ⟨-, hcount, htags, hinsert, hwrite⟩⟩
      · exact absurd habs hnil
      · exact ⟨⟨hclear, hcommit, fun _ => ⟨hcount, hinsert⟩⟩, htags, fun _ =>
          (insertTags_clearTags hnodup (hexist.mpr htags)).mp ⟨db', hwrite⟩ hne⟩
    · rintro ⟨⟨hclear, hcommit, hup⟩, haccepted⟩
      obtain ⟨hcount, hinsert⟩ := hup hnil
      obtain ⟨db', hwrite⟩ := (insertTags_clearTags hnodup (hexist.mpr haccepted.tags)).mpr
        fun _ => haccepted.endpoint hnil
      exact ⟨hcommit, db', hclear, Or.inr ⟨hnil, hcount, haccepted.tags, hinsert, hwrite⟩⟩

/-- **ErrInvalidInput** is the answer exactly if a tag does not exist. -/
theorem setEndpointTagsTx_invalidInput_iff :
    (setEndpointTagsTx up endpointID tagIDs db).1 = .error .invalidInput ↔
      up.count = true ∧ ∃ id ∈ tagIDs, ∀ t ∈ db.tags, t.id ≠ id := by
  have hnodup := DB.nodup_uniqueIDs tagIDs []
  have hexist : countTags (DB.uniqueIDs [] tagIDs) db = (DB.uniqueIDs [] tagIDs).length ↔
      ∀ id ∈ tagIDs, ∃ t ∈ db.tags, t.id = id := by
    rw [show countTags _ db = _ ↔ _ from Table.rowsAffected_mem_eq_length_iff hnodup]
    exact forall_congr' fun id => by rw [mem_unique]
  have hmissing : (∃ id ∈ tagIDs, ∀ t ∈ db.tags, t.id ≠ id) ↔
      countTags (DB.uniqueIDs [] tagIDs) db ≠ (DB.uniqueIDs [] tagIDs).length := by
    rw [ne_eq, hexist]
    push Not
    rfl
  unfold setEndpointTagsTx
  rw [runInTx_isError_iff, hmissing]
  constructor
  · rintro (⟨db', h⟩ | ⟨-, habs, -⟩)
    · -- of the statements only the count answers this error
      obtain h | ⟨⟨⟩, db₁, -, h⟩ := Tx.exec_bind_error_iff.mp h
      · obtain ⟨-, h⟩ := Tx.exec_when_error_iff.mp h
        obtain h | ⟨count, db₂, hquery, h⟩ := Tx.exec_bind_error_iff.mp h
        · obtain ⟨-, habs, -⟩ := Tx.exec_query_error_iff.mp h
          cases habs
        · obtain ⟨hup, rfl, -⟩ := Tx.exec_query_ok_iff.mp hquery
          exact ⟨hup, (Tx.exec_when_error_iff.mp h).1⟩
      · obtain h | ⟨⟨⟩, db₂, -, h⟩ := Tx.exec_bind_error_iff.mp h
        · obtain ⟨-, habs, -⟩ := Tx.exec_write_error_iff.mp h
          cases habs
        · obtain ⟨-, h⟩ := Tx.exec_when_error_iff.mp h
          obtain ⟨-, habs, -⟩ := Tx.exec_write_error_iff.mp h
          cases habs
    · cases habs
  · rintro ⟨hup, hcount⟩
    have hne : DB.uniqueIDs [] tagIDs ≠ [] := by
      intro hnil
      obtain ⟨id, hid, -⟩ := hmissing.mpr hcount
      rw [unique_eq_nil_iff.mp hnil] at hid
      cases hid
    refine Or.inl ⟨db, Tx.exec_bind_error_iff.mpr (Or.inl ?_)⟩
    refine Tx.exec_when_error_iff.mpr ⟨hne, Tx.exec_bind_error_iff.mpr (Or.inr ?_)⟩
    exact ⟨_, db, Tx.exec_query_ok_iff.mpr ⟨hup, rfl, rfl⟩,
      Tx.exec_when_error_iff.mpr ⟨hcount, rfl⟩⟩

/-- **The tags after it.** -/
theorem hasTag_setEndpointTagsTx
    (h : setEndpointTagsTx up endpointID tagIDs db = (.ok (), db')) (id tagID : String) :
    db'.HasTag id tagID ↔ if id = endpointID then tagID ∈ tagIDs else db.HasTag id tagID := by
  obtain ⟨-, hbody⟩ := runInTx_ok_iff.mp h
  have hnodup := DB.nodup_uniqueIDs tagIDs []
  obtain ⟨-, ⟨hnil, rfl⟩ | ⟨-, -, -, -, hwrite⟩⟩ := (setTagsBody_ok_iff hnodup).mp hbody
  · rw [hasTag_clearTags, unique_eq_nil_iff.mp hnil]
  · rw [mem_insertTags hwrite, mem_unique]

theorem setEndpointTagsTx_error {e : SetTagsError}
    (h : setEndpointTagsTx up endpointID tagIDs db = (.error e, db')) : db' = db :=
  runInTx_eq_error h

/-- **Replacing tags is exact and atomic**: SetEndpointTags succeeds if the endpoint and
the tags exist, and then the tags of the endpoint are those given; if a tag does not
exist, it answers ErrInvalidInput; a failure changes nothing, and the tags of other
endpoints never change. -/
theorem setEndpointTags_exact (up : TagsUp) (endpointID : String) (tagIDs : List String)
    (db : DB) :
    ((setEndpointTagsTx up endpointID tagIDs db).1 = .ok () ↔
      up.Runs tagIDs ∧ db.SetAccepted endpointID tagIDs) ∧
    ((setEndpointTagsTx up endpointID tagIDs db).1 = .error .invalidInput ↔
      up.count = true ∧ ∃ id ∈ tagIDs, ∀ t ∈ db.tags, t.id ≠ id) ∧
    match setEndpointTagsTx up endpointID tagIDs db with
    | (.ok _, db') => ∀ id tagID, db'.HasTag id tagID ↔
        if id = endpointID then tagID ∈ tagIDs else db.HasTag id tagID
    | (.error _, db') => db' = db := by
  refine ⟨setEndpointTagsTx_isOk_iff, setEndpointTagsTx_invalidInput_iff, ?_⟩
  split
  · next h => exact hasTag_setEndpointTagsTx h
  · next h => exact setEndpointTagsTx_error h

/-! ## §4. The transaction as one function. -/

/-- **SetEndpointTags of `TLSentinel.Tags.Store` is this transaction**, where no statement
is lost. -/
theorem setEndpointTags_refines (db : DB) (endpointID : String) (tagIDs : List String) :
    match db.setEndpointTags endpointID tagIDs,
      setEndpointTagsTx TagsUp.all endpointID tagIDs db with
    | .ok d, (.ok _, db') => ∀ id tagID, db'.HasTag id tagID ↔ d.HasTag id tagID
    | .error e, (.error e', db') => db' = db ∧
        ((∃ id ∈ tagIDs, ∀ t ∈ db.tags, t.id ≠ id) → e = .invalidInput ∧ e' = .invalidInput)
    | _, _ => False := by
  have hruns : TagsUp.all.Runs tagIDs := ⟨rfl, rfl, fun _ => ⟨rfl, rfl⟩⟩
  have hok := @setEndpointTagsTx_isOk_iff db TagsUp.all endpointID tagIDs
  rw [and_iff_right hruns] at hok
  rcases hrun : setEndpointTagsTx TagsUp.all endpointID tagIDs db with ⟨e' | ⟨⟨⟩⟩, db'⟩
  · rw [hrun] at hok
    obtain ⟨haccepted, -⟩ | ⟨-, e, he, hmissing⟩ := DB.setEndpointTags_cases db endpointID tagIDs
    · cases hok.mpr haccepted
    · rw [he]
      refine ⟨setEndpointTagsTx_error hrun, fun h => ⟨hmissing h, ?_⟩⟩
      have hinvalid := (@setEndpointTagsTx_invalidInput_iff db TagsUp.all endpointID tagIDs).mpr
        ⟨rfl, h⟩
      rw [hrun] at hinvalid
      exact Except.error.inj hinvalid
  · have haccepted := hok.mp (congrArg Prod.fst hrun)
    obtain ⟨d, hd⟩ := DB.setEndpointTags_isOk_iff.mpr haccepted
    rw [hd]
    intro id tagID
    rw [hasTag_setEndpointTagsTx hrun, DB.hasTag_setEndpointTags hd]

end TLSentinel.Tags
