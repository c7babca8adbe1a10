/-
  TLSentinel.Tags.Store
  ─────────────────────
  **TAGS AND WHAT ENDPOINTS CARRY.**

  `tlsentinel.tag_categories`, `tags` and `endpoint_tags` with their foreign keys, the
  statements of `internal/db/tags_store.go` that write them, and the tags of a row of
  ListEndpoints (`endpoints_store.go`).  SetEndpointTags replaces the whole set of an
  endpoint in one transaction.

  Main results:
    * `setEndpointTags_isOk_iff` — when SetEndpointTags is accepted;
    * `hasTag_setEndpointTags`   — the tags of every endpoint after it.
-/
import TLSentinel.Base
import TLSentinel.Foundation.JoinTables

namespace TLSentinel.Tags

open Foundation

/-! ## §1. Rows. -/

/-- The columns of `tlsentinel.tags` that are read here. -/
structure Tag where
  id : String
  categoryID : String
  deriving DecidableEq, Repr

/-- A row of `tlsentinel.endpoint_tags`. -/
structure EndpointTag where
  endpointID : String
  tagID : String
  deriving DecidableEq, Repr

/-- PRIMARY KEY (endpoint_id, tag_id). -/
def EndpointTag.key (r : EndpointTag) : String × String := (r.endpointID, r.tagID)

/-- A table of which the ids alone are read. -/
abbrev IDTable := Table fun (id : String) => id

abbrev TagTable := Table Tag.id

abbrev EndpointTagTable := Table EndpointTag.key

/-- The foreign keys of `tags`. -/
def TagRefs (categories : IDTable) (tags : TagTable) : Prop :=
  ∀ t ∈ tags, t.categoryID ∈ categories

instance (categories : IDTable) (tags : TagTable) : Decidable (TagRefs categories tags) :=
  inferInstanceAs (Decidable (∀ t ∈ tags, _))

/-- The foreign keys of `endpoint_tags`. -/
def EndpointTagRefs (endpoints : IDTable) (tags : TagTable) (endpointTags : EndpointTagTable) :
    Prop := ∀ r ∈ endpointTags, r.endpointID ∈ endpoints ∧ ∃ t ∈ tags, t.id = r.tagID

instance (endpoints : IDTable) (tags : TagTable) (endpointTags : EndpointTagTable) :
    Decidable (EndpointTagRefs endpoints tags endpointTags) :=
  inferInstanceAs (Decidable (∀ r ∈ endpointTags, _))

/-- The tables. -/
structure DB where
  endpoints : IDTable
  categories : IDTable
  tags : TagTable
  endpointTags : EndpointTagTable
  tagRefs : TagRefs categories tags
  endpointTagRefs : EndpointTagRefs endpoints tags endpointTags

/-- How a store function fails. -/
inductive StoreError where
  /-- `ErrNotFound`. -/
  | notFound
  /-- `ErrInvalidInput`. -/
  | invalidInput
  /-- Any other error. -/
  | failed
  deriving DecidableEq, Repr

namespace DB

/-- The endpoint carries the tag. -/
def HasTag (db : DB) (endpointID tagID : String) : Prop := ⟨endpointID, tagID⟩ ∈ db.endpointTags

instance (db : DB) (endpointID tagID : String) : Decidable (db.HasTag endpointID tagID) :=
  inferInstanceAs (Decidable (_ ∈ db.endpointTags))

/-! ## §2. Reading. -/

/-- The tags of an endpoint that the joins with `tags` and `tag_categories` find. -/
def getEndpointTags (db : DB) (endpointID : String) : List String :=
  (db.endpointTags.rows.filter fun r => decide (r.endpointID = endpointID) &&
    db.tags.rows.any fun t => decide (t.id = r.tagID) && decide (t.categoryID ∈ db.categories)).map
      (·.tagID)

/-- **No tag gets lost in the joins.** -/
theorem mem_getEndpointTags {db : DB} {endpointID tagID : String} :
    tagID ∈ db.getEndpointTags endpointID ↔ db.HasTag endpointID tagID := by
  unfold getEndpointTags HasTag
  rw [List.mem_map]
  constructor
  · rintro ⟨r, hr, rfl⟩
    obtain ⟨hr, hjoin⟩ := List.mem_filter.mp hr
    rw [Bool.and_eq_true, decide_eq_true_eq] at hjoin
    rw [← hjoin.1]
    exact hr
  · intro h
    refine ⟨_, List.mem_filter.mpr ⟨h, ?_⟩, rfl⟩
    obtain ⟨-, t, ht, htag⟩ := db.endpointTagRefs _ h
    rw [Bool.and_eq_true, decide_eq_true_eq, List.any_eq_true]
    refine ⟨rfl, t, ht, ?_⟩
    simp [htag, db.tagRefs t ht]

/-! ## §3. SetEndpointTags. -/

/-- The loop that removes duplicates; `seen` are the ids so far. -/
def uniqueIDs (seen : List String) : List String → List String
  | [] => []
  | id :: ids => if id ∈ seen then uniqueIDs seen ids else id :: uniqueIDs (id :: seen) ids

/-- DELETE of the tags of an endpoint, and INSERT of others. -/
def replaceTags (endpointTags : EndpointTagTable) (endpointID : String) (ids : List String) :
    Option EndpointTagTable :=
  (endpointTags.delete fun r => decide (r.endpointID = endpointID)).insertAll
    (ids.map fun id => ⟨endpointID, id⟩)

/-- `SetEndpointTags`, one transaction; the foreign keys are checked at the INSERT. -/
def setEndpointTags (db : DB) (endpointID : String) (tagIDs : List String) :
    Except StoreError DB :=
  let unique := uniqueIDs [] tagIDs
  if db.tags.rowsAffected (fun t => decide (t.id ∈ unique)) ≠ unique.length then
    .error .invalidInput
  else
    match replaceTags db.endpointTags endpointID unique with
    | none => .error .failed
    | some endpointTags =>
        if hrefs : EndpointTagRefs db.endpoints db.tags endpointTags then
          .ok { db with endpointTags := endpointTags, endpointTagRefs := hrefs }
        else .error .failed

theorem mem_uniqueIDs {ids : List String} {id : String} :
    ∀ {seen : List String}, id ∈ uniqueIDs seen ids ↔ id ∈ ids ∧ id ∉ seen := by
  induction ids with
  | nil =>
      intro seen
      simp [uniqueIDs]
  | cons a ids ih =>
      intro seen
      unfold uniqueIDs
      by_cases ha : a ∈ seen
      · rw [if_pos ha, ih, List.mem_cons]
        constructor
        · intro h
          exact ⟨Or.inr h.1, h.2⟩
        · rintro ⟨rfl | hid, hseen⟩
          · exact absurd ha hseen
          · exact ⟨hid, hseen⟩
      · rw [if_neg ha, List.mem_cons, ih, List.mem_cons, List.mem_cons]
        constructor
        · rintro (rfl | ⟨hid, hseen⟩)
          · exact ⟨Or.inl rfl, ha⟩
          · exact ⟨Or.inr hid, fun h => hseen (Or.inr h)⟩
        · rintro ⟨rfl | hid, hseen⟩
          · exact Or.inl rfl
          · by_cases heq : id = a
            · exact Or.inl heq
            · exact Or.inr ⟨hid, fun h => h.elim heq hseen⟩

theorem nodup_uniqueIDs (ids : List String) : ∀ seen, (uniqueIDs seen ids).Nodup := by
  induction ids with
  | nil =>
      intro seen
      exact List.nodup_nil
  | cons a ids ih =>
      intro seen
      unfold uniqueIDs
      split
      · exact ih seen
      · refine List.nodup_cons.mpr ⟨fun h => ?_, ih (a :: seen)⟩
        exact (mem_uniqueIDs.mp h).2 List.mem_cons_self

/-- The rows of an endpoint are replaced, the others stay. -/
theorem replaceTags_eq_some (endpointTags : EndpointTagTable) (endpointID : String)
    {ids : List String} (hids : ids.Nodup) :
    ∃ endpointTags', replaceTags endpointTags endpointID ids = some endpointTags' ∧
      ∀ r, r ∈ endpointTags' ↔
        (r ∈ endpointTags ∧ r.endpointID ≠ endpointID) ∨
          (r.endpointID = endpointID ∧ r.tagID ∈ ids) := by
  have hkeys :
      ((ids.map fun id => (⟨endpointID, id⟩ : EndpointTag)).map EndpointTag.key).Nodup := by
    rw [List.map_map]
    exact hids.map fun a b h => congrArg Prod.snd h
  have hcond : ∀ r s : EndpointTag, r.key = s.key →
      decide (r.endpointID = endpointID) = decide (s.endpointID = endpointID) := by
    intro r s h
    rw [show r.endpointID = s.endpointID from congrArg Prod.fst h]
  have hnew : ∀ r ∈ ids.map fun id => (⟨endpointID, id⟩ : EndpointTag),
      decide (r.endpointID = endpointID) = true := by
    intro r hr
    obtain ⟨id, -, rfl⟩ := List.mem_map.mp hr
    exact decide_eq_true rfl
  obtain ⟨endpointTags', hins⟩ :=
    (Table.replace_isSome_iff (t := endpointTags) hcond hnew).mpr hkeys
  refine ⟨endpointTags', hins, fun r => ?_⟩
  rw [Table.mem_replace hins, decide_eq_false_iff_not, List.mem_map]
  apply or_congr_right
  constructor
  · rintro ⟨id, hid, rfl⟩
    exact ⟨rfl, hid⟩
  · rintro ⟨hend, hid⟩
    exact ⟨r.tagID, hid, by rw [← hend]⟩

/-- When a SetEndpointTags is accepted. -/
structure SetAccepted (db : DB) (endpointID : String) (tagIDs : List String) : Prop where
  tags : ∀ id ∈ tagIDs, ∃ t ∈ db.tags, t.id = id
  endpoint : tagIDs ≠ [] → endpointID ∈ db.endpoints

instance (db : DB) (endpointID : String) (tagIDs : List String) :
    Decidable (db.SetAccepted endpointID tagIDs) :=
  decidable_of_iff ((∀ id ∈ tagIDs, ∃ t ∈ db.tags, t.id = id) ∧
      (tagIDs ≠ [] → endpointID ∈ db.endpoints))
    ⟨fun h => ⟨h.1, h.2⟩, fun h => ⟨h.tags, h.endpoint⟩⟩

/-- **What SetEndpointTags does**, in both cases. -/
theorem setEndpointTags_cases (db : DB) (endpointID : String) (tagIDs : List String) :
    (db.SetAccepted endpointID tagIDs ∧ ∃ db', db.setEndpointTags endpointID tagIDs = .ok db' ∧
        db'.endpoints = db.endpoints ∧ db'.tags = db.tags ∧
        ∀ r, r ∈ db'.endpointTags ↔
          (r ∈ db.endpointTags ∧ r.endpointID ≠ endpointID) ∨
            (r.endpointID = endpointID ∧ r.tagID ∈ tagIDs)) ∨
      ¬db.SetAccepted endpointID tagIDs ∧
        ∃ e, db.setEndpointTags endpointID tagIDs = .error e ∧
          ((∃ id ∈ tagIDs, ∀ t ∈ db.tags, t.id ≠ id) → e = .invalidInput) := by
  have hmem : ∀ id, id ∈ uniqueIDs [] tagIDs ↔ id ∈ tagIDs := fun id => by
    simp [mem_uniqueIDs]
  have hcount := Table.rowsAffected_mem_eq_length_iff (t := db.tags) (nodup_uniqueIDs tagIDs [])
  simp only [hmem] at hcount
  obtain ⟨endpointTags, hreplace, hrows⟩ :=
    replaceTags_eq_some db.endpointTags endpointID (nodup_uniqueIDs tagIDs [])
  simp only [hmem] at hrows
  unfold setEndpointTags
  simp only [hmem]
  by_cases htags : db.tags.rowsAffected (fun t => decide (t.id ∈ tagIDs)) =
      (uniqueIDs [] tagIDs).length
  · rw [if_neg (not_not.mpr htags), hreplace]
    have hexist := hcount.mp htags
    by_cases hrefs : EndpointTagRefs db.endpoints db.tags endpointTags
    · refine Or.inl ⟨⟨hexist, fun hne => ?_⟩, _, dif_pos hrefs, rfl, rfl, hrows⟩
      obtain ⟨id, hid⟩ := List.exists_mem_of_ne_nil _ hne
      exact (hrefs ⟨endpointID, id⟩ ((hrows _).mpr (Or.inr ⟨rfl, hid⟩))).1
    · refine Or.inr ⟨fun h => hrefs ?_, _, dif_neg hrefs, ?_⟩
      · intro r hr
        obtain ⟨hr, -⟩ | ⟨hend, hid⟩ := (hrows r).mp hr
        · exact db.endpointTagRefs r hr
        · exact ⟨hend ▸ h.endpoint (List.ne_nil_of_mem hid), h.tags _ hid⟩
      · rintro ⟨id, hid, hmissing⟩
        obtain ⟨t, ht, hid'⟩ := hexist id hid
        exact absurd hid' (hmissing t ht)
  · rw [if_pos htags]
    exact Or.inr ⟨fun h => htags (hcount.mpr h.tags), _, rfl, fun _ => rfl⟩

/-- **SetEndpointTags is accepted** if the tags and the endpoint exist. -/
theorem setEndpointTags_isOk_iff {db : DB} {endpointID : String} {tagIDs : List String} :
    (∃ db', db.setEndpointTags endpointID tagIDs = .ok db') ↔
      db.SetAccepted endpointID tagIDs := by
  obtain ⟨haccepted, db', hok, -⟩ | ⟨hrefused, e, herror, -⟩ :=
    setEndpointTags_cases db endpointID tagIDs
  · exact ⟨fun _ => haccepted, fun _ => ⟨db', hok⟩⟩
  · refine ⟨?_, fun h => absurd h hrefused⟩
    rintro ⟨db', hok⟩
    rw [herror] at hok
    cases hok

/-- **The tags after an accepted SetEndpointTags.** -/
theorem hasTag_setEndpointTags {db db' : DB} {endpointID : String} {tagIDs : List String}
    (h : db.setEndpointTags endpointID tagIDs = .ok db') (id tagID : String) :
    db'.HasTag id tagID ↔ if id = endpointID then tagID ∈ tagIDs else db.HasTag id tagID := by
  obtain ⟨-, d, hok, -, -, hrows⟩ | ⟨-, e, herror, -⟩ :=
    setEndpointTags_cases db endpointID tagIDs
  · rw [h] at hok
    injection hok with hok
    subst hok
    unfold HasTag
    rw [hrows]
    by_cases hid : id = endpointID
    · simp [hid]
    · simp [hid]
  · rw [h] at herror
    cases herror

/-! ## §4. The other writes. -/

/-- `CreateTagCategory`, with the id that the database gives. -/
def createTagCategory (db : DB) (id : String) : Except StoreError DB :=
  match hins : db.categories.insert id with
  | none => .error .failed
  | some categories =>
      .ok { db with
        categories := categories
        tagRefs := fun t ht => (Table.mem_insert hins).mpr (Or.inl (db.tagRefs t ht)) }

/-- `CreateTag`. -/
def createTag (db : DB) (t : Tag) : Except StoreError DB :=
  match hins : db.tags.insert t with
  | none => .error .failed
  | some tags =>
      if hcategory : t.categoryID ∈ db.categories then
        .ok { db with
          tags := tags
          tagRefs := fun u hu => by
            obtain hu | rfl := (Table.mem_insert hins).mp hu
            · exact db.tagRefs u hu
            · exact hcategory
          endpointTagRefs := fun r hr => by
            obtain ⟨hend, u, hu, hid⟩ := db.endpointTagRefs r hr
            exact ⟨hend, u, (Table.mem_insert hins).mpr (Or.inl hu), hid⟩ }
      else .error .failed

/-- The tags without some of them, and what endpoints carry of the rest (ON DELETE
CASCADE). -/
def withoutTags (db : DB) (p : Tag → Bool) : DB :=
  { db with
    tags := db.tags.delete p
    endpointTags := db.endpointTags.delete fun r =>
      db.tags.rows.any fun t => decide (t.id = r.tagID) && p t
    tagRefs := fun t ht => db.tagRefs t (Table.mem_delete.mp ht).1
    endpointTagRefs := fun r hr => by
      obtain ⟨hr, hkeep⟩ := Table.mem_delete.mp hr
      obtain ⟨hend, t, ht, hid⟩ := db.endpointTagRefs r hr
      refine ⟨hend, t, Table.mem_delete.mpr ⟨ht, ?_⟩, hid⟩
      have hnot := List.any_eq_false.mp hkeep t ht
      simpa [hid] using hnot }

/-- `DeleteTag`. -/
def deleteTag (db : DB) (id : String) : Except StoreError DB :=
  if db.tags.find? id = none then .error .notFound
  else .ok (db.withoutTags fun t => decide (t.id = id))

/-- `DeleteTagCategory`, which takes its tags along. -/
def deleteTagCategory (db : DB) (id : String) : Except StoreError DB :=
  if id ∈ db.categories then
    .ok { db.withoutTags fun t => decide (t.categoryID = id) with
      categories := db.categories.delete fun c => decide (c = id)
      tagRefs := fun t ht => by
        obtain ⟨ht, hother⟩ := Table.mem_delete.mp ht
        exact Table.mem_delete.mpr ⟨db.tagRefs t ht, hother⟩ }
  else .error .notFound

/-- InsertEndpoint, as far as tags go. -/
def insertEndpoint (db : DB) (id : String) : Except StoreError DB :=
  match hins : db.endpoints.insert id with
  | none => .error .failed
  | some endpoints =>
      .ok { db with
        endpoints := endpoints
        endpointTagRefs := fun r hr => by
          obtain ⟨hend, htag⟩ := db.endpointTagRefs r hr
          exact ⟨(Table.mem_insert hins).mpr (Or.inl hend), htag⟩ }

/-- DeleteEndpoint, as far as tags go. -/
def deleteEndpoint (db : DB) (id : String) : Except StoreError DB :=
  if id ∈ db.endpoints then
    .ok { db with
      endpoints := db.endpoints.delete fun e => decide (e = id)
      endpointTags := db.endpointTags.delete fun r => decide (r.endpointID = id)
      endpointTagRefs := fun r hr => by
        obtain ⟨hr, hother⟩ := Table.mem_delete.mp hr
        obtain ⟨hend, htag⟩ := db.endpointTagRefs r hr
        exact ⟨Table.mem_delete.mpr ⟨hend, hother⟩, htag⟩ }
  else .error .notFound

end DB

/-! ## §5. The handler. -/

/-- `Handler.SetEndpointTags`: the tables, and the tags that are answered.  A body without
a list stands for an empty one; reading the tags back may fail. -/
def setEndpointTags (db : DB) (endpointID : String) (body : Option (Option (List String)))
    (readBack : Bool) : DB × Except HttpError (List String) :=
  match body with
  | none => (db, .error ⟨400, "invalid request body"⟩)
  | some tagIDs =>
      match db.setEndpointTags endpointID (tagIDs.getD []) with
      | .error .invalidInput => (db, .error ⟨400, "one or more tag ids are invalid"⟩)
      | .error _ => (db, .error ⟨500, "failed to set endpoint tags"⟩)
      | .ok db' =>
          (db', if readBack then .ok (db'.getEndpointTags endpointID)
            else .error ⟨500, "failed to load endpoint tags"⟩)

end TLSentinel.Tags
