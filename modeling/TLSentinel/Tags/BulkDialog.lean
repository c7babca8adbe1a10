/-
  TLSentinel.Tags.BulkDialog
  ──────────────────────────
  **WHEN TAGGING MANY ENDPOINTS ONLY ADDS TAGS.**

  `BulkTagEndpointsDialog.tsx` sends for each selected endpoint a PUT with the tags of
  its row in the browser and the picked ones; the row comes from a ListEndpoints that was
  answered some time before, and the PUT replaces the whole set.  Any number of browsers
  list, select, pick and save, other users edit tags in between, and the PUTs of a save
  are served in any order, or get lost.

  The system remembers which tags endpoints were given, one after the other, and with a
  row what its endpoint carried when the row was read and how much was given by then.

  Main results:
    * `carried_next`     — what an endpoint carries was there, or was given since;
    * `onlyAdds_always_iff` — in which runs every PUT of the dialog only adds.
-/
import TLSentinel.Tags.Store
import TLSentinel.Foundation.Runs
import Mathlib.Logic.Function.Basic

namespace TLSentinel.Tags.BulkDialog

open Foundation

/-! ## §1. The browser. -/

/-- An `EndpointListItem`, as far as the dialog reads it, and when it was read. -/
structure EndpointListItem where
  id : String
  /-- The ids of its tags: none, where the query for the tags failed. -/
  tags : List String
  /-- What the endpoint carried when the row was read. -/
  carried : List String
  tagsOk : Bool
  /-- How many tags had been given by then. -/
  readAt : Nat
  deriving DecidableEq, Repr

inductive Phase where
  | pick
  | running
  | summary
  deriving DecidableEq, Repr

/-- One browser: the rows it was sent, the selected ones, and the dialog. -/
structure Browser where
  sent : List EndpointListItem
  selected : Table EndpointListItem.id
  isOpen : Bool
  picked : List String
  phase : Phase

/-- A PUT in flight: the row of its endpoint, and the picked tags. -/
structure Put where
  ep : EndpointListItem
  toAdd : List String
  deriving DecidableEq, Repr

/-- A JavaScript `Set` with one more element. -/
def addToSet (set : List String) (id : String) : List String :=
  if id ∈ set then set else set ++ [id]

/-- The tag ids of the body: the listed tags as a set, and the picked ones. -/
def Put.tagIDs (p : Put) : List String := p.toAdd.foldl addToSet (p.ep.tags.foldl addToSet [])

theorem mem_foldl_addToSet {ids : List String} {id : String} :
    ∀ {set : List String}, id ∈ ids.foldl addToSet set ↔ id ∈ set ∨ id ∈ ids := by
  induction ids with
  | nil =>
      intro set
      simp
  | cons a ids ih =>
      intro set
      have hadd : id ∈ addToSet set a ↔ id ∈ set ∨ id = a := by
        unfold addToSet
        split
        · next ha => exact ⟨Or.inl, fun h => h.elim (fun h => h) fun h => h ▸ ha⟩
        · rw [List.mem_append, List.mem_singleton]
      rw [List.foldl_cons, ih, hadd, List.mem_cons, or_assoc]

/-- **A PUT names the listed tags and the picked ones.** -/
theorem mem_tagIDs {p : Put} {id : String} : id ∈ p.tagIDs ↔ id ∈ p.ep.tags ∨ id ∈ p.toAdd := by
  unfold Put.tagIDs
  rw [mem_foldl_addToSet, mem_foldl_addToSet]
  simp

/-! ## §2. The system. -/

/-- The tables, the tags that endpoints were given so far, the browsers, and the PUTs in
flight. -/
structure Sys where
  db : DB
  given : List EndpointTag
  browsers : Nat → Browser
  inFlight : List Put

/-- What anybody else may have the server write. -/
inductive Edit where
  | setTags (endpointID : String) (tagIDs : List String)
  | createTagCategory (id : String)
  | createTag (t : Tag)
  | deleteTag (id : String)
  | deleteTagCategory (id : String)
  | insertEndpoint (id : String)
  | deleteEndpoint (id : String)

/-- Its write. -/
def Edit.run (db : DB) : Edit → Except StoreError DB
  | .setTags endpointID tagIDs => db.setEndpointTags endpointID tagIDs
  | .createTagCategory id => db.createTagCategory id
  | .createTag t => db.createTag t
  | .deleteTag id => db.deleteTag id
  | .deleteTagCategory id => db.deleteTagCategory id
  | .insertEndpoint id => db.insertEndpoint id
  | .deleteEndpoint id => db.deleteEndpoint id

/-- What can happen next. -/
inductive Action where
  /-- ListEndpoints sends a row; its query for the tags may fail. -/
  | list (b : Nat) (endpointID : String) (tagsOk : Bool)
  /-- A row that was sent is selected, or replaces the selected one. -/
  | select (b : Nat) (i : Nat)
  | deselect (b : Nat) (endpointID : String)
  | openDialog (b : Nat)
  | togglePick (b : Nat) (tagID : String)
  /-- `handleConfirm`. -/
  | confirm (b : Nat)
  /-- The server answers a PUT. -/
  | serve (i : Nat)
  /-- A PUT does not reach the server. -/
  | lose (i : Nat)
  /-- The PUTs of a save are answered or given up; the server may still get one. -/
  | settle (b : Nat)
  /-- `handleClose`. -/
  | close (b : Nat)
  | edit (e : Edit)

/-- What a write gave: the rows that were not there. -/
def newTags (db db' : DB) : List EndpointTag :=
  db'.endpointTags.rows.filter fun r => decide (r ∉ db.endpointTags)

/-- The system after a write; one that fails changes nothing. -/
def Sys.write (s : Sys) (r : Except StoreError DB) : Sys :=
  match r with
  | .error _ => s
  | .ok db' => { s with db := db', given := s.given ++ newTags s.db db' }

@[simp] theorem Sys.write_browsers (s : Sys) (r : Except StoreError DB) :
    (s.write r).browsers = s.browsers := by
  cases r <;> rfl

@[simp] theorem Sys.write_inFlight (s : Sys) (r : Except StoreError DB) :
    (s.write r).inFlight = s.inFlight := by
  cases r <;> rfl

/-- The system with another state of a browser. -/
def Sys.withBrowser (s : Sys) (b : Nat) (br : Browser) : Sys :=
  { s with browsers := Function.update s.browsers b br }

/-- The row that ListEndpoints sends. -/
def Sys.row (s : Sys) (endpointID : String) (tagsOk : Bool) : EndpointListItem where
  id := endpointID
  tags := if tagsOk then s.db.getEndpointTags endpointID else []
  carried := s.db.getEndpointTags endpointID
  tagsOk := tagsOk
  readAt := s.given.length

/-- `togglePick`. -/
def toggle (picked : List String) (id : String) : List String :=
  if id ∈ picked then picked.filter (· ≠ id) else picked ++ [id]

/-- One step. -/
def step (s : Sys) : Action → Option Sys
  | .list b endpointID tagsOk =>
      if endpointID ∈ s.db.endpoints then
        some (s.withBrowser b
          { s.browsers b with sent := s.row endpointID tagsOk :: (s.browsers b).sent })
      else none
  | .select b i =>
      match (s.browsers b).sent[i]? with
      | none => none
      | some ep => some (s.withBrowser b
          { s.browsers b with selected := (s.browsers b).selected.upsert ep })
  | .deselect b endpointID => some (s.withBrowser b
      { s.browsers b with
        selected := (s.browsers b).selected.delete fun ep => decide (ep.id = endpointID) })
  | .openDialog b => some (s.withBrowser b
      { s.browsers b with isOpen := true, phase := .pick, picked := [] })
  | .togglePick b tagID =>
      if (s.browsers b).isOpen = true ∧ (s.browsers b).phase = .pick then
        some (s.withBrowser b { s.browsers b with picked := toggle (s.browsers b).picked tagID })
      else none
  | .confirm b =>
      if (s.browsers b).isOpen = true ∧ (s.browsers b).phase = .pick ∧ (s.browsers b).picked ≠ []
      then
        let puts := (s.browsers b).selected.rows.map fun ep => ⟨ep, (s.browsers b).picked⟩
        some { s.withBrowser b { s.browsers b with phase := .running } with
          inFlight := s.inFlight ++ puts }
      else none
  | .serve i =>
      match s.inFlight[i]? with
      | none => none
      | some p => some
          { s.write (s.db.setEndpointTags p.ep.id p.tagIDs) with
            inFlight := s.inFlight.eraseIdx i }
  | .lose i => some { s with inFlight := s.inFlight.eraseIdx i }
  | .settle b =>
      if (s.browsers b).phase = .running then
        some (s.withBrowser b { s.browsers b with phase := .summary })
      else none
  | .close b =>
      match (s.browsers b).phase with
      | .running => none
      | .pick => some (s.withBrowser b { s.browsers b with isOpen := false })
      | .summary => some (s.withBrowser b
          { s.browsers b with isOpen := false, selected := Table.empty })
  | .edit e => some (s.write (e.run s.db))

/-- Before the first list: no browser holds a row. -/
def initial (db : DB) : Sys where
  db := db
  given := []
  browsers := fun _ => ⟨[], Table.empty, false, [], .pick⟩
  inFlight := []

/-! ## §3. What the dialog promises, and when. -/

/-- **Only adding**: a PUT of the dialog that is accepted takes no tag from any endpoint, and
the picked tags are there. -/
def OnlyAdds (s : Sys) (a : Action) (u : Sys) : Prop :=
  match a with
  | .serve i => ∀ p, s.inFlight[i]? = some p → s.db.SetAccepted p.ep.id p.tagIDs →
      (∀ id tag, s.db.HasTag id tag → u.db.HasTag id tag) ∧
        ∀ tag ∈ p.toAdd, u.db.HasTag p.ep.id tag
  | _ => True

/-- Nothing was missed: what the endpoint was given since its row was read, and still carries,
is in the row or picked; and so is what it carried by then, if the query for the tags failed. -/
structure UpToDate (s : Sys) (p : Put) : Prop where
  given : ∀ r ∈ s.given.drop p.ep.readAt, r.endpointID = p.ep.id →
    s.db.HasTag r.endpointID r.tagID → r.tagID ∈ p.ep.tags ∨ r.tagID ∈ p.toAdd
  listed : p.ep.tagsOk = false → ∀ tag ∈ p.ep.carried, s.db.HasTag p.ep.id tag →
    tag ∈ p.toAdd

instance (s : Sys) (p : Put) : Decidable (UpToDate s p) :=
  decidable_of_iff ((∀ r ∈ s.given.drop p.ep.readAt, r.endpointID = p.ep.id →
      s.db.HasTag r.endpointID r.tagID → r.tagID ∈ p.ep.tags ∨ r.tagID ∈ p.toAdd) ∧
      (p.ep.tagsOk = false → ∀ tag ∈ p.ep.carried, s.db.HasTag p.ep.id tag → tag ∈ p.toAdd))
    ⟨fun h => ⟨h.1, h.2⟩, fun h => ⟨h.given, h.listed⟩⟩

/-- A PUT that is accepted was up to date. -/
def ServesUpToDate (s : Sys) : Action → Prop
  | .serve i => ∀ p ∈ s.inFlight[i]?, s.db.SetAccepted p.ep.id p.tagIDs → UpToDate s p
  | _ => True

instance (s : Sys) : ∀ a, Decidable (ServesUpToDate s a)
  | .serve i => inferInstanceAs (Decidable (∀ p ∈ s.inFlight[i]?, _))
  | .list _ _ _ | .select _ _ | .deselect _ _ | .openDialog _ | .togglePick _ _ | .confirm _
  | .lose _ | .settle _ | .close _ | .edit _ => .isTrue trivial

/-! ## §4. What a row still knows. -/

/-- The endpoint of a row carries what it carried then, or what it was given since. -/
structure RowInv (db : DB) (given : List EndpointTag) (ep : EndpointListItem) : Prop where
  readAt : ep.readAt ≤ given.length
  tags : ep.tags = if ep.tagsOk then ep.carried else []
  carries : ∀ tag, db.HasTag ep.id tag →
    tag ∈ ep.carried ∨ ⟨ep.id, tag⟩ ∈ given.drop ep.readAt

theorem rowInv_row (s : Sys) (endpointID : String) (tagsOk : Bool) :
    RowInv s.db s.given (s.row endpointID tagsOk) :=
  ⟨Nat.le_refl _, rfl, fun _ h => Or.inl (DB.mem_getEndpointTags.mpr h)⟩

/-- **A write** keeps what a row knows: a tag that was not there is given by it. -/
theorem rowInv_write {s : Sys} {ep : EndpointListItem} (h : RowInv s.db s.given ep)
    (r : Except StoreError DB) : RowInv (s.write r).db (s.write r).given ep := by
  cases r with
  | error e => exact h
  | ok db' =>
      obtain ⟨hreadAt, htags, hcarries⟩ := h
      refine ⟨?_, htags, fun tag htag => ?_⟩
      · show ep.readAt ≤ (s.given ++ newTags s.db db').length
        rw [List.length_append]
        omega
      · show tag ∈ ep.carried ∨ _ ∈ (s.given ++ newTags s.db db').drop ep.readAt
        rw [List.drop_append_of_le_length hreadAt, List.mem_append]
        by_cases hold : s.db.HasTag ep.id tag
        · exact (hcarries tag hold).imp_right Or.inl
        · refine Or.inr (Or.inr (List.mem_filter.mpr ⟨htag, ?_⟩))
          exact decide_eq_true hold

/-- The rows that are held somewhere. -/
def Held (s : Sys) (ep : EndpointListItem) : Prop :=
  (∃ b, ep ∈ (s.browsers b).sent ∨ ep ∈ (s.browsers b).selected) ∨ ∃ p ∈ s.inFlight, p.ep = ep

/-- What every held row still knows. -/
def Inv (s : Sys) : Prop := ∀ ep, Held s ep → RowInv s.db s.given ep

/-- What a step does to the tables, and to the rows that are held. -/
structure Effect (s t : Sys) : Prop where
  /-- It writes the tables once, or not at all. -/
  write : ∃ r, t.db = (s.write r).db ∧ t.given = (s.write r).given
  /-- A row that comes up has just been read. -/
  held : ∀ ep, Held t ep → Held s ep ∨ ∃ endpointID tagsOk, ep = s.row endpointID tagsOk

/-- A browser that holds no other rows, but for one that was just read. -/
theorem effect_withBrowser {s : Sys} {b : Nat} {br : Browser}
    (h : ∀ ep, ep ∈ br.sent ∨ ep ∈ br.selected →
      Held s ep ∨ ∃ endpointID tagsOk, ep = s.row endpointID tagsOk) :
    Effect s (s.withBrowser b br) := by
  refine ⟨⟨.error .failed, rfl, rfl⟩, fun ep hep => ?_⟩
  obtain ⟨b', hb'⟩ | hflight := hep
  · by_cases hb : b' = b
    · apply h ep
      rw [hb] at hb'
      simpa [Sys.withBrowser] using hb'
    · refine Or.inl (Or.inl ⟨b', ?_⟩)
      simpa [Sys.withBrowser, Function.update_of_ne hb] using hb'
  · exact Or.inl (Or.inr hflight)

theorem held_sent {s : Sys} {b : Nat} {ep : EndpointListItem} (h : ep ∈ (s.browsers b).sent) :
    Held s ep := Or.inl ⟨b, Or.inl h⟩

theorem held_selected {s : Sys} {b : Nat} {ep : EndpointListItem}
    (h : ep ∈ (s.browsers b).selected) : Held s ep := Or.inl ⟨b, Or.inr h⟩

/-- A browser with the same rows. -/
theorem held_same {s : Sys} {b : Nat} (ep : EndpointListItem)
    (h : ep ∈ (s.browsers b).sent ∨ ep ∈ (s.browsers b).selected) :
    Held s ep ∨ ∃ endpointID tagsOk, ep = s.row endpointID tagsOk := Or.inl (Or.inl ⟨b, h⟩)

/-- **What a step does.** -/
theorem effect_step {s t : Sys} {a : Action} (h : step s a = some t) : Effect s t := by
  unfold step at h
  cases a with
  | list b endpointID tagsOk =>
      dsimp only at h
      split at h
      · cases h
        refine effect_withBrowser fun ep hep => ?_
        obtain hsent | hselected := hep
        · obtain rfl | hsent := List.mem_cons.mp hsent
          · exact Or.inr ⟨endpointID, tagsOk, rfl⟩
          · exact Or.inl (held_sent hsent)
        · exact Or.inl (held_selected hselected)
      · cases h
  | select b i =>
      dsimp only at h
      split at h
      · cases h
      · next ep hi =>
          cases h
          refine effect_withBrowser fun ep' hep' => Or.inl ?_
          obtain hsent | hselected := hep'
          · exact held_sent hsent
          · obtain ⟨hselected, -⟩ | rfl := Table.mem_upsert.mp hselected
            · exact held_selected hselected
            · exact held_sent (List.mem_of_getElem? hi)
  | deselect b endpointID =>
      cases h
      refine effect_withBrowser fun ep hep => Or.inl ?_
      obtain hsent | hselected := hep
      · exact held_sent hsent
      · exact held_selected (Table.mem_delete.mp hselected).1
  | openDialog b =>
      cases h
      exact effect_withBrowser held_same
  | togglePick b tagID =>
      dsimp only at h
      split at h
      · cases h
        exact effect_withBrowser held_same
      · cases h
  | confirm b =>
      dsimp only at h
      split at h
      · cases h
        obtain ⟨hwrite, hheld⟩ :=
          @effect_withBrowser s b { s.browsers b with phase := .running } held_same
        refine ⟨hwrite, fun ep hep => ?_⟩
        obtain hbrowser | ⟨p, hp, rfl⟩ := hep
        · exact hheld ep (Or.inl hbrowser)
        · obtain hp | hp := List.mem_append.mp hp
          · exact Or.inl (Or.inr ⟨p, hp, rfl⟩)
          · -- a PUT carries a selected row
            obtain ⟨ep, hep, rfl⟩ := List.mem_map.mp hp
            exact Or.inl (held_selected hep)
      · cases h
  | serve i =>
      dsimp only at h
      split at h
      · cases h
      · next p hp =>
          cases h
          refine ⟨⟨_, rfl, rfl⟩, fun ep hep => Or.inl ?_⟩
          obtain hbrowser | ⟨q, hq, hep⟩ := hep
          · simp only [Sys.write_browsers] at hbrowser
            exact Or.inl hbrowser
          · exact Or.inr ⟨q, List.mem_of_mem_eraseIdx hq, hep⟩
  | lose i =>
      cases h
      refine ⟨⟨.error .failed, rfl, rfl⟩, fun ep hep => Or.inl ?_⟩
      obtain hbrowser | ⟨q, hq, hep⟩ := hep
      · exact Or.inl hbrowser
      · exact Or.inr ⟨q, List.mem_of_mem_eraseIdx hq, hep⟩
  | settle b =>
      dsimp only at h
      split at h
      · cases h
        exact effect_withBrowser held_same
      · cases h
  | close b =>
      dsimp only at h
      split at h
      · cases h
      · cases h
        exact effect_withBrowser held_same
      · cases h
        refine effect_withBrowser fun ep hep => Or.inl ?_
        obtain hsent | hselected := hep
        · exact held_sent hsent
        · exact absurd hselected (Table.not_mem_empty ep)
  | edit e =>
      cases h
      refine ⟨⟨_, rfl, rfl⟩, fun ep hep => Or.inl ?_⟩
      simpa only [Held, Sys.write_browsers, Sys.write_inFlight] using hep

/-- **What is carried was there or was given since**, for every row held, and it stays so. -/
theorem carried_next {s t : Sys} {a : Action} (h : step s a = some t) (hs : Inv s) : Inv t := by
  obtain ⟨⟨r, hdb, hgiven⟩, hheld⟩ := effect_step h
  intro ep hep
  rw [hdb, hgiven]
  obtain hold | ⟨endpointID, tagsOk, rfl⟩ := hheld ep hep
  · exact rowInv_write (hs ep hold) r
  · exact rowInv_write (rowInv_row s endpointID tagsOk) r

/-! ## §5. Runs. -/

/-- A PUT is up to date exactly if it names every tag that its endpoint carries. -/
theorem upToDate_iff {s : Sys} {p : Put} (h : RowInv s.db s.given p.ep) :
    UpToDate s p ↔ ∀ tag, s.db.HasTag p.ep.id tag → tag ∈ p.tagIDs := by
  simp only [mem_tagIDs]
  constructor
  · intro hfresh tag htag
    obtain hcarried | hgiven := h.carries tag htag
    · cases hok : p.ep.tagsOk with
      | true =>
          rw [h.tags, hok]
          exact Or.inl hcarried
      | false => exact Or.inr (hfresh.listed hok tag hcarried htag)
    · exact hfresh.given _ hgiven rfl htag
  · intro hall
    refine ⟨fun r _ hid htag => hall r.tagID (hid ▸ htag), fun hok tag _ htag => ?_⟩
    obtain hlisted | hpicked := hall tag htag
    · rw [h.tags, hok] at hlisted
      exact absurd hlisted List.not_mem_nil
    · exact hpicked

/-- **One step**: a PUT that is accepted only adds exactly if it was up to date. -/
theorem onlyAdds_iff {s t : Sys} {a : Action} (hs : Inv s) (h : step s a = some t) :
    OnlyAdds s a t ↔ ServesUpToDate s a := by
  cases a with
  | serve i =>
      unfold OnlyAdds ServesUpToDate
      refine forall_congr' fun p => forall_congr' fun hp => forall_congr' fun haccepted => ?_
      obtain ⟨db', hok⟩ := DB.setEndpointTags_isOk_iff.mpr haccepted
      have hdb : t.db = db' := by
        unfold step at h
        simp only [hp, hok, Option.some.injEq] at h
        rw [← h]
        rfl
      rw [hdb, upToDate_iff (hs p.ep (Or.inr ⟨p, List.mem_of_getElem? hp, rfl⟩))]
      simp only [DB.hasTag_setEndpointTags hok, if_true]
      constructor
      · intro hadds tag htag
        have hkept := hadds.1 p.ep.id tag htag
        rwa [if_pos rfl] at hkept
      · intro hall
        refine ⟨fun id tag htag => ?_, fun tag htag => mem_tagIDs.mpr (Or.inr htag)⟩
        split
        · next hid => exact hall tag (hid ▸ htag)
        · exact htag
  | list _ _ _ | select _ _ | deselect _ _ | openDialog _ | togglePick _ _ | confirm _ | lose _
  | settle _ | close _ | edit _ => exact Iff.rfl

theorem inv_initial (db : DB) : Inv (initial db) := by
  intro ep hep
  obtain ⟨b, hb⟩ | ⟨p, hp, -⟩ := hep
  · obtain hsent | hselected := hb
    · exact absurd hsent List.not_mem_nil
    · exact absurd hselected (Table.not_mem_empty ep)
  · exact absurd hp List.not_mem_nil

/-- **Bulk tagging only adds** exactly in the runs whose accepted PUTs are up to date. -/
theorem onlyAdds_always_iff {db : DB} {t : Sys} {tr : List (Sys × Action)}
    (e : Exec step (initial db) tr t) :
    (∀ p ∈ tr, ∀ u, step p.1 p.2 = some u → OnlyAdds p.1 p.2 u) ↔
      ∀ p ∈ tr, ServesUpToDate p.1 p.2 := by
  have hrun := e.always_steps_iff (J := Inv) (P := fun _ => True) (Q := OnlyAdds)
    (C := ServesUpToDate) (fun s a t hs h => carried_next h hs)
    (fun s a t hs _ h => by simpa using onlyAdds_iff hs h) (inv_initial db) trivial
  simpa using hrun

/-- One endpoint with the tag "old"; "new" is what another user gives it, "bulk" is picked. -/
def tagged : DB where
  endpoints := ⟨["ep"], by decide⟩
  categories := ⟨["c"], by decide⟩
  tags := ⟨[⟨"old", "c"⟩, ⟨"new", "c"⟩, ⟨"bulk", "c"⟩], by decide⟩
  endpointTags := ⟨[⟨"ep", "old"⟩], by decide⟩
  tagRefs := by decide
  endpointTagRefs := by decide

/-- A save of the dialog, up to its PUT. -/
def save : List Action :=
  [.list 0 "ep" true, .select 0 0, .openDialog 0, .togglePick 0 "bulk", .confirm 0]

/-- Another user meanwhile gives the endpoint a tag, and then the picked one in its place. -/
def exchange : List Action :=
  [.edit (.setTags "ep" ["old", "new"]), .edit (.setTags "ep" ["old", "bulk"])]

/-- The state in which the PUT is served after that. -/
def exchanged : Sys := (run step (initial tagged) (save ++ exchange)).getD (initial tagged)

/-- The PUT misses nothing: the first tag is gone again, and the other one is picked. -/
theorem onlyAdds_always_iff_exchanged :
    exchanged.given = [⟨"ep", "new"⟩, ⟨"ep", "bulk"⟩]
      ∧ ((step exchanged (.serve 0)).getD exchanged).db.HasTag "ep" "old"
      ∧ ((step exchanged (.serve 0)).getD exchanged).db.HasTag "ep" "bulk" := by
  have hrun : (run step (initial tagged) (save ++ exchange ++ [.serve 0])).isSome = true := by
    decide
  obtain ⟨t, ht⟩ := Option.isSome_iff_exists.mp hrun
  have honly := (onlyAdds_always_iff (exec_traceFrom ht)).mpr (by decide) (exchanged, .serve 0)
    (List.mem_of_getElem? (i := 7) rfl) _ rfl
  obtain ⟨hkept, hpicked⟩ := honly _ rfl (by decide)
  exact ⟨by decide, hkept "ep" "old" (by decide), hpicked "bulk" (by decide)⟩

/-- The state in which another user has given the endpoint a tag since its row was read. -/
def edited : Sys :=
  (run step (initial tagged) (save ++ [.edit (.setTags "ep" ["old", "new"])])).getD
    (initial tagged)

/-- **The other user's tag is taken away again.** -/
theorem onlyAdds_broken :
    ¬∀ (db : DB) (tr : List (Sys × Action)) (t : Sys), Exec step (initial db) tr t →
      ∀ p ∈ tr, ∀ u, step p.1 p.2 = some u → OnlyAdds p.1 p.2 u := by
  intro h
  have hrun : (run step (initial tagged)
      (save ++ [.edit (.setTags "ep" ["old", "new"]), .serve 0])).isSome = true := by decide
  obtain ⟨t, ht⟩ := Option.isSome_iff_exists.mp hrun
  have honly := h tagged _ t (exec_traceFrom ht) (edited, .serve 0)
    (List.mem_of_getElem? (i := 6) rfl) _ rfl
  exact absurd ((honly _ rfl (by decide)).1 "ep" "new" (by decide)) (by decide)

end TLSentinel.Tags.BulkDialog
