/-
  TLSentinel.Endpoints.HostPorts
  ──────────────────────────────
  **WHAT EVERY WRITE OF ENDPOINTS DOES TO THEIR PORTS.**

  The port of a host endpoint lies in `endpoint_hosts`.  Each write of one record,
  insert, update, PATCH or deletion, says what becomes of all ports; an import is one
  insert after the other.

  Main results:
    * `allValid_insertRecord`, `allValid_replaceRecord`, `allValid_patch` — one write;
    * `allValid_bulkLoop` — a whole import.
-/
import TLSentinel.Endpoints.PatchRuns
import TLSentinel.Endpoints.Writes

namespace TLSentinel.Endpoints.HostPorts

open Foundation
open TLSentinel.Endpoints.DB (HostType InsertAccepted ReplaceAccepted)

/-! ## §1. The port of a host endpoint. -/

/-- The port of a host endpoint: `none` where there is no such endpoint, `some none` where
its row of `endpoint_hosts` is missing. -/
def hostPort (db : DB) (id : String) : Option (Option Int) :=
  (db.endpoints.find? id).bind fun e =>
    if HostType e.type then some ((db.hosts.find? id).map (·.port)) else none

/-- Every host endpoint has its row. -/
def HostRows (db : DB) : Prop := ∀ id, hostPort db id ≠ some none

/-- Every port of a host endpoint is valid. -/
def AllValid (db : DB) : Prop := ∀ id p, hostPort db id = some (some p) → ValidPort p

/-- A record that is stored with a port has a valid one. -/
def ValidRecord (rec : EndpointRecord) : Prop := HostType rec.type → ValidPort rec.port

instance (rec : EndpointRecord) : Decidable (ValidRecord rec) :=
  inferInstanceAs (Decidable (_ → _))

/-- The port that a record is stored with. -/
def recordPort (rec : EndpointRecord) : Option (Option Int) :=
  if HostType rec.type then some (some rec.port) else none

/-- The ports of the table, row by row. -/
theorem allValid_iff {db : DB} :
    AllValid db ↔ ∀ e ∈ db.endpoints, HostType e.type → ∀ eh ∈ db.hosts,
      eh.endpointID = e.id → ValidPort eh.port := by
  constructor
  · intro h e he htype eh heh hid
    apply h e.id
    have hend : db.endpoints.find? e.id = some e := Table.find?_eq_some_iff.mpr ⟨he, rfl⟩
    have hhost : db.hosts.find? e.id = some eh := Table.find?_eq_some_iff.mpr ⟨heh, hid⟩
    simp [hostPort, hend, htype, hhost]
  · intro h id p hp
    unfold hostPort at hp
    obtain ⟨e, he, hp⟩ := Option.bind_eq_some_iff.mp hp
    split at hp
    · next htype =>
        obtain ⟨eh, heh, rfl⟩ := Option.map_eq_some_iff.mp (Option.some.inj hp)
        exact h e (Table.mem_of_find? he) htype eh (Table.mem_of_find? heh)
          ((Table.key_of_find? heh).trans (Table.key_of_find? he).symm)
    · cases hp

/-- A write of one endpoint's port. -/
theorem allValid_write {db db' : DB} {id : String} {rec : EndpointRecord}
    (h : ∀ id', hostPort db' id' = if id' = id then recordPort rec else hostPort db id') :
    (AllValid db → (AllValid db' ↔ ValidRecord rec)) ∧ (HostRows db → HostRows db') := by
  refine ⟨fun hdb => ⟨fun hdb' htype => ?_, fun hrec id' p hp => ?_⟩, fun hdb id' => ?_⟩
  · apply hdb' id
    rw [h, if_pos rfl, recordPort, if_pos htype]
  · rw [h] at hp
    split at hp
    · unfold recordPort at hp
      split at hp
      · next htype =>
          cases hp
          exact hrec htype
      · cases hp
    · exact hdb id' p hp
  · rw [h]
    split
    · unfold recordPort
      split <;> simp
    · exact hdb id'

/-! ## §2. One write. -/

theorem hostPort_insertEndpoint {db db' : DB} {id : String} {rec : EndpointRecord}
    (h : db.insertEndpoint id rec = .ok db') (id' : String) :
    hostPort db' id' = if id' = id then recordPort rec else hostPort db id' := by
  obtain ⟨-, -, -, hmem, hhosts, -⟩ := DB.insertEndpoint_ok h
  unfold hostPort
  rw [hhosts]
  by_cases hid : id' = id
  · have hfind : db'.endpoints.find? id' = some (DB.newEndpoint id rec) :=
      Table.find?_eq_some_iff.mpr ⟨(hmem _).mpr (Or.inr rfl), hid.symm⟩
    rw [hfind, if_pos hid]
    by_cases htype : HostType rec.type
    · simp [hid, htype, recordPort, DB.newEndpoint]
    · simp [htype, recordPort, DB.newEndpoint]
  · have hfind : db'.endpoints.find? id' = db.endpoints.find? id' := by
      apply Table.find?_congr
      intro e hkey
      rw [hmem]
      exact or_iff_left fun he => hid (hkey.symm.trans (congrArg Endpoint.id he))
    have hne : ¬(HostType rec.type ∧ id = id') := fun h => hid h.2.symm
    rw [hfind, if_neg hid, if_neg hne]

theorem hostPort_updateEndpoint {db db' : DB} {id : String} {rec : EndpointRecord}
    (h : db.updateEndpoint id rec = .ok db') (id' : String) :
    hostPort db' id' = if id' = id then recordPort rec else hostPort db id' := by
  obtain ⟨hend, -, hhosts, -⟩ := DB.updateEndpoint_ok h
  obtain ⟨⟨e, he, heid⟩, -, -⟩ := DB.updateEndpoint_isOk_iff.mp ⟨db', h⟩
  unfold hostPort
  rw [hend, hhosts, Table.find?_update]
  by_cases hid : id' = id
  · have hfind : db.endpoints.find? id' = some e :=
      Table.find?_eq_some_iff.mpr ⟨he, heid.trans hid.symm⟩
    rw [if_pos hid, if_pos hid, hfind]
    by_cases htype : HostType rec.type
    · simp [heid, htype, recordPort, DB.withRecord]
    · simp [heid, htype, recordPort, DB.withRecord]
  · rw [if_neg hid, if_neg hid]
    cases hfind : db.endpoints.find? id' with
    | none => rfl
    | some e' =>
        have hne : e'.id ≠ id := fun heq => hid ((Table.key_of_find? hfind).symm.trans heq)
        simp [hne]

theorem hostPort_deleteEndpoint {db db' : DB} {id : String}
    (h : db.deleteEndpoint id = .ok db') (id' : String) :
    hostPort db' id' = if id' = id then none else hostPort db id' := by
  obtain ⟨-, hend, hhosts, -⟩ := DB.deleteEndpoint_ok h
  unfold hostPort
  rw [hhosts]
  by_cases hid : id' = id
  · have hfind : db'.endpoints.find? id' = none := by
      apply Table.find?_eq_none_iff.mpr
      intro e he hkey
      exact ((hend e).mp he).2 (hkey.trans hid)
    rw [hfind, if_pos hid, if_pos hid]
    rfl
  · have hfind : db'.endpoints.find? id' = db.endpoints.find? id' := by
      apply Table.find?_congr
      intro e hkey
      rw [hend]
      exact and_iff_left fun heq => hid (hkey.symm.trans heq)
    rw [hfind, if_neg hid, if_neg hid]

/-- An unused id has no port. -/
theorem hostPort_of_unused {db : DB} {id : String} (h : db.Unused id) :
    hostPort db id = none := by
  unfold hostPort
  rw [h.1]
  rfl

/-- **An insert** keeps the ports valid exactly if it stores no other port. -/
theorem allValid_insertRecord {db : DB} {o : Insertion} (hid : db.Unused o.id)
    (rec : EndpointRecord) :
    AllValid (db.insertRecord o rec).1 ↔
      AllValid db ∧ (db.InsertAccepted o rec → ValidRecord rec) := by
  obtain ⟨haccepted, hinsert⟩ | ⟨hrefused, hsame⟩ := DB.insertRecord_cases hid rec
  · have hport := hostPort_insertEndpoint hinsert
    constructor
    · intro h
      have hdb : AllValid db := by
        intro id' p hp
        apply h id'
        rw [hport]
        split
        · next heq =>
            -- the id was not there
            rw [heq, hostPort_of_unused hid] at hp
            cases hp
        · exact hp
      exact ⟨hdb, fun _ => ((allValid_write hport).1 hdb).mp h⟩
    · rintro ⟨hdb, hrec⟩
      exact ((allValid_write hport).1 hdb).mpr (hrec haccepted)
  · rw [hsame]
    exact ⟨fun h => ⟨h, fun haccepted => absurd haccepted hrefused⟩, fun h => h.1⟩

theorem hostRows_insertRecord {db : DB} {o : Insertion} (hid : db.Unused o.id)
    (rec : EndpointRecord) (h : HostRows db) : HostRows (db.insertRecord o rec).1 := by
  obtain ⟨-, hinsert⟩ | ⟨-, hsame⟩ := DB.insertRecord_cases hid rec
  · exact (allValid_write (hostPort_insertEndpoint hinsert)).2 h
  · rw [hsame]
    exact h

/-- **An update** keeps the ports valid exactly if it stores no other port. -/
theorem allValid_replaceRecord {db db' : DB} {id : String} {rec : EndpointRecord}
    (h : db.updateEndpoint id rec = .ok db') (hdb : AllValid db) :
    AllValid db' ↔ ValidRecord rec :=
  (allValid_write (hostPort_updateEndpoint h)).1 hdb

/-- An Update writes its record, or nothing. -/
theorem update_cases (db : DB) (id : String) (body : Option UpdateEndpointRequest) :
    (∃ rec db', updateRecord body = .ok rec ∧ db.ReplaceAccepted id rec ∧
        db.updateEndpoint id rec = .ok db' ∧ update db id body = .ok db') ∨
      (∀ rec, updateRecord body = .ok rec → ¬db.ReplaceAccepted id rec) ∧
        ∃ e, update db id body = .error e := by
  unfold update
  cases hrec : updateRecord body with
  | error e => exact Or.inr ⟨fun rec h => (by cases h), e, rfl⟩
  | ok rec =>
      dsimp only
      obtain ⟨haccepted, db', hreplace, hupdate⟩ | ⟨hrefused, e, hreplace⟩ :=
        db.replaceRecord_cases id rec
      · rw [hreplace]
        exact Or.inl ⟨rec, db', rfl, haccepted, hupdate, rfl⟩
      · rw [hreplace]
        refine Or.inr ⟨fun rec' h => Except.ok.inj h ▸ hrefused, ?_⟩
        cases e <;> exact ⟨_, rfl⟩

/-- A PATCH writes a merge of what it read. -/
theorem patch_ok {db db' : DB} {id : String} {body : Option RawFields}
    (h : patch db id body = .ok db') :
    ∃ fields current rec, db.getEndpoint id = some current ∧
      mergePatch current fields = .ok rec ∧ db.updateEndpoint id rec = .ok db' := by
  unfold patch at h
  cases hread : patchRead db id body with
  | error e =>
      rw [hread] at h
      cases h
  | ok rec =>
      rw [hread] at h
      unfold patchRead at hread
      cases body with
      | none => cases hread
      | some fields =>
          cases hget : db.getEndpoint id with
          | none => simp [hget] at hread
          | some current =>
              rw [hget] at hread
              exact ⟨fields, current, rec, rfl, hread, patchWrite_ok h⟩

/-- The port that GetEndpoint returns for a host endpoint with its row. -/
theorem validRecord_getEndpoint {db : DB} (hrows : HostRows db) (hdb : AllValid db)
    {id : String} {rec : EndpointRecord} (h : db.getEndpoint id = some rec) :
    ValidRecord rec := by
  intro htype
  unfold DB.getEndpoint at h
  obtain ⟨e, he, rfl⟩ := Option.map_eq_some_iff.mp h
  have hport : hostPort db id = some ((db.hosts.find? id).map (·.port)) := by
    unfold hostPort
    rw [he]
    exact if_pos htype
  cases hhost : (db.hosts.find? id).map (·.port) with
  | none =>
      rw [hhost] at hport
      exact absurd hport (hrows id)
  | some p =>
      rw [hhost] at hport
      have hvalid := hdb id p hport
      simpa [hhost] using hvalid

/-- A port that a PATCH names is valid. -/
theorem validPort_of_portNumber {v : RawMessage} {p : Int}
    (h : portNumber v = some p) : ValidPort p := by
  unfold portNumber at h
  split at h
  · split at h
    · cases h
    · next hrange =>
        cases h
        unfold ValidPort
        omega
  · cases h

/-- **A PATCH** keeps the ports valid. -/
theorem allValid_patch {db db' : DB} {id : String} {body : Option RawFields}
    (hrows : HostRows db) (hdb : AllValid db) (h : patch db id body = .ok db') :
    AllValid db' := by
  obtain ⟨fields, current, rec, hget, hmerge, hupdate⟩ := patch_ok h
  apply (allValid_replaceRecord hupdate hdb).mpr
  intro htype
  have hport := mergePatch_get hmerge .port
  simp only [Field.get, Field.named] at hport
  cases hnamed : (fields "port").bind portNumber with
  | none =>
      -- it writes the port that it read
      rw [hnamed] at hport
      injection hport with hport
      rw [hport]
      apply validRecord_getEndpoint hrows hdb hget
      rwa [← mergePatch_type hmerge]
  | some p =>
      rw [hnamed] at hport
      injection hport with hport
      rw [hport]
      obtain ⟨v, -, hv⟩ := Option.bind_eq_some_iff.mp hnamed
      exact validPort_of_portNumber hv

theorem hostRows_patch {db db' : DB} {id : String} {body : Option RawFields}
    (hrows : HostRows db) (h : patch db id body = .ok db') : HostRows db' := by
  obtain ⟨_, _, rec, -, -, hupdate⟩ := patch_ok h
  exact (allValid_write (hostPort_updateEndpoint hupdate)).2 hrows

/-- **A deletion** keeps the ports that are left. -/
theorem allValid_deleteEndpoint {db db' : DB} {id : String}
    (h : db.deleteEndpoint id = .ok db') :
    (AllValid db → AllValid db') ∧ (HostRows db → HostRows db') := by
  have hport := hostPort_deleteEndpoint h
  refine ⟨fun hdb id' p hp => ?_, fun hdb id' => ?_⟩
  · rw [hport] at hp
    split at hp
    · cases hp
    · exact hdb id' p hp
  · rw [hport]
    split
    · simp
    · exact hdb id'

/-! ## §3. An import. -/

/-- The ids of `n` insertions, from the `i`th on, are different and unused. -/
def FreshIDs (db : DB) (outcome : Nat → Insertion) (i n : Nat) : Prop :=
  (∀ j < n, db.Unused (outcome (i + j)).id) ∧
    ((List.range n).map fun j => (outcome (i + j)).id).Nodup

instance (db : DB) (outcome : Nat → Insertion) (i n : Nat) :
    Decidable (FreshIDs db outcome i n) := inferInstanceAs (Decidable (_ ∧ _))

/-- An insert uses its own id only, and leaves the scanners alone. -/
theorem unused_insertRecord {db : DB} {o : Insertion} (hid : db.Unused o.id)
    (rec : EndpointRecord) :
    (db.insertRecord o rec).1.scanners = db.scanners ∧
      ∀ id, id ≠ o.id → db.Unused id → (db.insertRecord o rec).1.Unused id := by
  obtain ⟨-, hinsert⟩ | ⟨-, hsame⟩ := DB.insertRecord_cases hid rec
  · obtain ⟨-, hscanners, -, hmem, hhosts, hsaml⟩ := DB.insertEndpoint_ok hinsert
    refine ⟨hscanners, fun id hne hunused => ⟨?_, ?_, ?_⟩⟩
    · apply Table.find?_eq_none_iff.mpr
      intro e he
      obtain he | he := (hmem e).mp he
      · exact Table.find?_eq_none_iff.mp hunused.1 e he
      · rw [he]
        exact hne.symm
    · rw [hhosts, if_neg fun h => hne h.2.symm]
      exact hunused.2.1
    · rw [hsaml, if_neg fun h => hne h.2.symm]
      exact hunused.2.2
  · rw [hsame]
    exact ⟨rfl, fun _ _ h => h⟩

/-- The tables after a request for an endpoint, `asked` being its record or its error. -/
def written {ε : Type} (db : DB) (o : Insertion) (asked : Except ε EndpointRecord) :
    DB :=
  match asked with
  | .error _ => db
  | .ok rec => (db.insertRecord o rec).1

/-- A request for an endpoint asks for no invalid port, or is not accepted. -/
def InsertValid {ε : Type} (db : DB) (o : Insertion)
    (asked : Except ε EndpointRecord) : Prop :=
  ∀ rec, asked = .ok rec → db.InsertAccepted o rec → ValidRecord rec

/-- **One request for an endpoint.** -/
theorem allValid_written {ε : Type} {db : DB} {o : Insertion} (hid : db.Unused o.id)
    (asked : Except ε EndpointRecord) :
    (AllValid (written db o asked) ↔ AllValid db ∧ InsertValid db o asked) ∧
      (HostRows db → HostRows (written db o asked)) ∧
      (written db o asked).scanners = db.scanners ∧
      ∀ id, id ≠ o.id → db.Unused id → (written db o asked).Unused id := by
  cases asked with
  | error e =>
      exact ⟨⟨fun h => ⟨h, fun rec hok => by cases hok⟩, fun h => h.1⟩, fun h => h, rfl,
        fun _ _ h => h⟩
  | ok rec =>
      obtain ⟨hscanners, hunused⟩ := unused_insertRecord hid rec
      refine ⟨?_, hostRows_insertRecord hid rec, hscanners, hunused⟩
      show AllValid (db.insertRecord o rec).1 ↔ _
      rw [allValid_insertRecord hid rec]
      exact and_congr_right fun _ =>
        ⟨fun h rec' hok => Except.ok.inj hok ▸ h, fun h => h rec rfl⟩

theorem create_fst (db : DB) (o : Insertion) (body : Option CreateEndpointRequest) :
    (create db o body).1 = written db o (createRecord body) := by
  unfold create written
  cases createRecord body with
  | error e => rfl
  | ok rec =>
      dsimp only
      split <;> simp_all

theorem importRow_fst (db : DB) (rowNum : Nat) (row : BulkImportRow) (o : Insertion) :
    (importRow db rowNum row o).1 = written db o (importRecord row) := by
  unfold importRow written
  cases importRecord row with
  | error errMsg => rfl
  | ok rec =>
      dsimp only
      split <;> simp_all

/-- No row from the `i`th on asks for another port, or it is not accepted. -/
def AllImportsValid (db : DB) (outcome : Nat → Insertion) (i : Nat)
    (rows : List BulkImportRow) : Prop :=
  ∀ j row, rows[j]? = some row → InsertValid db (outcome (i + j)) (importRecord row)

/-- Whether an insert is accepted depends on the scanners alone. -/
theorem insertAccepted_congr {db db' : DB} (h : db'.scanners = db.scanners) (o : Insertion)
    (rec : EndpointRecord) : db'.InsertAccepted o rec ↔ db.InsertAccepted o rec := by
  have hscanner : db'.ScannerExists rec.scannerID ↔ db.ScannerExists rec.scannerID := by
    unfold DB.ScannerExists
    rw [h]
  exact ⟨fun ⟨hc, hp, hs, hu⟩ => ⟨hc, hp, hscanner.mp hs, hu⟩,
    fun ⟨hc, hp, hs, hu⟩ => ⟨hc, hp, hscanner.mpr hs, hu⟩⟩

theorem insertValid_congr {ε : Type} {db db' : DB} (h : db'.scanners = db.scanners)
    (o : Insertion) (asked : Except ε EndpointRecord) :
    InsertValid db' o asked ↔ InsertValid db o asked := by
  unfold InsertValid
  simp only [insertAccepted_congr h]

theorem allImportsValid_cons {db : DB} {outcome : Nat → Insertion} {i : Nat}
    {row : BulkImportRow} {rows : List BulkImportRow} :
    AllImportsValid db outcome i (row :: rows) ↔
      InsertValid db (outcome i) (importRecord row) ∧ AllImportsValid db outcome (i + 1) rows := by
  unfold AllImportsValid
  constructor
  · intro h
    refine ⟨h 0 row rfl, fun j row' hrow' => ?_⟩
    have hnext := h (j + 1) row' hrow'
    rwa [show i + (j + 1) = i + 1 + j by omega] at hnext
  · rintro ⟨hfirst, hrest⟩ j row' hrow'
    cases j with
    | zero =>
        rw [List.getElem?_cons_zero, Option.some.injEq] at hrow'
        exact hrow' ▸ hfirst
    | succ j =>
        rw [show i + (j + 1) = i + 1 + j by omega]
        exact hrest j row' hrow'

/-- The first id, and the others after its insertion. -/
theorem freshIDs_succ {db : DB} {outcome : Nat → Insertion} {i n : Nat}
    (h : FreshIDs db outcome i (n + 1)) :
    db.Unused (outcome i).id ∧ ∀ {db' : DB},
      (∀ id, id ≠ (outcome i).id → db.Unused id → db'.Unused id) →
        FreshIDs db' outcome (i + 1) n := by
  obtain ⟨hunused, hnodup⟩ := h
  rw [List.range_succ_eq_map, List.map_cons, List.map_map, List.nodup_cons] at hnodup
  have hshift : (fun j => (outcome (i + j)).id) ∘ Nat.succ =
      fun j => (outcome (i + 1 + j)).id := by
    funext j
    show (outcome (i + (j + 1))).id = _
    rw [show i + (j + 1) = i + 1 + j by omega]
  rw [hshift] at hnodup
  refine ⟨hunused 0 (Nat.succ_pos n), fun hkeep => ⟨fun j hj => ?_, hnodup.2⟩⟩
  apply hkeep
  · intro heq
    exact hnodup.1 (List.mem_map.mpr ⟨j, List.mem_range.mpr hj, heq⟩)
  · have hnext := hunused (j + 1) (Nat.succ_lt_succ hj)
    rwa [show i + (j + 1) = i + 1 + j by omega] at hnext

/-- **A whole import** keeps the ports valid exactly if no row that is accepted has another. -/
theorem allValid_bulkLoop {outcome : Nat → Insertion} (rows : List BulkImportRow) :
    ∀ (i : Nat) (db : DB) (resp : BulkImportResponse),
      FreshIDs db outcome i rows.length →
        (AllValid (bulkLoop outcome i rows (db, resp)).1 ↔
          AllValid db ∧ AllImportsValid db outcome i rows) ∧
        (HostRows db → HostRows (bulkLoop outcome i rows (db, resp)).1) := by
  induction rows with
  | nil =>
      intro i db resp _
      exact ⟨⟨fun h => ⟨h, fun j row hrow => by simp at hrow⟩, fun h => h.1⟩, fun h => h⟩
  | cons row rows ih =>
      intro i db resp hfresh
      obtain ⟨hid, hrest⟩ := freshIDs_succ hfresh
      obtain ⟨hrow, hhosts, hscanners, hunused⟩ := allValid_written hid (importRecord row)
      rw [← importRow_fst db (i + 1) row (outcome i)] at hrow hhosts hscanners hunused
      obtain ⟨hloop, hhosts'⟩ := ih (i + 1) (importRow db (i + 1) row (outcome i)).1
        (resp.add (importRow db (i + 1) row (outcome i)).2) (hrest hunused)
      refine ⟨?_, fun h => hhosts' (hhosts h)⟩
      -- the rest asks the same of the tables before and after the first row
      have hsame : AllImportsValid (importRow db (i + 1) row (outcome i)).1 outcome (i + 1) rows ↔
          AllImportsValid db outcome (i + 1) rows := by
        unfold AllImportsValid
        simp only [insertValid_congr hscanners]
      show AllValid (bulkLoop outcome (i + 1) rows _).1 ↔ _
      rw [hloop, hrow, hsame, allImportsValid_cons, and_assoc]

theorem bulkImport_fst (db : DB) (outcome : Nat → Insertion)
    (body : Option (List BulkImportRow)) :
    (bulkImport db outcome body).1 = (bulkLoop outcome 0 (body.getD []) (db, ⟨0, 0, []⟩)).1 := by
  unfold bulkImport
  cases body with
  | none => rfl
  | some rows =>
      cases rows with
      | nil => rfl
      | cons row rows => rfl

end TLSentinel.Endpoints.HostPorts
