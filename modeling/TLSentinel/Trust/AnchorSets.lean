/-
  TLSentinel.Trust.AnchorSets
  ───────────────────────────
  **REPLACING THE ANCHORS OF A ROOT STORE, STATEMENT BY STATEMENT.**

  `ReplaceRootStoreAnchors` of `internal/db/root_stores_store.go` inserts the new
  anchors with ON CONFLICT DO NOTHING and then deletes those of the store that are not
  in the list, in one transaction.  The empty list has neither an insert nor a NOT IN.

  `TLSentinel.Trust.Store` has the transaction as one function; `replaced_refines`
  says that it is this one.

  Main results:
    * `replaceRootStoreAnchors_isOk_iff` — when the transaction succeeds;
    * `replaceRootStoreAnchors_exact`    — the anchors after it.
-/
import TLSentinel.Foundation.JoinTables
import TLSentinel.Foundation.Transactions
import TLSentinel.Trust.RootStore

namespace TLSentinel.Trust.AnchorSets

open Foundation TLSentinel.Certs

/-! ## §1. The tables. -/

/-- PRIMARY KEY (root_store_id, fingerprint). -/
def anchorKey (a : RootStoreAnchor) : String × String := (a.rootStoreID, a.fingerprint)

theorem keyIsRow_anchorKey : Table.KeyIsRow anchorKey := by
  rintro ⟨store, fp⟩ ⟨store', fp'⟩ h
  cases h
  rfl

/-- The foreign keys of `root_store_anchors`. -/
def AnchorRefs (certificates : CertTable) (rootStores : Table fun (id : String) => id)
    (anchors : Table anchorKey) : Prop :=
  ∀ a ∈ anchors, a.rootStoreID ∈ rootStores ∧ HasCert certificates a.fingerprint

instance (certificates : CertTable) (rootStores : Table fun (id : String) => id)
    (anchors : Table anchorKey) : Decidable (AnchorRefs certificates rootStores anchors) :=
  inferInstanceAs (Decidable (∀ a ∈ anchors, _))

/-- `root_store_anchors` and the tables that it refers to. -/
structure AnchorDB where
  certificates : CertTable
  rootStores : Table fun (id : String) => id
  rootStoreAnchors : Table anchorKey
  refs : AnchorRefs certificates rootStores rootStoreAnchors

/-! ## §2. The transaction. -/

/-- How `ReplaceRootStoreAnchors` fails. -/
inductive ReplaceError where
  /-- "insert anchors". -/
  | insertAnchors
  /-- "sweep anchors". -/
  | sweepAnchors
  /-- The commit fails. -/
  | commit
  deriving DecidableEq, Repr

/-- Which statements find the database there. -/
structure Up where
  insert : Bool
  sweep : Bool
  commit : Bool
  deriving DecidableEq, Repr

/-- INSERT ... ON CONFLICT (root_store_id, fingerprint) DO NOTHING; the foreign keys are
checked at its end. -/
def insertAnchors (storeID : String) (fingerprints : List String) (db : AnchorDB) :
    Option AnchorDB :=
  let anchors := db.rootStoreAnchors.insertNewAll
    (fingerprints.map fun fp => ⟨storeID, fp⟩)
  if hrefs : AnchorRefs db.certificates db.rootStores anchors then
    some { db with rootStoreAnchors := anchors, refs := hrefs }
  else none

/-- The WHERE clause of the sweep; NOT IN is left out for the empty list. -/
def swept (storeID : String) (fingerprints : List String) (a : RootStoreAnchor) : Bool :=
  decide (a.rootStoreID = storeID) &&
    (fingerprints.isEmpty || decide (a.fingerprint ∉ fingerprints))

/-- DELETE of the anchors that are no longer present. -/
def sweepAnchors (storeID : String) (fingerprints : List String) (db : AnchorDB) : AnchorDB :=
  { db with
    rootStoreAnchors := db.rootStoreAnchors.delete (swept storeID fingerprints)
    refs := fun a ha => db.refs a (Table.mem_delete.mp ha).1 }

/-- The body of the transaction. -/
def replaceBody (up : Up) (storeID : String) (fingerprints : List String) :
    Tx AnchorDB ReplaceError Unit := do
  Tx.when (fingerprints ≠ [])
    (Tx.write up.insert .insertAnchors (insertAnchors storeID fingerprints))
  Tx.write up.sweep .sweepAnchors fun db => some (sweepAnchors storeID fingerprints db)

/-- `ReplaceRootStoreAnchors`. -/
def replaceRootStoreAnchors (up : Up) (storeID : String) (fingerprints : List String)
    (db : AnchorDB) : Except ReplaceError Unit × AnchorDB :=
  runInTx up.commit .commit (replaceBody up storeID fingerprints) db

/-! ## §3. What its statements do. -/

variable {db db' : AnchorDB} {storeID : String} {fingerprints : List String}

theorem swept_eq_false_iff {a : RootStoreAnchor} :
    swept storeID fingerprints a = false ↔
      (a.rootStoreID = storeID → a.fingerprint ∈ fingerprints) := by
  unfold swept
  cases fingerprints with
  | nil => simp
  | cons fp fps => simp [imp_iff_not_or]

/-- The rows after the insert. -/
theorem insertAnchors_eq_some (h : insertAnchors storeID fingerprints db = some db') :
    db'.certificates = db.certificates ∧ db'.rootStores = db.rootStores ∧
      ∀ a, a ∈ db'.rootStoreAnchors ↔
        a ∈ db.rootStoreAnchors ∨ (a.rootStoreID = storeID ∧ a.fingerprint ∈ fingerprints) := by
  unfold insertAnchors at h
  simp only at h
  split at h
  · injection h with h
    subst h
    refine ⟨rfl, rfl, fun a => ?_⟩
    rw [Table.mem_insertNewAll keyIsRow_anchorKey, List.mem_map]
    apply or_congr_right
    constructor
    · rintro ⟨fp, hfp, rfl⟩
      exact ⟨rfl, hfp⟩
    · rintro ⟨rfl, hfp⟩
      exact ⟨a.fingerprint, hfp, rfl⟩
  · cases h

/-- What the anchors given refer to is there. -/
def Referable (db : AnchorDB) (storeID : String) (fingerprints : List String) : Prop :=
  fingerprints ≠ [] → storeID ∈ db.rootStores ∧ ∀ fp ∈ fingerprints, HasCert db.certificates fp

/-- The insert is refused exactly if the store or a certificate is not there. -/
theorem insertAnchors_isSome_iff (hne : fingerprints ≠ []) :
    (∃ db', insertAnchors storeID fingerprints db = some db') ↔
      Referable db storeID fingerprints := by
  have hmem : ∀ a, a ∈ db.rootStoreAnchors.insertNewAll
        (fingerprints.map fun fp => (⟨storeID, fp⟩ : RootStoreAnchor)) ↔
      a ∈ db.rootStoreAnchors ∨ ∃ fp ∈ fingerprints, ⟨storeID, fp⟩ = a := fun a => by
    rw [Table.mem_insertNewAll keyIsRow_anchorKey, List.mem_map]
  unfold insertAnchors
  simp only
  constructor
  · rintro ⟨db', h⟩ -
    split at h
    · next hrefs =>
        have hnew : ∀ fp ∈ fingerprints,
            storeID ∈ db.rootStores ∧ HasCert db.certificates fp := fun fp hfp =>
          hrefs ⟨storeID, fp⟩ ((hmem _).mpr (Or.inr ⟨fp, hfp, rfl⟩))
        obtain ⟨fp, hfp⟩ := List.exists_mem_of_ne_nil _ hne
        exact ⟨(hnew fp hfp).1, fun fp hfp => (hnew fp hfp).2⟩
    · cases h
  · intro h
    obtain ⟨hstore, hcerts⟩ := h hne
    refine ⟨_, dif_pos fun a ha => ?_⟩
    obtain ha | ⟨fp, hfp, rfl⟩ := (hmem a).mp ha
    · exact db.refs a ha
    · exact ⟨hstore, hcerts fp hfp⟩

/-- The rows after both statements. -/
theorem mem_replaceBody {up : Up}
    (h : (replaceBody up storeID fingerprints).exec db = (.ok (), db')) (a : RootStoreAnchor) :
    a ∈ db'.rootStoreAnchors ↔
      if a.rootStoreID = storeID then a.fingerprint ∈ fingerprints
      else a ∈ db.rootStoreAnchors := by
  obtain ⟨⟨⟩, db₁, hinsert, hsweep⟩ := Tx.exec_bind_ok_iff.mp h
  obtain ⟨-, hsweep⟩ := Tx.exec_write_ok_iff.mp hsweep
  injection hsweep with hsweep
  subst hsweep
  show a ∈ db₁.rootStoreAnchors.delete (swept storeID fingerprints) ↔ _
  rw [Table.mem_delete, swept_eq_false_iff]
  -- what is there before the sweep
  have hbefore : a ∈ db₁.rootStoreAnchors ↔ a ∈ db.rootStoreAnchors ∨
      (a.rootStoreID = storeID ∧ a.fingerprint ∈ fingerprints) := by
    obtain ⟨-, hwrite⟩ | ⟨hnil, rfl⟩ := Tx.exec_when_ok_iff.mp hinsert
    · exact (insertAnchors_eq_some (Tx.exec_write_ok_iff.mp hwrite).2).2.2 a
    · rw [not_not.mp hnil]
      simp
  rw [hbefore]
  split
  · next hid =>
      exact ⟨fun h => h.2 hid, fun h => ⟨Or.inr ⟨hid, h⟩, fun _ => h⟩⟩
  · next hid => simp [hid]

/-! ## §4. The transaction as a whole. -/

/-- **When the replacement succeeds**: every statement finds the database there, and what
the new anchors refer to is stored. -/
theorem replaceRootStoreAnchors_isOk_iff {up : Up} :
    (replaceRootStoreAnchors up storeID fingerprints db).1 = .ok () ↔
      (fingerprints ≠ [] → up.insert = true) ∧ up.sweep = true ∧ up.commit = true ∧
        Referable db storeID fingerprints := by
  have hbody : (∃ db', (replaceBody up storeID fingerprints).exec db = (.ok (), db')) ↔
      up.sweep = true ∧ ∃ db₁, (fingerprints ≠ [] ∧ up.insert = true ∧
        insertAnchors storeID fingerprints db = some db₁) ∨ (fingerprints = [] ∧ db₁ = db) := by
    constructor
    · rintro ⟨db', h⟩
      obtain ⟨⟨⟩, db₁, hinsert, hsweep⟩ := Tx.exec_bind_ok_iff.mp h
      refine ⟨(Tx.exec_write_ok_iff.mp hsweep).1, db₁, ?_⟩
      rw [Tx.exec_when_ok_iff, Tx.exec_write_ok_iff, not_not] at hinsert
      exact hinsert
    · rintro ⟨hsweep, db₁, hinsert⟩
      refine ⟨_, Tx.exec_bind_ok_iff.mpr ⟨(), db₁, ?_, Tx.exec_write_ok_iff.mpr ⟨hsweep, rfl⟩⟩⟩
      rw [Tx.exec_when_ok_iff, Tx.exec_write_ok_iff, not_not]
      exact hinsert
  unfold replaceRootStoreAnchors
  rw [runInTx_isOk_iff, hbody]
  by_cases hnil : fingerprints = []
  · simp [hnil, Referable, and_comm]
  · have hinsert := @insertAnchors_isSome_iff db storeID fingerprints hnil
    constructor
    · rintro ⟨hcommit, hsweep, db₁, ⟨-, hup, hsome⟩ | ⟨habs, -⟩⟩
      · exact ⟨fun _ => hup, hsweep, hcommit, hinsert.mp ⟨db₁, hsome⟩⟩
      · exact absurd habs hnil
    · rintro ⟨hup, hsweep, hcommit, href⟩
      obtain ⟨db₁, hsome⟩ := hinsert.mpr href
      exact ⟨hcommit, hsweep, db₁, Or.inl ⟨hnil, hup hnil, hsome⟩⟩

/-- **ReplaceRootStoreAnchors installs the given set**: afterwards the anchors of the store
are those listed, and those of other stores are what they were; if it fails, whichever
statement it is, nothing has changed. -/
theorem replaceRootStoreAnchors_exact (up : Up) (storeID : String) (fingerprints : List String)
    (db : AnchorDB) :
    ((replaceRootStoreAnchors up storeID fingerprints db).1 = .ok () ↔
      (fingerprints ≠ [] → up.insert = true) ∧ up.sweep = true ∧ up.commit = true ∧
        Referable db storeID fingerprints) ∧
      match replaceRootStoreAnchors up storeID fingerprints db with
      | (.ok _, db') => ∀ a, a ∈ db'.rootStoreAnchors ↔
          if a.rootStoreID = storeID then a.fingerprint ∈ fingerprints
          else a ∈ db.rootStoreAnchors
      | (.error _, db') => db' = db := by
  refine ⟨replaceRootStoreAnchors_isOk_iff, ?_⟩
  split
  · next answer db' h =>
      obtain ⟨-, hbody⟩ := runInTx_ok_iff.mp h
      exact mem_replaceBody hbody
  · next e db' h => exact runInTx_eq_error h

/-! ## §5. The transaction as one function. -/

/-- Every statement finds the database there. -/
def Up.all : Up := ⟨true, true, true⟩

/-- **The replacement of `TLSentinel.Trust.Store` is this transaction**, where the store
exists and no statement is lost. -/
theorem replaced_refines {X : X509} {db : DB X} {adb : AnchorDB}
    (hcerts : adb.certificates = db.certificates)
    (hanchors : ∀ a, a ∈ adb.rootStoreAnchors ↔ a ∈ db.rootStoreAnchors)
    (hstore : storeID ∈ adb.rootStores) :
    match db.replaceRootStoreAnchors storeID fingerprints,
      replaceRootStoreAnchors Up.all storeID fingerprints adb with
    | some db', (.ok _, adb') => ∀ a, a ∈ adb'.rootStoreAnchors ↔ a ∈ db'.rootStoreAnchors
    | none, (.error _, adb') => adb' = adb
    | _, _ => False := by
  have hok : (replaceRootStoreAnchors Up.all storeID fingerprints adb).1 = .ok () ↔
      ∀ fp ∈ fingerprints, HasCert db.certificates fp := by
    rw [replaceRootStoreAnchors_isOk_iff, ← hcerts]
    constructor
    · rintro ⟨-, -, -, href⟩ fp hfp
      exact (href (List.ne_nil_of_mem hfp)).2 fp hfp
    · exact fun h => ⟨fun _ => rfl, rfl, rfl, fun _ => ⟨hstore, h⟩⟩
  unfold DB.replaceRootStoreAnchors
  by_cases hall : ∀ fp ∈ fingerprints, HasCert db.certificates fp
  · rw [dif_pos hall]
    obtain ⟨hcommit, adb', hbody⟩ := runInTx_isOk_iff.mp (hok.mpr hall)
    rw [show replaceRootStoreAnchors Up.all storeID fingerprints adb = (.ok (), adb') from
      runInTx_ok_iff.mpr ⟨hcommit, hbody⟩]
    intro a
    rw [mem_replaceBody hbody, RootStore.mem_replacedAnchors, hanchors]
  · rw [dif_neg hall]
    rcases hrun : replaceRootStoreAnchors Up.all storeID fingerprints adb with ⟨e | ⟨⟨⟩⟩, adb'⟩
    · exact runInTx_eq_error hrun
    · exact hall (hok.mp (congrArg Prod.fst hrun))

end TLSentinel.Trust.AnchorSets
