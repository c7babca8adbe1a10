/-
  TLSentinel.Tags.Subscriptions
  ─────────────────────────────
  **REPLACING THE TAG SUBSCRIPTIONS OF A USER, STATEMENT BY STATEMENT.**

  `SetUserTagSubscriptions` of `internal/db/subscriptions_store.go` deletes the
  subscriptions of the user and inserts one row for each id of the list, in one
  transaction.  Other than SetEndpointTags it keeps repeated ids, and the primary key
  (user_id, tag_id) refuses the second row.

  `TLSentinel.Notifications.Subscriptions` has the transaction as one function;
  `setUserTagSubscriptions_refines` says that it is this one.

  Main results:
    * `setUserTagSubscriptionsTx_isOk_iff` — when it succeeds;
    * `subscribed_setUserTagSubscriptionsTx` — the subscriptions after it;
    * `replacesSubscriptions_iff`          — when it replaces them as SetEndpointTags
                                             replaces tags.
-/
import TLSentinel.Notifications.Subscriptions
import TLSentinel.Tags.Replacement

namespace TLSentinel.Tags

open Foundation

/-! ## §1. The tables. -/

/-- A row of `tlsentinel.user_tag_subscriptions`. -/
structure UserTagSubscription where
  userID : String
  tagID : String
  deriving DecidableEq, Repr

/-- PRIMARY KEY (user_id, tag_id). -/
def UserTagSubscription.key (r : UserTagSubscription) : String × String := (r.userID, r.tagID)

abbrev SubscriptionTable := Table UserTagSubscription.key

/-- The foreign keys of `user_tag_subscriptions`. -/
def SubscriptionRefs (users : IDTable) (tags : TagTable) (subscriptions : SubscriptionTable) :
    Prop := ∀ r ∈ subscriptions, r.userID ∈ users ∧ ∃ t ∈ tags, t.id = r.tagID

instance (users : IDTable) (tags : TagTable) (subscriptions : SubscriptionTable) :
    Decidable (SubscriptionRefs users tags subscriptions) :=
  inferInstanceAs (Decidable (∀ r ∈ subscriptions, _))

/-- The subscriptions and the tables that they refer to. -/
structure SubscriptionDB where
  users : IDTable
  tags : TagTable
  subscriptions : SubscriptionTable
  refs : SubscriptionRefs users tags subscriptions

/-- The user subscribes to the tag. -/
def SubscriptionDB.Subscribed (db : SubscriptionDB) (userID tagID : String) : Prop :=
  ⟨userID, tagID⟩ ∈ db.subscriptions

/-! ## §2. The transaction. -/

/-- How `SetUserTagSubscriptions` fails. -/
inductive SetSubscriptionsError where
  /-- "failed to clear tag subscriptions". -/
  | clear
  /-- "failed to insert tag subscriptions". -/
  | insert
  /-- The commit fails. -/
  | commit
  deriving DecidableEq, Repr

/-- Which statements find the database there. -/
structure SubscriptionsUp where
  clear : Bool
  insert : Bool
  commit : Bool
  deriving DecidableEq, Repr

/-- Every statement finds the database there. -/
def SubscriptionsUp.all : SubscriptionsUp := ⟨true, true, true⟩

/-- DELETE of the subscriptions of a user. -/
def clearSubscriptions (userID : String) (db : SubscriptionDB) : SubscriptionDB :=
  { db with
    subscriptions := db.subscriptions.delete fun r => decide (r.userID = userID)
    refs := fun r hr => db.refs r (Table.mem_delete.mp hr).1 }

/-- INSERT of a row for each id; the keys are checked at its end. -/
def insertSubscriptions (userID : String) (tagIDs : List String) (db : SubscriptionDB) :
    Option SubscriptionDB :=
  match db.subscriptions.insertAll (tagIDs.map fun id => ⟨userID, id⟩) with
  | none => none
  | some subscriptions =>
      if hrefs : SubscriptionRefs db.users db.tags subscriptions then
        some { db with subscriptions := subscriptions, refs := hrefs }
      else none

/-- The body of the transaction. -/
def setSubscriptionsBody (up : SubscriptionsUp) (userID : String) (tagIDs : List String) :
    Tx SubscriptionDB SetSubscriptionsError Unit := do
  Tx.write up.clear .clear fun db => some (clearSubscriptions userID db)
  Tx.when (tagIDs ≠ []) (Tx.write up.insert .insert (insertSubscriptions userID tagIDs))

/-- `SetUserTagSubscriptions`. -/
def setUserTagSubscriptionsTx (up : SubscriptionsUp) (userID : String) (tagIDs : List String)
    (db : SubscriptionDB) : Except SetSubscriptionsError Unit × SubscriptionDB :=
  runInTx up.commit .commit (setSubscriptionsBody up userID tagIDs) db

/-! ## §3. What its statements do. -/

variable {db db' : SubscriptionDB} {up : SubscriptionsUp} {userID : String}
  {tagIDs : List String}

/-- What the rows of a list refer to is there. -/
def SubscriptionDB.Referable (db : SubscriptionDB) (userID : String) (tagIDs : List String) :
    Prop := userID ∈ db.users ∧ ∀ id ∈ tagIDs, ∃ t ∈ db.tags, t.id = id

theorem nodup_keys_iff : ((tagIDs.map fun id => (⟨userID, id⟩ : UserTagSubscription)).map
    UserTagSubscription.key).Nodup ↔ tagIDs.Nodup := by
  rw [List.map_map]
  exact List.nodup_map_iff fun a b h => congrArg Prod.snd h

/-- **The new rows after the old ones are gone**: a repeated id is refused. -/
theorem insertSubscriptions_isSome_iff (hne : tagIDs ≠ []) :
    (∃ db', insertSubscriptions userID tagIDs (clearSubscriptions userID db) = some db') ↔
      tagIDs.Nodup ∧ db.Referable userID tagIDs := by
  have hrows : (∃ u, (clearSubscriptions userID db).subscriptions.insertAll
      (tagIDs.map fun id => ⟨userID, id⟩) = some u) ↔ tagIDs.Nodup := by
    rw [← @nodup_keys_iff userID tagIDs]
    refine Table.replace_isSome_iff (fun r s h => ?_) fun r hr => ?_
    · rw [show r.userID = s.userID from congrArg Prod.fst h]
    · obtain ⟨id, -, rfl⟩ := List.mem_map.mp hr
      exact decide_eq_true rfl
  have hrefs : ∀ {u}, (clearSubscriptions userID db).subscriptions.insertAll
      (tagIDs.map fun id => ⟨userID, id⟩) = some u →
      (SubscriptionRefs db.users db.tags u ↔ db.Referable userID tagIDs) := by
    intro u hu
    have hmem := fun r => Table.mem_insertAll hu (s := r)
    constructor
    · intro h
      have hnew : ∀ id ∈ tagIDs, userID ∈ db.users ∧ ∃ t ∈ db.tags, t.id = id := fun id hid =>
        h ⟨userID, id⟩ ((hmem _).mpr (Or.inr (List.mem_map_of_mem hid)))
      obtain ⟨id, hid⟩ := List.exists_mem_of_ne_nil _ hne
      exact ⟨(hnew id hid).1, fun id hid => (hnew id hid).2⟩
    · rintro ⟨huser, htags⟩ r hr
      obtain hr | hr := (hmem r).mp hr
      · exact (clearSubscriptions userID db).refs r hr
      · obtain ⟨id, hid, rfl⟩ := List.mem_map.mp hr
        exact ⟨huser, htags id hid⟩
  unfold insertSubscriptions
  constructor
  · rintro ⟨db', h⟩
    split at h
    · cases h
    · next u hu =>
        split at h
        · next hr => exact ⟨hrows.mp ⟨u, hu⟩, (hrefs hu).mp hr⟩
        · cases h
  · rintro ⟨hnodup, href⟩
    obtain ⟨u, hu⟩ := hrows.mpr hnodup
    rw [hu]
    exact ⟨_, dif_pos ((hrefs hu).mpr href)⟩

/-- The rows after the insert. -/
theorem subscribed_insertSubscriptions
    (h : insertSubscriptions userID tagIDs (clearSubscriptions userID db) = some db')
    (u id : String) :
    db'.Subscribed u id ↔ if u = userID then id ∈ tagIDs else db.Subscribed u id := by
  unfold insertSubscriptions at h
  split at h
  · cases h
  · next subscriptions hins =>
      split at h
      · injection h with h
        subst h
        show ⟨u, id⟩ ∈ subscriptions ↔ _
        have hreplace : db.subscriptions.replace (fun r => decide (r.userID = userID))
            (tagIDs.map fun id => ⟨userID, id⟩) = some subscriptions := hins
        rw [Table.mem_replace hreplace, decide_eq_false_iff_not, List.mem_map]
        by_cases hu : u = userID
        · simp [hu]
        · simp [hu, Ne.symm hu, SubscriptionDB.Subscribed]
      · cases h

theorem subscribed_clearSubscriptions (u id : String) :
    (clearSubscriptions userID db).Subscribed u id ↔
      if u = userID then id ∈ ([] : List String) else db.Subscribed u id := by
  show ⟨u, id⟩ ∈ db.subscriptions.delete _ ↔ _
  rw [Table.mem_delete, decide_eq_false_iff_not]
  by_cases hu : u = userID
  · simp [hu]
  · simp [hu, SubscriptionDB.Subscribed]

/-- **What a body that ends well did.** -/
theorem setSubscriptionsBody_ok_iff :
    (setSubscriptionsBody up userID tagIDs).exec db = (.ok (), db') ↔
      up.clear = true ∧
        ((tagIDs = [] ∧ db' = clearSubscriptions userID db) ∨
          (tagIDs ≠ [] ∧ up.insert = true ∧
            insertSubscriptions userID tagIDs (clearSubscriptions userID db) = some db')) := by
  unfold setSubscriptionsBody
  rw [Tx.exec_seq_ok_iff]
  simp only [Tx.exec_when_ok_iff, Tx.exec_write_ok_iff, ne_eq, not_not, Option.some.injEq]
  constructor
  · rintro ⟨_, ⟨hclear, rfl⟩, ⟨hne, hup, hwrite⟩ | ⟨hnil, rfl⟩⟩
    · exact ⟨hclear, Or.inr ⟨hne, hup, hwrite⟩⟩
    · exact ⟨hclear, Or.inl ⟨hnil, rfl⟩⟩
  · rintro ⟨hclear, ⟨hnil, rfl⟩ | hinsert⟩
    · exact ⟨_, ⟨hclear, rfl⟩, Or.inr ⟨hnil, rfl⟩⟩
    · exact ⟨_, ⟨hclear, rfl⟩, Or.inl hinsert⟩

/-! ## §4. The transaction as a whole. -/

/-- **SetUserTagSubscriptions succeeds** exactly if no id is repeated, the user and the
tags exist, and no statement is lost. -/
theorem setUserTagSubscriptionsTx_isOk_iff :
    (setUserTagSubscriptionsTx up userID tagIDs db).1 = .ok () ↔
      up.clear = true ∧ up.commit = true ∧
        (tagIDs ≠ [] → up.insert = true ∧ tagIDs.Nodup ∧ db.Referable userID tagIDs) := by
  unfold setUserTagSubscriptionsTx
  rw [runInTx_isOk_iff]
  simp only [setSubscriptionsBody_ok_iff]
  by_cases hnil : tagIDs = []
  · subst hnil
    constructor
    · rintro ⟨hcommit, -, hclear, -⟩
      exact ⟨hclear, hcommit, fun h => absurd rfl h⟩
    · rintro ⟨hclear, hcommit, -⟩
      exact ⟨hcommit, _, hclear, Or.inl ⟨rfl, rfl⟩⟩
  · have hinsert := @insertSubscriptions_isSome_iff db userID tagIDs hnil
    constructor
    · rintro ⟨hcommit, db', hclear, ⟨habs, -⟩ | ⟨-, hup, hwrite⟩⟩
      · exact absurd habs hnil
      · exact ⟨hclear, hcommit, fun _ => ⟨hup, hinsert.mp ⟨db', hwrite⟩⟩⟩
    · rintro ⟨hclear, hcommit, h⟩
      obtain ⟨hup, haccepted⟩ := h hnil
      obtain ⟨db', hwrite⟩ := hinsert.mpr haccepted
      exact ⟨hcommit, db', hclear, Or.inr ⟨hnil, hup, hwrite⟩⟩

/-- **The subscriptions after it.** -/
theorem subscribed_setUserTagSubscriptionsTx
    (h : setUserTagSubscriptionsTx up userID tagIDs db = (.ok (), db')) (u id : String) :
    db'.Subscribed u id ↔ if u = userID then id ∈ tagIDs else db.Subscribed u id := by
  obtain ⟨-, hbody⟩ := runInTx_ok_iff.mp h
  obtain ⟨-, ⟨hnil, rfl⟩ | ⟨-, -, hwrite⟩⟩ := setSubscriptionsBody_ok_iff.mp hbody
  · rw [subscribed_clearSubscriptions, hnil]
  · exact subscribed_insertSubscriptions hwrite u id

theorem setUserTagSubscriptionsTx_error {e : SetSubscriptionsError}
    (h : setUserTagSubscriptionsTx up userID tagIDs db = (.error e, db')) : db' = db :=
  runInTx_eq_error h

/-- The subscriptions are replaced as a set: the transaction succeeds unless a statement is
lost, afterwards the user has those given and the others what they had, and a failure
changes nothing. -/
structure ReplacesSubscriptions (db : SubscriptionDB) (userID : String) (tagIDs : List String) :
    Prop where
  succeeds : (setUserTagSubscriptionsTx .all userID tagIDs db).1 = .ok ()
  exact : ∀ up db', setUserTagSubscriptionsTx up userID tagIDs db = (.ok (), db') →
    ∀ u id, db'.Subscribed u id ↔ if u = userID then id ∈ tagIDs else db.Subscribed u id
  atomic : ∀ up e db', setUserTagSubscriptionsTx up userID tagIDs db = (.error e, db') → db' = db

/-- **Subscriptions are replaced as a set** exactly if the list repeats no id. -/
theorem replacesSubscriptions_iff (db : SubscriptionDB) {userID : String} {tagIDs : List String}
    (huser : userID ∈ db.users) (htags : ∀ id ∈ tagIDs, ∃ t ∈ db.tags, t.id = id) :
    ReplacesSubscriptions db userID tagIDs ↔ tagIDs.Nodup := by
  constructor
  · intro h
    obtain ⟨-, -, hinsert⟩ := setUserTagSubscriptionsTx_isOk_iff.mp h.succeeds
    by_cases hnil : tagIDs = []
    · rw [hnil]
      exact List.nodup_nil
    · exact (hinsert hnil).2.1
  · intro hnodup
    refine ⟨?_, fun up db' h => subscribed_setUserTagSubscriptionsTx h,
      fun up e db' h => setUserTagSubscriptionsTx_error h⟩
    exact setUserTagSubscriptionsTx_isOk_iff.mpr
      ⟨rfl, rfl, fun _ => ⟨rfl, hnodup, huser, htags⟩⟩

/-- A user, two tags, and no subscriptions. -/
def twoTags : SubscriptionDB where
  users := ⟨["ann"], List.nodup_singleton _⟩
  tags := ⟨[⟨"prod", "env"⟩, ⟨"test", "env"⟩], by decide⟩
  subscriptions := Table.empty
  refs := Table.forall_mem_empty

/-- The condition at a list without repetitions. -/
theorem replacesSubscriptions_iff_twoTags :
    ReplacesSubscriptions twoTags "ann" ["test", "prod"] ↔ ["test", "prod"].Nodup :=
  replacesSubscriptions_iff twoTags (by decide) (by decide)

/-- **A repeated id fails the transaction.** -/
theorem repeated_subscription_fails :
    ¬∀ (db : SubscriptionDB) (userID : String) (tagIDs : List String), userID ∈ db.users →
      (∀ id ∈ tagIDs, ∃ t ∈ db.tags, t.id = id) → ReplacesSubscriptions db userID tagIDs := by
  intro h
  have hsucceeds := (h twoTags "ann" ["prod", "prod"] (by decide) (by decide)).succeeds
  obtain ⟨-, -, hinsert⟩ := setUserTagSubscriptionsTx_isOk_iff.mp hsucceeds
  exact absurd (hinsert (by decide)).2.1 (by decide)

/-! ## §5. The transaction as one function. -/

/-- **SetUserTagSubscriptions of `TLSentinel.Notifications.Subscriptions` is this
transaction**, where no statement is lost. -/
theorem setUserTagSubscriptions_refines {s : Notifications.Settings}
    (husers : userID ∈ db.users ↔ ∃ u ∈ s.users, u.id = userID)
    (hsubs : ∀ u id, db.Subscribed u id ↔ (u, id) ∈ s.subscriptions) :
    match s.setUserTagSubscriptions (db.tags.rows.map Tag.id) userID tagIDs,
      setUserTagSubscriptionsTx .all userID tagIDs db with
    | some s', (.ok _, db') => ∀ u id, db'.Subscribed u id ↔ (u, id) ∈ s'.subscriptions
    | none, (.error _, db') => db' = db
    | _, _ => False := by
  have htags : (∀ tag ∈ tagIDs, tag ∈ db.tags.rows.map Tag.id) ↔
      ∀ id ∈ tagIDs, ∃ t ∈ db.tags, t.id = id := by
    simp only [List.mem_map]
    rfl
  have hsome : (∃ s', s.setUserTagSubscriptions (db.tags.rows.map Tag.id) userID tagIDs =
      some s') ↔ (tagIDs ≠ [] → tagIDs.Nodup ∧ db.Referable userID tagIDs) := by
    unfold Notifications.Settings.setUserTagSubscriptions SubscriptionDB.Referable
    rw [husers, ← htags]
    by_cases hnil : tagIDs = []
    · simp [hnil]
    · simp only [hnil, if_false, ne_eq, not_false_eq_true, forall_const]
      constructor
      · rintro ⟨s', h⟩
        split at h
        · next hall => exact ⟨hall.1, hall.2.2, hall.2.1⟩
        · cases h
      · rintro ⟨hnodup, huser, hexist⟩
        exact ⟨_, if_pos ⟨hnodup, hexist, huser⟩⟩
  have hok := @setUserTagSubscriptionsTx_isOk_iff db .all userID tagIDs
  rcases hrun : setUserTagSubscriptionsTx .all userID tagIDs db with ⟨e | ⟨⟨⟩⟩, db'⟩
  · cases hset : s.setUserTagSubscriptions (db.tags.rows.map Tag.id) userID tagIDs with
    | none => exact setUserTagSubscriptionsTx_error hrun
    | some s' =>
        rw [hrun] at hok
        have hinsert := hsome.mp ⟨s', hset⟩
        cases hok.mpr ⟨rfl, rfl, fun hne => ⟨rfl, hinsert hne⟩⟩
  · obtain ⟨-, -, hinsert⟩ := hok.mp (congrArg Prod.fst hrun)
    obtain ⟨s', hset⟩ := hsome.mpr fun hne => (hinsert hne).2
    rw [hset]
    intro u id
    rw [subscribed_setUserTagSubscriptionsTx hrun, Notifications.mem_setUserTagSubscriptions hset,
      hsubs]

end TLSentinel.Tags
