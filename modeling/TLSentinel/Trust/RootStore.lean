/-
  TLSentinel.Trust.RootStore
  ──────────────────────────
  **WHAT A REFRESH MAKES OF THE ANCHORS OF EACH ROOT STORE.**

  `Refresh` of `internal/rootstore/refresh.go`, downloads included.  The database may
  fail at any statement; a failed one is logged and the loop goes on.  Nothing is
  claimed of a refresh whose matrix lacks one of its columns, but that an error leaves
  the database alone.

  Main results:
    * `refresh_anchors`  — an error leaves the database as it was; without one the
                           anchors of a store are those of the rows that meet its
                           rule, were not passed over and have a stored certificate,
                           unless its replacement failed: then they are what they were;
    * `refresh_fetched`  — the refresh of `TLSentinel.Trust.Ingest` is the part after
                           the downloads.
-/
import TLSentinel.Trust.TrustMatrix
import TLSentinel.Foundation.Loops

namespace TLSentinel.Trust.RootStore

open Foundation TLSentinel.Certs

variable {X : X509}

/-! ## §1. The refresh. -/

/-- The keys of `perStore`. -/
def builtins : List String := ["apple", "chrome", "microsoft", "mozilla"]

/-- What the database and the runtime do in a refresh. -/
structure Outcome where
  /-- Whether the statement of the i-th entry fails. -/
  entryFails : Nat → Bool
  /-- The answers of the trigger's subquery. -/
  issuers : Nat → Option String
  /-- The order in which the code ranges over `perStore`. -/
  order : List String
  order_perm : order.Perm builtins
  replaceFails : String → Bool
  reconcileFails : Bool

/-- The bodies of the three requests; there is none where a request fails. -/
structure Downloads where
  matrix : Option String
  mozilla : Option String
  microsoft : Option String

/-- The errors of `Refresh`. -/
inductive RefreshError where
  /-- "fetch trust matrix". -/
  | trustMatrix (e : FetchError)
  /-- "fetch PEMs". -/
  | pems (e : FetchError)
  deriving DecidableEq, Repr

/-- The body of the loop over the matrix. -/
def refreshEntry (o : Outcome) (pems : String → Option X.Cert) (p : DB X × List TrustEntry)
    (e : TrustEntry × Nat) : Option (DB X × List TrustEntry) :=
  if o.entryFails e.2 then some p else processEntry pems (o.issuers e.2) p.1 p.2 e.1

/-- `perStore[storeID]`. -/
def storeFingerprints (accepted : List TrustEntry) (storeID : String) : List String :=
  ((perStore accepted).lookup storeID).getD []

/-- The body of the loop over `perStore`. -/
def refreshStore (o : Outcome) (accepted : List TrustEntry) (db : DB X) (storeID : String) :
    DB X :=
  if o.replaceFails storeID then db
  else (db.replaceRootStoreAnchors storeID (storeFingerprints accepted storeID)).getD db

/-- `Refresh`, after the downloads. -/
def applyMatrix (o : Outcome) (matrix : List TrustEntry) (pems : String → Option X.Cert)
    (db : DB X) : Option (DB X) :=
  match matrix.zipIdx.foldlM (refreshEntry o pems) (db, []) with
  | none => none
  | some (db, accepted) =>
      let db := o.order.foldl (refreshStore o accepted) db
      if o.reconcileFails then some db else some db.reconcileTrustAnchorFlags.1

/-- `Refresh`: the database, and what is returned.  There is no refresh in which the
trigger's subquery gives an answer it cannot give. -/
def refresh (P : PEMRest X) (o : Outcome) (d : Downloads) (db : DB X) :
    Option (DB X × Except RefreshError Unit) :=
  match fetchTrustMatrix d.matrix with
  | .error e => some (db, .error (.trustMatrix e))
  | .ok matrix =>
      match fetchAllPEMs P d.mozilla d.microsoft with
      | .error e => some (db, .error (.pems e))
      | .ok pems => (applyMatrix o matrix pems db).map (fun db => (db, .ok ()))

/-- The rest of a refresh whose matrix is read. -/
theorem refresh_of_matrix {P : PEMRest X} {o : Outcome} {d : Downloads}
    {matrix : List TrustEntry} (h : fetchTrustMatrix d.matrix = .ok matrix) (db : DB X) :
    refresh P o d db = match fetchAllPEMs P d.mozilla d.microsoft with
      | .error e => some (db, .error (.pems e))
      | .ok pems => (applyMatrix o matrix pems db).map (fun db => (db, .ok ())) := by
  unfold refresh
  simp only [h]

/-! ## §2. The rules of the stores. -/

/-- The columns of the trust matrix that are read. -/
def matrixColumns : List String :=
  ["SHA-256 Fingerprint", "Apple Status", "Apple Trust Bits", "Google Chrome Status",
    "Microsoft Status", "Microsoft EKUs", "Mozilla Status", "Mozilla Trust Bits"]

/-- The status of a row at a program is `Included`, and `part` is within its trust bits. -/
def IncludedFor (header row : List String) (status bits part : String) : Prop :=
  HasCell header row status "Included"
    ∧ ∃ v, HasCell header row bits v ∧ part.toList <:+: v.toList

/-- The row meets the inclusion rule of the store. -/
inductive InStore (header row : List String) : String → Prop
  | apple : IncludedFor header row "Apple Status" "Apple Trust Bits" "serverAuth" →
      InStore header row "apple"
  | chrome : HasCell header row "Google Chrome Status" "Included" → InStore header row "chrome"
  | microsoft :
      IncludedFor header row "Microsoft Status" "Microsoft EKUs" "Server Authentication" →
      InStore header row "microsoft"
  | mozilla : IncludedFor header row "Mozilla Status" "Mozilla Trust Bits" "Websites" →
      InStore header row "mozilla"

/-- The fingerprint of a row. -/
def HasFingerprint (header row : List String) (fp : String) : Prop :=
  ∃ v, HasCell header row "SHA-256 Fingerprint" v ∧ normalizeFingerprint v = fp

/-- The i-th row with a fingerprint puts `fp` into the store. -/
def Lists (header : List String) (rows : List (List String)) (storeID : String) (i : Nat)
    (fp : String) : Prop :=
  ∃ row, (listed header rows)[i]? = some row ∧ HasFingerprint header row fp
    ∧ InStore header row storeID

/-- The certificate is an anchor of the store. -/
def Anchored (db : DB X) (storeID fp : String) : Prop :=
  RootStoreAnchor.mk storeID fp ∈ db.rootStoreAnchors

/-- The header of the matrix has all columns. -/
def HasColumns (d : Downloads) : Prop :=
  ∀ header rows, IsTable true d.matrix header rows → ∀ c ∈ matrixColumns, c ∈ header

/-- The three downloads are read. -/
def Readable (d : Downloads) : Prop :=
  (∃ header rows, IsTable true d.matrix header rows)
    ∧ (∃ text, d.mozilla = some text)
    ∧ ∃ header rows, IsTable false d.microsoft header rows ∧ "PEM" ∈ header

theorem includedFor_iff {header row : List String} {status bits part : String}
    (hstatus : status ∈ header) (hbits : bits ∈ header) (hlength : row.length = header.length) :
    (decide (cell header row status = "Included") && contains (cell header row bits) part) = true
      ↔ IncludedFor header row status bits part := by
  rw [Bool.and_eq_true, decide_eq_true_iff, cell_eq_iff hstatus hlength]
  unfold IncludedFor contains
  apply and_congr_right
  intro _
  rw [decide_eq_true_iff]
  constructor
  · intro h
    exact ⟨_, (cell_eq_iff hbits hlength).mp rfl, h⟩
  · intro h
    obtain ⟨v, hv, hpart⟩ := h
    rw [(cell_eq_iff hbits hlength).mpr hv]
    exact hpart

/-- The flag of an entry for a store. -/
inductive Flagged (e : TrustEntry) : String → Prop
  | apple : e.inApple = true → Flagged e "apple"
  | chrome : e.inChrome = true → Flagged e "chrome"
  | microsoft : e.inMicrosoft = true → Flagged e "microsoft"
  | mozilla : e.inMozilla = true → Flagged e "mozilla"

/-- **The flags of a row's entry are the rules of the stores.** -/
theorem flagged_trustEntry {header row : List String} (hcolumns : ∀ c ∈ matrixColumns, c ∈ header)
    (hlength : row.length = header.length) (storeID : String) :
    Flagged (trustEntry header row) storeID ↔ InStore header row storeID := by
  unfold matrixColumns at hcolumns
  simp only [List.forall_mem_cons] at hcolumns
  obtain ⟨_, has, hat, hcs, hms, hme, hmos, hmot, _⟩ := hcolumns
  have happle : (trustEntry header row).inApple = true ↔ _ := includedFor_iff has hat hlength
  have hchrome : (trustEntry header row).inChrome = true
      ↔ HasCell header row "Google Chrome Status" "Included" := by
    rw [← cell_eq_iff hcs hlength]
    exact decide_eq_true_iff
  have hmicrosoft : (trustEntry header row).inMicrosoft = true ↔ _ :=
    includedFor_iff hms hme hlength
  have hmozilla : (trustEntry header row).inMozilla = true ↔ _ :=
    includedFor_iff hmos hmot hlength
  constructor
  · intro h
    cases h with
    | apple h => exact .apple (happle.mp h)
    | chrome h => exact .chrome (hchrome.mp h)
    | microsoft h => exact .microsoft (hmicrosoft.mp h)
    | mozilla h => exact .mozilla (hmozilla.mp h)
  · intro h
    cases h with
    | apple h => exact .apple (happle.mpr h)
    | chrome h => exact .chrome (hchrome.mpr h)
    | microsoft h => exact .microsoft (hmicrosoft.mpr h)
    | mozilla h => exact .mozilla (hmozilla.mpr h)

/-- Only the builtin stores have a list. -/
theorem storeFingerprints_eq_nil {accepted : List TrustEntry} {storeID : String}
    (h : storeID ∉ builtins) : storeFingerprints accepted storeID = [] := by
  have hnone : (perStore accepted).lookup storeID = none := by
    rw [List.lookup_eq_none_iff]
    intro p hp
    -- the keys of `perStore`
    have hkey : p.1 ∈ builtins := List.mem_map_of_mem (f := Prod.fst) hp
    have hne : storeID ≠ p.1 := fun heq => h (heq ▸ hkey)
    simpa using hne
  unfold storeFingerprints
  rw [hnone]
  rfl

/-- The list of a store has the accepted entries with its flag. -/
theorem mem_storeFingerprints {accepted : List TrustEntry} {storeID fp : String} :
    fp ∈ storeFingerprints accepted storeID
      ↔ ∃ e ∈ accepted, e.fingerprint = fp ∧ Flagged e storeID := by
  constructor
  · intro h
    have hflagged : ∀ flag : TrustEntry → Bool,
        fp ∈ (accepted.filter flag).map TrustEntry.fingerprint →
        ∃ e ∈ accepted, e.fingerprint = fp ∧ flag e = true := by
      intro flag hfp
      obtain ⟨e, he, hfp⟩ := List.mem_map.mp hfp
      obtain ⟨he, hflag⟩ := List.mem_filter.mp he
      exact ⟨e, he, hfp, hflag⟩
    by_cases hid : storeID ∈ builtins
    · unfold builtins at hid
      simp only [List.mem_cons, List.not_mem_nil, or_false] at hid
      rcases hid with rfl | rfl | rfl | rfl
      · obtain ⟨e, he, hfp, hflag⟩ := hflagged TrustEntry.inApple h
        exact ⟨e, he, hfp, .apple hflag⟩
      · obtain ⟨e, he, hfp, hflag⟩ := hflagged TrustEntry.inChrome h
        exact ⟨e, he, hfp, .chrome hflag⟩
      · obtain ⟨e, he, hfp, hflag⟩ := hflagged TrustEntry.inMicrosoft h
        exact ⟨e, he, hfp, .microsoft hflag⟩
      · obtain ⟨e, he, hfp, hflag⟩ := hflagged TrustEntry.inMozilla h
        exact ⟨e, he, hfp, .mozilla hflag⟩
    · rw [storeFingerprints_eq_nil hid] at h
      exact absurd h List.not_mem_nil
  · intro h
    obtain ⟨e, he, rfl, hflag⟩ := h
    cases hflag with
    | apple h => exact List.mem_map_of_mem (List.mem_filter.mpr ⟨he, h⟩)
    | chrome h => exact List.mem_map_of_mem (List.mem_filter.mpr ⟨he, h⟩)
    | microsoft h => exact List.mem_map_of_mem (List.mem_filter.mpr ⟨he, h⟩)
    | mozilla h => exact List.mem_map_of_mem (List.mem_filter.mpr ⟨he, h⟩)

/-! ## §3. The loop over the matrix. -/

/-- Flags change nothing of what is stored. -/
theorem hasCert_setTrustAnchor (db : DB X) (p v : Certificate → Bool) (f : String) :
    HasCert (db.setTrustAnchor p v).certificates f ↔ HasCert db.certificates f := by
  have hkey : ∀ c : Certificate, ({ c with trustAnchor := v c } : Certificate).key = c.key :=
    fun _ => rfl
  have hupdate : HasCert (db.certificates.update p (fun c => { c with trustAnchor := v c }) hkey) f
      ↔ HasCert db.certificates f := hasCert_update
  exact hupdate

/-- An insert stores its certificate, and leaves the anchors alone. -/
theorem insertCertificate_spec {db db' : DB X} {cert : X.Cert} {issuer : Option String}
    {created : Bool} (h : db.insertCertificate cert issuer = some (db', created)) :
    db'.rootStoreAnchors = db.rootStoreAnchors
      ∧ ∀ f, HasCert db'.certificates f
          ↔ HasCert db.certificates f ∨ f = X.fingerprint cert := by
  rcases Certs.DB.insertCertificate_cases (DB.insertCertificate_parts h).1 with
    ⟨hstored, hsame⟩ | ⟨_, hanchors, u, hu, _, hd⟩
  · -- ON CONFLICT DO NOTHING
    refine ⟨by rw [hsame], fun f => ?_⟩
    rw [hsame]
    constructor
    · exact .inl
    · intro hf
      rcases hf with hf | rfl
      · exact hf
      · exact hstored
  · refine ⟨hanchors, fun f => ?_⟩
    rw [hd, hasCert_backfill]
    constructor
    · intro hf
      obtain ⟨c, hc, rfl⟩ := hf
      rcases (Table.mem_insert hu).mp hc with hc | rfl
      · exact .inl ⟨c, hc, rfl⟩
      · exact .inr rfl
    · intro hf
      rcases hf with ⟨c, hc, hcf⟩ | rfl
      · exact ⟨c, (Table.mem_insert hu).mpr (.inl hc), hcf⟩
      · exact ⟨_, (Table.mem_insert hu).mpr (.inr rfl), rfl⟩

/-- An upsert stores its certificate, and leaves the anchors alone. -/
theorem upsertTrustAnchor_spec {db db' : DB X} {cert : X.Cert} {issuer : Option String}
    (h : db.upsertTrustAnchor cert issuer = some db') :
    db'.rootStoreAnchors = db.rootStoreAnchors
      ∧ ∀ f, HasCert db'.certificates f
          ↔ HasCert db.certificates f ∨ f = X.fingerprint cert := by
  unfold DB.upsertTrustAnchor at h
  cases hins : db.insertCertificate cert issuer with
  | none => simp [hins] at h
  | some r =>
      obtain ⟨u, created⟩ := r
      obtain ⟨hanchors, hstored⟩ := insertCertificate_spec hins
      simp only [hins, Option.some.injEq] at h
      subst h
      refine ⟨hanchors, fun f => ?_⟩
      rw [← hstored f]
      exact hasCert_setTrustAnchor u _ _ f

/-- A mark stores nothing, and says whether the certificate is stored. -/
theorem markTrustAnchor_spec (db : DB X) (fp : String) :
    (∀ f, HasCert (db.markTrustAnchor fp).1.certificates f ↔ HasCert db.certificates f)
      ∧ ((db.markTrustAnchor fp).2 = true ↔ HasCert db.certificates fp) := by
  refine ⟨fun f => hasCert_setTrustAnchor db _ _ f, ?_⟩
  unfold DB.markTrustAnchor Table.rowsAffected HasCert
  rw [decide_eq_true_iff, List.countP_pos_iff]
  apply exists_congr
  intro c
  rw [decide_eq_true_iff]
  rfl

/-- **What an entry does**: an upsert stores its certificate, a mark stores nothing, and
the entry is accepted if its certificate is stored then. -/
theorem processEntry_spec {pems : String → Option X.Cert} {issuer : Option String}
    {db db' : DB X} {accepted accepted' : List TrustEntry} {e : TrustEntry}
    (hpems : ∀ fp cert, pems fp = some cert → X.fingerprint cert = fp)
    (h : processEntry pems issuer db accepted e = some (db', accepted')) :
    db'.rootStoreAnchors = db.rootStoreAnchors
      ∧ (∀ f, HasCert db'.certificates f
          ↔ HasCert db.certificates f ∨ (f = e.fingerprint ∧ (pems f).isSome = true))
      ∧ ∀ a, a ∈ accepted'
          ↔ a ∈ accepted ∨ (a = e ∧ HasCert db'.certificates e.fingerprint) := by
  unfold processEntry at h
  cases hpem : pems e.fingerprint with
  | none =>
      obtain ⟨hstored, hexisted⟩ := markTrustAnchor_spec db e.fingerprint
      simp only [hpem, Option.some.injEq, Prod.mk.injEq] at h
      obtain ⟨rfl, rfl⟩ := h
      refine ⟨rfl, fun f => ?_, fun a => ?_⟩
      · rw [hstored]
        constructor
        · exact .inl
        · intro hf
          rcases hf with hf | ⟨rfl, hsome⟩
          · exact hf
          · exact absurd hsome (by simp [hpem])
      · rw [hstored, ← hexisted]
        by_cases hmarked : (db.markTrustAnchor e.fingerprint).2 = true
        · simp [hmarked]
        · simp [hmarked]
  | some cert =>
      simp only [hpem, Option.map_eq_some_iff] at h
      obtain ⟨d, hd, hpair⟩ := h
      obtain ⟨rfl, rfl⟩ := Prod.mk.inj hpair
      obtain ⟨hanchors, hstored⟩ := upsertTrustAnchor_spec hd
      rw [hpems _ _ hpem] at hstored
      refine ⟨hanchors, fun f => ?_, fun a => ?_⟩
      · rw [hstored]
        apply or_congr_right
        constructor
        · intro hf
          exact ⟨hf, by rw [hf, hpem]; rfl⟩
        · exact And.left
      · rw [hstored]
        simp

/-- What the loop has done after some entries. -/
structure Processed (o : Outcome) (pems : String → Option X.Cert) (db₀ : DB X)
    (done : List (TrustEntry × Nat)) (p : DB X × List TrustEntry) : Prop where
  anchors : p.1.rootStoreAnchors = db₀.rootStoreAnchors
  /-- What has a PEM is stored. -/
  stored : ∀ e ∈ done, o.entryFails e.2 = false → (pems e.1.fingerprint).isSome = true →
    HasCert p.1.certificates e.1.fingerprint
  /-- Accepted is what was not passed over and is stored. -/
  accepted : ∀ e, e ∈ p.2 ↔ ∃ i, (e, i) ∈ done ∧ o.entryFails i = false
    ∧ HasCert p.1.certificates e.fingerprint

/-- **One more entry.** -/
theorem Processed.step {o : Outcome} {pems : String → Option X.Cert} {db₀ : DB X}
    {done : List (TrustEntry × Nat)} {p q : DB X × List TrustEntry} {e : TrustEntry × Nat}
    (hpems : ∀ fp cert, pems fp = some cert → X.fingerprint cert = fp)
    (hp : Processed o pems db₀ done p) (h : refreshEntry o pems p e = some q) :
    Processed o pems db₀ (done ++ [e]) q := by
  unfold refreshEntry at h
  split at h
  · -- passed over
    next hfails =>
      have hq : p = q := Option.some.inj h
      subst hq
      refine ⟨hp.anchors, fun x hx hok => ?_, fun a => ?_⟩
      · rcases List.mem_append.mp hx with hx | hx
        · exact hp.stored x hx hok
        · rw [List.mem_singleton.mp hx, hfails] at hok
          exact absurd hok (by simp)
      · rw [hp.accepted]
        apply exists_congr
        intro i
        rw [List.mem_append, List.mem_singleton]
        constructor
        · intro ha
          exact ⟨.inl ha.1, ha.2⟩
        · intro ha
          obtain ⟨hmem | rfl, hok, hcert⟩ := ha
          · exact ⟨hmem, hok, hcert⟩
          · exact absurd (hfails.symm.trans hok) (by simp)
  · next hok =>
      have hok : o.entryFails e.2 = false := by simpa using hok
      obtain ⟨hanchors, hstored, haccepted⟩ := processEntry_spec hpems h
      refine ⟨hanchors.trans hp.anchors, fun x hx hxok hpem => ?_, fun a => ?_⟩
      · rw [hstored]
        rcases List.mem_append.mp hx with hx | hx
        · exact .inl (hp.stored x hx hxok hpem)
        · rw [List.mem_singleton.mp hx] at hpem ⊢
          exact .inr ⟨rfl, hpem⟩
      · rw [haccepted, hp.accepted]
        constructor
        · intro ha
          rcases ha with ⟨i, hmem, hiok, hcert⟩ | ⟨rfl, hcert⟩
          · exact ⟨i, List.mem_append_left _ hmem, hiok, (hstored _).mpr (.inl hcert)⟩
          · exact ⟨e.2, List.mem_append_right _ List.mem_cons_self, hok, hcert⟩
        · intro ha
          obtain ⟨i, hmem, hiok, hcert⟩ := ha
          rcases List.mem_append.mp hmem with hmem | hmem
          · left
            refine ⟨i, hmem, hiok, ?_⟩
            -- an earlier entry that is stored now was stored before: its own PEM was
            rcases (hstored _).mp hcert with hcert | ⟨_, hpem⟩
            · exact hcert
            · exact hp.stored (a, i) hmem hiok hpem
          · right
            have heq : (a, i) = e := List.mem_singleton.mp hmem
            subst heq
            exact ⟨rfl, hcert⟩

/-- **The whole loop.** -/
theorem processed_foldlM {o : Outcome} {pems : String → Option X.Cert} {db : DB X}
    {entries : List (TrustEntry × Nat)} {p : DB X × List TrustEntry}
    (hpems : ∀ fp cert, pems fp = some cert → X.fingerprint cert = fp)
    (h : entries.foldlM (refreshEntry o pems) (db, []) = some p) :
    Processed o pems db entries p := by
  refine foldlM_invariant (P := Processed o pems db) ⟨rfl, ?_, ?_⟩ ?_ h
  · intro e he
    exact absurd he List.not_mem_nil
  · intro e
    simp
  · intro done e u v hu hstep
    exact hu.step hpems hstep

/-! ## §4. The loop over the stores. -/

/-- **A replacement gives its store the listed anchors, and leaves the others alone.** -/
theorem mem_replacedAnchors {anchors : List RootStoreAnchor} {storeID : String}
    {fingerprints : List String} {a : RootStoreAnchor} :
    a ∈ DB.replacedAnchors anchors storeID fingerprints
      ↔ if a.rootStoreID = storeID then a.fingerprint ∈ fingerprints else a ∈ anchors := by
  obtain ⟨id, fp⟩ := a
  simp only [DB.replacedAnchors, List.mem_filter, List.mem_append, List.mem_map, List.mem_dedup,
    RootStoreAnchor.mk.injEq, Bool.or_eq_true, decide_eq_true_eq]
  split
  · next hid =>
      subst hid
      constructor
      · intro h
        obtain ⟨_, hother | hfp⟩ := h
        · exact absurd rfl hother
        · exact hfp
      · intro hfp
        refine ⟨?_, .inr hfp⟩
        by_cases hold : RootStoreAnchor.mk id fp ∈ anchors
        · exact .inl hold
        · exact .inr ⟨⟨fp, hfp, rfl, rfl⟩, hold⟩
  · next hid =>
      constructor
      · intro h
        rcases h.1 with hold | ⟨⟨_, _, heq, _⟩, _⟩
        · exact hold
        · exact absurd heq.symm hid
      · intro hold
        exact ⟨.inl hold, .inl hid⟩

/-- What the loop has done after some stores. -/
structure Replaced (o : Outcome) (accepted : List TrustEntry) (db₀ : DB X) (done : List String)
    (db : DB X) : Prop where
  certificates : db.certificates = db₀.certificates
  anchored : ∀ storeID fp, Anchored db storeID fp
    ↔ if storeID ∈ done ∧ o.replaceFails storeID = false
      then fp ∈ storeFingerprints accepted storeID else Anchored db₀ storeID fp

/-- **One more store.**  No foreign key is in the way. -/
theorem Replaced.step {o : Outcome} {accepted : List TrustEntry} {db₀ db : DB X}
    {done : List String} (hstored : ∀ e ∈ accepted, HasCert db₀.certificates e.fingerprint)
    (h : Replaced o accepted db₀ done db) (storeID : String) :
    Replaced o accepted db₀ (done ++ [storeID]) (refreshStore o accepted db storeID) := by
  unfold refreshStore
  split
  · -- the replacement fails
    next hfails =>
      refine ⟨h.certificates, fun id fp => ?_⟩
      rw [h.anchored]
      have hsame : (id ∈ done ++ [storeID] ∧ o.replaceFails id = false)
          ↔ (id ∈ done ∧ o.replaceFails id = false) := by
        constructor
        · intro hid
          obtain ⟨hid, hok⟩ := hid
          rcases List.mem_append.mp hid with hid | hid
          · exact ⟨hid, hok⟩
          · rw [List.mem_singleton.mp hid] at hok
            exact absurd (hfails.symm.trans hok) (by simp)
        · intro hid
          exact ⟨List.mem_append_left _ hid.1, hid.2⟩
      simp only [hsame]
  · next hok =>
      have hok : o.replaceFails storeID = false := by simpa using hok
      have hfks : ∀ f ∈ storeFingerprints accepted storeID, HasCert db.certificates f := by
        intro f hf
        obtain ⟨e, he, rfl, _⟩ := mem_storeFingerprints.mp hf
        rw [h.certificates]
        exact hstored e he
      unfold DB.replaceRootStoreAnchors
      rw [dif_pos hfks]
      refine ⟨h.certificates, fun id fp => ?_⟩
      show RootStoreAnchor.mk id fp ∈ DB.replacedAnchors _ _ _ ↔ _
      rw [mem_replacedAnchors]
      by_cases hid : id = storeID
      · subst hid
        simp [hok]
      · have hdone : id ∈ done ++ [storeID] ↔ id ∈ done := by simp [hid]
        rw [if_neg hid]
        simp only [hdone]
        exact h.anchored id fp

/-- **The whole loop.** -/
theorem replaced_foldl {o : Outcome} {accepted : List TrustEntry} {db : DB X}
    (hstored : ∀ e ∈ accepted, HasCert db.certificates e.fingerprint) (order : List String) :
    Replaced o accepted db order (order.foldl (refreshStore o accepted) db) := by
  refine foldl_invariant (P := Replaced o accepted db) ⟨rfl, fun id fp => ?_⟩ ?_ order
  · simp
  · intro done storeID u hu
    exact hu.step hstored storeID

/-! ## §5. The anchors after a refresh. -/

/-- **The anchors after the downloads**: those of the entries that were not passed over and
are stored, in the stores that they are flagged for. -/
theorem anchored_applyMatrix {o : Outcome} {matrix : List TrustEntry}
    {pems : String → Option X.Cert} {db db' : DB X}
    (hpems : ∀ fp cert, pems fp = some cert → X.fingerprint cert = fp)
    (h : applyMatrix o matrix pems db = some db') (storeID fp : String) :
    Anchored db' storeID fp
      ↔ if storeID ∈ builtins ∧ o.replaceFails storeID = false then
          (∃ i, o.entryFails i = false ∧ ∃ e, matrix[i]? = some e ∧ e.fingerprint = fp
            ∧ Flagged e storeID) ∧ HasCert db'.certificates fp
        else Anchored db storeID fp := by
  unfold applyMatrix at h
  split at h
  · exact absurd h (by simp)
  · next d accepted hloop =>
      have hp := processed_foldlM hpems hloop
      have hstored : ∀ e ∈ accepted, HasCert d.certificates e.fingerprint := by
        intro e he
        obtain ⟨_, _, _, hcert⟩ := (hp.accepted e).mp he
        exact hcert
      have hr := replaced_foldl (o := o) hstored o.order
      -- the flags do not matter here
      have hend :
          db'.rootStoreAnchors = (o.order.foldl (refreshStore o accepted) d).rootStoreAnchors
          ∧ (HasCert db'.certificates fp ↔ HasCert d.certificates fp) := by
        rw [← hr.certificates]
        split at h
        · exact Option.some.inj h ▸ ⟨rfl, Iff.rfl⟩
        · exact Option.some.inj h ▸ ⟨rfl, hasCert_setTrustAnchor _ _ _ fp⟩
      unfold Anchored
      rw [hend.1, hend.2]
      refine (hr.anchored storeID fp).trans ?_
      simp only [o.order_perm.mem_iff]
      split
      · rw [mem_storeFingerprints]
        constructor
        · intro hmem
          obtain ⟨e, he, rfl, hflag⟩ := hmem
          obtain ⟨i, hi, hok, hcert⟩ := (hp.accepted e).mp he
          exact ⟨⟨i, hok, e, List.mem_zipIdx_iff_getElem?.mp hi, rfl, hflag⟩, hcert⟩
        · intro hlisted
          obtain ⟨⟨i, hok, e, hi, rfl, hflag⟩, hcert⟩ := hlisted
          exact ⟨e, (hp.accepted e).mpr ⟨i, List.mem_zipIdx_iff_getElem?.mpr hi, hok, hcert⟩, rfl,
            hflag⟩
      · unfold Anchored
        rw [hp.anchors]

/-- **The entries of a matrix with all columns** are flagged as its rows are ruled. -/
theorem flagged_listed {header : List String} {rows : List (List String)} {i : Nat}
    {storeID fp : String} (hcolumns : ∀ c ∈ matrixColumns, c ∈ header)
    (hlength : ∀ row ∈ rows, row.length = header.length) :
    (∃ e, ((listed header rows).map (trustEntry header))[i]? = some e ∧ e.fingerprint = fp
        ∧ Flagged e storeID)
      ↔ Lists header rows storeID i fp := by
  have hfp : "SHA-256 Fingerprint" ∈ header := hcolumns _ List.mem_cons_self
  have hrow : ∀ row, (listed header rows)[i]? = some row → row.length = header.length := by
    intro row hi
    exact hlength row (List.mem_filter.mp (List.mem_of_getElem? hi)).1
  unfold Lists HasFingerprint
  rw [List.getElem?_map]
  constructor
  · intro h
    obtain ⟨e, he, rfl, hflag⟩ := h
    obtain ⟨row, hi, rfl⟩ := Option.map_eq_some_iff.mp he
    exact ⟨row, hi, ⟨_, (cell_eq_iff hfp (hrow row hi)).mp rfl, rfl⟩,
      (flagged_trustEntry hcolumns (hrow row hi) storeID).mp hflag⟩
  · intro h
    obtain ⟨row, hi, ⟨v, hv, rfl⟩, hrule⟩ := h
    refine ⟨trustEntry header row, by rw [hi]; rfl, ?_,
      (flagged_trustEntry hcolumns (hrow row hi) storeID).mpr hrule⟩
    show normalizeFingerprint (cell header row "SHA-256 Fingerprint") = normalizeFingerprint v
    rw [(cell_eq_iff hfp (hrow row hi)).mpr hv]

/-- **THE ANCHORS AFTER A REFRESH.**  It returns an error if a download is not read, nil if all
are and the matrix has all columns; an error leaves the database as it was.  If it returns nil
and the matrix has all columns, the anchors of a builtin store whose replacement did not fail
are the fingerprints of the rows that meet its rule, whose statement did not fail and whose
certificate is stored; all others are what they were. -/
theorem refresh_anchors {P : PEMRest X} {o : Outcome} {d : Downloads} {db db' : DB X}
    {result : Except RefreshError Unit} (h : refresh P o d db = some (db', result)) :
    (result = .ok () → Readable d)
      ∧ (Readable d → HasColumns d → result = .ok ())
      ∧ (result ≠ .ok () → db' = db)
      ∧ ∀ header rows, IsTable true d.matrix header rows → (∀ c ∈ matrixColumns, c ∈ header) →
          result = .ok () → ∀ storeID fp, Anchored db' storeID fp
            ↔ if storeID ∈ builtins ∧ o.replaceFails storeID = false then
                (∃ i, o.entryFails i = false ∧ Lists header rows storeID i fp)
                  ∧ HasCert db'.certificates fp
              else Anchored db storeID fp := by
  cases hmatrix : fetchTrustMatrix d.matrix with
  | error e =>
      simp only [refresh, hmatrix, Option.some.injEq, Prod.mk.injEq] at h
      obtain ⟨rfl, rfl⟩ := h
      refine ⟨fun hok => absurd hok (by simp), fun hread _ => ?_, fun _ => rfl,
        fun _ _ _ _ hok => absurd hok (by simp)⟩
      obtain ⟨⟨header, rows, htable⟩, _⟩ := hread
      have hok := fetchTrustMatrix_eq_ok_iff.mpr ⟨header, rows, htable, rfl⟩
      exact absurd (hmatrix.symm.trans hok) (by simp)
  | ok matrix =>
      obtain ⟨header, rows, htable, rfl⟩ := fetchTrustMatrix_eq_ok_iff.mp hmatrix
      rw [refresh_of_matrix hmatrix] at h
      cases hpems : fetchAllPEMs P d.mozilla d.microsoft with
      | error e =>
          simp only [hpems, Option.some.injEq, Prod.mk.injEq] at h
          obtain ⟨rfl, rfl⟩ := h
          refine ⟨fun hok => absurd hok (by simp), fun hread _ => ?_, fun _ => rfl,
            fun _ _ _ _ hok => absurd hok (by simp)⟩
          obtain ⟨pems, hok⟩ := (exists_fetchAllPEMs_iff P).mpr hread.2
          exact absurd (hpems.symm.trans hok) (by simp)
      | ok pems =>
          simp only [hpems, Option.map_eq_some_iff] at h
          obtain ⟨u, happly, hpair⟩ := h
          obtain ⟨rfl, rfl⟩ := Prod.mk.inj hpair
          refine ⟨fun _ => ?_, fun _ _ => rfl, fun hne => absurd rfl hne, ?_⟩
          · exact ⟨⟨header, rows, htable⟩, (exists_fetchAllPEMs_iff P).mp ⟨pems, hpems⟩⟩
          · intro header' rows' htable' hcolumns _ storeID fp
            -- a body is read as one table only
            have hsame := (readTable_eq_ok_iff.mpr htable).symm.trans
              (readTable_eq_ok_iff.mpr htable')
            injection hsame with hsame
            obtain ⟨rfl, rfl⟩ := Prod.mk.inj hsame
            obtain ⟨_, _, _, hlength⟩ := htable
            simp only [← flagged_listed hcolumns (hlength rfl)]
            exact anchored_applyMatrix (fun _ _ => fingerprint_of_fetchAllPEMs P hpems) happly
              storeID fp

/-! ## §6. The refresh after the downloads. -/

/-- The outcome of a refresh whose failures go by fingerprint. -/
def outcomeOf (f : Fetched X) : Outcome where
  entryFails i := (f.matrix[i]?).any (fun e => f.entryFails e.fingerprint)
  issuers i := (f.matrix[i]?).bind (fun e => f.issuers e.fingerprint)
  order := builtins
  order_perm := List.Perm.refl _
  replaceFails := f.replaceFails
  reconcileFails := f.reconcileFails

/-- **`Trust.refresh` is the part after the downloads.** -/
theorem refresh_fetched (f : Fetched X) (db : DB X) :
    Trust.refresh f db = applyMatrix (outcomeOf f) f.matrix f.pems db := by
  have hloop : f.matrix.foldlM (fun (p : DB X × List TrustEntry) e =>
        if f.entryFails e.fingerprint then some p
        else processEntry f.pems (f.issuers e.fingerprint) p.1 p.2 e) (db, [])
      = f.matrix.zipIdx.foldlM (refreshEntry (outcomeOf f) f.pems) (db, []) := by
    conv_lhs => rw [← List.zipIdx_map_fst 0 f.matrix, List.foldlM_map]
    apply foldlM_congr
    intro e he p
    have hentry : f.matrix[e.2]? = some e.1 := List.mem_zipIdx_iff_getElem?.mp he
    simp [refreshEntry, outcomeOf, hentry]
  unfold Trust.refresh applyMatrix
  rw [hloop]
  rfl

/-! ## §7. A small matrix. -/

/-- Two roots, with PEM blocks that are their bytes. -/
def hexPKI : X509 where
  Cert := Bool
  decEq := inferInstance
  pemDecode p := if p = "" then none else some ("CERTIFICATE", p)
  pemEncode _ b := b
  parseCertificate b := if b = "aa" then some true else if b = "bb" then some false else none
  raw c := if c then "aa" else "bb"
  rawSubject c := if c then "A" else "B"
  rawIssuer c := if c then "A" else "B"
  commonName c := if c then "A" else "B"
  dnsNames _ := []
  notAfter _ := 0
  subjectKeyId c := if c then "A" else "B"
  authorityKeyId _ := ""
  isCA _ := true
  signedBy c p := decide (c = p)
  sha256 := id
  hexEncode := id
  decode_encode c := by cases c <;> rfl
  parse_raw c := by cases c <;> rfl
  fingerprint_inj c d := by cases c <;> cases d <;> simp

/-- Nothing follows a block. -/
def hexRest : PEMRest hexPKI where
  rest _ := ""
  shorter s block h := by
    have hne : s ≠ "" := by
      intro hs
      subst hs
      exact absurd h (by simp [hexPKI])
    have hlength : s.length ≠ 0 := fun hs => hne (String.length_eq_zero_iff.mp hs)
    show 0 < s.length
    omega

/-- A header with the columns of `matrixColumns`. -/
def sampleHeader : String :=
  "SHA-256 Fingerprint," ++ ("Apple Status," ++ ("Apple Trust Bits," ++ ("Google Chrome Status,"
    ++ ("Microsoft Status," ++ ("Microsoft EKUs," ++ ("Mozilla Status,"
    ++ "Mozilla Trust Bits\n"))))))

/-- Mozilla includes the first root. -/
def sampleRow : List String := ["A:A", "", "", "", "", "", "Included", "Email;Websites"]

/-- Mozilla's bundle has the first root. -/
def sampleDownloads : Downloads where
  matrix := some (sampleHeader ++ "A:A,,,,,,Included,Email;Websites\n")
  mozilla := some "aa"
  microsoft := some "PEM\n"

/-- The downloads with a matrix that has no rows. -/
def headerOnly : Downloads := { sampleDownloads with matrix := some sampleHeader }

/-- The downloads with a matrix that lacks the statuses. -/
def columnsMissing : Downloads :=
  { sampleDownloads with
    matrix := some ("SHA-256 Fingerprint," ++ ("Mozilla Trust Bits\n" ++ "AA,Websites\n")) }

theorem isTable_sample : IsTable true sampleDownloads.matrix matrixColumns [sampleRow] := by
  refine ⟨_, rfl, ?_, by decide⟩
  unfold csvRecords sampleHeader
  simp only [String.toList_append]
  decide +kernel

theorem isTable_headerOnly : IsTable true headerOnly.matrix matrixColumns [] := by
  refine ⟨_, rfl, ?_, by decide⟩
  unfold csvRecords sampleHeader
  simp only [String.toList_append]
  decide +kernel

theorem isTable_columnsMissing : IsTable true columnsMissing.matrix
    ["SHA-256 Fingerprint", "Mozilla Trust Bits"] [["AA", "Websites"]] := by
  refine ⟨_, rfl, ?_, by decide⟩
  unfold csvRecords
  simp only [String.toList_append]
  decide +kernel

/-- The entry of the row. -/
def sampleEntry : TrustEntry := ⟨"aa", false, false, false, true⟩

theorem entries_sample :
    (listed matrixColumns [sampleRow]).map (trustEntry matrixColumns) = [sampleEntry] := by
  decide +kernel

/-- The row puts the first root into Mozilla's store. -/
theorem lists_sample : Lists matrixColumns [sampleRow] "mozilla" 0 "aa" :=
  (flagged_listed (fun _ hc => hc) (by decide)).mp
    ⟨sampleEntry, by rw [entries_sample]; rfl, rfl, .mozilla rfl⟩

/-- Nothing fails. -/
def sampleOutcome : Outcome where
  entryFails _ := false
  issuers _ := none
  order := builtins
  order_perm := List.Perm.refl _
  replaceFails _ := false
  reconcileFails := false

/-- The refresh returns nil, and what it leaves passes the test. -/
def returnsNil (test : DB X → Bool) (r : Option (DB X × Except RefreshError Unit)) : Bool :=
  r.any (fun p => p.2.isOk && test p.1)

theorem exists_of_returnsNil {test : DB X → Bool}
    {r : Option (DB X × Except RefreshError Unit)} (h : returnsNil test r = true) :
    ∃ db, r = some (db, .ok ()) ∧ test db = true := by
  unfold returnsNil at h
  cases r with
  | none => exact absurd h (by simp)
  | some p =>
      obtain ⟨db, result⟩ := p
      cases result with
      | error e => exact absurd h (by simp [Except.isOk, Except.toBool])
      | ok => exact ⟨db, rfl, by simpa [Except.isOk, Except.toBool] using h⟩

/-- Mozilla's anchors. -/
def mozillaAnchors (db : DB hexPKI) : List String :=
  (db.rootStoreAnchors.filter (fun a => a.rootStoreID = "mozilla")).map RootStoreAnchor.fingerprint

theorem anchored_mozilla {db : DB hexPKI} {fp : String} :
    Anchored db "mozilla" fp ↔ fp ∈ mozillaAnchors db := by
  unfold Anchored mozillaAnchors
  constructor
  · intro h
    exact List.mem_map.mpr ⟨_, List.mem_filter.mpr ⟨h, by simp⟩, rfl⟩
  · intro h
    obtain ⟨⟨id, _⟩, ha, rfl⟩ := List.mem_map.mp h
    obtain ⟨ha, hid⟩ := List.mem_filter.mp ha
    have hid : id = "mozilla" := by simpa using hid
    exact hid ▸ ha

theorem fetchTrustMatrix_sample : fetchTrustMatrix sampleDownloads.matrix = .ok [sampleEntry] :=
  fetchTrustMatrix_eq_ok_iff.mpr ⟨_, _, isTable_sample, entries_sample.symm⟩

theorem fetchTrustMatrix_headerOnly : fetchTrustMatrix headerOnly.matrix = .ok [] :=
  fetchTrustMatrix_eq_ok_iff.mpr ⟨_, _, isTable_headerOnly, rfl⟩

/-- The fingerprint is no status. -/
theorem fetchTrustMatrix_columnsMissing : fetchTrustMatrix columnsMissing.matrix
    = .ok [⟨"aa", false, false, false, false⟩] :=
  fetchTrustMatrix_eq_ok_iff.mpr ⟨_, _, isTable_columnsMissing, by decide +kernel⟩

/-- The theorem at a refresh in which nothing fails. -/
theorem refresh_anchors_sample :
    ∃ db, refresh hexRest sampleOutcome sampleDownloads (emptyDB hexPKI) = some (db, .ok ())
      ∧ Readable sampleDownloads
      ∧ ∀ storeID ∈ builtins, ∀ fp, Anchored db storeID fp
          ↔ (∃ i, Lists matrixColumns [sampleRow] storeID i fp) ∧ HasCert db.certificates fp := by
  have hrun : returnsNil (fun _ => true)
      (refresh hexRest sampleOutcome sampleDownloads (emptyDB hexPKI)) = true := by
    rw [refresh_of_matrix fetchTrustMatrix_sample]
    decide +kernel
  obtain ⟨db, h, _⟩ := exists_of_returnsNil hrun
  obtain ⟨hread, _, _, hanchors⟩ := refresh_anchors h
  refine ⟨db, h, hread rfl, fun storeID hid fp => ?_⟩
  have hiff := hanchors matrixColumns [sampleRow] isTable_sample (fun _ hc => hc) rfl storeID fp
  rw [if_pos ⟨hid, rfl⟩] at hiff
  simpa [sampleOutcome] using hiff

/-- The row of the first root. -/
def firstRow : Certificate := ⟨hexPKI.extractCertificateRecord true, none, true⟩

/-- The first root is stored, and anchored at Mozilla. -/
def anchoredDB : DB hexPKI where
  certificates := ⟨[firstRow], List.nodup_singleton _⟩
  rootStoreAnchors := [⟨"mozilla", "aa"⟩]
  endpointCerts := []
  endpointScanHistory := []
  discoveryInbox := []
  fks := by
    refine ⟨?_, ?_, fun _ h => absurd h List.not_mem_nil, fun _ h => absurd h List.not_mem_nil⟩
    · intro c hc f hf
      rw [List.mem_singleton.mp hc] at hf
      exact absurd hf (by simp [firstRow])
    · intro a ha
      rw [List.mem_singleton.mp ha]
      exact ⟨firstRow, List.mem_cons_self, rfl⟩
  certificateTrust := Table.empty
  fingerprints := by
    intro r hr c hc
    rw [List.mem_singleton.mp hr] at hc ⊢
    have hparse : hexPKI.parsePEM firstRow.pem = some true := X509.parsePEM_extract _
    exact congrArg hexPKI.fingerprint (Option.some.inj (hc.symm.trans hparse))
  trustFks := Table.forall_mem_empty

/-- The root is stored, but not anchored at Mozilla. -/
def lacksAnchor (db : DB hexPKI) : Bool :=
  decide (HasCert db.certificates "aa") && !(mozillaAnchors db).contains "aa"

theorem lacksAnchor_iff {db : DB hexPKI} :
    lacksAnchor db = true ↔ HasCert db.certificates "aa" ∧ ¬ Anchored db "mozilla" "aa" := by
  rw [anchored_mozilla]
  simp [lacksAnchor]

/-- A refresh returns nil, and the anchor is lost. -/
def LosesAnchor (o : Outcome) (d : Downloads) : Prop :=
  ∃ db, refresh hexRest o d anchoredDB = some (db, .ok ())
    ∧ HasCert db.certificates "aa" ∧ ¬ Anchored db "mozilla" "aa"

theorem losesAnchor_of {o : Outcome} {d : Downloads}
    (h : returnsNil lacksAnchor (refresh hexRest o d anchoredDB) = true) : LosesAnchor o d := by
  obtain ⟨db, hrun, hlacks⟩ := exists_of_returnsNil h
  exact ⟨db, hrun, lacksAnchor_iff.mp hlacks⟩

/-- **`Refresh` returns nil** although the replacement of Mozilla's anchors fails and its
root is missing there; and a root that is anchored loses its anchor when the statement of
its row fails, when the matrix has no rows, and when it has no column with a status. -/
theorem refresh_returns_nil :
    (IsTable true sampleDownloads.matrix matrixColumns [sampleRow]
        ∧ Lists matrixColumns [sampleRow] "mozilla" 0 "aa")
      ∧ (∃ db, refresh hexRest { sampleOutcome with replaceFails := fun s => s == "mozilla" }
          sampleDownloads (emptyDB hexPKI) = some (db, .ok ())
          ∧ HasCert db.certificates "aa" ∧ ¬ Anchored db "mozilla" "aa")
      ∧ LosesAnchor { sampleOutcome with entryFails := fun i => i == 0 } sampleDownloads
      ∧ LosesAnchor sampleOutcome headerOnly
      ∧ LosesAnchor sampleOutcome columnsMissing := by
  refine ⟨⟨isTable_sample, lists_sample⟩, ?_, ?_, ?_, ?_⟩
  · have hrun : returnsNil lacksAnchor
        (refresh hexRest { sampleOutcome with replaceFails := fun s => s == "mozilla" }
          sampleDownloads (emptyDB hexPKI)) = true := by
      rw [refresh_of_matrix fetchTrustMatrix_sample]
      decide +kernel
    obtain ⟨db, h, hlacks⟩ := exists_of_returnsNil hrun
    exact ⟨db, h, lacksAnchor_iff.mp hlacks⟩
  · apply losesAnchor_of
    rw [refresh_of_matrix fetchTrustMatrix_sample]
    decide +kernel
  · apply losesAnchor_of
    rw [refresh_of_matrix fetchTrustMatrix_headerOnly]
    decide +kernel
  · apply losesAnchor_of
    rw [refresh_of_matrix fetchTrustMatrix_columnsMissing]
    decide +kernel

end TLSentinel.Trust.RootStore
