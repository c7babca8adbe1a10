/-
  TLSentinel.Endpoints.PatchRuns
  ──────────────────────────────
  **WHEN A PATCH CHANGES ONLY WHAT IT NAMES.**

  Omitted fields retain their current values, says the documentation of PATCH.
  The handlers write back every column, the omitted ones as they were read: what
  another request committed in between is lost.

  `patch_respected_iff`: in a run of PATCH requests to endpoints and scanners, any
  number of them in flight, a field holds in every state reached the value of the
  last accepted request that named it (or the initial one), if and only if every
  accepted write

      finds in the row the value it read, for a field it omits,
      is to an endpoint whose type stores the field, for a field it names.
-/
import TLSentinel.Foundation.Registers
import TLSentinel.Endpoints.Patch

namespace TLSentinel.Endpoints

open Foundation DB

/-! ## §1. The system. -/

/-- Where a PATCH request stands. -/
inductive PatchPc where
  | idle
  /-- The row is read and the body merged into it; UpdateEndpoint comes next. -/
  | endpointWrite (endpointID : String) (rec : EndpointRecord) (body : Option RawFields)
  /-- The same, before UpdateScannerToken. -/
  | scannerWrite (scannerID : String) (merged : Scanner)
      (body : Option PatchScannerTokenRequest)
  | done (result : Except HttpError Unit)

/-- The tables, and the requests in flight. -/
structure Sys where
  db : DB
  reqs : Nat → PatchPc

/-- What can happen next. -/
inductive Action where
  | endpointRead (req : Nat) (endpointID : String) (body : Option RawFields)
  | scannerRead (req : Nat) (scannerID : String) (body : Option PatchScannerTokenRequest)
  | write (req : Nat)

/-- Move request `req` to `pc`. -/
def Sys.goto (s : Sys) (req : Nat) (pc : PatchPc) : Sys :=
  { s with reqs := Function.update s.reqs req pc }

/-- Finish request `req`, with the tables after its write. -/
def Sys.finish (s : Sys) (req : Nat) : Except HttpError DB → Sys
  | .ok db => { s.goto req (.done (.ok ())) with db := db }
  | .error e => s.goto req (.done (.error e))

/-- One step. -/
def step (s : Sys) : Action → Option Sys
  | .endpointRead req endpointID body =>
      match s.reqs req with
      | .idle =>
          match patchRead s.db endpointID body with
          | .ok rec => some (s.goto req (.endpointWrite endpointID rec body))
          | .error e => some (s.goto req (.done (.error e)))
      | _ => none
  | .scannerRead req scannerID body =>
      match s.reqs req with
      | .idle =>
          match scannerPatchRead s.db scannerID body with
          | .ok merged => some (s.goto req (.scannerWrite scannerID merged body))
          | .error e => some (s.goto req (.done (.error e)))
      | _ => none
  | .write req =>
      match s.reqs req with
      | .endpointWrite endpointID rec _ => some (s.finish req (patchWrite s.db endpointID rec))
      | .scannerWrite scannerID merged _ =>
          some (s.finish req (scannerPatchWrite s.db scannerID merged))
      | _ => none

/-- What a finished request leaves in the tables. -/
theorem finish_db (s : Sys) (req : Nat) (r : Except HttpError DB) :
    (s.finish req r).db = match r with
      | .ok db => db
      | .error _ => s.db := by
  cases r <;> rfl

/-- **The steps of one endpoint request, run alone, are `Handler.Patch`.** -/
theorem run_patch {s : Sys} {req : Nat} (endpointID : String) (body : Option RawFields)
    (hidle : s.reqs req = .idle) :
    ∃ as t, run step s as = some t ∧
      match patch s.db endpointID body with
      | .ok db => t.db = db ∧ t.reqs req = .done (.ok ())
      | .error e => t.db = s.db ∧ t.reqs req = .done (.error e) := by
  unfold patch
  cases hread : patchRead s.db endpointID body with
  | error e =>
      exact ⟨[.endpointRead req endpointID body], _,
        by simp [run, step, hidle, hread]; rfl, by simp [Sys.goto]⟩
  | ok rec =>
      refine ⟨[.endpointRead req endpointID body, .write req], _,
        by simp [run, step, hidle, hread, Sys.goto]; rfl, ?_⟩
      cases hwrite : patchWrite s.db endpointID rec <;>
        simp [hwrite, Sys.finish, Sys.goto]

/-- **The steps of one scanner request**, likewise. -/
theorem run_scannerPatch {s : Sys} {req : Nat} (scannerID : String)
    (body : Option PatchScannerTokenRequest) (hidle : s.reqs req = .idle) :
    ∃ as t, run step s as = some t ∧
      match scannerPatch s.db scannerID body with
      | .ok db => t.db = db ∧ t.reqs req = .done (.ok ())
      | .error e => t.db = s.db ∧ t.reqs req = .done (.error e) := by
  unfold scannerPatch
  cases hread : scannerPatchRead s.db scannerID body with
  | error e =>
      exact ⟨[.scannerRead req scannerID body], _,
        by simp [run, step, hidle, hread]; rfl, by simp [Sys.goto]⟩
  | ok merged =>
      refine ⟨[.scannerRead req scannerID body, .write req], _,
        by simp [run, step, hidle, hread, Sys.goto]; rfl, ?_⟩
      cases hwrite : scannerPatchWrite s.db scannerID merged <;>
        simp [hwrite, Sys.finish, Sys.goto]

/-! ## §2. Fields as registers. -/

/-- A field of an endpoint or of a scanner. -/
inductive Register where
  | endpoint (endpointID : String) (f : Field)
  | scanner (scannerID : String) (f : ScannerField)
  deriving DecidableEq, Repr

/-- What the field holds. -/
def Register.value : Register → Sys → Option Value
  | .endpoint id f, s => (s.db.getEndpoint id).map (fun rec => f.get rec)
  | .scanner id f, s => (s.db.getScannerToken id).map (fun row => f.get row)

/-- The value that the step names for the field: only an accepted write names anything. -/
def written (r : Register) (p : Sys × Action) : Option (Option Value) :=
  match p.2 with
  | .write req =>
      match p.1.reqs req, r with
      | .endpointWrite id rec body, .endpoint id' f =>
          if id' = id ∧ p.1.db.Accepted id rec then
            (body.bind (fun fields => f.named fields)).map some
          else none
      | .scannerWrite id merged body, .scanner id' f =>
          if id' = id ∧ p.1.db.ScannerAccepted id merged.scanConcurrency then
            (body.bind (fun fields => f.named fields)).map some
          else none
      | _, _ => none
  | _ => none

/-- The type of the endpoint stores the field. -/
def Field.StoredBy (type : String) : Field → Prop
  | .dnsName | .ipAddress | .port => HostType type
  | .url => type = "saml"
  | _ => True

/-- What GetEndpoint returns for a field that is not stored. -/
def Field.blank : Field → Value
  | .port => .number 0
  | .ipAddress | .url => .nullable none
  | _ => .text ""

/-- The condition on one step, in the state it finds: what an accepted write carries for the
field is what the row has, if the request omits the field, and the type stores the field, if
the request names it (a value that reads like a missing one aside). -/
def UpToDate (r : Register) (s : Sys) : Action → Prop
  | .write req =>
      match s.reqs req, r with
      | .endpointWrite id rec body, .endpoint id' f =>
          id' = id → s.db.Accepted id rec →
            match body.bind (fun fields => f.named fields) with
            | some v => f.StoredBy rec.type ∨ v = f.blank
            | none => ∀ current, s.db.getEndpoint id = some current →
                f.StoredBy rec.type ∧ f.get current = f.get rec ∨
                  ¬ f.StoredBy rec.type ∧ f.get current = f.blank
      | .scannerWrite id merged body, .scanner id' f =>
          id' = id → s.db.ScannerAccepted id merged.scanConcurrency →
            body.bind (fun fields => f.named fields) = none →
              ∀ current, s.db.getScannerToken id = some current →
                f.get current = f.get merged
      | _, _ => True
  | _ => True

/-- A field of a record as it is kept. -/
theorem get_kept (f : Field) (rec : EndpointRecord) :
    f.StoredBy rec.type ∧ f.get (kept rec) = f.get rec ∨
      ¬ f.StoredBy rec.type ∧ f.get (kept rec) = f.blank := by
  cases f with
  | name => exact .inl ⟨trivial, rfl⟩
  | enabled => exact .inl ⟨trivial, rfl⟩
  | scanExempt => exact .inl ⟨trivial, rfl⟩
  | scannerId => exact .inl ⟨trivial, rfl⟩
  | notes => exact .inl ⟨trivial, rfl⟩
  | dnsName =>
      by_cases h : HostType rec.type <;>
        simp [Field.StoredBy, Field.get, Field.blank, kept, h]
  | ipAddress =>
      by_cases h : HostType rec.type <;>
        simp [Field.StoredBy, Field.get, Field.blank, kept, h]
  | port =>
      by_cases h : HostType rec.type <;>
        simp [Field.StoredBy, Field.get, Field.blank, kept, h]
  | url =>
      by_cases h : rec.type = "saml" <;>
        simp [Field.StoredBy, Field.get, Field.blank, kept, h]

/-- A merge that was read: the invariant of the requests in flight. -/
def Merged : PatchPc → Prop
  | .endpointWrite _ rec body =>
      ∃ fields current, body = some fields ∧ mergePatch current fields = .ok rec
  | .scannerWrite _ merged body =>
      ∃ req current, body = some req ∧ scannerMerge current req = .ok merged
  | _ => True

/-- Every request in flight carries the merge of its body into some row. -/
def InFlightMerged (s : Sys) : Prop := ∀ req, Merged (s.reqs req)

/-! ## §3. One step. -/

/-- A read that succeeded merged the body into the row it found. -/
theorem patchRead_ok {db : DB} {endpointID : String} {body : Option RawFields}
    {rec : EndpointRecord} (h : patchRead db endpointID body = .ok rec) :
    ∃ fields current, body = some fields ∧ mergePatch current fields = .ok rec := by
  unfold patchRead at h
  cases body with
  | none => exact absurd h (by simp)
  | some fields =>
      cases hrow : db.getEndpoint endpointID with
      | none => simp [hrow] at h
      | some current => exact ⟨fields, current, rfl, by simpa [hrow] using h⟩

/-- A scanner read that succeeded, likewise. -/
theorem scannerPatchRead_ok {db : DB} {scannerID : String}
    {body : Option PatchScannerTokenRequest} {merged : Scanner}
    (h : scannerPatchRead db scannerID body = .ok merged) :
    ∃ req current, body = some req ∧ scannerMerge current req = .ok merged := by
  unfold scannerPatchRead at h
  cases hrow : db.getScannerToken scannerID with
  | none => simp [hrow] at h
  | some current =>
      cases body with
      | none => simp [hrow] at h
      | some req => exact ⟨req, current, rfl, by simpa [hrow] using h⟩

/-- The write of a PATCH succeeds exactly if UpdateEndpoint accepts the record. -/
theorem patchWrite_isOk_iff {db : DB} {endpointID : String} {rec : EndpointRecord} :
    (∃ db', patchWrite db endpointID rec = .ok db') ↔ db.Accepted endpointID rec := by
  rw [← updateEndpoint_isOk_iff]
  unfold patchWrite
  cases h : db.updateEndpoint endpointID rec with
  | ok db' => simp
  | error e => cases e <;> simp

/-- What it wrote is what UpdateEndpoint wrote. -/
theorem patchWrite_ok {db db' : DB} {endpointID : String} {rec : EndpointRecord}
    (h : patchWrite db endpointID rec = .ok db') :
    db.updateEndpoint endpointID rec = .ok db' := by
  unfold patchWrite at h
  split at h
  · next hok => rw [hok, Except.ok.inj h]
  · exact absurd h (by simp)
  · exact absurd h (by simp)
  · exact absurd h (by simp)

/-- The write of a scanner PATCH succeeds exactly if UpdateScannerToken accepts it. -/
theorem scannerPatchWrite_isOk_iff {db : DB} {scannerID : String} {merged : Scanner} :
    (∃ db', scannerPatchWrite db scannerID merged = .ok db') ↔
      db.ScannerAccepted scannerID merged.scanConcurrency := by
  rw [← @updateScannerToken_isOk_iff db scannerID merged.name merged.scanCronExpression]
  unfold scannerPatchWrite
  cases h : db.updateScannerToken scannerID merged.name merged.scanCronExpression
      merged.scanConcurrency with
  | ok db' => simp
  | error e => cases e <;> simp

/-- What it wrote is what UpdateScannerToken wrote. -/
theorem scannerPatchWrite_ok {db db' : DB} {scannerID : String} {merged : Scanner}
    (h : scannerPatchWrite db scannerID merged = .ok db') :
    db.updateScannerToken scannerID merged.name merged.scanCronExpression
      merged.scanConcurrency = .ok db' := by
  unfold scannerPatchWrite at h
  split at h
  · next hok => rw [hok, Except.ok.inj h]
  · exact absurd h (by simp)
  · exact absurd h (by simp)

/-- Everything a step can do. -/
inductive Effect (s : Sys) : Action → Sys → Prop
  | endpointRead {req : Nat} {id : String} {body : Option RawFields} {rec : EndpointRecord} :
      patchRead s.db id body = .ok rec →
      Effect s (.endpointRead req id body) (s.goto req (.endpointWrite id rec body))
  | endpointRefused {req : Nat} {id : String} {body : Option RawFields} {e : HttpError} :
      Effect s (.endpointRead req id body) (s.goto req (.done (.error e)))
  | scannerRead {req : Nat} {id : String} {body : Option PatchScannerTokenRequest}
      {merged : Scanner} : scannerPatchRead s.db id body = .ok merged →
      Effect s (.scannerRead req id body) (s.goto req (.scannerWrite id merged body))
  | scannerRefused {req : Nat} {id : String} {body : Option PatchScannerTokenRequest}
      {e : HttpError} : Effect s (.scannerRead req id body) (s.goto req (.done (.error e)))
  | endpointWrite {req : Nat} {id : String} {rec : EndpointRecord} {body : Option RawFields} :
      s.reqs req = .endpointWrite id rec body →
      Effect s (.write req) (s.finish req (patchWrite s.db id rec))
  | scannerWrite {req : Nat} {id : String} {merged : Scanner}
      {body : Option PatchScannerTokenRequest} :
      s.reqs req = .scannerWrite id merged body →
      Effect s (.write req) (s.finish req (scannerPatchWrite s.db id merged))

/-- **A step has one of these effects.** -/
theorem step_cases {s t : Sys} {a : Action} (h : step s a = some t) : Effect s a t := by
  cases a with
  | endpointRead req id body =>
      simp only [step] at h
      split at h
      · split at h
        · next hread => exact Option.some.inj h ▸ .endpointRead hread
        · exact Option.some.inj h ▸ .endpointRefused
      · exact absurd h (by simp)
  | scannerRead req id body =>
      simp only [step] at h
      split at h
      · split at h
        · next hread => exact Option.some.inj h ▸ .scannerRead hread
        · exact Option.some.inj h ▸ .scannerRefused
      · exact absurd h (by simp)
  | write req =>
      simp only [step] at h
      split at h
      · next hpc => exact Option.some.inj h ▸ .endpointWrite hpc
      · next hpc => exact Option.some.inj h ▸ .scannerWrite hpc
      · exact absurd h (by simp)

/-- Where the requests stand after a step: one of them moved, to a merge or to its end. -/
theorem reqs_step {s t : Sys} {a : Action} (h : step s a = some t) :
    ∃ req pc, t.reqs = Function.update s.reqs req pc ∧ Merged pc := by
  -- a write ends its request, with success or not
  have hfinish : ∀ req (r : Except HttpError DB), ∃ pc,
      (s.finish req r).reqs = Function.update s.reqs req pc ∧ Merged pc := by
    intro req r
    cases r with
    | ok db => exact ⟨.done (.ok ()), rfl, trivial⟩
    | error e => exact ⟨.done (.error e), rfl, trivial⟩
  cases step_cases h with
  | endpointRead hread => exact ⟨_, _, rfl, patchRead_ok hread⟩
  | endpointRefused => exact ⟨_, _, rfl, trivial⟩
  | scannerRead hread => exact ⟨_, _, rfl, scannerPatchRead_ok hread⟩
  | scannerRefused => exact ⟨_, _, rfl, trivial⟩
  | endpointWrite _ => exact ⟨_, hfinish _ _⟩
  | scannerWrite _ => exact ⟨_, hfinish _ _⟩

/-- The requests in flight keep carrying merges. -/
theorem inFlightMerged_step {s t : Sys} {a : Action} (hs : InFlightMerged s)
    (h : step s a = some t) : InFlightMerged t := by
  obtain ⟨req, pc, hreqs, hpc⟩ := reqs_step h
  intro req'
  rw [hreqs]
  by_cases heq : req' = req
  · subst heq
    rw [Function.update_self]
    exact hpc
  · rw [Function.update_of_ne heq]
    exact hs req'

/-- **One field of one accepted write**: it holds what the request names, or else what it
held, exactly under the condition. -/
theorem field_kept_iff {current₀ current rec : EndpointRecord} {fields : RawFields}
    (hmerge : mergePatch current₀ fields = .ok rec) (f : Field) :
    some (f.get (kept rec)) = ((f.named fields).map some).getD (some (f.get current)) ↔
      match f.named fields with
      | some v => f.StoredBy rec.type ∨ v = f.blank
      | none => f.StoredBy rec.type ∧ f.get current = f.get rec ∨
          ¬ f.StoredBy rec.type ∧ f.get current = f.blank := by
  have hget : f.get rec = (f.named fields).getD (f.get current₀) := mergePatch_get hmerge f
  cases hnamed : f.named fields with
  | some v =>
      rw [hnamed, Option.getD_some] at hget
      rw [Option.map_some, Option.getD_some, Option.some.injEq]
      show f.get (kept rec) = v ↔ f.StoredBy rec.type ∨ v = f.blank
      rcases get_kept f rec with ⟨hstored, hkept⟩ | ⟨hstored, hkept⟩
      · simp [hstored, hkept, hget]
      · simp [hstored, hkept, eq_comm]
  | none =>
      rw [Option.map_none, Option.getD_none, Option.some.injEq]
      show f.get (kept rec) = f.get current ↔ _
      rcases get_kept f rec with ⟨hstored, hkept⟩ | ⟨hstored, hkept⟩
      · simp [hstored, hkept, eq_comm]
      · simp [hstored, hkept, eq_comm]

/-- **The write of an endpoint PATCH, exactly.** -/
theorem endpointWrite_iff {db : DB} {id : String} {rec current₀ : EndpointRecord}
    {fields : RawFields} (hmerge : mergePatch current₀ fields = .ok rec) (f : Field)
    (id' : String) :
    ((match patchWrite db id rec with
        | .ok db' => db'
        | .error _ => db).getEndpoint id').map (fun r => f.get r) =
        (if id' = id ∧ db.Accepted id rec then (f.named fields).map some
          else none).getD ((db.getEndpoint id').map (fun r => f.get r)) ↔
      (id' = id → db.Accepted id rec →
        match f.named fields with
        | some v => f.StoredBy rec.type ∨ v = f.blank
        | none => ∀ current, db.getEndpoint id = some current →
            f.StoredBy rec.type ∧ f.get current = f.get rec ∨
              ¬ f.StoredBy rec.type ∧ f.get current = f.blank) := by
  by_cases hid : id' = id
  · subst hid
    by_cases haccepted : db.Accepted id' rec
    · obtain ⟨db', hok⟩ := patchWrite_isOk_iff.mpr haccepted
      obtain ⟨current, hrow⟩ : ∃ current, db.getEndpoint id' = some current := by
        obtain ⟨e, he, heid⟩ := haccepted.row
        have hfind : db.endpoints.find? id' = some e := Table.find?_eq_some_iff.mpr ⟨he, heid⟩
        unfold getEndpoint
        rw [hfind]
        exact ⟨_, rfl⟩
      have hafter := getEndpoint_updateEndpoint (patchWrite_ok hok) id'
      rw [if_pos rfl] at hafter
      have hfield := @field_kept_iff _ current _ _ hmerge f
      simp only [hok, hafter, hrow, haccepted, and_self, if_true, Option.map_some, hfield,
        forall_const]
      cases f.named fields <;> simp
    · -- a write that is refused changes nothing, and names nothing
      cases hwrite : patchWrite db id' rec with
      | ok db' => exact absurd (patchWrite_isOk_iff.mp ⟨db', hwrite⟩) haccepted
      | error e => simp [haccepted]
  · cases hwrite : patchWrite db id rec with
    | ok db' =>
        have hafter := getEndpoint_updateEndpoint (patchWrite_ok hwrite) id'
        simp [hafter, hid]
    | error e => simp [hid]

/-- The settings of a merge, written over a row, are those of the merge. -/
theorem get_withSettings (merged row : Scanner) (f : ScannerField) :
    f.get (withSettings merged.name merged.scanCronExpression merged.scanConcurrency row) =
      f.get merged := by
  cases f <;> rfl

/-- **The write of a scanner PATCH, exactly.** -/
theorem scannerWrite_iff {db : DB} {id : String} {merged current₀ : Scanner}
    {req : PatchScannerTokenRequest} (hmerge : scannerMerge current₀ req = .ok merged)
    (f : ScannerField) (id' : String) :
    ((match scannerPatchWrite db id merged with
        | .ok db' => db'
        | .error _ => db).getScannerToken id').map (fun row => f.get row) =
        (if id' = id ∧ db.ScannerAccepted id merged.scanConcurrency then
            (f.named req).map some
          else none).getD ((db.getScannerToken id').map (fun row => f.get row)) ↔
      (id' = id → db.ScannerAccepted id merged.scanConcurrency → f.named req = none →
        ∀ current, db.getScannerToken id = some current → f.get current = f.get merged) := by
  by_cases hid : id' = id
  · subst hid
    by_cases haccepted : db.ScannerAccepted id' merged.scanConcurrency
    · obtain ⟨db', hok⟩ := scannerPatchWrite_isOk_iff.mpr haccepted
      obtain ⟨current, hcurrent, hkey⟩ := haccepted.row
      have hrow : db.getScannerToken id' = some current :=
        Table.find?_eq_some_iff.mpr ⟨hcurrent, hkey⟩
      have hafter := (getScannerToken_updateScannerToken (scannerPatchWrite_ok hok)).1 id'
      rw [if_pos rfl] at hafter
      have hget : f.get merged = (f.named req).getD (f.get current₀) := scannerMerge_get hmerge f
      simp only [hok, hafter, hrow, haccepted, and_self, if_true, Option.map_some,
        get_withSettings, forall_const]
      cases hnamed : f.named req with
      | some v => simp [hget, hnamed]
      | none => simp [eq_comm]
    · cases hwrite : scannerPatchWrite db id' merged with
      | ok db' => exact absurd (scannerPatchWrite_isOk_iff.mp ⟨db', hwrite⟩) haccepted
      | error e => simp [haccepted]
  · cases hwrite : scannerPatchWrite db id merged with
    | ok db' =>
        have hafter :=
          (getScannerToken_updateScannerToken (scannerPatchWrite_ok hwrite)).1 id'
        simp [hafter, hid]
    | error e => simp [hid]

/-- A scanner write leaves the endpoints alone. -/
theorem getEndpoint_scannerPatchWrite (db : DB) (id : String) (merged : Scanner)
    (id' : String) :
    (match scannerPatchWrite db id merged with
      | .ok db' => db'
      | .error _ => db).getEndpoint id' = db.getEndpoint id' := by
  cases h : scannerPatchWrite db id merged with
  | ok db' => exact (getScannerToken_updateScannerToken (scannerPatchWrite_ok h)).2 id'
  | error e => rfl

/-- An endpoint write leaves the scanners alone. -/
theorem getScannerToken_patchWrite (db : DB) (id : String) (rec : EndpointRecord)
    (id' : String) :
    (match patchWrite db id rec with
      | .ok db' => db'
      | .error _ => db).getScannerToken id' = db.getScannerToken id' := by
  cases h : patchWrite db id rec with
  | ok db' =>
      obtain ⟨_, hscanners, _⟩ := updateEndpoint_ok (patchWrite_ok h)
      show db'.scanners.find? id' = db.scanners.find? id'
      rw [hscanners]
  | error e => rfl

/-- **One step, exactly**: the field holds what the step names, or what it held, if and only
if the step is up to date. -/
theorem value_step_iff (r : Register) {s t : Sys} {a : Action} (hs : InFlightMerged s)
    (h : step s a = some t) :
    r.value t = (written r (s, a)).getD (r.value s) ↔ UpToDate r s a := by
  cases step_cases h with
  | endpointRead _ => cases r <;> simp [Register.value, Sys.goto, written, UpToDate]
  | endpointRefused => cases r <;> simp [Register.value, Sys.goto, written, UpToDate]
  | scannerRead _ => cases r <;> simp [Register.value, Sys.goto, written, UpToDate]
  | scannerRefused => cases r <;> simp [Register.value, Sys.goto, written, UpToDate]
  | @endpointWrite req id rec body hpc =>
      have hmerged := hs req
      rw [hpc] at hmerged
      obtain ⟨fields, current₀, hbody, hmerge⟩ := hmerged
      subst hbody
      cases r with
      | endpoint id' f =>
          simp only [Register.value, finish_db, written, UpToDate, hpc, Option.bind_some]
          exact endpointWrite_iff hmerge f id'
      | scanner id' f =>
          simp only [Register.value, finish_db, written, UpToDate, hpc, Option.getD_none,
            getScannerToken_patchWrite]
  | @scannerWrite req id merged body hpc =>
      have hmerged := hs req
      rw [hpc] at hmerged
      obtain ⟨fields, current₀, hbody, hmerge⟩ := hmerged
      subst hbody
      cases r with
      | endpoint id' f =>
          simp only [Register.value, finish_db, written, UpToDate, hpc, Option.getD_none,
            getEndpoint_scannerPatchWrite]
      | scanner id' f =>
          simp only [Register.value, finish_db, written, UpToDate, hpc, Option.bind_some]
          exact scannerWrite_iff hmerge f id'

/-! ## §4. Runs. -/

/-- **WHEN A PATCH CHANGES ONLY WHAT IT NAMES.**  In a run of PATCH requests, any number of
them in flight, the field holds in every state reached the value of the last accepted request
that named it, or the initial one, if and only if every step is up to date. -/
theorem patch_respected_iff (r : Register) {start t : Sys} {tr : List (Sys × Action)}
    (e : Exec step start tr t) (hidle : ∀ req, start.reqs req = .idle) :
    Respects step r.value (written r) start tr ↔ ∀ p ∈ tr, UpToDate r p.1 p.2 := by
  refine e.respects_iff (J := InFlightMerged) (fun _ _ _ hs h => inFlightMerged_step hs h)
    (fun _ _ _ hs h => value_step_iff r hs h) fun req => ?_
  rw [hidle req]
  trivial

/-- A host endpoint, a scanner, and no request in flight. -/
def oneHost : Sys where
  db :=
    { endpoints := ⟨[⟨"e1", "web", "host", true, false, none, none⟩], by decide⟩
      hosts := ⟨[⟨"e1", some "www.example.org", none, 443⟩], by decide⟩
      saml := Table.empty
      scanners := ⟨[⟨"s1", "default", "0 * * * *", 5⟩], by decide⟩ }
  reqs := fun _ => .idle

/-- A body with one field. -/
def only (key : String) (v : RawMessage) : RawFields := fun k => if k = key then some v else none

/-- One request renames the endpoint, another adds a note; both read before either writes. -/
def renameAndNote : List Action :=
  [.endpointRead 0 "e1" (some (only "name" (.string "api"))),
    .endpointRead 1 "e1" (some (only "notes" (.string "moved"))),
    .write 0, .write 1]

/-- The exact condition on a concrete run: it fails for the name in the second write. -/
theorem patch_respected_iff_renameAndNote :
    ∃ t, run step oneHost renameAndNote = some t ∧
      (Respects step (Register.endpoint "e1" .name).value (written (.endpoint "e1" .name))
          oneHost (traceFrom step oneHost renameAndNote) ↔
        ∀ p ∈ traceFrom step oneHost renameAndNote,
          UpToDate (.endpoint "e1" .name) p.1 p.2) := by
  refine ⟨_, rfl, ?_⟩
  exact patch_respected_iff (.endpoint "e1" .name) (exec_traceFrom rfl) (fun _ => rfl)

/-- **A rename is lost** to a request that only named the notes. -/
theorem patch_undoes_rename :
    ¬ ∀ (r : Register) (t : Sys) (tr : List (Sys × Action)),
        Exec step oneHost tr t → Respects step r.value (written r) oneHost tr := by
  intro hall
  have hrun : ∃ t, run step oneHost renameAndNote = some t ∧
      (Register.endpoint "e1" .name).value t = some (.text "web") ∧
      lastNamed (written (.endpoint "e1" .name)) ((Register.endpoint "e1" .name).value oneHost)
        (traceFrom step oneHost renameAndNote) = some (.text "api") :=
    ⟨_, rfl, by decide, by decide⟩
  obtain ⟨t, hrun, hfinal, hlast⟩ := hrun
  have hresp := hall (.endpoint "e1" .name) t _ (exec_traceFrom hrun) _ [] t
    (List.append_nil _).symm (exec_traceFrom hrun)
  rw [hfinal, hlast] at hresp
  exact absurd hresp (by decide)

end TLSentinel.Endpoints
