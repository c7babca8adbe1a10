/-
  TLSentinel.Endpoints.Patch
  ──────────────────────────
  **PARTIAL UPDATES: WHAT A PATCH READS, CHECKS AND WRITES.**

  The Patch handlers of `internal/endpoints/handler.go` and
  `internal/scanners/handler.go`.  Both read the current row, merge the fields of
  the request into it, check them on the way, and write the whole record back;
  the reading and the writing part are separate functions, because other requests
  may run in between.  The id in the path is a canonical uuid text.

  `mergePatch_get`, `scannerMerge_get`: in the record that is written a field of
  the request has its value, every other field the value that was read.
-/
import TLSentinel.Endpoints.Store

namespace TLSentinel.Endpoints

open Foundation

/-! ## §1. The fields of a request. -/

/-- A JSON value, as far as decoding into a string, a boolean or an int tells it apart. -/
inductive RawMessage where
  | null
  | bool (b : Bool)
  | int (n : Int)
  | string (s : String)
  /-- An array, an object, or a number that is no int. -/
  | other
  deriving DecidableEq, Repr

/-- The body of an endpoint PATCH: the values by their keys. -/
abbrev RawFields := String → Option RawMessage

/-- A non-empty string; null decodes to the empty one. -/
def nonEmptyString : RawMessage → Option String
  | .string s => if s = "" then none else some s
  | _ => none

/-- A boolean; null leaves the zero value and is no error. -/
def boolean : RawMessage → Option Bool
  | .bool b => some b
  | .null => some false
  | _ => none

/-- A string, or null to clear the field. -/
def stringOrNull : RawMessage → Option (Option String)
  | .null => some none
  | .string s => some (some s)
  | _ => none

/-- A port; null decodes to 0, which is out of range. -/
def portNumber : RawMessage → Option Int
  | .int p => if p < 1 ∨ p > 65535 then none else some p
  | _ => none

/-- One field of a patch: the value of the request if the key is present, or the current one. -/
def patchField {α : Type} (fields : RawFields) (key : String) (decode : RawMessage → Option α)
    (message : String) (current : α) : Except HttpError α :=
  match fields key with
  | none => .ok current
  | some v =>
      match decode v with
      | some a => .ok a
      | none => .error ⟨400, message⟩

/-! ## §2. PATCH of an endpoint. -/

/-- The merge of `Handler.Patch`, field by field in the order of the source. -/
def mergePatch (current : EndpointRecord) (fields : RawFields) :
    Except HttpError EndpointRecord := do
  let name ← patchField fields "name" nonEmptyString "name must be a non-empty string" current.name
  let enabled ← patchField fields "enabled" boolean "enabled must be a boolean" current.enabled
  let scanExempt ←
    patchField fields "scanExempt" boolean "scanExempt must be a boolean" current.scanExempt
  let scannerID ←
    patchField fields "scannerId" stringOrNull "scannerId must be a string or null"
      current.scannerID
  let notes ← patchField fields "notes" stringOrNull "notes must be a string or null" current.notes
  let dnsName ←
    patchField fields "dnsName" nonEmptyString "dnsName must be a non-empty string" current.dnsName
  let ipAddress ←
    patchField fields "ipAddress" stringOrNull "ipAddress must be a string or null"
      current.ipAddress
  let port ← patchField fields "port" portNumber "port must be between 1 and 65535" current.port
  let url ← patchField fields "url" stringOrNull "url must be a string or null" current.url
  return { name, type := current.type, dnsName, ipAddress, port, url, enabled, scanExempt,
           scannerID, notes }

/-- `Handler.Patch` up to its write: the merged record. -/
def patchRead (db : DB) (endpointID : String) (body : Option RawFields) :
    Except HttpError EndpointRecord :=
  match body with
  | none => .error ⟨400, "invalid request body"⟩
  | some fields =>
      match db.getEndpoint endpointID with
      | none => .error ⟨404, "endpoint not found"⟩
      | some current => mergePatch current fields

/-- The write of `Handler.Patch`; a panic is answered by the Recoverer middleware. -/
def patchWrite (db : DB) (endpointID : String) (rec : EndpointRecord) : Except HttpError DB :=
  match db.updateEndpoint endpointID rec with
  | .ok db => .ok db
  | .error .notFound => .error ⟨404, "endpoint not found"⟩
  | .error .failed => .error ⟨500, "failed to patch endpoint"⟩
  | .error .panicked => .error ⟨500, ""⟩

/-- `Handler.Patch`, run without interruption. -/
def patch (db : DB) (endpointID : String) (body : Option RawFields) : Except HttpError DB :=
  match patchRead db endpointID body with
  | .error e => .error e
  | .ok rec => patchWrite db endpointID rec

/-! ## §3. PATCH of a scanner. -/

/-- `patchScannerTokenRequest`; a missing field and null are both nil. -/
structure PatchScannerTokenRequest where
  name : Option String
  scanCronExpression : Option String
  scanConcurrency : Option Int
  deriving DecidableEq, Repr

/-- One field of a scanner patch. -/
def patchPointer {α : Type} (field : Option α) (valid : α → Bool) (message : String)
    (current : α) : Except HttpError α :=
  match field with
  | none => .ok current
  | some a => if valid a then .ok a else .error ⟨400, message⟩

/-- The merge of `Handler.Patch` in `internal/scanners`. -/
def scannerMerge (current : Scanner) (req : PatchScannerTokenRequest) :
    Except HttpError Scanner := do
  let name ← patchPointer req.name (fun s => decide (s ≠ "")) "name must not be empty" current.name
  let scanCronExpression ← patchPointer req.scanCronExpression (fun s => decide (s ≠ ""))
    "scanCronExpression must not be empty" current.scanCronExpression
  let scanConcurrency ← patchPointer req.scanConcurrency (fun n => decide (0 < n))
    "scanConcurrency must be positive" current.scanConcurrency
  return { id := current.id, name, scanCronExpression, scanConcurrency }

/-- `Handler.Patch` in `internal/scanners` up to its write; here the row is read first. -/
def scannerPatchRead (db : DB) (scannerID : String) (body : Option PatchScannerTokenRequest) :
    Except HttpError Scanner :=
  match db.getScannerToken scannerID with
  | none => .error ⟨404, "scanner token not found"⟩
  | some current =>
      match body with
      | none => .error ⟨400, "invalid request body"⟩
      | some req => scannerMerge current req

/-- The write of `Handler.Patch` in `internal/scanners`. -/
def scannerPatchWrite (db : DB) (scannerID : String) (merged : Scanner) : Except HttpError DB :=
  match db.updateScannerToken scannerID merged.name merged.scanCronExpression
    merged.scanConcurrency with
  | .ok db => .ok db
  | .error .notFound => .error ⟨404, "scanner token not found"⟩
  | .error _ => .error ⟨500, "failed to patch scanner token"⟩

/-- `Handler.Patch` in `internal/scanners`, run without interruption. -/
def scannerPatch (db : DB) (scannerID : String) (body : Option PatchScannerTokenRequest) :
    Except HttpError DB :=
  match scannerPatchRead db scannerID body with
  | .error e => .error e
  | .ok merged => scannerPatchWrite db scannerID merged

/-! ## §4. What a merge takes from where. -/

/-- The fields of an endpoint that a PATCH may name. -/
inductive Field where
  | name
  | enabled
  | scanExempt
  | scannerId
  | notes
  | dnsName
  | ipAddress
  | port
  | url
  deriving DecidableEq, Repr

/-- The value of a field. -/
inductive Value where
  | text (s : String)
  | flag (b : Bool)
  | nullable (s : Option String)
  | number (n : Int)
  deriving DecidableEq, Repr

/-- The field in a record. -/
def Field.get (rec : EndpointRecord) : Field → Value
  | .name => .text rec.name
  | .enabled => .flag rec.enabled
  | .scanExempt => .flag rec.scanExempt
  | .scannerId => .nullable rec.scannerID
  | .notes => .nullable rec.notes
  | .dnsName => .text rec.dnsName
  | .ipAddress => .nullable rec.ipAddress
  | .port => .number rec.port
  | .url => .nullable rec.url

/-- The value that a request names for the field. -/
def Field.named (fields : RawFields) : Field → Option Value
  | .name => ((fields "name").bind nonEmptyString).map .text
  | .enabled => ((fields "enabled").bind boolean).map .flag
  | .scanExempt => ((fields "scanExempt").bind boolean).map .flag
  | .scannerId => ((fields "scannerId").bind stringOrNull).map .nullable
  | .notes => ((fields "notes").bind stringOrNull).map .nullable
  | .dnsName => ((fields "dnsName").bind nonEmptyString).map .text
  | .ipAddress => ((fields "ipAddress").bind stringOrNull).map .nullable
  | .port => ((fields "port").bind portNumber).map .number
  | .url => ((fields "url").bind stringOrNull).map .nullable

/-- The fields of a scanner that a PATCH may name. -/
inductive ScannerField where
  | name
  | scanCronExpression
  | scanConcurrency
  deriving DecidableEq, Repr

/-- The field in a scanner. -/
def ScannerField.get (s : Scanner) : ScannerField → Value
  | .name => .text s.name
  | .scanCronExpression => .text s.scanCronExpression
  | .scanConcurrency => .number s.scanConcurrency

/-- The value that a request names for the field. -/
def ScannerField.named (req : PatchScannerTokenRequest) : ScannerField → Option Value
  | .name => req.name.map .text
  | .scanCronExpression => req.scanCronExpression.map .text
  | .scanConcurrency => req.scanConcurrency.map .number

/-- A sequence of checks succeeds if the first does and the rest does. -/
theorem except_bind_eq_ok {ε α β : Type} {x : Except ε α} {f : α → Except ε β} {b : β} :
    (x >>= f) = .ok b ↔ ∃ a, x = .ok a ∧ f a = .ok b := by
  cases x with
  | error e =>
      refine ⟨fun h => absurd h ?_, fun ⟨_, h, _⟩ => absurd h (by simp)⟩
      show ¬ Except.error e = Except.ok b
      simp
  | ok a =>
      refine ⟨fun h => ⟨a, rfl, h⟩, fun ⟨c, hc, h⟩ => ?_⟩
      injection hc with hc
      exact hc ▸ h

/-- A field that passed its check. -/
theorem patchField_ok {α : Type} {fields : RawFields} {key message : String}
    {decode : RawMessage → Option α} {current a : α}
    (h : patchField fields key decode message current = .ok a) :
    a = ((fields key).bind decode).getD current := by
  unfold patchField at h
  cases hkey : fields key with
  | none =>
      rw [hkey] at h
      exact (Except.ok.inj h).symm
  | some v =>
      rw [hkey] at h
      cases hv : decode v with
      | none => simp [hv] at h
      | some c =>
          simp only [hv, Except.ok.injEq] at h
          simp [hv, h]

/-- A pointer field that passed its check. -/
theorem patchPointer_ok {α : Type} {field : Option α} {valid : α → Bool} {message : String}
    {current a : α} (h : patchPointer field valid message current = .ok a) :
    a = field.getD current := by
  unfold patchPointer at h
  cases field with
  | none => exact (Except.ok.inj h).symm
  | some c =>
      simp only at h
      split at h
      · exact (Except.ok.inj h).symm
      · exact absurd h (by simp)

/-- **In the merged record** a field has the value that the request names, or the one read. -/
theorem mergePatch_get {current rec : EndpointRecord} {fields : RawFields}
    (h : mergePatch current fields = .ok rec) (f : Field) :
    f.get rec = (f.named fields).getD (f.get current) := by
  unfold mergePatch at h
  -- the nine checks, in their order
  obtain ⟨name, hname, h⟩ := except_bind_eq_ok.mp h
  obtain ⟨enabled, henabled, h⟩ := except_bind_eq_ok.mp h
  obtain ⟨scanExempt, hscanExempt, h⟩ := except_bind_eq_ok.mp h
  obtain ⟨scannerID, hscannerID, h⟩ := except_bind_eq_ok.mp h
  obtain ⟨notes, hnotes, h⟩ := except_bind_eq_ok.mp h
  obtain ⟨dnsName, hdnsName, h⟩ := except_bind_eq_ok.mp h
  obtain ⟨ipAddress, hipAddress, h⟩ := except_bind_eq_ok.mp h
  obtain ⟨port, hport, h⟩ := except_bind_eq_ok.mp h
  obtain ⟨url, hurl, h⟩ := except_bind_eq_ok.mp h
  have hrec := (Except.ok.inj h).symm
  subst hrec
  have hmap : ∀ {α : Type} (c : α → Value) (o : Option α) (d : α),
      c (o.getD d) = (o.map c).getD (c d) := by
    intro α c o d
    cases o <;> rfl
  cases f with
  | name => simp only [Field.get, Field.named, patchField_ok hname, hmap]
  | enabled => simp only [Field.get, Field.named, patchField_ok henabled, hmap]
  | scanExempt => simp only [Field.get, Field.named, patchField_ok hscanExempt, hmap]
  | scannerId => simp only [Field.get, Field.named, patchField_ok hscannerID, hmap]
  | notes => simp only [Field.get, Field.named, patchField_ok hnotes, hmap]
  | dnsName => simp only [Field.get, Field.named, patchField_ok hdnsName, hmap]
  | ipAddress => simp only [Field.get, Field.named, patchField_ok hipAddress, hmap]
  | port => simp only [Field.get, Field.named, patchField_ok hport, hmap]
  | url => simp only [Field.get, Field.named, patchField_ok hurl, hmap]

/-- A PATCH leaves the type alone. -/
theorem mergePatch_type {current rec : EndpointRecord} {fields : RawFields}
    (h : mergePatch current fields = .ok rec) : rec.type = current.type := by
  unfold mergePatch at h
  obtain ⟨_, _, h⟩ := except_bind_eq_ok.mp h
  obtain ⟨_, _, h⟩ := except_bind_eq_ok.mp h
  obtain ⟨_, _, h⟩ := except_bind_eq_ok.mp h
  obtain ⟨_, _, h⟩ := except_bind_eq_ok.mp h
  obtain ⟨_, _, h⟩ := except_bind_eq_ok.mp h
  obtain ⟨_, _, h⟩ := except_bind_eq_ok.mp h
  obtain ⟨_, _, h⟩ := except_bind_eq_ok.mp h
  obtain ⟨_, _, h⟩ := except_bind_eq_ok.mp h
  obtain ⟨_, _, h⟩ := except_bind_eq_ok.mp h
  rw [← Except.ok.inj h]

/-- **In the merged scanner**, likewise. -/
theorem scannerMerge_get {current merged : Scanner} {req : PatchScannerTokenRequest}
    (h : scannerMerge current req = .ok merged) (f : ScannerField) :
    f.get merged = (f.named req).getD (f.get current) := by
  unfold scannerMerge at h
  obtain ⟨name, hname, h⟩ := except_bind_eq_ok.mp h
  obtain ⟨scanCronExpression, hcron, h⟩ := except_bind_eq_ok.mp h
  obtain ⟨scanConcurrency, hconcurrency, h⟩ := except_bind_eq_ok.mp h
  have hmerged := (Except.ok.inj h).symm
  subst hmerged
  cases f with
  | name =>
      cases hreq : req.name <;>
        simp [ScannerField.get, ScannerField.named, patchPointer_ok hname, hreq]
  | scanCronExpression =>
      cases hreq : req.scanCronExpression <;>
        simp [ScannerField.get, ScannerField.named, patchPointer_ok hcron, hreq]
  | scanConcurrency =>
      cases hreq : req.scanConcurrency <;>
        simp [ScannerField.get, ScannerField.named, patchPointer_ok hconcurrency, hreq]

end TLSentinel.Endpoints
