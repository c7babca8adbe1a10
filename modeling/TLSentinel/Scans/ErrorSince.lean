/-
  TLSentinel.Scans.ErrorSince
  ───────────────────────────
  **`error_since` IS WHERE THE CURRENT FAILURES BEGAN.**

  RecordScanResult sets `last_scan_error` and `error_since` in one UPDATE, whose
  CASE reads the row as it was.  The failures in a row that end the sequence of
  calls are its longest suffix of failed calls, `failureRun`; the column holds
  the time of the first of them, whatever texts the errors carry.

  Main result: `errorSince_failureRun`.
-/
import TLSentinel.Scans.Ledger
import Mathlib.Data.List.DropRight

namespace TLSentinel.Scans

open Foundation

/-! ## §1. The uninterrupted failures at the end of the calls. -/

/-- The call reported an error. -/
def failed (c : Int × ScanResultRequest) : Bool := c.2.error.isSome

/-- The current uninterrupted run of error results. -/
def failureRun (calls : List (Int × ScanResultRequest)) : List (Int × ScanResultRequest) :=
  calls.rtakeWhile failed

/-- The error of the last call, if any. -/
def lastError (calls : List (Int × ScanResultRequest)) : Option String :=
  calls.getLast?.bind (fun c => c.2.error)

theorem failureRun_concat_of_failed {cs : List (Int × ScanResultRequest)}
    {c : Int × ScanResultRequest} (h : failed c = true) :
    failureRun (cs ++ [c]) = failureRun cs ++ [c] :=
  List.rtakeWhile_concat_pos failed cs c h

theorem failureRun_concat_of_not_failed {cs : List (Int × ScanResultRequest)}
    {c : Int × ScanResultRequest} (h : failed c = false) : failureRun (cs ++ [c]) = [] :=
  List.rtakeWhile_concat_neg failed cs c (by simp [h])

theorem lastError_concat (cs : List (Int × ScanResultRequest)) (c : Int × ScanResultRequest) :
    lastError (cs ++ [c]) = c.2.error := by
  simp [lastError]

/-- No failures end the calls exactly when the last call reported no error. -/
theorem failureRun_eq_nil_iff {cs : List (Int × ScanResultRequest)} :
    failureRun cs = [] ↔ lastError cs = none := by
  induction cs using List.reverseRecOn with
  | nil => simp [failureRun, lastError]
  | append_singleton cs c _ =>
      rw [lastError_concat]
      cases h : failed c with
      | true =>
          rw [failureRun_concat_of_failed h]
          have herr : c.2.error ≠ none := Option.isSome_iff_ne_none.mp h
          simp [herr]
      | false =>
          rw [failureRun_concat_of_not_failed h]
          simpa [failed] using h

/-! ## §2. One step on the row of an endpoint. -/

/-- The row of an endpoint after a step. -/
def Endpoint.after (hostID : String) (db : DB) (a : Action) (row : Endpoint) : Endpoint :=
  match committedCall hostID (db, a) with
  | some (now, req) => row.scanned now req.error
  | none => row

/-- **Only a committed call of the endpoint touches its row.** -/
theorem find?_step {db db' : DB} {a : Action} (h : step db a = some db') (hostID : String) :
    db'.endpoints.find? hostID =
      (db.endpoints.find? hostID).map (Endpoint.after hostID db a) := by
  have hother : committedCall hostID (db, a) = none → db'.endpoints.find? hostID
      = db.endpoints.find? hostID → db'.endpoints.find? hostID =
        (db.endpoints.find? hostID).map (Endpoint.after hostID db a) := by
    intro hnone heq
    have hid : Endpoint.after hostID db a = id := by
      funext row
      simp [Endpoint.after, hnone]
    rw [heq, hid, Option.map_id, id_eq]
  cases step_cases h with
  | @call now host req db' hcall =>
      rw [(DB.recordScanResult_eq_some hcall).endpoints, DB.scanState, Table.find?_update]
      -- the row that is looked up is the updated one when the endpoint is the scanned one
      cases hrow : db.endpoints.find? hostID with
      | none => rfl
      | some row =>
          have hid : row.id = hostID := Table.key_of_find? hrow
          rw [Option.map_some, Option.map_some, hid]
          by_cases hhost : host = hostID
          · subst hhost
            simp [Endpoint.after, committedCall, hcall]
          · simp [Endpoint.after, committedCall, hhost, Ne.symm hhost]
  | callFails hcall => exact hother (by simp [committedCall, hcall]) rfl
  | cert hcall =>
      obtain ⟨_, _, _, hend, _⟩ := DB.upsertEndpointCert_eq_some hcall
      exact hother rfl (by rw [hend])
  | certFails _ => exact hother rfl rfl
  | purge => exact hother rfl rfl
  | ingest => exact hother rfl rfl

/-! ## §3. Runs. -/

/-- What the row of an endpoint owes to the calls made. -/
structure Streak (calls : List (Int × ScanResultRequest)) (row : Endpoint) : Prop where
  lastScanError : row.lastScanError = lastError calls
  errorSince : row.errorSince = (failureRun calls).head?.map Prod.fst

/-- **The step lemma**: the CASE reads the old row and keeps the invariant. -/
theorem Streak.scanned {cs : List (Int × ScanResultRequest)} {row : Endpoint}
    (h : Streak cs row) (now : Int) (req : ScanResultRequest) :
    Streak (cs ++ [(now, req)]) (row.scanned now req.error) := by
  refine ⟨(lastError_concat cs (now, req)).symm, ?_⟩
  show nextErrorSince now req.error row = _
  unfold nextErrorSince
  simp only [h.lastScanError, h.errorSince, ← failureRun_eq_nil_iff]
  cases herr : req.error with
  | none =>
      rw [failureRun_concat_of_not_failed (by simp [failed, herr])]
      simp
  | some text =>
      rw [failureRun_concat_of_failed (by simp [failed, herr])]
      cases hrun : failureRun cs with
      | nil => simp
      | cons first rest => simp

/-- **`error_since` is the start of the current failure streak.**  In every run from a state
in which the endpoint was never scanned, the row holds the error of the last committed call;
`error_since` is set exactly when that is an error, and is then the time of the first call
of the uninterrupted failures that end the calls. -/
theorem errorSince_failureRun {hostID : String} {start t : DB} {tr : List (DB × Action)}
    {row₀ : Endpoint} (e : Exec step start tr t)
    (hstart : start.endpoints.find? hostID = some row₀)
    (hnew : row₀.lastScannedAt = none ∧ row₀.lastScanError = none ∧ row₀.errorSince = none) :
    ∃ row, t.endpoints.find? hostID = some row ∧
      row.lastScanError = lastError (calls hostID tr) ∧
      (row.errorSince ≠ none ↔ row.lastScanError ≠ none) ∧
      row.errorSince = (failureRun (calls hostID tr)).head?.map Prod.fst := by
  obtain ⟨row, hrow, hstreak⟩ : ∃ row, t.endpoints.find? hostID = some row ∧
      Streak (calls hostID tr) row := by
    refine e.history (P := fun tr t => ∃ row, t.endpoints.find? hostID = some row ∧
      Streak (calls hostID tr) row) ?_ ?_
    · exact ⟨row₀, hstart, hnew.2.1, hnew.2.2⟩
    · intro tr u a v _ ih hstep
      obtain ⟨row, hrow, hstreak⟩ := ih
      refine ⟨row.after hostID u a, by rw [find?_step hstep, hrow, Option.map_some], ?_⟩
      rw [calls_concat]
      unfold Endpoint.after
      cases hcall : committedCall hostID (u, a) with
      | none => simpa using hstreak
      | some c => exact hstreak.scanned c.1 c.2
  refine ⟨row, hrow, hstreak.lastScanError, ?_, hstreak.errorSince⟩
  rw [hstreak.errorSince, hstreak.lastScanError, ne_eq, ne_eq, ← failureRun_eq_nil_iff,
    Option.map_eq_none_iff, List.head?_eq_none_iff]

/-- A success, then failures with different texts. -/
def changingTexts : List Action :=
  [.recordScanResult 10 "web" (sawCert "A"), .recordScanResult 20 "web" (sawError "timeout"),
    .recordScanResult 30 "web" (sawError "refused")]

/-- The first failure counts. -/
theorem errorSince_failureRun_changingTexts :
    ∃ t, run step newEndpoint changingTexts = some t ∧
      ∃ row, t.endpoints.find? "web" = some row ∧ row.lastScanError = some "refused" ∧
        (row.errorSince ≠ none ↔ row.lastScanError ≠ none) ∧ row.errorSince = some 20 := by
  refine ⟨_, rfl, ?_⟩
  have hstart : newEndpoint.endpoints.find? "web" = some ⟨"web", none, none, none, 0⟩ := rfl
  have e : Exec step newEndpoint (traceFrom step newEndpoint changingTexts) _ :=
    exec_traceFrom rfl
  exact errorSince_failureRun e hstart ⟨rfl, rfl, rfl⟩

end TLSentinel.Scans
