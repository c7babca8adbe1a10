/-
  TLSentinel.Users.RecoveryCodes
  ──────────────────────────────
  **WHEN A RECOVERY CODE IS SPENT ONCE.**

  `consumeRecoveryCode` exists twice, in `internal/auth/handler.go` for LoginTOTP
  and in `internal/users/totp_handler.go` for Disable (there with an audit entry);
  both list the unused rows, compare the typed code with each hash and mark the
  first match.  The UPDATE that marks is restricted to unused rows, but its row
  count is dropped: a request whose row was spent in the meantime is authorised
  all the same.

  Main results:
    * `run_redemption`        — the three steps of a request, run alone, are
                                `consumeRecoveryCode`;
    * `recovery_code_single_use` — in every interleaving of redemptions, a code
                                authorises at most one request as long as each
                                marking UPDATE still finds its row unused.
-/
import TLSentinel.Foundation.Runs
import TLSentinel.Users.Store

namespace TLSentinel.Users.Redemption

open Foundation

variable {X : Externals}

/-! ## §1. `consumeRecoveryCode`. -/

/-- The row the loop stops at. -/
def firstMatch (X : Externals) (rows : List UserTOTPRecoveryCode) (code : String) :
    Option UserTOTPRecoveryCode :=
  rows.find? (fun row => X.compareHashAndPassword row.codeHash (normalizeRecoveryCode X code))

/-- `consumeRecoveryCode`, run without interruption; `rows` is the answer of the
listing query, in the order the database chose. -/
def consumeRecoveryCode (a : Accounts X) (rows : List UserTOTPRecoveryCode) (code : String)
    (now : Nat) : Accounts X × Bool :=
  match firstMatch X rows code with
  | none => (a, false)
  | some row => (a.markUserTOTPRecoveryCodeUsed row.id now, true)

/-- An answer of `ListUnusedUserTOTPRecoveryCodes`: its rows, in any order. -/
def Listed (a : Accounts X) (userID : String) (rows : List UserTOTPRecoveryCode) : Prop :=
  rows.Perm (a.listUnusedUserTOTPRecoveryCodes userID)

instance (a : Accounts X) (userID : String) (rows : List UserTOTPRecoveryCode) :
    Decidable (Listed a userID rows) :=
  inferInstanceAs (Decidable (rows.Perm _))

/-- What a listed match says about the table: an unused row of that user whose
hash the code matches. -/
theorem listed_match {a : Accounts X} {userID code : String}
    {rows : List UserTOTPRecoveryCode} {row : UserTOTPRecoveryCode}
    (hrows : Listed a userID rows) (h : firstMatch X rows code = some row) :
    row ∈ a.codes ∧ row.userID = userID ∧ row.usedAt = none
      ∧ X.compareHashAndPassword row.codeHash (normalizeRecoveryCode X code) = true := by
  have hmem : row ∈ a.listUnusedUserTOTPRecoveryCodes userID :=
    hrows.mem_iff.mp (List.mem_of_find?_eq_some h)
  obtain ⟨hrow, hsel⟩ := List.mem_filter.mp hmem
  simp only [Bool.and_eq_true, decide_eq_true_eq, Option.isNone_iff_eq_none] at hsel
  exact ⟨hrow, hsel.1, hsel.2, by simpa using List.find?_some h⟩

/-- After marking, no row with that id is unused. -/
theorem used_after_mark {a : Accounts X} {codeID : String} {now : Nat}
    {row : UserTOTPRecoveryCode} (hrow : row ∈ (a.markUserTOTPRecoveryCodeUsed codeID now).codes)
    (hunused : row.usedAt = none) : row ∈ a.codes ∧ row.id ≠ codeID := by
  simp only [Accounts.markUserTOTPRecoveryCodeUsed, Table.mem_update] at hrow
  obtain ⟨r, hr, rfl⟩ := hrow
  by_cases hsel : (decide (r.id = codeID) && r.usedAt.isNone) = true
  · simp [hsel] at hunused
  · simp only [hsel, Bool.false_eq_true, if_false] at hunused ⊢
    refine ⟨hr, fun hid => ?_⟩
    simp [hid, hunused] at hsel

/-! ## §2. Concurrent redemptions. -/

/-- The two handlers that redeem. -/
inductive Redeemer where
  | loginTOTP
  | disable
  deriving DecidableEq, Repr

/-- Where a request stands. -/
inductive Pc where
  | idle
  /-- The unused rows are in memory. -/
  | listed (h : Redeemer) (userID code : String) (rows : List UserTOTPRecoveryCode)
  /-- The loop stopped at a row; the UPDATE comes next. -/
  | matched (h : Redeemer) (userID codeID : String)
  /-- `consumeRecoveryCode` returned true. -/
  | authorised (h : Redeemer) (userID : String)
  /-- `consumeRecoveryCode` returned false. -/
  | rejected
  | finished
  deriving DecidableEq

/-- The accounts, the requests, and which request was authorised by which row. -/
structure Sys (X : Externals) where
  accounts : Accounts X
  reqs : Nat → Pc
  authorisations : List (Nat × String)

/-- What can happen next. -/
inductive Action where
  /-- A request lists the unused rows; the order is the database's. -/
  | list (req : Nat) (h : Redeemer) (userID code : String) (rows : List UserTOTPRecoveryCode)
  | compare (req : Nat)
  | mark (req : Nat) (now : Nat)
  /-- The statement the request is about to run fails. -/
  | storeFails (req : Nat)
  /-- The last statement of Disable: `DisableUserTOTP`. -/
  | disable (req : Nat)

/-- Move request `req` to `pc`. -/
def Sys.goto (s : Sys X) (req : Nat) (pc : Pc) : Sys X :=
  { s with reqs := Function.update s.reqs req pc }

/-- One step. -/
def step (s : Sys X) : Action → Option (Sys X)
  | .list req h userID code rows =>
      if s.reqs req = .idle ∧ Listed s.accounts userID rows then
        some (s.goto req (.listed h userID code rows))
      else none
  | .compare req =>
      match s.reqs req with
      | .listed h userID code rows =>
          match firstMatch X rows code with
          | some row => some (s.goto req (.matched h userID row.id))
          | none => some (s.goto req .rejected)
      | _ => none
  | .mark req now =>
      match s.reqs req with
      | .matched h userID codeID =>
          -- the row count is not looked at: the request is authorised either way
          some { (s.goto req (.authorised h userID)) with
            accounts := s.accounts.markUserTOTPRecoveryCodeUsed codeID now
            authorisations := (req, codeID) :: s.authorisations }
      | _ => none
  | .storeFails req =>
      match s.reqs req with
      | .idle | .matched _ _ _ => some (s.goto req .rejected)
      | .authorised .disable _ => some (s.goto req .finished)
      | _ => none
  | .disable req =>
      match s.reqs req with
      | .authorised .disable userID =>
          match s.accounts.disableUserTOTP userID with
          | .ok accounts => some { (s.goto req .finished) with accounts := accounts }
          | .error _ => some (s.goto req .finished)
      | _ => none

/-- No request has started. -/
def start (a : Accounts X) : Sys X := ⟨a, fun _ => .idle, []⟩

/-- **The steps of one request, run alone, are `consumeRecoveryCode`.** -/
theorem run_redemption {s : Sys X} {req : Nat} (h : Redeemer) {userID code : String}
    {rows : List UserTOTPRecoveryCode} (now : Nat) (hidle : s.reqs req = .idle)
    (hrows : Listed s.accounts userID rows) :
    match firstMatch X rows code with
    | some row =>
        ∃ t, run step s [.list req h userID code rows, .compare req, .mark req now] = some t
          ∧ (t.accounts, true) = consumeRecoveryCode s.accounts rows code now
          ∧ t.authorisations = (req, row.id) :: s.authorisations
          ∧ t.reqs req = .authorised h userID
    | none =>
        ∃ t, run step s [.list req h userID code rows, .compare req] = some t
          ∧ (t.accounts, false) = consumeRecoveryCode s.accounts rows code now
          ∧ t.authorisations = s.authorisations
          ∧ t.reqs req = .rejected := by
  cases hm : firstMatch X rows code with
  | some row => simp [run, step, hidle, hrows, Sys.goto, hm, consumeRecoveryCode]
  | none => simp [run, step, hidle, hrows, Sys.goto, hm, consumeRecoveryCode]

/-! ## §3. Single use. -/

/-- **The property**: a stored code authorises at most one request. -/
def SingleUse (s : Sys X) : Prop :=
  ∀ codeID req req', (req, codeID) ∈ s.authorisations → (req', codeID) ∈ s.authorisations →
    req = req'

/-- **The condition on a step**: the marking UPDATE still finds its row unused,
so that it affects one. -/
def marksUnused (s : Sys X) : Action → Bool
  | .mark req _ =>
      match s.reqs req with
      | .matched _ _ codeID =>
          decide (s.accounts.codes.rowsAffected
            (fun c => decide (c.id = codeID) && c.usedAt.isNone) ≠ 0)
      | _ => true
  | _ => true

/-- The condition, at a request that is about to mark. -/
theorem marksUnused_mark {s : Sys X} {req now : Nat} {h : Redeemer} {userID codeID : String}
    (hpc : s.reqs req = .matched h userID codeID) :
    marksUnused s (.mark req now) = true
      ↔ ∃ row ∈ s.accounts.codes, row.id = codeID ∧ row.usedAt = none := by
  simp only [marksUnused, hpc, Table.rowsAffected, decide_eq_true_eq, ← Nat.pos_iff_ne_zero,
    List.countP_pos_iff, Bool.and_eq_true, Option.isNone_iff_eq_none, Table.mem_def]

/-- The invariant: single use, and an unused row has authorised nobody. -/
structure Spent (s : Sys X) : Prop where
  single : SingleUse s
  unspent : ∀ row ∈ s.accounts.codes, row.usedAt = none →
    ∀ req, (req, row.id) ∉ s.authorisations

theorem spent_start (a : Accounts X) : Spent (start a) :=
  ⟨by simp [SingleUse, start], by simp [start]⟩

/-- Nothing is spent by a step that authorises nobody and leaves no new unused
row. -/
theorem Spent.mono {s t : Sys X} (h : Spent s) (hauth : t.authorisations = s.authorisations)
    (hcodes : ∀ row ∈ t.accounts.codes, row.usedAt = none → row ∈ s.accounts.codes) :
    Spent t := by
  refine ⟨?_, fun row hrow hun => ?_⟩
  · unfold SingleUse
    rw [hauth]
    exact h.single
  · rw [hauth]
    exact h.unspent row (hcodes row hrow hun) hun

/-- `DisableUserTOTP` only removes codes. -/
theorem disableUserTOTP_codes {a b : Accounts X} {userID : String}
    (h : a.disableUserTOTP userID = .ok b) : ∀ row ∈ b.codes, row ∈ a.codes := by
  unfold Accounts.disableUserTOTP at h
  split at h
  · exact absurd h (by simp)
  · next c hc =>
      injection h with h
      subst h
      obtain ⟨_, _, hcodes⟩ := Accounts.updateUsers_cases hc
      intro row hrow
      rw [← hcodes]
      exact (Table.mem_delete.mp hrow).1

/-- Everything a step can do: mark the matched row, or leave the authorisations
alone without bringing in a row. -/
theorem step_cases {s t : Sys X} {a : Action} (h : step s a = some t) :
    (∃ req now red userID codeID, a = .mark req now ∧ s.reqs req = .matched red userID codeID
        ∧ t.accounts = s.accounts.markUserTOTPRecoveryCodeUsed codeID now
        ∧ t.authorisations = (req, codeID) :: s.authorisations)
      ∨ (t.authorisations = s.authorisations
        ∧ ∀ row ∈ t.accounts.codes, row ∈ s.accounts.codes) := by
  cases a with
  | list req red userID code rows =>
      simp only [step] at h
      split at h
      · injection h with h
        subst h
        exact .inr ⟨rfl, fun _ hr => hr⟩
      · exact absurd h (by simp)
  | compare req =>
      simp only [step] at h
      split at h
      · split at h <;>
        · injection h with h
          subst h
          exact .inr ⟨rfl, fun _ hr => hr⟩
      · exact absurd h (by simp)
  | mark req now =>
      simp only [step] at h
      split at h
      · next red userID codeID hpc =>
          injection h with h
          subst h
          exact .inl ⟨req, now, red, userID, codeID, rfl, hpc, rfl, rfl⟩
      · exact absurd h (by simp)
  | storeFails req =>
      simp only [step] at h
      split at h
      · injection h with h
        subst h
        exact .inr ⟨rfl, fun _ hr => hr⟩
      · injection h with h
        subst h
        exact .inr ⟨rfl, fun _ hr => hr⟩
      · injection h with h
        subst h
        exact .inr ⟨rfl, fun _ hr => hr⟩
      · exact absurd h (by simp)
  | disable req =>
      simp only [step] at h
      split at h
      · split at h
        · next b hb =>
            injection h with h
            subst h
            exact .inr ⟨rfl, disableUserTOTP_codes hb⟩
        · injection h with h
          subst h
          exact .inr ⟨rfl, fun _ hr => hr⟩
      · exact absurd h (by simp)

/-- **One step**: a step that marks an unused row, or marks nothing, keeps the
invariant. -/
theorem spent_step {s t : Sys X} {a : Action} (hs : Spent s) (hC : marksUnused s a = true)
    (h : step s a = some t) : Spent t := by
  rcases step_cases h with ⟨req, now, red, userID, codeID, rfl, hpc, hacc, hauth⟩ | ⟨hauth, hcodes⟩
  · -- the marked row was unused, so nobody was authorised by it before
    obtain ⟨row, hrow, rfl, hun⟩ := (marksUnused_mark hpc).mp hC
    have hnew : ∀ q, (q, row.id) ∉ s.authorisations := hs.unspent row hrow hun
    refine ⟨?_, ?_⟩
    · intro c q q' hq hq'
      rw [hauth] at hq hq'
      -- the two authorisations of the row: each is the new one or an old one
      rcases List.mem_cons.mp hq with hq | hq <;> rcases List.mem_cons.mp hq' with hq' | hq'
      · exact (Prod.mk.inj hq).1.trans (Prod.mk.inj hq').1.symm
      · obtain ⟨-, rfl⟩ := Prod.mk.inj hq
        exact absurd hq' (hnew q')
      · obtain ⟨-, rfl⟩ := Prod.mk.inj hq'
        exact absurd hq (hnew q)
      · exact hs.single c q q' hq hq'
    · intro r hr hrun q hq
      rw [hacc] at hr
      obtain ⟨hr, hne⟩ := used_after_mark hr hrun
      rw [hauth] at hq
      rcases List.mem_cons.mp hq with hq | hq
      · exact hne (Prod.mk.inj hq).2
      · exact hs.unspent r hr hrun q hq
  · exact hs.mono hauth (fun row hrow _ => hcodes row hrow)

/-- **RECOVERY CODES ARE SPENT ONCE WHILE EVERY MARK FINDS ITS ROW UNUSED.**  For
every content of the tables and every interleaving of any number of redemptions
of both handlers: if each marking UPDATE finds the matched row still there and
unused, then in every state reached each code has authorised at most one
request. -/
theorem recovery_code_single_use {a : Accounts X} {t : Sys X} {tr : List (Sys X × Action)}
    (r : Exec step (start a) tr t) (hmark : ∀ p ∈ tr, marksUnused p.1 p.2 = true) :
    ∀ u ∈ visited tr t, SingleUse u := by
  intro u hu
  exact (r.preserves (fun _ _ _ hs hC h => spent_step hs hC h) (spent_start a) hmark u hu).single

/-- The one unused code of user `u1`. -/
def printedCode : UserTOTPRecoveryCode := ⟨"r1", "u1", "hash:ABCDEFGH", none⟩

/-- A table with that code; the user row plays no part in redeeming. -/
def printedAccounts : Accounts plainExternals :=
  ⟨Table.empty, List.nodup_nil, ⟨[printedCode], by decide⟩⟩

/-- Two logins type the code at the same time: both list it before either marks. -/
def overlappingLogins : List Action :=
  [.list 0 .loginTOTP "u1" "abcd-efgh" [printedCode],
    .list 1 .loginTOTP "u1" "abcd-efgh" [printedCode],
    .compare 0, .compare 1, .mark 0 100, .mark 1 101]

/-- **Two overlapping requests spend one code.** -/
theorem recovery_code_spent_twice :
    ¬ ∀ (t : Sys plainExternals) (tr : List (Sys plainExternals × Action)),
        Exec step (start printedAccounts) tr t → ∀ u ∈ visited tr t, SingleUse u := by
  intro hall
  have hrun : ∃ t, run step (start printedAccounts) overlappingLogins = some t
      ∧ t.authorisations = [(1, "r1"), (0, "r1")] :=
    ⟨_, rfl, rfl⟩
  obtain ⟨t, hrun, hauth⟩ := hrun
  have hsingle := hall t _ (exec_traceFrom hrun) t (last_mem_visited _ _)
  have := hsingle "r1" 0 1 (by simp [hauth]) (by simp [hauth])
  exact absurd this (by decide)

/-- Two logins one after the other: the second finds no unused code. -/
def consecutiveLogins : List Action :=
  [.list 0 .loginTOTP "u1" "abcd-efgh" [printedCode], .compare 0, .mark 0 100,
    .list 1 .loginTOTP "u1" "abcd-efgh" [], .compare 1]

/-- The condition on a concrete run. -/
theorem recovery_code_single_use_consecutive :
    ∃ t, run step (start printedAccounts) consecutiveLogins = some t
      ∧ ∀ u ∈ visited (traceFrom step (start printedAccounts) consecutiveLogins) t,
          SingleUse u := by
  exact ⟨_, rfl, recovery_code_single_use (exec_traceFrom rfl) (by decide)⟩

/-- A request that is not interleaved meets the condition: what it lists is what
it marks. -/
theorem marksUnused_alone {s t : Sys X} {req : Nat} {h : Redeemer} {userID code : String}
    {rows : List UserTOTPRecoveryCode} (now : Nat)
    (hrun : run step s [.list req h userID code rows, .compare req] = some t) :
    marksUnused t (.mark req now) = true := by
  have hlist : s.reqs req = .idle ∧ Listed s.accounts userID rows := by
    by_contra hno
    simp [run, step, hno] at hrun
  cases hm : firstMatch X rows code with
  | none =>
      have ht : t = (s.goto req (.listed h userID code rows)).goto req .rejected := by
        simpa [run, step, hlist, Sys.goto, hm, eq_comm] using hrun
      simp [ht, marksUnused, Sys.goto]
  | some row =>
      have ht : t = (s.goto req (.listed h userID code rows)).goto req
          (.matched h userID row.id) := by
        simpa [run, step, hlist, Sys.goto, hm, eq_comm] using hrun
      obtain ⟨hrow, _, hun, _⟩ := listed_match hlist.2 hm
      have hpc : t.reqs req = .matched h userID row.id := by simp [ht, Sys.goto]
      exact (marksUnused_mark hpc).mpr ⟨row, by rw [ht]; exact hrow, rfl, hun⟩

end TLSentinel.Users.Redemption
