/-
  Foundation.Transactions
  ───────────────────────
  **TRANSACTIONS: STATEMENTS, ERRORS AND ROLLBACK.**

  The body of a transaction is a sequence of statements.  Each answers or fails, and
  leaves the tables as it made them, so that a body that fails half-way has changed
  them.  `runInTx` commits a body that ends well and otherwise puts the old tables
  back.

  A statement fails when one of its constraints does, or because the connection is
  lost; the second is the environment's choice, an argument `up`.

  Main rules:
    * `runInTx_error`  — a transaction that fails leaves the tables as they were;
    * `runInTx_ok_iff` — one that succeeds leaves what its body made of them;
    * `exec_bind_ok_iff`, `exec_bind_error_iff` — what a body that ends well did, and
                         where one that fails did.
-/
import Mathlib.Data.List.Basic

namespace Foundation

variable {σ ε α β : Type}

/-! ## §1. Bodies. -/

/-- The body of a transaction over tables `σ`. -/
def Tx (σ ε α : Type) := σ → Except ε α × σ

namespace Tx

/-- Run the body, and keep what it did when it failed. -/
def exec (x : Tx σ ε α) (s : σ) : Except ε α × σ := x s

/-- Go on with `f`, unless there was an error. -/
def next (f : α → Tx σ ε β) : Except ε α × σ → Except ε β × σ
  | (.ok a, s) => f a s
  | (.error e, s) => (.error e, s)

instance : Monad (Tx σ ε) where
  pure a := fun s => (.ok a, s)
  bind x f := fun s => next f (x s)

/-- `return err`. -/
def fail (e : ε) : Tx σ ε α := fun s => (.error e, s)

/-- What a statement comes to; a failed one changes nothing. -/
def settle (failed : ε) (s : σ) : Option (α × σ) → Except ε α × σ
  | some (a, s') => (.ok a, s')
  | none => (.error failed, s)

/-- One statement: `f` is what it answers and makes of the tables, `none` that a constraint
fails. -/
def statement (up : Bool) (failed : ε) (f : σ → Option (α × σ)) : Tx σ ε α := fun s =>
  settle failed s (if up then f s else none)

/-- A statement that reads. -/
def query (up : Bool) (failed : ε) (f : σ → α) : Tx σ ε α :=
  statement up failed fun s => some (f s, s)

/-- A statement that writes. -/
def write (up : Bool) (failed : ε) (f : σ → Option σ) : Tx σ ε Unit :=
  statement up failed fun s => (f s).map fun s' => ((), s')

/-- A part that is run only under a condition. -/
def when (c : Prop) [Decidable c] (x : Tx σ ε Unit) : Tx σ ε Unit := if c then x else pure ()

@[simp] theorem exec_pure (a : α) (s : σ) : (pure a : Tx σ ε α).exec s = (.ok a, s) := rfl

@[simp] theorem exec_fail (e : ε) (s : σ) : (fail e : Tx σ ε α).exec s = (.error e, s) := rfl

theorem exec_bind (x : Tx σ ε α) (f : α → Tx σ ε β) (s : σ) :
    (x >>= f).exec s = next f (x.exec s) := rfl

/-- What comes after a part that ends well. -/
theorem exec_bind_of_ok {x : Tx σ ε α} {f : α → Tx σ ε β} {s s' : σ} {a : α}
    (h : x.exec s = (.ok a, s')) : (x >>= f).exec s = (f a).exec s' := by
  rw [exec_bind, h]
  rfl

/-- A part that fails is the last one. -/
theorem exec_bind_of_error {x : Tx σ ε α} {f : α → Tx σ ε β} {s s' : σ} {e : ε}
    (h : x.exec s = (.error e, s')) : (x >>= f).exec s = (.error e, s') := by
  rw [exec_bind, h]
  rfl

/-- **What ends well did each of its parts well.** -/
theorem exec_bind_ok_iff {x : Tx σ ε α} {f : α → Tx σ ε β} {s s'' : σ} {b : β} :
    (x >>= f).exec s = (.ok b, s'') ↔
      ∃ a s', x.exec s = (.ok a, s') ∧ (f a).exec s' = (.ok b, s'') := by
  constructor
  · intro h
    rcases hx : x.exec s with ⟨a | a, s'⟩
    · rw [exec_bind_of_error hx] at h
      cases h
    · rw [exec_bind_of_ok hx] at h
      exact ⟨a, s', rfl, h⟩
  · rintro ⟨a, s', hx, hf⟩
    rw [exec_bind_of_ok hx]
    exact hf

/-- **What fails failed in one of its parts**, after those before it ended well. -/
theorem exec_bind_error_iff {x : Tx σ ε α} {f : α → Tx σ ε β} {s s'' : σ} {e : ε} :
    (x >>= f).exec s = (.error e, s'') ↔
      x.exec s = (.error e, s'') ∨
        ∃ a s', x.exec s = (.ok a, s') ∧ (f a).exec s' = (.error e, s'') := by
  rcases hx : x.exec s with ⟨a | a, s'⟩
  · rw [exec_bind_of_error hx]
    simp
  · rw [exec_bind_of_ok hx]
    simp

/-- The same where the first part answers nothing. -/
theorem exec_seq_ok_iff {x : Tx σ ε Unit} {y : Tx σ ε β} {s s'' : σ} {b : β} :
    (x >>= fun _ => y).exec s = (.ok b, s'') ↔
      ∃ s', x.exec s = (.ok (), s') ∧ y.exec s' = (.ok b, s'') := by
  rw [exec_bind_ok_iff]
  exact ⟨fun ⟨_, s', h⟩ => ⟨s', h⟩, fun ⟨s', h⟩ => ⟨(), s', h⟩⟩

theorem settle_ok_iff {failed : ε} {s s' : σ} {a : α} {outcome : Option (α × σ)} :
    settle failed s outcome = (.ok a, s') ↔ outcome = some (a, s') := by
  cases outcome with
  | none => simp [settle]
  | some p => simp [settle, Prod.ext_iff]

theorem exec_statement_ok_iff {up : Bool} {failed : ε} {f : σ → Option (α × σ)} {s s' : σ}
    {a : α} : (statement up failed f).exec s = (.ok a, s') ↔ up = true ∧ f s = some (a, s') := by
  show settle failed s (if up then f s else none) = _ ↔ _
  rw [settle_ok_iff]
  cases up <;> simp

theorem settle_error_iff {failed e : ε} {s s' : σ} {outcome : Option (α × σ)} :
    settle failed s outcome = (.error e, s') ↔ outcome = none ∧ failed = e ∧ s = s' := by
  cases outcome with
  | none => simp [settle, Prod.ext_iff]
  | some p => simp [settle]

/-- A statement fails with its own error. -/
theorem exec_statement_error_iff {up : Bool} {failed e : ε} {f : σ → Option (α × σ)}
    {s s' : σ} : (statement up failed f).exec s = (.error e, s') ↔
      (up = false ∨ f s = none) ∧ failed = e ∧ s = s' := by
  show settle failed s (if up then f s else none) = _ ↔ _
  rw [settle_error_iff]
  cases up <;> simp

theorem exec_query_ok_iff {up : Bool} {failed : ε} {f : σ → α} {s s' : σ} {a : α} :
    (query up failed f).exec s = (.ok a, s') ↔ up = true ∧ f s = a ∧ s = s' := by
  unfold query
  rw [exec_statement_ok_iff, Option.some.injEq, Prod.mk.injEq]

theorem exec_query_error_iff {up : Bool} {failed e : ε} {f : σ → α} {s s' : σ} :
    (query up failed f).exec s = (.error e, s') ↔ up = false ∧ failed = e ∧ s = s' := by
  unfold query
  rw [exec_statement_error_iff]
  simp

theorem exec_write_ok_iff {up : Bool} {failed : ε} {f : σ → Option σ} {s s' : σ} :
    (write up failed f).exec s = (.ok (), s') ↔ up = true ∧ f s = some s' := by
  unfold write
  rw [exec_statement_ok_iff]
  simp

theorem exec_write_error_iff {up : Bool} {failed e : ε} {f : σ → Option σ} {s s' : σ} :
    (write up failed f).exec s = (.error e, s') ↔
      (up = false ∨ f s = none) ∧ failed = e ∧ s = s' := by
  unfold write
  rw [exec_statement_error_iff, Option.map_eq_none_iff]

theorem exec_when_error_iff {c : Prop} [Decidable c] {x : Tx σ ε Unit} {s s' : σ} {e : ε} :
    (when c x).exec s = (.error e, s') ↔ c ∧ x.exec s = (.error e, s') := by
  unfold when
  split
  · next hc => simp [hc]
  · next hc => simp [hc]

theorem exec_when_ok_iff {c : Prop} [Decidable c] {x : Tx σ ε Unit} {s s' : σ} :
    (when c x).exec s = (.ok (), s') ↔ (c ∧ x.exec s = (.ok (), s')) ∨ (¬c ∧ s' = s) := by
  unfold when
  split
  · next hc => simp [hc]
  · next hc => simp [hc, eq_comm]

/-- A check that passes does nothing. -/
theorem exec_check_ok_iff {c : Prop} [Decidable c] {s s' : σ} {e : ε} :
    (when c (fail e)).exec s = (.ok (), s') ↔ ¬c ∧ s' = s := by
  rw [exec_when_ok_iff]
  simp

end Tx

/-! ## §2. Transactions. -/

/-- A transaction: what its body did is kept if the body ends well and the commit does not
fail. -/
def runInTx (commits : Bool) (failed : ε) (body : Tx σ ε α) (s : σ) : Except ε α × σ :=
  match body.exec s with
  | (.ok a, s') => if commits then (.ok a, s') else (.error failed, s)
  | (.error e, _) => (.error e, s)

/-- **All or nothing**: a transaction that fails leaves the tables as they were. -/
theorem runInTx_error {commits : Bool} {failed e : ε} {body : Tx σ ε α} {s : σ}
    (h : (runInTx commits failed body s).1 = .error e) : (runInTx commits failed body s).2 = s := by
  unfold runInTx at h ⊢
  split
  · next hbody =>
      rw [hbody] at h
      cases commits with
      | true => simp at h
      | false => rfl
  · rfl

theorem runInTx_eq_error {commits : Bool} {failed e : ε} {body : Tx σ ε α} {s s' : σ}
    (h : runInTx commits failed body s = (.error e, s')) : s' = s := by
  have hself := runInTx_error (congrArg Prod.fst h)
  rwa [h] at hself

/-- **A transaction that succeeds** leaves what its body made of the tables. -/
theorem runInTx_ok_iff {commits : Bool} {failed : ε} {body : Tx σ ε α} {s s' : σ} {a : α} :
    runInTx commits failed body s = (.ok a, s') ↔ commits = true ∧ body.exec s = (.ok a, s') := by
  unfold runInTx
  cases hbody : body.exec s with
  | mk answer u =>
      cases answer with
      | ok b => cases commits <;> simp
      | error e => simp

theorem runInTx_isOk_iff {commits : Bool} {failed : ε} {body : Tx σ ε α} {s : σ} {a : α} :
    (runInTx commits failed body s).1 = .ok a ↔
      commits = true ∧ ∃ s', body.exec s = (.ok a, s') := by
  constructor
  · intro h
    obtain ⟨hcommit, hbody⟩ := runInTx_ok_iff.mp (Prod.ext h rfl)
    exact ⟨hcommit, _, hbody⟩
  · rintro ⟨hcommit, s', hbody⟩
    rw [runInTx_ok_iff.mpr ⟨hcommit, hbody⟩]

/-- The error of a transaction is that of its body, or of the commit. -/
theorem runInTx_isError_iff {commits : Bool} {failed e : ε} {body : Tx σ ε α} {s : σ} :
    (runInTx commits failed body s).1 = .error e ↔
      (∃ s', body.exec s = (.error e, s')) ∨
        (commits = false ∧ failed = e ∧ ∃ a s', body.exec s = (.ok a, s')) := by
  unfold runInTx
  rcases hbody : body.exec s with ⟨a | a, s'⟩
  · simp
  · cases commits <;> simp

end Foundation
