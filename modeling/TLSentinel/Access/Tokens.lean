/-
  TLSentinel.Access.Tokens
  ────────────────────────
  **HOW LONG API KEYS AND SCANNER TOKENS ARE GOOD.**

  Over runs of the server (`System`):

      `apiKey_accepted_iff`        an API key stands for a user exactly as long
                                   as the key that user created is not revoked,
                                   by the user, by an admin or with the user, and
                                   the user is enabled; it stands for the user as
                                   stored now;
      `scannerToken_accepted_iff`  a scanner token stands for a scanner exactly
                                   from the Create or RegenerateToken that
                                   answered it to the next RegenerateToken or
                                   Delete of that scanner.

  Both are about the hash of the token, which is all that is stored.
-/
import TLSentinel.Access.System
import TLSentinel.Foundation.Latches

namespace TLSentinel.Access

open Foundation Foundation.Routing Users
open TLSentinel.Scanners (Scanner)

variable {X : Externals}

/-! ## §1. What leaves the keys, or the scanners, alone. -/

/-- A handler of scanners that was accepted. -/
theorem scannersCreate_ok {P : Primitives} {s t : Sys X} {body : Option ScannerRequest}
    {bytes : List UInt8} {id : String} {raw : List Char}
    (h : scannersCreate P s body bytes id = .ok (t, raw)) :
    ∃ row scanners, row.id = id ∧ row.tokenHash = hashAPIKey P raw
      ∧ raw = generateScannerToken bytes
      ∧ s.scanners.insert row = some scanners ∧ t = { s with scanners := scanners } := by
  unfold scannersCreate at h
  split at h
  · exact absurd h (by simp)
  · next req =>
      split at h
      · exact absurd h (by simp)
      · simp only at h
        split at h
        · exact absurd h (by simp)
        · next t' ht =>
            simp only [Except.ok.injEq, Prod.mk.injEq] at h
            obtain ⟨rfl, rfl⟩ := h
            unfold Sys.insertScannerToken at ht
            split at ht
            · exact absurd ht (by simp)
            · next scanners hins =>
                injection ht with ht
                exact ⟨_, scanners, rfl, rfl, rfl, hins, ht.symm⟩

theorem scannerResponse_eq_ok {α : Type} {failedText : String} {e : Except StoreError α} {b : α}
    (h : scannerResponse failedText e = .ok b) : e = .ok b := by
  cases e with
  | ok a => simpa [scannerResponse] using h
  | error e => cases e <;> simp [scannerResponse] at h

/-- An accepted RegenerateToken gave a stored scanner the hash of the token it answered. -/
theorem scannersRegenerateToken_ok {P : Primitives} {s t : Sys X} {id : String}
    {bytes : List UInt8} {raw : List Char}
    (h : scannersRegenerateToken P s id bytes = .ok (t, raw)) :
    (∃ r ∈ s.scanners, r.id = id) ∧ raw = generateScannerToken bytes ∧
      ∃ scanners, s.scanners.set (fun r => decide (r.key = id))
          (fun r => { r with tokenHash := hashAPIKey P raw }) (fun _ => rfl) = some scanners
        ∧ t = { s with scanners := scanners } := by
  unfold scannersRegenerateToken at h
  split at h
  · exact absurd h (by simp)
  · next current hcurrent =>
      simp only at h
      split at h
      · exact absurd h (by simp)
      · next t' ht =>
          simp only [Except.ok.injEq, Prod.mk.injEq] at h
          obtain ⟨rfl, rfl⟩ := h
          have ht := scannerResponse_eq_ok ht
          unfold Sys.rotateScannerTokenHash at ht
          split at ht
          · exact absurd ht (by simp)
          · next scanners hset =>
              split at ht
              · exact absurd ht (by simp)
              · injection ht with ht
                exact ⟨⟨current, Table.find?_eq_some_iff.mp hcurrent⟩, rfl, scanners, hset,
                  ht.symm⟩

/-- A handler of scanners that keeps their tokens: the scanners before and after have the same
ids and hashes. -/
structure KeepsTokens (s t : Sys X) : Prop where
  apiKeys : t.apiKeys = s.apiKeys
  tokens : ∀ id hash, (∃ r ∈ t.scanners, r.id = id ∧ r.tokenHash = hash) ↔
    ∃ r ∈ s.scanners, r.id = id ∧ r.tokenHash = hash

theorem KeepsTokens.refl (s : Sys X) : KeepsTokens s s := ⟨rfl, fun _ _ => Iff.rfl⟩

theorem KeepsTokens.trans {s t u : Sys X} (h : KeepsTokens s t) (h' : KeepsTokens t u) :
    KeepsTokens s u :=
  ⟨h'.apiKeys.trans h.apiKeys, fun id hash => (h'.tokens id hash).trans (h.tokens id hash)⟩

theorem KeepsTokens.modify {s : Sys X} {p : Scanner → Bool} {f : Scanner → Scanner}
    {hf : ∀ r, (f r).key = r.key} {hhash : ∀ r, (f r).tokenHash = r.tokenHash} :
    KeepsTokens s { s with scanners := s.scanners.modify p f hf hhash } := by
  refine ⟨rfl, fun id hash => ?_⟩
  show (∃ r ∈ s.scanners.modify p f hf hhash, _) ↔ _
  have hrow : ∀ r, (if p r then f r else r).id = r.id
      ∧ (if p r then f r else r).tokenHash = r.tokenHash := by
    intro r
    split
    · exact ⟨hf r, hhash r⟩
    · exact ⟨rfl, rfl⟩
  simp only [UniqueTable.mem_modify]
  constructor
  · intro h
    obtain ⟨_, ⟨r, hr, rfl⟩, hid, hh⟩ := h
    exact ⟨r, hr, (hrow r).1.symm.trans hid, (hrow r).2.symm.trans hh⟩
  · intro h
    obtain ⟨r, hr, hid, hh⟩ := h
    exact ⟨_, ⟨r, hr, rfl⟩, (hrow r).1.trans hid, (hrow r).2.trans hh⟩

theorem KeepsTokens.updateScanners {s t : Sys X} {id : String} {f : Scanner → Scanner}
    {hf : ∀ r, (f r).key = r.key} {hhash : ∀ r, (f r).tokenHash = r.tokenHash}
    (h : s.updateScanners id f hf hhash = .ok t) : KeepsTokens s t := by
  unfold Sys.updateScanners at h
  split at h
  · exact absurd h (by simp)
  · injection h with h
    exact h ▸ .modify

theorem KeepsTokens.orSame {s : Sys X} {e : Except HttpError (Sys X)}
    (h : ∀ t, e = .ok t → KeepsTokens s t) : KeepsTokens s (orSame s e) := by
  cases e with
  | ok t => exact h t rfl
  | error _ => exact .refl s

theorem KeepsTokens.scannersUpdate (s : Sys X) (id : String) (body : Option ScannerRequest) :
    KeepsTokens s (Access.orSame s (Access.scannersUpdate s id body)) := by
  refine .orSame fun t ht => ?_
  unfold Access.scannersUpdate at ht
  split at ht
  · exact absurd ht (by simp)
  · split at ht
    · exact absurd ht (by simp)
    · exact .updateScanners (scannerResponse_eq_ok ht)

theorem KeepsTokens.scannersPatch (s : Sys X) (id : String) (body : Option PatchScannerRequest) :
    KeepsTokens s (Access.orSame s (Access.scannersPatch s id body)) := by
  refine .orSame fun t ht => ?_
  unfold Access.scannersPatch at ht
  split at ht
  · exact absurd ht (by simp)
  · split at ht
    · exact absurd ht (by simp)
    · split at ht
      · exact absurd ht (by simp)
      · split at ht
        · exact absurd ht (by simp)
        · split at ht
          · exact absurd ht (by simp)
          · exact .updateScanners (scannerResponse_eq_ok ht)

theorem KeepsTokens.scannersSetDefault (s : Sys X) (id : String) :
    KeepsTokens s (Access.orSame s (Access.scannersSetDefault s id)) := by
  refine .orSame fun t ht => ?_
  exact KeepsTokens.modify.trans (.updateScanners (scannerResponse_eq_ok ht))

theorem KeepsTokens.withToken (s : Sys X) (e : Except HttpError Auth.Claims) :
    KeepsTokens s (s.withToken e) := by
  cases e with
  | ok token => exact ⟨rfl, fun _ _ => Iff.rfl⟩
  | error _ => exact .refl s

/-- The handlers of scanners leave the API keys alone. -/
theorem apiKeys_scannersCreate (P : Primitives) (s : Sys X) (body : Option ScannerRequest)
    (bytes : List UInt8) (id : String) :
    (orSame s ((scannersCreate P s body bytes id).map Prod.fst)).apiKeys = s.apiKeys := by
  cases hok : scannersCreate P s body bytes id with
  | error e => rfl
  | ok p =>
      obtain ⟨_, _, _, _, _, _, ht⟩ := scannersCreate_ok hok
      show p.1.apiKeys = s.apiKeys
      rw [ht]

theorem apiKeys_scannersRegenerateToken (P : Primitives) (s : Sys X) (id : String)
    (bytes : List UInt8) :
    (orSame s ((scannersRegenerateToken P s id bytes).map Prod.fst)).apiKeys = s.apiKeys := by
  cases hok : scannersRegenerateToken P s id bytes with
  | error e => rfl
  | ok p =>
      obtain ⟨_, _, _, _, ht⟩ := scannersRegenerateToken_ok hok
      show p.1.apiKeys = s.apiKeys
      rw [ht]

theorem apiKeys_scannersDelete (s : Sys X) (id : String) :
    (orSame s (scannersDelete s id)).apiKeys = s.apiKeys := by
  unfold scannersDelete Sys.deleteScannerToken
  split <;> rfl

/-- The calls that create or revoke API keys or scanner tokens. -/
def Call.touchesTokens : Call → Bool
  | .usersDelete | .apikeysCreate _ _ _ | .apikeysDelete | .apikeysDeleteAdmin
  | .scannersCreate _ _ _ | .scannersDelete | .scannersRegenerateToken _ => true
  | _ => false

/-- **The other calls do not.** -/
theorem keepsTokens_perform {P : Primitives} {cfg : Auth.Config} {s : Sys X} {caller : String}
    {ps : Params} {now : Nat} {c : Call} (h : c.touchesTokens = false) :
    KeepsTokens s (perform P cfg s caller ps now c) := by
  cases c with
  | usersDelete => exact absurd h (by decide)
  | apikeysCreate name bytes id => exact absurd h (by simp [Call.touchesTokens])
  | apikeysDelete => exact absurd h (by decide)
  | apikeysDeleteAdmin => exact absurd h (by decide)
  | scannersCreate body bytes id => exact absurd h (by simp [Call.touchesTokens])
  | scannersDelete => exact absurd h (by decide)
  | scannersRegenerateToken bytes => exact absurd h (by simp [Call.touchesTokens])
  | login body => exact .withToken s _
  | callback req => exact .withToken s _
  | loginTOTP body rows =>
      simp only [perform]
      split
      · exact ⟨rfl, fun _ _ => Iff.rfl⟩
      · exact .refl s
  | scannersUpdate body => exact .scannersUpdate s _ body
  | scannersPatch body => exact .scannersPatch s _ body
  | scannersSetDefault => exact .scannersSetDefault s _
  | _ => exact ⟨rfl, fun _ _ => Iff.rfl⟩

/-! ## §2. What creates and revokes. -/

/-- The call of a request whose handler runs, with its caller and path parameters. -/
def ran (oidc : Bool) (P : Primitives) (s : Server X) : Action → Option (String × Params × Call)
  | .request r =>
      match dispatch oidc P s.sys r with
      | some (.ok (ps, ctx)) => some (callerID ctx, ps, r.call)
      | _ => none
  | .finishUpdateMe _ => none

/-- What a step does to keys and scanners is what the call that ran does. -/
theorem step_ran {oidc : Bool} {P : Primitives} {cfg : Auth.Config} {s t : Server X}
    {a : Action} (h : step oidc P cfg s a = some t) :
    (ran oidc P s a = none ∧ t.sys.apiKeys = s.sys.apiKeys ∧ t.sys.scanners = s.sys.scanners)
    ∨ ∃ caller ps c now, ran oidc P s a = some (caller, ps, c)
        ∧ t.sys = perform P cfg s.sys caller ps now c := by
  rcases step_cases h with ⟨r, e, rfl, hd, rfl⟩ | ⟨r, ps, ctx, rfl, hd, _, rfl⟩ |
    ⟨i, userID, current, req, rfl, _, rfl⟩
  · exact .inl ⟨by simp [ran, hd], rfl, rfl⟩
  · exact .inr ⟨callerID ctx, ps, r.call, r.now, by simp [ran, hd], rfl⟩
  · exact .inl ⟨rfl, rfl, rfl⟩

/-- A stored API key. -/
def HasKey (id userID hash : String) (s : Sys X) : Prop :=
  ∃ key ∈ s.apiKeys, key.id = id ∧ key.userID = userID ∧ key.keyHash = hash

/-- The user creates a key, and is answered a token with this hash. -/
def createsKey (P : Primitives) (s : Sys X) (caller id userID hash : String) : Call → Prop
  | .apikeysCreate name bytes kid =>
      caller = userID ∧ kid = id ∧
        ∃ t raw, apikeysCreate P s userID name bytes id = .ok (t, raw) ∧ hashAPIKey P raw = hash
  | _ => False

/-- The key is deleted by its owner or by an admin, or its owner is deleted. -/
def revokesKey (s : Sys X) (caller : String) (ps : Params) (id userID : String) : Call → Prop
  | .apikeysDelete => caller = userID ∧ urlParam ps "id" = id
  | .apikeysDeleteAdmin => urlParam ps "id" = id
  | .usersDelete =>
      X.uuid (urlParam ps "userID") = some userID ∧
        ∃ a, Users.delete s.accounts caller (urlParam ps "userID") = .ok a
  | _ => False

/-- A stored scanner with this token. -/
def HasToken (id hash : String) (s : Sys X) : Prop :=
  ∃ r ∈ s.scanners, r.id = id ∧ r.tokenHash = hash

/-- The scanner is given a token with this hash, as a new scanner or in place of another. -/
def givesToken (P : Primitives) (s : Sys X) (ps : Params) (id hash : String) : Call → Prop
  | .scannersCreate body bytes sid =>
      sid = id ∧ ∃ t raw, scannersCreate P s body bytes id = .ok (t, raw)
        ∧ hashAPIKey P raw = hash
  | .scannersRegenerateToken bytes =>
      urlParam ps "scannerID" = id ∧ ∃ t raw, scannersRegenerateToken P s id bytes = .ok (t, raw)
        ∧ hashAPIKey P raw = hash
  | _ => False

/-- The scanner's token is taken away: it is deleted, or given another one. -/
def takesToken (P : Primitives) (s : Sys X) (ps : Params) (id : String) : Call → Prop
  | .scannersDelete => urlParam ps "scannerID" = id
  | .scannersRegenerateToken bytes =>
      urlParam ps "scannerID" = id ∧ ∃ t, scannersRegenerateToken P s id bytes = .ok t
  | _ => False

/-! ## §3. One step. -/

/-- A DELETE of API keys, whether it finds rows or not. -/
theorem hasKey_deleteAPIKeys {s : Sys X} {p : UserAPIKey → Bool} {failedText : String}
    {id userID hash : String} {R : Prop}
    (hp : ∀ key : UserAPIKey, key.id = id → key.userID = userID → (p key = true ↔ R)) :
    HasKey id userID hash (orSame s (apiKeyResponse failedText (s.deleteAPIKeys p))) ↔
      HasKey id userID hash s ∧ ¬ R := by
  have hrow : HasKey id userID hash s ∧ ¬ R ↔ ∃ key ∈ s.apiKeys, p key = false
      ∧ key.id = id ∧ key.userID = userID ∧ key.keyHash = hash := by
    constructor
    · intro h
      obtain ⟨⟨key, hkey, hid, huser, hhash⟩, hR⟩ := h
      exact ⟨key, hkey, by simpa using mt (hp key hid huser).mp hR, hid, huser, hhash⟩
    · intro h
      obtain ⟨key, hkey, hpkey, hid, huser, hhash⟩ := h
      refine ⟨⟨key, hkey, hid, huser, hhash⟩, fun hR => ?_⟩
      rw [(hp key hid huser).mpr hR] at hpkey
      exact absurd hpkey (by decide)
  rw [hrow]
  unfold Sys.deleteAPIKeys
  split
  · next hrows =>
      have hnone : ∀ key ∈ s.apiKeys, p key = false := Table.rowsAffected_eq_zero_iff.mp hrows
      constructor
      · intro h
        obtain ⟨key, hkey, hrest⟩ := h
        exact ⟨key, hkey, hnone key hkey, hrest⟩
      · intro h
        obtain ⟨key, hkey, _, hrest⟩ := h
        exact ⟨key, hkey, hrest⟩
  · show (∃ key ∈ s.apiKeys.delete p, _) ↔ _
    simp only [UniqueTable.mem_delete, and_assoc]

/-- A call that leaves the keys alone. -/
theorem hasKey_of_apiKeys {s t : Sys X} (h : t.apiKeys = s.apiKeys) {id userID hash : String} :
    HasKey id userID hash t ↔ False ∨ (HasKey id userID hash s ∧ ¬ False) := by
  unfold HasKey
  rw [h]
  simp

/-- **The API keys after a call.** -/
theorem hasKey_perform (P : Primitives) (cfg : Auth.Config) (s : Sys X) (caller : String)
    (ps : Params) (now : Nat) (id userID hash : String) (c : Call) :
    HasKey id userID hash (perform P cfg s caller ps now c) ↔
      createsKey P s caller id userID hash c ∨
        (HasKey id userID hash s ∧ ¬ revokesKey s caller ps id userID c) := by
  cases c with
  | apikeysCreate name bytes kid =>
      show HasKey id userID hash (orSame s ((apikeysCreate P s caller name bytes kid).map Prod.fst))
        ↔ (caller = userID ∧ kid = id ∧ _) ∨ (_ ∧ ¬ False)
      rw [not_false_eq_true, and_true]
      cases hok : apikeysCreate P s caller name bytes kid with
      | error e =>
          rw [or_iff_right]
          · rfl
          · intro h
            obtain ⟨rfl, rfl, t, raw, h, _⟩ := h
            rw [hok] at h
            exact absurd h (by simp)
      | ok p =>
          obtain ⟨t, raw⟩ := p
          obtain ⟨key, keys, huser, hkhash, hkid, _, _, hins, rfl⟩ := apikeysCreate_ok hok
          show (∃ k ∈ keys, _) ↔ _
          simp only [UniqueTable.mem_insert hins, or_and_right, exists_or, exists_eq_left]
          rw [or_comm]
          refine or_congr ?_ Iff.rfl
          rw [huser, hkhash, hkid]
          constructor
          · intro h
            obtain ⟨rfl, rfl, rfl⟩ := h
            exact ⟨rfl, rfl, _, _, hok, rfl⟩
          · intro h
            obtain ⟨rfl, rfl, t, raw', h, hhash⟩ := h
            rw [hok] at h
            simp only [Except.ok.injEq, Prod.mk.injEq] at h
            exact ⟨rfl, rfl, h.2 ▸ hhash⟩
  | apikeysDelete =>
      simp only [createsKey, false_or]
      refine hasKey_deleteAPIKeys fun key hid huser => ?_
      simp only [Bool.and_eq_true, decide_eq_true_eq, revokesKey, hid, huser]
      exact ⟨fun h => ⟨h.2.symm, h.1.symm⟩, fun h => ⟨h.2.symm, h.1.symm⟩⟩
  | apikeysDeleteAdmin =>
      simp only [createsKey, false_or]
      refine hasKey_deleteAPIKeys fun key hid huser => ?_
      simp only [decide_eq_true_eq, revokesKey, hid]
      exact eq_comm
  | usersDelete =>
      simp only [createsKey, false_or, perform]
      cases hok : Users.delete s.accounts caller (urlParam ps "userID") with
      | error e =>
          have hnot : ¬ revokesKey s caller ps id userID .usersDelete := by
            intro h
            obtain ⟨_, a, ha⟩ := h
            rw [hok] at ha
            exact absurd ha (by simp)
          rw [and_iff_left hnot]
      | ok a =>
          show (∃ key ∈ s.apiKeys.delete _, _) ↔ _
          simp only [UniqueTable.mem_delete, decide_eq_false_iff_not]
          constructor
          · intro h
            obtain ⟨key, ⟨hkey, hne⟩, hid, huser, hhash⟩ := h
            refine ⟨⟨key, hkey, hid, huser, hhash⟩, fun h => ?_⟩
            exact hne (huser ▸ h.1)
          · intro h
            obtain ⟨⟨key, hkey, hid, huser, hhash⟩, hnot⟩ := h
            exact ⟨key, ⟨hkey, fun heq => hnot ⟨huser ▸ heq, a, hok⟩⟩, hid, huser, hhash⟩
  | scannersCreate body bytes sid => exact hasKey_of_apiKeys (apiKeys_scannersCreate P s body bytes sid)
  | scannersDelete => exact hasKey_of_apiKeys (apiKeys_scannersDelete s _)
  | scannersRegenerateToken bytes =>
      exact hasKey_of_apiKeys (apiKeys_scannersRegenerateToken P s _ bytes)
  | _ => exact hasKey_of_apiKeys (keepsTokens_perform rfl).apiKeys

/-- A call that leaves the scanners alone. -/
theorem hasToken_of_scanners {s t : Sys X} (h : t.scanners = s.scanners) {id hash : String} :
    HasToken id hash t ↔ False ∨ (HasToken id hash s ∧ ¬ False) := by
  unfold HasToken
  rw [h]
  simp

/-- A call that keeps the tokens of all scanners. -/
theorem hasToken_of_keeps {s t : Sys X} (h : KeepsTokens s t) {id hash : String} :
    HasToken id hash t ↔ False ∨ (HasToken id hash s ∧ ¬ False) := by
  rw [show HasToken id hash t ↔ HasToken id hash s from h.tokens id hash]
  simp

/-- **The scanners' tokens after a call.** -/
theorem hasToken_perform (P : Primitives) (cfg : Auth.Config) (s : Sys X) (caller : String)
    (ps : Params) (now : Nat) (id hash : String) (c : Call) :
    HasToken id hash (perform P cfg s caller ps now c) ↔
      givesToken P s ps id hash c ∨ (HasToken id hash s ∧ ¬ takesToken P s ps id c) := by
  cases c with
  | scannersCreate body bytes sid =>
      show HasToken id hash (orSame s ((scannersCreate P s body bytes sid).map Prod.fst))
        ↔ (sid = id ∧ _) ∨ (_ ∧ ¬ False)
      rw [not_false_eq_true, and_true]
      cases hok : scannersCreate P s body bytes sid with
      | error e =>
          rw [or_iff_right]
          · rfl
          · intro h
            obtain ⟨rfl, t, raw, h, _⟩ := h
            rw [hok] at h
            exact absurd h (by simp)
      | ok p =>
          obtain ⟨t, raw⟩ := p
          obtain ⟨row, scanners, hsid, hrow, _, hins, rfl⟩ := scannersCreate_ok hok
          show (∃ r ∈ scanners, _) ↔ _
          simp only [UniqueTable.mem_insert hins, or_and_right, exists_or, exists_eq_left]
          rw [or_comm]
          refine or_congr ?_ Iff.rfl
          rw [hsid, hrow]
          constructor
          · intro h
            obtain ⟨rfl, rfl⟩ := h
            exact ⟨rfl, _, _, hok, rfl⟩
          · intro h
            obtain ⟨rfl, t, raw', h, hhash⟩ := h
            rw [hok] at h
            simp only [Except.ok.injEq, Prod.mk.injEq] at h
            exact ⟨rfl, h.2 ▸ hhash⟩
  | scannersRegenerateToken bytes =>
      show HasToken id hash (orSame s
        ((scannersRegenerateToken P s (urlParam ps "scannerID") bytes).map Prod.fst)) ↔ _
      cases hok : scannersRegenerateToken P s (urlParam ps "scannerID") bytes with
      | error e =>
          have hnot : ∀ p, urlParam ps "scannerID" = id →
              scannersRegenerateToken P s id bytes ≠ .ok p := by
            intro p hid hp
            rw [hid, hp] at hok
            exact absurd hok (by simp)
          have hgives : ¬ givesToken P s ps id hash (.scannersRegenerateToken bytes) :=
            fun ⟨hid, t, raw, h, _⟩ => hnot _ hid h
          have htakes : ¬ takesToken P s ps id (.scannersRegenerateToken bytes) :=
            fun ⟨hid, p, h⟩ => hnot p hid h
          rw [or_iff_right hgives, and_iff_left htakes]
          rfl
      | ok p =>
          obtain ⟨t, raw⟩ := p
          obtain ⟨⟨r₀, hr₀, hid₀⟩, _, scanners, hset, rfl⟩ := scannersRegenerateToken_ok hok
          show (∃ r ∈ scanners, _) ↔ _
          simp only [UniqueTable.mem_set hset]
          by_cases hid : urlParam ps "scannerID" = id
          · -- the scanner's row is the one that was set
            subst hid
            have hgives : givesToken P s ps (urlParam ps "scannerID") hash
                (.scannersRegenerateToken bytes) ↔ hashAPIKey P raw = hash := by
              constructor
              · intro h
                obtain ⟨_, t, raw', h, hhash⟩ := h
                rw [hok] at h
                simp only [Except.ok.injEq, Prod.mk.injEq] at h
                exact h.2 ▸ hhash
              · exact fun hhash => ⟨rfl, _, _, hok, hhash⟩
            have htakes : takesToken P s ps (urlParam ps "scannerID")
                (.scannersRegenerateToken bytes) := ⟨rfl, _, hok⟩
            rw [hgives, or_iff_left (fun h => h.2 htakes)]
            constructor
            · intro h
              obtain ⟨_, ⟨r, _, rfl⟩, hrid, hhash⟩ := h
              split at hhash
              · exact hhash
              · next hne =>
                  rw [if_neg hne] at hrid
                  exact absurd (decide_eq_true hrid) hne
            · intro hhash
              exact ⟨_, ⟨r₀, hr₀, if_pos (decide_eq_true hid₀)⟩, hid₀, hhash⟩
          · -- any other scanner's row is as it was
            have hgives : ¬ givesToken P s ps id hash (.scannersRegenerateToken bytes) :=
              fun h => hid h.1
            have htakes : ¬ takesToken P s ps id (.scannersRegenerateToken bytes) :=
              fun h => hid h.1
            rw [or_iff_right hgives, and_iff_left htakes]
            constructor
            · intro h
              obtain ⟨_, ⟨r, hr, rfl⟩, hrid, hhash⟩ := h
              split at hhash
              · next hkey =>
                  rw [if_pos hkey] at hrid
                  exact absurd ((of_decide_eq_true hkey).symm.trans hrid) hid
              · next hkey =>
                  rw [if_neg hkey] at hrid
                  exact ⟨r, hr, hrid, hhash⟩
            · intro h
              obtain ⟨r, hr, hrid, hhash⟩ := h
              have hkey : ¬ decide (r.key = urlParam ps "scannerID") = true :=
                fun hkey => hid ((of_decide_eq_true hkey).symm.trans hrid)
              exact ⟨r, ⟨r, hr, if_neg hkey⟩, hrid, hhash⟩
  | scannersDelete =>
      show HasToken id hash (orSame s (scannersDelete s (urlParam ps "scannerID"))) ↔
        False ∨ (HasToken id hash s ∧ ¬ urlParam ps "scannerID" = id)
      rw [false_or]
      unfold scannersDelete Sys.deleteScannerToken
      split
      · next hrows =>
          have hnone := Table.rowsAffected_eq_zero_iff.mp hrows
          rw [and_iff_left_of_imp]
          · rfl
          · intro h hid
            obtain ⟨r, hr, hrid, _⟩ := h
            exact absurd (hnone r hr) (by simp [show r.key = id from hrid, hid])
      · show (∃ r ∈ s.scanners.delete _, _) ↔ _
        simp only [UniqueTable.mem_delete, decide_eq_false_iff_not]
        constructor
        · intro h
          obtain ⟨r, ⟨hr, hne⟩, hrid, hhash⟩ := h
          exact ⟨⟨r, hr, hrid, hhash⟩, fun hid => hne (hrid.trans hid.symm)⟩
        · intro h
          obtain ⟨⟨r, hr, hrid, hhash⟩, hid⟩ := h
          exact ⟨r, ⟨hr, fun hkey => hid (hkey.symm.trans hrid)⟩, hrid, hhash⟩
  | usersDelete =>
      refine hasToken_of_scanners ?_
      simp only [perform]
      split <;> rfl
  | apikeysCreate name bytes kid =>
      refine hasToken_of_scanners ?_
      show (orSame s ((apikeysCreate P s caller name bytes kid).map Prod.fst)).scanners = _
      cases hok : apikeysCreate P s caller name bytes kid with
      | error e => rfl
      | ok p =>
          obtain ⟨_, _, _, _, _, _, _, _, ht⟩ := apikeysCreate_ok hok
          show p.1.scanners = s.scanners
          rw [ht]
  | apikeysDelete =>
      refine hasToken_of_scanners ?_
      simp only [perform, apikeysDelete, Sys.deleteAPIKey, Sys.deleteAPIKeys]
      split <;> rfl
  | apikeysDeleteAdmin =>
      refine hasToken_of_scanners ?_
      simp only [perform, apikeysDeleteAdmin, Sys.deleteAPIKeyAdmin, Sys.deleteAPIKeys]
      split <;> rfl
  | _ => exact hasToken_of_keeps (keepsTokens_perform rfl)

/-! ## §4. Runs. -/

/-- The step creates the key. -/
def KeyCreated (oidc : Bool) (P : Primitives) (id userID hash : String) (s : Server X)
    (a : Action) : Prop :=
  ∃ caller ps c, ran oidc P s a = some (caller, ps, c) ∧ createsKey P s.sys caller id userID hash c

/-- The step revokes the key. -/
def KeyRevoked (oidc : Bool) (P : Primitives) (id userID : String) (s : Server X)
    (a : Action) : Prop :=
  ∃ caller ps c, ran oidc P s a = some (caller, ps, c) ∧ revokesKey s.sys caller ps id userID c

/-- The step gives the scanner a token with this hash. -/
def TokenGiven (oidc : Bool) (P : Primitives) (id hash : String) (s : Server X)
    (a : Action) : Prop :=
  ∃ caller ps c, ran oidc P s a = some (caller, ps, c) ∧ givesToken P s.sys ps id hash c

/-- The step takes the scanner's token away. -/
def TokenTaken (oidc : Bool) (P : Primitives) (id : String) (s : Server X) (a : Action) : Prop :=
  ∃ caller ps c, ran oidc P s a = some (caller, ps, c) ∧ takesToken P s.sys ps id c

/-- A condition on the call that ran. -/
theorem exists_ran_iff {oidc : Bool} {P : Primitives} {s : Server X} {a : Action}
    {caller : String} {ps : Params} {c : Call} (h : ran oidc P s a = some (caller, ps, c))
    {Q : String → Params → Call → Prop} :
    (∃ caller ps c, ran oidc P s a = some (caller, ps, c) ∧ Q caller ps c) ↔ Q caller ps c := by
  rw [h]
  constructor
  · intro h
    obtain ⟨_, _, _, h, hQ⟩ := h
    simp only [Option.some.injEq, Prod.mk.injEq] at h
    obtain ⟨rfl, rfl, rfl⟩ := h
    exact hQ
  · exact fun hQ => ⟨caller, ps, c, rfl, hQ⟩

/-- What holds of no call holds of no action that runs none. -/
theorem not_exists_ran {oidc : Bool} {P : Primitives} {s : Server X} {a : Action}
    (h : ran oidc P s a = none) {Q : String → Params → Call → Prop} :
    ¬ ∃ caller ps c, ran oidc P s a = some (caller, ps, c) ∧ Q caller ps c := by
  intro hex
  obtain ⟨_, _, _, hran, _⟩ := hex
  rw [h] at hran
  exact absurd hran (by simp)

/-- **One step**, for keys. -/
theorem hasKey_step {oidc : Bool} {P : Primitives} {cfg : Auth.Config} {s t : Server X}
    {a : Action} (h : step oidc P cfg s a = some t) (id userID hash : String) :
    HasKey id userID hash t.sys ↔ KeyCreated oidc P id userID hash s a ∨
      (HasKey id userID hash s.sys ∧ ¬ KeyRevoked oidc P id userID s a) := by
  unfold KeyCreated KeyRevoked
  rcases step_ran h with ⟨hnone, hkeys, _⟩ | ⟨caller, ps, c, now, hran, hsys⟩
  · rw [or_iff_right (not_exists_ran hnone), and_iff_left (not_exists_ran hnone)]
    unfold HasKey
    rw [hkeys]
  · rw [exists_ran_iff hran (Q := fun caller _ c => createsKey P s.sys caller id userID hash c),
      exists_ran_iff hran (Q := fun caller ps c => revokesKey s.sys caller ps id userID c), hsys]
    exact hasKey_perform P cfg s.sys caller ps now id userID hash c

/-- **One step**, for scanners. -/
theorem hasToken_step {oidc : Bool} {P : Primitives} {cfg : Auth.Config} {s t : Server X}
    {a : Action} (h : step oidc P cfg s a = some t) (id hash : String) :
    HasToken id hash t.sys ↔ TokenGiven oidc P id hash s a ∨
      (HasToken id hash s.sys ∧ ¬ TokenTaken oidc P id s a) := by
  unfold TokenGiven TokenTaken
  rcases step_ran h with ⟨hnone, _, hscanners⟩ | ⟨caller, ps, c, now, hran, hsys⟩
  · rw [or_iff_right (not_exists_ran hnone), and_iff_left (not_exists_ran hnone)]
    unfold HasToken
    rw [hscanners]
  · rw [exists_ran_iff hran (Q := fun _ ps c => givesToken P s.sys ps id hash c),
      exists_ran_iff hran (Q := fun _ ps c => takesToken P s.sys ps id c), hsys]
    exact hasToken_perform P cfg s.sys caller ps now id hash c

/-- **HOW LONG AN API KEY IS GOOD.**  After a run, an API key stands for an identity exactly when
a user created a key, was answered a token with this hash, and the key has not been revoked
since (or such a key was there at the start and never revoked); that user is enabled, and the
identity is the user's as stored now. -/
theorem apiKey_accepted_iff {oidc : Bool} {P : Primitives} {cfg : Auth.Config}
    {start t : Server X} {tr : List (Server X × Action)}
    (e : Exec (step oidc P cfg) start tr t)
    {raw : List Char} (hraw : isAPIKey raw = true) (now : Nat) (i : Identity) :
    verify P t.sys raw now = some i ↔
      ∃ id userID user,
        (SetSince (KeyCreated oidc P id userID (hashAPIKey P raw)) (KeyRevoked oidc P id userID) tr
          ∨ HasKey id userID (hashAPIKey P raw) start.sys
            ∧ ∀ q ∈ tr, ¬ KeyRevoked oidc P id userID q.1 q.2)
        ∧ t.sys.accounts.getUserByID userID = some user ∧ user.enabled = true
        ∧ i = .user ⟨userID, user.username, user.role, user.firstName, user.lastName⟩ := by
  -- a key is stored exactly when it was created and not revoked since
  have hlatch := fun id userID => e.latch_iff
    (L := fun s => HasKey id userID (hashAPIKey P raw) s.sys)
    (fun s a t h => hasKey_step h id userID (hashAPIKey P raw))
  rw [verify_apiKey hraw]
  simp only [← hlatch]
  unfold verifyAPIKey
  constructor
  · intro h
    split at h
    · exact absurd h (by simp)
    · next key hlookup =>
        obtain ⟨hkey, hhash⟩ := UniqueTable.lookup_eq_some_iff.mp hlookup
        split at h
        · exact absurd h (by simp)
        · next user huser =>
            split at h
            · next henabled =>
                injection h with h
                have hid : user.id = key.userID := (Table.find?_eq_some_iff.mp huser).2
                refine ⟨key.id, key.userID, user, ⟨key, hkey, rfl, rfl, hhash⟩, huser, henabled, ?_⟩
                rw [← h, ← hid]
                rfl
            · exact absurd h (by simp)
  · intro h
    obtain ⟨id, userID, user, ⟨key, hkey, _, hown, hhash⟩, huser, henabled, rfl⟩ := h
    have hlookup := UniqueTable.lookup_eq_some_iff.mpr ⟨hkey, hhash⟩
    subst hown
    have hid : user.id = key.userID := (Table.find?_eq_some_iff.mp huser).2
    simp only [hlookup, huser, henabled, if_true, Identity.ofUser, hid]

/-- Bob deletes the key again. -/
def bobDeletesKey : Request where
  method := .delete
  path := ["api", "v1", "me", "api-keys", "k1"]
  authorization := bearer ['b']
  now := 6
  call := .apikeysDelete
  row := ⟨some .delete, [.lit "api", .lit "v1", .lit "me", .lit "api-keys", .param "id"],
    [.authenticate, .requirePermission .selfAccess], .apikeysDelete⟩

/-- And creates another one. -/
def bobCreatesOther : Request :=
  { bobCreatesKey with
    now := 7
    call := .apikeysCreate (some "desktop") ([3], [4]) "k2" }

/-- What Bob does. -/
def bobChangesKeys : List Action :=
  [.request bobCreatesKey, .request bobDeletesKey, .request bobCreatesOther]

/-- The second token that Bob is answered stands for Bob, and the first one for nobody. -/
theorem apiKey_accepted_iff_bob :
    ∃ t, run (step true plainPrimitives ⟨60, ""⟩) smallServer bobChangesKeys = some t
      ∧ verify plainPrimitives t.sys (generateAPIKey [3] [4]).1 9
        = some (.user ⟨"u2", "bob", .viewer, none, none⟩)
      ∧ verify plainPrimitives t.sys (generateAPIKey [1] [2]).1 9 = none := by
  obtain ⟨t, ht⟩ : ∃ t, run (step true plainPrimitives ⟨60, ""⟩) smallServer
      bobChangesKeys = some t := ⟨_, rfl⟩
  refine ⟨t, ht, ?_, ?_⟩
  · rw [apiKey_accepted_iff (exec_traceFrom ht) (isAPIKey_generate [3] [4]) 9]
    injection ht with ht
    subst ht
    refine ⟨"k2", "u2", bob,
      .inl ⟨[_, _], _, [], rfl, ?_, fun q hq => absurd hq List.not_mem_nil⟩, rfl, rfl, rfl⟩
    exact ⟨"u2", [], bobCreatesOther.call, rfl, rfl, rfl, _, _, rfl, rfl⟩
  · injection ht with ht
    subst ht
    rfl

/-- **HOW LONG A SCANNER TOKEN IS GOOD.**  After a run, a scanner token stands for an identity
exactly when that is a scanner that was given a token with this hash, by Create or
RegenerateToken, and that has neither been deleted nor given another one since (or it had the
token at the start and never lost it). -/
theorem scannerToken_accepted_iff {oidc : Bool} {P : Primitives} {cfg : Auth.Config}
    {start t : Server X} {tr : List (Server X × Action)}
    (e : Exec (step oidc P cfg) start tr t)
    {raw : List Char} (hraw : isScannerToken raw = true) (now : Nat) (i : Identity) :
    verify P t.sys raw now = some i ↔
      ∃ id, (SetSince (TokenGiven oidc P id (hashAPIKey P raw)) (TokenTaken oidc P id) tr
          ∨ HasToken id (hashAPIKey P raw) start.sys ∧ ∀ q ∈ tr, ¬ TokenTaken oidc P id q.1 q.2)
        ∧ i = .scanner id := by
  have hlatch := fun id => e.latch_iff (L := fun s => HasToken id (hashAPIKey P raw) s.sys)
    (fun s a t h => hasToken_step h id (hashAPIKey P raw))
  rw [verify_scannerToken hraw]
  simp only [← hlatch]
  unfold verifyScannerToken
  rw [Option.map_eq_some_iff]
  constructor
  · intro h
    obtain ⟨r, hlookup, rfl⟩ := h
    obtain ⟨hr, hhash⟩ := UniqueTable.lookup_eq_some_iff.mp hlookup
    exact ⟨r.id, ⟨r, hr, rfl, hhash⟩, rfl⟩
  · intro h
    obtain ⟨_, ⟨r, hr, rfl, hhash⟩, rfl⟩ := h
    exact ⟨r, UniqueTable.lookup_eq_some_iff.mpr ⟨hr, hhash⟩, rfl⟩

/-- Alice has its token regenerated. -/
def aliceRegenerates : Request where
  method := .post
  path := ["api", "v1", "scanners", "s1", "regenerate-token"]
  authorization := bearer ['a']
  now := 6
  call := .scannersRegenerateToken [8]
  row := ⟨some .post, [.lit "api", .lit "v1", .lit "scanners", .param "scannerID",
    .lit "regenerate-token"], [.authenticate, .requirePermission .scannersEdit],
    .scannersRegenerateToken⟩

/-- What Alice does. -/
def aliceChangesTokens : List Action := [.request aliceCreatesScanner, .request aliceRegenerates]

/-- The second token that Alice is answered stands for the scanner, and the first one for
nobody. -/
theorem scannerToken_accepted_iff_alice :
    ∃ t, run (step true plainPrimitives ⟨60, ""⟩) smallServer aliceChangesTokens = some t
      ∧ verify plainPrimitives t.sys (generateScannerToken [8]) 9 = some (.scanner "s1")
      ∧ verify plainPrimitives t.sys (generateScannerToken [7]) 9 = none := by
  obtain ⟨t, ht⟩ : ∃ t, run (step true plainPrimitives ⟨60, ""⟩) smallServer
      aliceChangesTokens = some t := ⟨_, rfl⟩
  refine ⟨t, ht, ?_, ?_⟩
  · rw [scannerToken_accepted_iff (exec_traceFrom ht) (isScannerToken_generate [8]) 9]
    refine ⟨"s1", .inl ⟨[_], _, [], rfl, ?_, fun q hq => absurd hq List.not_mem_nil⟩, rfl⟩
    exact ⟨"u1", [("scannerID", "s1")], aliceRegenerates.call, rfl, rfl, _, _, rfl, rfl⟩
  · injection ht with ht
    subst ht
    rfl

end TLSentinel.Access
