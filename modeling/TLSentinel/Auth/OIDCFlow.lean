/-
  TLSentinel.Auth.OIDCFlow
  ────────────────────────
  **WHOSE BROWSER A CALLBACK LOGS IN.**

  `Login` of `internal/oidc/handler.go` gives the browser a cookie with a random
  state and sends it to the identity provider with that state; `Callback` takes
  the state back and compares it with the cookie.  Anybody can make a browser
  call back with any state and code, and browsers log in in any order.

  The provider's part, and what becomes of the accounts meanwhile, is left open.

  Main result: `callback_ok_iff` — when a callback is answered with a session.
-/
import TLSentinel.Auth.SecondFactor
import TLSentinel.Foundation.Base64
import TLSentinel.Foundation.Latches

namespace TLSentinel.Auth.OIDCFlow

open Foundation Users

variable {X : Externals}

/-! ## §1. The state cookie. -/

/-- `stateCookieTTL`, in seconds. -/
def stateCookieTTL : Nat := 10 * 60

/-- `randomState`, if the random source gives sixteen bytes. -/
def randomState (random : Option (Vector UInt8 16)) : Option String :=
  random.map fun b => String.ofList (Base64.encode b.toList)

/-- What a response sets the state cookie to. -/
structure SetCookie where
  value : String
  maxAge : Int
  deriving DecidableEq, Repr

/-- The state cookie as a browser holds it. -/
structure Cookie where
  value : String
  expiresAt : Nat
  deriving DecidableEq, Repr

/-- A browser receives the cookie; one without any age is deleted. -/
def SetCookie.store (c : SetCookie) (now : Nat) : Option Cookie :=
  if c.maxAge ≤ 0 then none else some ⟨c.value, now + c.maxAge.toNat⟩

/-- The value that a browser sends; empty when it holds no cookie any more. -/
def sent (c : Option Cookie) (now : Nat) : String :=
  match c with
  | none => ""
  | some c => if now < c.expiresAt then c.value else ""

/-- `Handler.Login`: the cookie, and the state for the provider. -/
def login (random : Option (Vector UInt8 16)) : Except HttpError (SetCookie × String) :=
  match randomState random with
  | none => .error ⟨500, "failed to generate state"⟩
  | some state => .ok (⟨state, stateCookieTTL⟩, state)

/-- The cookie that `Handler.Callback` answers with: once the state is the cookie's, it is
cleared, whatever comes after. -/
def callbackCookie (req : CallbackRequest) : Option SetCookie :=
  if req.cookie = "" then none
  else if req.state ≠ req.cookie then none
  else some ⟨"", -1⟩

/-! ## §2. Browsers. -/

/-- The accounts, and the state cookies of all browsers. -/
structure Sys (X : Externals) (B : Type) where
  accounts : Accounts X
  jar : B → Option Cookie

variable {B : Type}

/-- No browser holds a cookie. -/
def Sys.fresh (a : Accounts X) : Sys X B := ⟨a, fun _ => none⟩

inductive Action (X : Externals) (B : Type) where
  | login (b : B) (random : Option (Vector UInt8 16)) (now : Nat)
  /-- A browser is sent to `/auth/oidc/callback`, by the provider or by anybody else. -/
  | callback (b : B) (state code : String) (answer : ProviderAnswer) (now : Nat)
  /-- Other handlers change the accounts. -/
  | accounts (a : Accounts X)

/-- The request that the handler sees. -/
def Sys.request (s : Sys X B) (b : B) (state code : String) (answer : ProviderAnswer)
    (now : Nat) : CallbackRequest :=
  ⟨sent (s.jar b) now, state, code, answer⟩

variable [DecidableEq B]

/-- A browser receives a response. -/
def Sys.receive (s : Sys X B) (b : B) (c : SetCookie) (now : Nat) : Sys X B :=
  { s with jar := Function.update s.jar b (c.store now) }

def step (s : Sys X B) (a : Action X B) : Option (Sys X B) :=
  match a with
  | .login b random now =>
      match login random with
      | .error _ => some s
      | .ok (cookie, _) => some (s.receive b cookie now)
  | .callback b state code answer now =>
      match callbackCookie (s.request b state code answer now) with
      | none => some s
      | some cookie => some (s.receive b cookie now)
  | .accounts a => some { s with accounts := a }

/-! ## §3. What a browser holds. -/

section

omit [DecidableEq B]

/-- The browser began a login, which set the cookie. -/
def Began (b : B) (c : Cookie) (_ : Sys X B) (a : Action X B) : Prop :=
  ∃ random now, a = .login b random now ∧ randomState random = some c.value
    ∧ c.expiresAt = now + stateCookieTTL

/-- The browser began a login, or came back from one with the state of its cookie. -/
def Ended (b : B) (s : Sys X B) (a : Action X B) : Prop :=
  (∃ c, Began b c s a)
  ∨ ∃ code answer now, sent (s.jar b) now ≠ ""
      ∧ a = .callback b (sent (s.jar b) now) code answer now

variable {s : Sys X B} {b b' : B} {c : Cookie} {state code : String} {now : Nat}
  {random : Option (Vector UInt8 16)} {answer : ProviderAnswer}

@[simp] theorem began_login :
    Began b c s (.login b' random now) ↔
      b' = b ∧ randomState random = some c.value ∧ c.expiresAt = now + stateCookieTTL := by
  constructor
  · intro h
    obtain ⟨random', now', ha, hstate, hexpires⟩ := h
    injection ha with hb hrandom hnow
    subst hrandom hnow
    exact ⟨hb, hstate, hexpires⟩
  · intro h
    obtain ⟨rfl, hstate, hexpires⟩ := h
    exact ⟨random, now, rfl, hstate, hexpires⟩

@[simp] theorem not_began_callback : ¬ Began b c s (.callback b' state code answer now) := by
  intro h
  obtain ⟨_, _, ha, _⟩ := h
  exact absurd ha (by simp)

@[simp] theorem not_began_accounts {a : Accounts X} : ¬ Began b c s (.accounts a) := by
  intro h
  obtain ⟨_, _, ha, _⟩ := h
  exact absurd ha (by simp)

theorem ended_login :
    Ended b s (.login b' random now) ↔ b' = b ∧ ∃ state, randomState random = some state := by
  unfold Ended
  constructor
  · intro h
    rcases h with ⟨c, hc⟩ | ⟨_, _, _, _, ha⟩
    · obtain ⟨hb, hstate, _⟩ := began_login.mp hc
      exact ⟨hb, _, hstate⟩
    · exact absurd ha (by simp)
  · intro h
    obtain ⟨hb, state, hstate⟩ := h
    exact .inl ⟨⟨state, now + stateCookieTTL⟩, began_login.mpr ⟨hb, hstate, rfl⟩⟩

theorem ended_callback :
    Ended b s (.callback b' state code answer now) ↔
      b' = b ∧ sent (s.jar b) now ≠ "" ∧ state = sent (s.jar b) now := by
  unfold Ended
  simp only [not_began_callback, exists_false, false_or]
  constructor
  · intro h
    obtain ⟨_, _, now', hne, ha⟩ := h
    injection ha with hb hstate _ _ hnow
    subst hnow
    exact ⟨hb, hne, hstate⟩
  · intro h
    obtain ⟨rfl, hne, hstate⟩ := h
    exact ⟨code, answer, now, hne, by rw [hstate]⟩

theorem not_ended_accounts {a : Accounts X} : ¬ Ended b s (.accounts a) := by
  unfold Ended
  simp

/-- A state is not empty. -/
theorem randomState_ne_empty (h : randomState random = some state) : state ≠ "" := by
  obtain ⟨bytes, _, rfl⟩ := Option.map_eq_some_iff.mp h
  intro hempty
  have hnil : (Base64.sextets bytes.toList).map Base64.urlDigit = [] := String.ofList_inj.mp hempty
  have hbytes := Base64.octets_sextets bytes.toList
  rw [List.map_eq_nil_iff.mp hnil] at hbytes
  have hlength := congrArg List.length (Option.some.inj hbytes)
  rw [Vector.length_toList] at hlength
  exact absurd hlength (by decide)

/-- A callback clears the cookie exactly if it brings its value. -/
theorem callbackCookie_request :
    callbackCookie (s.request b state code answer now) =
      if sent (s.jar b) now ≠ "" ∧ state = sent (s.jar b) now then some ⟨"", -1⟩ else none := by
  unfold callbackCookie Sys.request
  by_cases hempty : sent (s.jar b) now = ""
  · simp [hempty]
  · by_cases hstate : state = sent (s.jar b) now
    · simp [hempty, hstate]
    · simp [hempty, hstate]

end

/-- What the browsers hold after a response to one of them. -/
theorem jar_receive {s : Sys X B} {b b' : B} {c : SetCookie} {now : Nat} :
    (s.receive b' c now).jar b = if b' = b then c.store now else s.jar b := by
  unfold Sys.receive
  by_cases hb : b' = b
  · subst hb
    simp
  · rw [if_neg hb]
    exact Function.update_of_ne (Ne.symm hb) _ _

/-- **One step**: a browser holds a cookie if a login has just set it, or if it held it before
and the step neither replaces nor clears it. -/
theorem jar_step {s t : Sys X B} {a : Action X B} (h : step s a = some t) (b : B) (c : Cookie) :
    t.jar b = some c ↔ Began b c s a ∨ (s.jar b = some c ∧ ¬ Ended b s a) := by
  cases a with
  | login b' random now =>
      rw [began_login, ended_login]
      unfold step login at h
      cases hrandom : randomState random with
      | none =>
          -- nothing is set
          simp only [hrandom, Option.some.injEq] at h
          subst h
          simp
      | some state =>
          simp only [hrandom, Option.some.injEq] at h
          subst h
          rw [jar_receive]
          by_cases hb : b' = b
          · have hstore : SetCookie.store ⟨state, stateCookieTTL⟩ now =
                some ⟨state, now + stateCookieTTL⟩ := rfl
            rw [if_pos hb, hstore]
            obtain ⟨value, expiresAt⟩ := c
            simp [hb, eq_comm]
          · simp [hb]
  | callback b' state code answer now =>
      rw [ended_callback]
      have hstep : step s (.callback b' state code answer now) =
          match callbackCookie (s.request b' state code answer now) with
          | none => some s
          | some cookie => some (s.receive b' cookie now) := rfl
      rw [hstep, callbackCookie_request] at h
      by_cases hmatch : sent (s.jar b') now ≠ "" ∧ state = sent (s.jar b') now
      · rw [if_pos hmatch] at h
        obtain rfl := Option.some.inj h
        rw [jar_receive]
        by_cases hb : b' = b
        · subst hb
          have hstore : SetCookie.store ⟨"", -1⟩ now = none := rfl
          simp [hstore, hmatch.1, hmatch.2]
        · simp [hb]
      · rw [if_neg hmatch] at h
        obtain rfl := Option.some.inj h
        have hkept : ¬ (b' = b ∧ sent (s.jar b) now ≠ "" ∧ state = sent (s.jar b) now) := by
          rintro ⟨rfl, hcookie⟩
          exact hmatch hcookie
        simp [hkept]
  | accounts a =>
      obtain rfl := Option.some.inj h
      simp [not_ended_accounts]

/-- **What a browser holds after a run**: what its last login set, unless it has come back. -/
theorem jar_run {a : Accounts X} {t : Sys X B} {tr : List (Sys X B × Action X B)}
    (e : Exec step (Sys.fresh a) tr t) (b : B) (c : Cookie) :
    t.jar b = some c ↔ SetSince (Began b c) (Ended b) tr := by
  rw [Exec.latch_iff (L := fun s : Sys X B => s.jar b = some c)
    (fun s a t h => jar_step h b c) e]
  exact or_iff_left fun h => absurd h.1 (by simp [Sys.fresh])

/-! ## §4. Who is logged in. -/

/-- What a callback is answered with, once the state is the cookie's. -/
theorem callback_eq_ok_iff {cfg : Config} {a : Accounts X} {req : CallbackRequest} {now : Nat}
    {token : Claims} :
    callback cfg a req now = .ok token ↔
      (req.cookie ≠ "" ∧ req.state = req.cookie) ∧ req.code ≠ "" ∧
        ∃ claims subject user, req.answer = .verified claims subject
          ∧ (user ∈ a.users
            ∧ X.fold user.username = X.fold (extractUsername cfg claims subject)
            ∧ user.enabled = true)
          ∧ token = issueToken cfg user now := by
  simp only [← Accounts.getUserForOIDCLogin_eq_some_iff]
  unfold callback
  by_cases hcookie : req.cookie = ""
  · simp [hcookie]
  · by_cases hstate : req.state = req.cookie
    · by_cases hcode : req.code = ""
      · simp [hcookie, hstate, hcode]
      · rw [if_neg hcookie, if_neg (not_not.mpr hstate), if_neg hcode]
        cases hanswer : req.answer with
        | verified claims subject =>
            cases huser : a.getUserForOIDCLogin (extractUsername cfg claims subject) with
            | none => simp [huser]
            | some user => simp [huser, hcookie, hstate, hcode, eq_comm]
        | exchangeFailed => simp
        | noIDToken => simp
        | invalidIDToken => simp
        | malformedClaims => simp
    · simp [hcookie, hstate]

/-- **Whose browser a callback logs in**: after any run, a callback from a browser is answered
with a session exactly if it brings the state that the browser's own last login was given, no
callback of the browser has brought it yet, its cookie has not expired, and the provider vouches
for a name, up to case, that is an enabled user's; the session is a full one with that user's id,
name and role as stored now. -/
theorem callback_ok_iff {a : Accounts X} {t : Sys X B} {tr : List (Sys X B × Action X B)}
    (e : Exec step (Sys.fresh a) tr t) (cfg : Config) (b : B) (state code : String)
    (answer : ProviderAnswer) (now : Nat) (token : Claims) :
    callback cfg t.accounts (t.request b state code answer now) now = .ok token ↔
      (∃ expiresAt, SetSince (Began b ⟨state, expiresAt⟩) (Ended b) tr ∧ now < expiresAt)
      ∧ code ≠ "" ∧ ∃ claims subject user, answer = .verified claims subject
        ∧ (user ∈ t.accounts.users
          ∧ X.fold user.username = X.fold (extractUsername cfg claims subject)
          ∧ user.enabled = true)
        ∧ token = ⟨user.id, user.username, user.role, "", user.firstName, user.lastName, now,
          now + cfg.ttl⟩ := by
  rw [callback_eq_ok_iff]
  refine and_congr ?_ Iff.rfl
  show sent (t.jar b) now ≠ "" ∧ state = sent (t.jar b) now ↔ _
  constructor
  · intro h
    obtain ⟨hne, hstate⟩ := h
    cases hc : t.jar b with
    | none => exact absurd (by rw [hc]; rfl) hne
    | some c =>
        have hsent : sent (some c) now = if now < c.expiresAt then c.value else "" := rfl
        rw [hc, hsent] at hne hstate
        by_cases hlive : now < c.expiresAt
        · rw [if_pos hlive] at hstate
          subst hstate
          exact ⟨c.expiresAt, (jar_run e b c).mp hc, hlive⟩
        · rw [if_neg hlive] at hne
          exact absurd rfl hne
  · intro h
    obtain ⟨expiresAt, hset, hlive⟩ := h
    have hsent : sent (t.jar b) now = state := by
      rw [(jar_run e b ⟨state, expiresAt⟩).mpr hset]
      exact if_pos hlive
    obtain ⟨_, p, _, _, ⟨random, _, _, hstate, _⟩, _⟩ := hset
    rw [hsent]
    exact ⟨randomState_ne_empty hstate, rfl⟩

/-- Two browsers, and Bob's account. -/
def twoBrowsers : Sys plainExternals Bool := Sys.fresh SecondFactor.enrolledSys.accounts

/-- The state of sixteen zero bytes. -/
def zeroState : String := String.ofList (Base64.encode (Vector.replicate 16 0).toList)

/-- Bob is logged in by the browser that began the login, and not by the other. -/
theorem callback_ok_iff_bob :
    ∃ t tr, Exec step twoBrowsers tr t
      ∧ callback SecondFactor.defaultConfig t.accounts
          (t.request true zeroState "c" (.verified [("upn", some "Bob.Smith")] "sub") 100) 100 =
          .ok ⟨"u1", "bob.smith", .admin, "", none, none, 100, 86500⟩
      ∧ ∀ token, callback SecondFactor.defaultConfig t.accounts
          (t.request false zeroState "c" (.verified [("upn", some "Bob.Smith")] "sub") 100) 100 ≠
          .ok token := by
  have hlogin : step twoBrowsers (.login true (some (Vector.replicate 16 0)) 0) =
      some (twoBrowsers.receive true ⟨zeroState, stateCookieTTL⟩ 0) := rfl
  have e := Exec.cons hlogin (.refl _)
  refine ⟨_, _, e, ?_, ?_⟩
  · refine (callback_ok_iff e _ _ _ _ _ _ _).mpr ⟨⟨600, ⟨[], _, [], rfl, ?_, nofun⟩, by decide⟩,
      by decide, _, _, SecondFactor.enrolledUser, rfl, by decide, rfl⟩
    exact ⟨_, 0, rfl, rfl, rfl⟩
  · intro token h
    obtain ⟨⟨expiresAt, ⟨tr₁, p, tr₂, htr, hbegan, _⟩, _⟩, _⟩ :=
      (callback_ok_iff e _ _ _ _ _ _ _).mp h
    -- the one login of the run is from the other browser
    have hp : p ∈ tr₁ ++ p :: tr₂ := by simp
    rw [← htr, List.mem_singleton] at hp
    subst hp
    exact absurd (began_login.mp hbegan).1 (by decide)

end TLSentinel.Auth.OIDCFlow
