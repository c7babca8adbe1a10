/-
  Foundation.Routing
  ──────────────────
  **A TREE OF ROUTES, AND THE TABLE IT STANDS FOR.**

  A router is a tree: endpoints for a method and a pattern, and scopes, which
  add a pattern prefix and guards to the routes below them.  A request walks
  down: at each scope the guards see the request's context in order; one of them
  may refuse the request, each may add to the context.

  Several routes can fit one request.  `Router` is the choice among them, a
  parameter; `Serves` leaves it open and so allows more than any router does:

      `served_iff`   what `Serves` allows is what some row of the flat table
                     sends on, with all guards of the row letting it pass;
      `runs_iff`     a router hands a request to a handler exactly where it takes
                     a row of that handler and all guards of the row let it pass;
      `Runs.served`  what a router does, `Serves` allows.
-/
import Mathlib.Data.List.Basic

namespace Foundation.Routing

/-! ## §1. Patterns. -/

/-- One segment of a pattern. -/
inductive Segment where
  | lit (s : String)
  /-- A named parameter: it takes one segment of the path. -/
  | param (name : String)
  /-- `*`: it takes what is left of the path. -/
  | rest
  deriving DecidableEq, Repr

abbrev Pattern := List Segment

/-- The parameters of a path, by their names. -/
abbrev Params := List (String × String)

/-- Match a pattern with the beginning of a path: the parameters, and the segments left over. -/
def Pattern.matchPrefix : Pattern → List String → Option (Params × List String)
  | [], path => some ([], path)
  | .lit s :: p, x :: path => if x = s then matchPrefix p path else none
  | .param name :: p, x :: path =>
      (matchPrefix p path).map (fun m => ((name, x) :: m.1, m.2))
  | .rest :: p, path =>
      (matchPrefix p []).map (fun m => (("*", String.intercalate "/" path) :: m.1, m.2))
  | _ :: _, [] => none

/-- A path that a pattern has matched up to its end.  One slash may be left: some routers take
the route for such a path, below some scopes. -/
def Finished (path : List String) : Prop := path = [] ∨ path = [""]

instance (path : List String) : Decidable (Finished path) :=
  inferInstanceAs (Decidable (path = [] ∨ path = [""]))

/-- The whole path matches, with these parameters. -/
def Pattern.Matches (p : Pattern) (path : List String) (params : Params) : Prop :=
  ∃ left, p.matchPrefix path = some (params, left) ∧ Finished left

/-- **Patterns compose**: matching `p ++ q` is matching `p`, and `q` with what is left. -/
theorem Pattern.matchPrefix_append (p q : Pattern) (path : List String) :
    Pattern.matchPrefix (p ++ q) path =
      (Pattern.matchPrefix p path).bind
        (fun m => (Pattern.matchPrefix q m.2).map (fun n => (m.1 ++ n.1, n.2))) := by
  induction p generalizing path with
  | nil => simp [Pattern.matchPrefix]
  | cons s p ih =>
      cases s with
      | lit s =>
          cases path with
          | nil => rfl
          | cons x path =>
              by_cases hx : x = s
              · simp [Pattern.matchPrefix, hx, ih]
              · simp [Pattern.matchPrefix, hx]
      | param name =>
          cases path with
          | nil => rfl
          | cons x path =>
              simp only [List.cons_append, Pattern.matchPrefix, ih]
              cases Pattern.matchPrefix p path <;> simp [Option.map_map, Function.comp_def]
      | rest =>
          simp only [List.cons_append, Pattern.matchPrefix, ih]
          cases Pattern.matchPrefix p [] <;> simp [Option.map_map, Function.comp_def]

theorem Pattern.matches_append {p q : Pattern} {path : List String} {params : Params} :
    Pattern.Matches (p ++ q) path params ↔
      ∃ ps left qs, p.matchPrefix path = some (ps, left) ∧ q.Matches left qs
        ∧ params = ps ++ qs := by
  unfold Pattern.Matches
  rw [Pattern.matchPrefix_append]
  constructor
  · intro h
    obtain ⟨left, h, hleft⟩ := h
    obtain ⟨⟨ps, mid⟩, hp, h⟩ := Option.bind_eq_some_iff.mp h
    obtain ⟨⟨qs, left'⟩, hq, h⟩ := Option.map_eq_some_iff.mp h
    simp only [Prod.mk.injEq] at h
    exact ⟨ps, mid, qs, hp, ⟨left', hq, h.2 ▸ hleft⟩, h.1.symm⟩
  · intro h
    obtain ⟨ps, mid, qs, hp, ⟨left, hq, hleft⟩, hparams⟩ := h
    exact ⟨left, by simp [hp, hq, hparams], hleft⟩

/-! ## §2. Guards. -/

variable {γ η χ ν μ : Type*}

/-- The guards of a scope, outermost first: each sees the context the one before it left. -/
def runGuards (check : γ → χ → Except ν χ) : List γ → χ → Except ν χ
  | [], c => .ok c
  | g :: gs, c =>
      match check g c with
      | .error e => .error e
      | .ok c => runGuards check gs c

theorem runGuards_append_eq_ok {check : γ → χ → Except ν χ} {gs hs : List γ} {c d : χ} :
    runGuards check (gs ++ hs) c = .ok d ↔
      ∃ m, runGuards check gs c = .ok m ∧ runGuards check hs m = .ok d := by
  induction gs generalizing c with
  | nil => simp [runGuards]
  | cons g gs ih =>
      cases hg : check g c with
      | error e => simp [runGuards, hg]
      | ok c' => simp [runGuards, hg, ih]

/-! ## §3. The tree. -/

/-- A route: an endpoint (no method stands for all), or a scope. -/
inductive Route (μ γ η : Type*) where
  | handle (method : Option μ) (pattern : Pattern) (handler : η)
  | scope (pattern : Pattern) (guards : List γ) (routes : List (Route μ γ η))

/-- How a request ends. -/
inductive Outcome (η χ ν : Type*) where
  | refused (e : ν)
  | handled (handler : η) (params : Params) (context : χ)

/-- A request for a method. -/
def Accepts (method : Option μ) (m : μ) : Prop := method = none ∨ method = some m

instance [DecidableEq μ] (method : Option μ) (m : μ) : Decidable (Accepts method m) :=
  inferInstanceAs (Decidable (method = none ∨ method = some m))

/-- `Serves check m r c path ps o`: some router may serve a request for the method `m` and the
rest `path` of its path by the route `r`, with the outcome `o`, when `ps` are the parameters
so far. -/
inductive Serves (check : γ → χ → Except ν χ) (m : μ) :
    Route μ γ η → χ → List String → Params → Outcome η χ ν → Prop
  | handle {method : Option μ} {p : Pattern} {h : η} {c : χ} {path : List String}
      {ps qs : Params} : Accepts method m → p.Matches path qs →
      Serves check m (.handle method p h) c path ps (.handled h (ps ++ qs) c)
  | refused {p : Pattern} {gs : List γ} {rs : List (Route μ γ η)} {c : χ}
      {path left : List String} {ps qs : Params} {e : ν} :
      p.matchPrefix path = some (qs, left) → runGuards check gs c = .error e →
      Serves check m (.scope p gs rs) c path ps (.refused e)
  | scope {p : Pattern} {gs : List γ} {rs : List (Route μ γ η)} {r : Route μ γ η} {c d : χ}
      {path left : List String} {ps qs : Params} {o : Outcome η χ ν} :
      p.matchPrefix path = some (qs, left) → runGuards check gs c = .ok d → r ∈ rs →
      Serves check m r d left (ps ++ qs) o →
      Serves check m (.scope p gs rs) c path ps o

/-! ## §4. The table. -/

/-- A row of the table. -/
structure Entry (μ γ η : Type*) where
  method : Option μ
  pattern : Pattern
  guards : List γ
  handler : η
  deriving DecidableEq

/-- A row under a scope. -/
def Entry.under (p : Pattern) (gs : List γ) (e : Entry μ γ η) : Entry μ γ η :=
  { e with pattern := p ++ e.pattern, guards := gs ++ e.guards }

mutual

/-- The rows of a route. -/
def Route.table : Route μ γ η → List (Entry μ γ η)
  | .handle method p h => [⟨method, p, [], h⟩]
  | .scope p gs rs => (tableOf rs).map (Entry.under p gs)

/-- The rows of several routes. -/
def tableOf : List (Route μ γ η) → List (Entry μ γ η)
  | [] => []
  | r :: rs => r.table ++ tableOf rs

end

theorem mem_tableOf {rs : List (Route μ γ η)} {e : Entry μ γ η} :
    e ∈ tableOf rs ↔ ∃ r ∈ rs, e ∈ r.table := by
  induction rs with
  | nil => simp [tableOf]
  | cons r rs ih => simp [tableOf, ih]

/-- The row sends a request for `m` and `path` to its handler, with parameters `ps` and the
context `d` that its guards make of `c`. -/
def Entry.Sends (check : γ → χ → Except ν χ) (e : Entry μ γ η) (m : μ) (c : χ)
    (path : List String) (ps : Params) (d : χ) : Prop :=
  Accepts e.method m ∧ e.pattern.Matches path ps ∧ runGuards check e.guards c = .ok d

/-- A row under a scope sends what the scope lets pass to the row. -/
theorem Entry.sends_under {check : γ → χ → Except ν χ} {e : Entry μ γ η} {p : Pattern}
    {gs : List γ} {m : μ} {c d : χ} {path : List String} {ps : Params} :
    (e.under p gs).Sends check m c path ps d ↔
      ∃ qs left c' rest, p.matchPrefix path = some (qs, left) ∧ runGuards check gs c = .ok c'
        ∧ e.Sends check m c' left rest d ∧ ps = qs ++ rest := by
  unfold Entry.Sends Entry.under
  simp only [Pattern.matches_append, runGuards_append_eq_ok]
  constructor
  · intro h
    obtain ⟨hm, ⟨qs, left, rest, hp, hq, hps⟩, c', hgs, he⟩ := h
    exact ⟨qs, left, c', rest, hp, hgs, ⟨hm, hq, he⟩, hps⟩
  · intro h
    obtain ⟨qs, left, c', rest, hp, hgs, ⟨hm, hq, he⟩, hps⟩ := h
    exact ⟨hm, ⟨qs, left, rest, hp, hq, hps⟩, c', hgs, he⟩

/-- What a route handles, a row of its table sends there. -/
theorem Serves.sends {check : γ → χ → Except ν χ} {m : μ} {r : Route μ γ η} {c : χ}
    {path : List String} {ps : Params} {o : Outcome η χ ν} (s : Serves check m r c path ps o) :
    ∀ {h : η} {all : Params} {d : χ}, o = .handled h all d →
      ∃ e ∈ r.table, e.handler = h ∧ ∃ qs, all = ps ++ qs ∧ e.Sends check m c path qs d := by
  induction s with
  | @handle method p h c path ps qs hm hp =>
      intro h' all d ho
      injection ho with hh hall hd
      subst hh hall hd
      exact ⟨⟨method, p, [], h⟩, by simp [Route.table], rfl, qs, rfl, hm, hp, rfl⟩
  | refused hp hgs => exact fun ho => absurd ho (by simp)
  | @scope p gs rs r c c' path left ps qs o hp hgs hr s ih =>
      intro h all d ho
      obtain ⟨e, he, hh, rest, hall, hsends⟩ := ih ho
      refine ⟨e.under p gs, ?_, hh, qs ++ rest, ?_, ?_⟩
      · exact List.mem_map.mpr ⟨e, mem_tableOf.mpr ⟨r, hr, he⟩, rfl⟩
      · rw [hall, List.append_assoc]
      · exact Entry.sends_under.mpr ⟨qs, left, c', rest, hp, hgs, hsends, rfl⟩

mutual

/-- What a row of the table sends to its handler, the route can handle. -/
theorem serves_of_sends {check : γ → χ → Except ν χ} {m : μ} :
    ∀ (r : Route μ γ η) {e : Entry μ γ η} {c d : χ} {path : List String} {ps qs : Params},
      e ∈ r.table → e.Sends check m c path qs d →
      Serves check m r c path ps (.handled e.handler (ps ++ qs) d)
  | .handle method p h, e, c, d, path, ps, qs, he, hsends => by
      rw [Route.table, List.mem_singleton] at he
      subst he
      obtain ⟨hm, hp, hgs⟩ := hsends
      injection hgs with hgs
      exact hgs ▸ .handle hm hp
  | .scope p gs rs, e, c, d, path, ps, qs, he, hsends => by
      obtain ⟨e, hmem, rfl⟩ := List.mem_map.mp he
      obtain ⟨ps', left, c', rest, hp, hgs, hbelow, rfl⟩ := Entry.sends_under.mp hsends
      obtain ⟨r, hr, s⟩ := serves_of_sends_list rs hmem hbelow (ps ++ ps')
      rw [List.append_assoc] at s
      exact .scope hp hgs hr s

/-- The same for several routes. -/
theorem serves_of_sends_list {check : γ → χ → Except ν χ} {m : μ} :
    ∀ (rs : List (Route μ γ η)) {e : Entry μ γ η} {c d : χ} {path : List String} {qs : Params},
      e ∈ tableOf rs → e.Sends check m c path qs d → ∀ ps : Params,
      ∃ r ∈ rs, Serves check m r c path ps (.handled e.handler (ps ++ qs) d)
  | [], e, c, d, path, qs, he, _, _ => absurd he (by simp [tableOf])
  | r :: rs, e, c, d, path, qs, he, hsends, ps => by
      rw [tableOf, List.mem_append] at he
      rcases he with he | he
      · exact ⟨r, List.mem_cons_self, serves_of_sends r he hsends⟩
      · obtain ⟨r', hr', s⟩ := serves_of_sends_list rs he hsends ps
        exact ⟨r', List.mem_cons_of_mem _ hr', s⟩

end

/-- A request for `m` and `path` that comes in with the context `c`, at the top of a tree. -/
def Served (check : γ → χ → Except ν χ) (rs : List (Route μ γ η)) (m : μ) (c : χ)
    (path : List String) (o : Outcome η χ ν) : Prop :=
  ∃ r ∈ rs, Serves check m r c path [] o

/-- **The tree and its table agree.**  Some router may hand a request to a handler exactly
where a row of the table fits it and all guards of the row let it pass. -/
theorem served_iff {check : γ → χ → Except ν χ} {rs : List (Route μ γ η)} {m : μ} {c d : χ}
    {path : List String} {h : η} {ps : Params} :
    Served check rs m c path (.handled h ps d) ↔
      ∃ e ∈ tableOf rs, e.handler = h ∧ e.Sends check m c path ps d := by
  constructor
  · intro hs
    obtain ⟨r, hr, s⟩ := hs
    obtain ⟨e, he, hh, qs, hps, hsends⟩ := s.sends rfl
    rw [List.nil_append] at hps
    exact ⟨e, mem_tableOf.mpr ⟨r, hr, he⟩, hh, hps ▸ hsends⟩
  · intro h
    obtain ⟨e, he, rfl, hsends⟩ := h
    obtain ⟨r, hr, s⟩ := serves_of_sends_list rs he hsends []
    exact ⟨r, hr, s⟩

/-! ## §5. A router. -/

/-- The route fits what is left of a path, with these parameters and this rest. -/
def Route.Fits (m : μ) (path : List String) (ps : Params) (left : List String) :
    Route μ γ η → Prop
  | .handle method p _ => Accepts method m ∧ p.matchPrefix path = some (ps, left) ∧ Finished left
  | .scope p _ _ => p.matchPrefix path = some (ps, left)

/-- A router: which route of a scope it takes for a request, if any, with the parameters it
reads and what is left of the path.  The route fits; which one it is of several, and whether
one that fits is taken at all, is up to the router. -/
structure Router (μ γ η : Type*) where
  take : List (Route μ γ η) → μ → List String → Option (Route μ γ η × Params × List String)
  fits : ∀ {rs : List (Route μ γ η)} {m : μ} {path : List String} {r : Route μ γ η}
    {ps : Params} {left : List String},
    take rs m path = some (r, ps, left) → r ∈ rs ∧ r.Fits m path ps left

namespace Router

variable {R : Router μ γ η} {check : γ → χ → Except ν χ} {m : μ}

/-- `R.Runs check m rs c path ps o`: with the routes `rs` before it and `path` left, the router
serves the request with the outcome `o`.  The guards of a scope come before its routes are
looked at; a request that no route is taken for has no outcome. -/
inductive Runs (R : Router μ γ η) (check : γ → χ → Except ν χ) (m : μ) :
    List (Route μ γ η) → χ → List String → Params → Outcome η χ ν → Prop
  | handle {rs : List (Route μ γ η)} {method : Option μ} {p : Pattern} {h : η} {c : χ}
      {path left : List String} {ps qs : Params} :
      R.take rs m path = some (.handle method p h, qs, left) →
      Runs R check m rs c path ps (.handled h (ps ++ qs) c)
  | refused {rs below : List (Route μ γ η)} {p : Pattern} {gs : List γ} {c : χ}
      {path left : List String} {ps qs : Params} {e : ν} :
      R.take rs m path = some (.scope p gs below, qs, left) →
      runGuards check gs c = .error e → Runs R check m rs c path ps (.refused e)
  | scope {rs below : List (Route μ γ η)} {p : Pattern} {gs : List γ} {c d : χ}
      {path left : List String} {ps qs : Params} {o : Outcome η χ ν} :
      R.take rs m path = some (.scope p gs below, qs, left) → runGuards check gs c = .ok d →
      Runs R check m below d left (ps ++ qs) o → Runs R check m rs c path ps o

/-- The row that the router takes for a request, whatever the guards say. -/
inductive Leads (R : Router μ γ η) (m : μ) :
    List (Route μ γ η) → List String → Entry μ γ η → Params → Prop
  | handle {rs : List (Route μ γ η)} {method : Option μ} {p : Pattern} {h : η}
      {path left : List String} {ps : Params} :
      R.take rs m path = some (.handle method p h, ps, left) →
      Leads R m rs path ⟨method, p, [], h⟩ ps
  | scope {rs below : List (Route μ γ η)} {p : Pattern} {gs : List γ} {e : Entry μ γ η}
      {path left : List String} {ps qs : Params} :
      R.take rs m path = some (.scope p gs below, ps, left) → Leads R m below left e qs →
      Leads R m rs path (e.under p gs) (ps ++ qs)

/-- The row is one of the table, for this method. -/
theorem Leads.mem {rs : List (Route μ γ η)} {path : List String} {e : Entry μ γ η} {ps : Params}
    (l : R.Leads m rs path e ps) : e ∈ tableOf rs ∧ Accepts e.method m := by
  induction l with
  | @handle rs method p h path left ps htake =>
      obtain ⟨hmem, hm, _⟩ := R.fits htake
      exact ⟨mem_tableOf.mpr ⟨_, hmem, by simp [Route.table]⟩, hm⟩
  | @scope rs below p gs e path left ps qs htake l ih =>
      obtain ⟨hmem, _⟩ := R.fits htake
      exact ⟨mem_tableOf.mpr ⟨_, hmem, List.mem_map.mpr ⟨e, ih.1, rfl⟩⟩, ih.2⟩

/-- **A router hands a request to a handler** exactly where it takes a row of that handler and
all guards of the row let it pass. -/
theorem runs_iff {rs : List (Route μ γ η)} {c d : χ} {path : List String} {ps all : Params}
    {h : η} :
    R.Runs check m rs c path ps (.handled h all d) ↔
      ∃ e qs, R.Leads m rs path e qs ∧ e.handler = h ∧ all = ps ++ qs
        ∧ runGuards check e.guards c = .ok d := by
  constructor
  · intro r
    generalize ho : Outcome.handled h all d = o at r
    -- each scope on the way puts its pattern and its guards before the row found below
    induction r with
    | @handle rs method p h' c path left ps qs htake =>
        injection ho with hh hall hd
        subst hh hall hd
        exact ⟨_, qs, .handle htake, rfl, rfl, rfl⟩
    | refused htake hgs => exact absurd ho (by simp)
    | @scope rs below p gs c c' path left ps qs o htake hgs r ih =>
        obtain ⟨e, rest, l, hh, hall, hrun⟩ := ih ho
        refine ⟨e.under p gs, qs ++ rest, .scope htake l, hh, ?_, ?_⟩
        · rw [hall, List.append_assoc]
        · exact runGuards_append_eq_ok.mpr ⟨c', hgs, hrun⟩
  · intro h
    obtain ⟨e, qs, l, rfl, rfl, hrun⟩ := h
    -- the guards of a row are those of its scopes, outermost first
    induction l generalizing c ps with
    | handle htake =>
        injection hrun with hrun
        exact hrun ▸ .handle htake
    | @scope rs below p gs e path left ps' qs htake l ih =>
        obtain ⟨c', hgs, hbelow⟩ := runGuards_append_eq_ok.mp hrun
        have r : R.Runs check m below c' left (ps ++ ps')
            (.handled e.handler ((ps ++ ps') ++ qs) d) := ih hbelow
        rw [List.append_assoc] at r
        exact .scope htake hgs r

/-- **What a router does, `Serves` allows.** -/
theorem Runs.served {rs : List (Route μ γ η)} {c : χ} {path : List String} {ps : Params}
    {o : Outcome η χ ν} (r : R.Runs check m rs c path ps o) :
    ∃ route ∈ rs, Serves check m route c path ps o := by
  induction r with
  | handle htake =>
      obtain ⟨hmem, hm, hp, hleft⟩ := R.fits htake
      exact ⟨_, hmem, .handle hm ⟨_, hp, hleft⟩⟩
  | refused htake hgs =>
      obtain ⟨hmem, hp⟩ := R.fits htake
      exact ⟨_, hmem, .refused hp hgs⟩
  | scope htake hgs r ih =>
      obtain ⟨hmem, hp⟩ := R.fits htake
      obtain ⟨route, hroute, s⟩ := ih
      exact ⟨_, hmem, .scope hp hgs hroute s⟩

end Router

section First

variable [DecidableEq μ]

mutual

/-- A row of the route fits the request. -/
def Route.reads (m : μ) : Route μ γ η → List String → Bool
  | .handle method p _, path =>
      decide (Accepts method m) && (p.matchPrefix path).any (fun q => decide (Finished q.2))
  | .scope p _ rs, path => (p.matchPrefix path).any (fun q => anyReads m rs q.2)

/-- A row of the routes does. -/
def anyReads (m : μ) : List (Route μ γ η) → List String → Bool
  | [], _ => false
  | r :: rs, path => r.reads m path || anyReads m rs path

end

/-- The pattern of a route. -/
def Route.pattern : Route μ γ η → Pattern
  | .handle _ p _ => p
  | .scope p _ _ => p

/-- What a pattern reads of the path of a route that has a fitting row, the route fits. -/
theorem Route.fits_of_reads {m : μ} {r : Route μ γ η} {path left : List String} {ps : Params}
    (h : r.reads m path = true) (hp : r.pattern.matchPrefix path = some (ps, left)) :
    r.Fits m path ps left := by
  cases r with
  | handle method p h' =>
      have hp : p.matchPrefix path = some (ps, left) := hp
      simp only [Route.reads, hp, Option.any_some, Bool.and_eq_true, decide_eq_true_eq] at h
      exact ⟨h.1, hp, h.2⟩
  | scope p gs rs => exact hp

/-- The router that takes the first route with a fitting row. -/
def Router.first : Router μ γ η where
  take := fun rs m path =>
    (rs.find? (fun r => r.reads m path)).bind fun r =>
      (r.pattern.matchPrefix path).map (fun q => (r, q))
  fits := by
    intro rs m path r ps left h
    obtain ⟨r', hr', h⟩ := Option.bind_eq_some_iff.mp h
    obtain ⟨q, hq, h⟩ := Option.map_eq_some_iff.mp h
    obtain ⟨rfl, rfl⟩ := Prod.mk.inj h
    have hreads : r'.reads m path = true :=
      List.find?_some (p := fun r => Route.reads m r path) hr'
    exact ⟨List.mem_of_find?_eq_some hr', Route.fits_of_reads hreads hq⟩

end First

end Foundation.Routing
