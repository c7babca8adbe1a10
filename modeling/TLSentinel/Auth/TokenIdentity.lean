/-
  TLSentinel.Auth.TokenIdentity
  ─────────────────────────────
  **THE IDENTITY THAT THE WEB CLIENT READS FROM A TOKEN.**

  `IssueToken` of `internal/jwt` writes the claims as JSON in UTF-8, in base 64 for URLs.
  `getIdentity` of the client takes the second part of the token and gives `JSON.parse`
  what `atob` makes of it, which is a code unit for each byte: nothing decodes UTF-8.

  Main result:
    * `issueToken_roundTrips_iff` — when the identity is that of the user.
-/
import TLSentinel.Foundation.Base64
import TLSentinel.Foundation.JSON

namespace TLSentinel.Auth.TokenIdentity

open Foundation

/-! ## §1. IssueToken. -/

/-- `Claims`, with the registered claims that are set. -/
structure Claims where
  userID : String
  username : String
  role : String
  purpose : String
  firstName : Option String
  lastName : Option String
  issuer : String
  expiresAt : Int
  issuedAt : Int
  deriving DecidableEq, Repr

/-- `JWTConfig`, the lifetime in seconds. -/
structure JWTConfig where
  secretKey : List UInt8
  ttl : Int
  deriving DecidableEq, Repr

/-- A string that is left out if it is empty. -/
def omitEmpty (key value : String) : List (List Char × JSON.Field) :=
  if value = "" then [] else [(key.toList, .string value.toList)]

/-- A string that is left out if it is nil. -/
def omitNil (key : String) : Option String → List (List Char × JSON.Field)
  | none => []
  | some value => [(key.toList, .string value.toList)]

/-- The members of `Claims` as `json.Marshal` orders them: the embedded ones last. -/
def Claims.fields (c : Claims) : List (List Char × JSON.Field) :=
  [("uid".toList, .string c.userID.toList), ("sub".toList, .string c.username.toList),
    ("role".toList, .string c.role.toList)] ++
    (omitEmpty "purpose" c.purpose ++ (omitNil "given_name" c.firstName ++
      (omitNil "family_name" c.lastName ++ (omitEmpty "iss" c.issuer ++
        [("exp".toList, .int c.expiresAt), ("iat".toList, .int c.issuedAt)]))))

/-- The members of the header. -/
def headerFields : List (List Char × JSON.Field) :=
  [("alg".toList, .string "HS256".toList), ("typ".toList, .string "JWT".toList)]

/-- The header and the claims, with a dot between them. -/
def signingString (c : Claims) : List Char :=
  Base64.encode (JSON.marshalObject headerFields) ++
    '.' :: Base64.encode (JSON.marshalObject c.fields)

/-- `SignedString`, for a signature of a key and a text. -/
def signedString (sign : List UInt8 → List Char → List UInt8) (key : List UInt8) (c : Claims) :
    List Char :=
  signingString c ++ '.' :: Base64.encode (sign key (signingString c))

/-- `signToken`, at a time in seconds. -/
def signToken (sign : List UInt8 → List Char → List UInt8) (cfg : JWTConfig) (now : Int)
    (userID username role purpose : String) (firstName lastName : Option String) (ttl : Int) :
    List Char :=
  signedString sign cfg.secretKey
    { userID := userID
      username := username
      role := role
      purpose := purpose
      firstName := firstName
      lastName := lastName
      issuer := "tlsentinel"
      expiresAt := now + ttl
      issuedAt := now }

/-- `IssueToken`. -/
def issueToken (sign : List UInt8 → List Char → List UInt8) (cfg : JWTConfig) (now : Int)
    (userID username role : String) (firstName lastName : Option String) : List Char :=
  signToken sign cfg now userID username role "" firstName lastName cfg.ttl

/-! ## §2. getIdentity. -/

/-- `getIdentity`, of the token that is stored. -/
def getIdentity (token : Option (List Char)) : Option JSON.Value :=
  match token with
  | none => none
  | some [] => none
  | some token =>
      match (token.splitOn '.')[1]? with
      | none => none
      | some payload => (Base64.atob (payload.map Base64.toStandard)).bind JSON.parse

/-- The property of an identity is a text, or is missing. -/
def Says (identity : JSON.Value) (key : String) (value : Option String) : Prop :=
  identity.get key.toList = value.map fun s => .string (JSON.utf16 s.toList)

/-- The identity is that of the user. -/
structure IsOf (userID username role : String) (firstName lastName : Option String)
    (identity : JSON.Value) : Prop where
  uid : Says identity "uid" (some userID)
  sub : Says identity "sub" (some username)
  role : Says identity "role" (some role)
  givenName : Says identity "given_name" firstName
  familyName : Says identity "family_name" lastName

/-- The client reads the identity of the user from its token. -/
def RoundTrips (sign : List UInt8 → List Char → List UInt8) (cfg : JWTConfig) (now : Int)
    (userID username role : String) (firstName lastName : Option String) : Prop :=
  ∃ identity,
    getIdentity (some (issueToken sign cfg now userID username role firstName lastName)) =
      some identity ∧ IsOf userID username role firstName lastName identity

/-- A text of the alphabet has no dot. -/
theorem dot_not_mem_encode (bytes : List UInt8) : '.' ∉ Base64.encode bytes := by
  have hdot : '.' ∉ Base64.urlAlphabet := by decide
  exact fun hmem => hdot (Base64.mem_urlAlphabet_encode hmem)

/-- **What the client reads** is the object that was written. -/
theorem getIdentity_signedString (sign : List UInt8 → List Char → List UInt8) (key : List UInt8)
    (c : Claims) :
    getIdentity (some (signedString sign key c)) =
      some (.object (c.fields.map JSON.readMember)) := by
  have hfields : c.fields ≠ [] := List.cons_ne_nil _ _
  have hsplit : (signedString sign key c).splitOn '.' =
      [Base64.encode (JSON.marshalObject headerFields),
        Base64.encode (JSON.marshalObject c.fields),
        Base64.encode (sign key (signingString c))] := by
    unfold signedString signingString
    rw [List.append_assoc, List.cons_append,
      List.splitOn_append_cons_self_of_not_mem (dot_not_mem_encode _),
      List.splitOn_append_cons_self_of_not_mem (dot_not_mem_encode _),
      List.splitOn_eq_singleton (dot_not_mem_encode _)]
  have hne : signedString sign key c ≠ [] :=
    List.append_ne_nil_of_right_ne_nil _ (List.cons_ne_nil _ _)
  obtain ⟨d, ds, hd⟩ := List.exists_cons_of_ne_nil hne
  rw [hd] at hsplit ⊢
  show (match ((d :: ds).splitOn '.')[1]? with
    | none => none
    | some payload => (Base64.atob (payload.map Base64.toStandard)).bind JSON.parse) = _
  rw [hsplit]
  show (Base64.atob ((Base64.encode (JSON.marshalObject c.fields)).map Base64.toStandard)).bind
    JSON.parse = _
  rw [Base64.atob_encode, Option.bind_some, JSON.parse_marshalObject hfields]

/-! ## §3. Which identities come back. -/

/-- The properties of the object: each what its string is read as. -/
theorem get_fields (userID username role : String) (firstName lastName : Option String)
    (expiresAt issuedAt : Int) :
    let identity := JSON.Value.object ((Claims.fields
      { userID := userID, username := username, role := role, purpose := ""
        firstName := firstName, lastName := lastName, issuer := "tlsentinel"
        expiresAt := expiresAt, issuedAt := issuedAt }).map JSON.readMember)
    identity.get "uid".toList = some (.string (JSON.received userID.toList)) ∧
      identity.get "sub".toList = some (.string (JSON.received username.toList)) ∧
      identity.get "role".toList = some (.string (JSON.received role.toList)) ∧
      identity.get "given_name".toList =
        firstName.map (fun s => .string (JSON.received s.toList)) ∧
      identity.get "family_name".toList =
        lastName.map (fun s => .string (JSON.received s.toList)) := by
  cases firstName with
  | none =>
      cases lastName with
      | none => exact ⟨rfl, rfl, rfl, rfl, rfl⟩
      | some last => exact ⟨rfl, rfl, rfl, rfl, rfl⟩
  | some first =>
      cases lastName with
      | none => exact ⟨rfl, rfl, rfl, rfl, rfl⟩
      | some last => exact ⟨rfl, rfl, rfl, rfl, rfl⟩

/-- Every character of a text is of ASCII, or a separator of lines or paragraphs. -/
def Exact (s : String) : Prop := ∀ c ∈ s.toList, JSON.isExact c = true

/-- All texts of an identity are such. -/
structure ExactIdentity (userID username role : String) (firstName lastName : Option String) :
    Prop where
  uid : Exact userID
  sub : Exact username
  role : Exact role
  givenName : ∀ s ∈ firstName, Exact s
  familyName : ∀ s ∈ lastName, Exact s

theorem says_iff {identity : JSON.Value} {key : String} (value : Option String)
    (h : identity.get key.toList = value.map fun s => .string (JSON.received s.toList)) :
    Says identity key value ↔ ∀ s ∈ value, Exact s := by
  unfold Says Exact
  rw [h]
  cases value with
  | none => exact iff_of_true rfl nofun
  | some s =>
      rw [Option.map_some, Option.map_some, Option.some.injEq, JSON.Value.string.injEq,
        JSON.received_eq_iff]
      constructor
      · rintro hs _ ⟨⟩
        exact hs
      · intro hs
        exact hs s rfl

/-- The object that was written is the identity of the user if its texts are exact. -/
theorem isOf_fields_iff (userID username role : String) (firstName lastName : Option String)
    (expiresAt issuedAt : Int) :
    IsOf userID username role firstName lastName (JSON.Value.object ((Claims.fields
      { userID := userID, username := username, role := role, purpose := ""
        firstName := firstName, lastName := lastName, issuer := "tlsentinel"
        expiresAt := expiresAt, issuedAt := issuedAt }).map JSON.readMember)) ↔
      ExactIdentity userID username role firstName lastName := by
  obtain ⟨huid, hsub, hrole, hgiven, hfamily⟩ :=
    get_fields userID username role firstName lastName expiresAt issuedAt
  have huid := says_iff (some userID) huid
  have hsub := says_iff (some username) hsub
  have hrole := says_iff (some role) hrole
  have hgiven := says_iff firstName hgiven
  have hfamily := says_iff lastName hfamily
  have hsome : ∀ {s}, Exact s → ∀ t ∈ some s, Exact t := by
    rintro s h _ ⟨⟩
    exact h
  constructor
  · intro h
    exact ⟨huid.mp h.uid userID rfl, hsub.mp h.sub username rfl, hrole.mp h.role role rfl,
      hgiven.mp h.givenName, hfamily.mp h.familyName⟩
  · intro h
    exact ⟨huid.mpr (hsome h.uid), hsub.mpr (hsome h.sub), hrole.mpr (hsome h.role),
      hgiven.mpr h.givenName, hfamily.mpr h.familyName⟩

/-- What the client reads from an issued token. -/
theorem getIdentity_issueToken (sign : List UInt8 → List Char → List UInt8) (cfg : JWTConfig)
    (now : Int) (userID username role : String) (firstName lastName : Option String) :
    getIdentity (some (issueToken sign cfg now userID username role firstName lastName)) =
      some (.object ((Claims.fields
        { userID := userID, username := username, role := role, purpose := ""
          firstName := firstName, lastName := lastName, issuer := "tlsentinel"
          expiresAt := now + cfg.ttl, issuedAt := now }).map JSON.readMember)) :=
  getIdentity_signedString sign cfg.secretKey _

theorem RoundTrips.exact {sign : List UInt8 → List Char → List UInt8} {cfg : JWTConfig}
    {now : Int} {userID username role : String} {firstName lastName : Option String}
    (h : RoundTrips sign cfg now userID username role firstName lastName) :
    ExactIdentity userID username role firstName lastName := by
  obtain ⟨identity, hidentity, his⟩ := h
  rw [getIdentity_issueToken] at hidentity
  injection hidentity with hidentity
  rw [← hidentity] at his
  exact (isOf_fields_iff userID username role firstName lastName _ _).mp his

/-- **When the client reads the identity of the user**: exactly if every character of its
texts is of ASCII, or one of the two separators that are written as escapes. -/
theorem issueToken_roundTrips_iff (sign : List UInt8 → List Char → List UInt8) (cfg : JWTConfig)
    (now : Int) (userID username role : String) (firstName lastName : Option String) :
    RoundTrips sign cfg now userID username role firstName lastName ↔
      ExactIdentity userID username role firstName lastName := by
  constructor
  · exact RoundTrips.exact
  · intro h
    exact ⟨_, getIdentity_issueToken sign cfg now userID username role firstName lastName,
      (isOf_fields_iff userID username role firstName lastName _ _).mpr h⟩

/-- A name with a diaeresis does not come back. -/
theorem issueToken_accent :
    ¬ RoundTrips (fun _ _ => []) { secretKey := [], ttl := 86400 } 0 "7" "zoe" "viewer"
      (some "Zoë") none := by
  intro h
  have hname : Exact "Zoë" := h.exact.givenName "Zoë" rfl
  exact absurd (hname 'ë' (by decide)) (by decide)

end TLSentinel.Auth.TokenIdentity
