/-
  TLSentinel.Audit.ClientIP
  ─────────────────────────
  **THE CLIENT ADDRESS OF AN AUDIT ENTRY.**

  `IPFromRequest` believes `X-Forwarded-For` only where the peer is a trusted proxy,
  and then walks the header from the right to the first entry outside the trusted
  networks.  It reads the first header line alone and does not look whether that entry
  is an address.

  Main results:
    * `clientFromXFF_eq`       — what the walk returns;
    * `ipFromRequest_sound_iff` — when the answer is the one that cannot be forged.
-/
import TLSentinel.Base
import TLSentinel.Foundation.NetAddr

namespace TLSentinel.Audit

open Foundation.NetAddr

/-! ## §1. The walk. -/

/-- What the function reads of a request: the peer, and the lines of the header. -/
structure Request where
  remoteAddr : String
  /-- The `X-Forwarded-For` lines, in order. -/
  xForwardedFor : List String
  deriving DecidableEq, Repr

/-- `inAny`. -/
def inAny (ipStr : String) (nets : List IPNet) : Bool :=
  match parseIP ipStr with
  | none => false
  | some ip => nets.any fun n => n.contains ip

/-- `peerIP`. -/
def peerIP (r : Request) : String :=
  match splitHostPort r.remoteAddr.toList with
  | none => r.remoteAddr
  | some (ip, _) => String.ofList ip

/-- `strings.Split(header, ",")`. -/
def splitCommas (header : String) : List String :=
  (header.toList.splitOn ',').map String.ofList

/-- The loop of `clientFromXFF`, over the parts from the right. -/
def clientLoop (trusted : List IPNet) (fallback : String) : List String → String
  | [] => fallback
  | part :: parts =>
      let candidate := trimSpace part
      if candidate = "" then clientLoop trusted fallback parts
      else if inAny candidate trusted then clientLoop trusted fallback parts
      else candidate

/-- `clientFromXFF`. -/
def clientFromXFF (header : String) (trusted : List IPNet) (fallback : String) : String :=
  if header = "" then fallback
  else clientLoop trusted fallback (splitCommas header).reverse

/-- `Header.Get("X-Forwarded-For")`: the first line, or no text. -/
def headerGet (lines : List String) : String := lines.head?.getD ""

/-- `IPFromRequest`, under the networks of `SetTrustedProxies`. -/
def ipFromRequest (trusted : List IPNet) (r : Request) : String :=
  let peer := peerIP r
  if trusted.isEmpty || !inAny peer trusted then peer
  else clientFromXFF (headerGet r.xForwardedFor) trusted peer

/-! ## §2. Entries. -/

/-- The entries of a header line; empty ones do not count. -/
def entries (line : String) : List String :=
  ((splitCommas line).map trimSpace).filter fun e => e ≠ ""

/-- The rightmost of some entries that is in no trusted network. -/
def rightmostUntrusted (trusted : List IPNet) (es : List String) : Option String :=
  es.reverse.find? fun e => !inAny e trusted

theorem clientLoop_eq (trusted : List IPNet) (fallback : String) (parts : List String) :
    clientLoop trusted fallback parts =
      (((parts.map trimSpace).filter fun e => e ≠ "").find? fun e => !inAny e trusted).getD
        fallback := by
  induction parts with
  | nil => rfl
  | cons part parts ih =>
      unfold clientLoop
      dsimp only
      rw [List.map_cons]
      by_cases hempty : trimSpace part = ""
      · rw [if_pos hempty, ih, List.filter_cons_of_neg (by simp [hempty])]
      · rw [if_neg hempty, List.filter_cons_of_pos (by simp [hempty])]
        by_cases hin : inAny (trimSpace part) trusted
        · rw [if_pos hin, ih, List.find?_cons_of_neg (by simp [hin])]
        · rw [if_neg hin, List.find?_cons_of_pos (by simp [hin])]
          rfl

/-- **What the walk returns.** -/
theorem clientFromXFF_eq (header : String) (trusted : List IPNet) (fallback : String) :
    clientFromXFF header trusted fallback =
      (rightmostUntrusted trusted (entries header)).getD fallback := by
  unfold clientFromXFF rightmostUntrusted entries
  by_cases hempty : header = ""
  · subst hempty
    rfl
  · rw [if_neg hempty, clientLoop_eq, List.map_reverse, List.filter_reverse]

theorem rightmostUntrusted_append (trusted : List IPNet) (es fs : List String) :
    rightmostUntrusted trusted (es ++ fs) =
      (rightmostUntrusted trusted fs).or (rightmostUntrusted trusted es) := by
  unfold rightmostUntrusted
  rw [List.reverse_append, List.find?_append]

theorem not_inAny_of_rightmost {trusted : List IPNet} {es : List String} {e : String}
    (h : rightmostUntrusted trusted es = some e) : inAny e trusted = false := by
  have hfound := List.find?_some h
  simpa using hfound

/-! ## §3. The answer that cannot be forged. -/

/-- A syntactically valid address. -/
def IsIP (s : String) : Prop := (parseIP s).isSome = true

/-- The rightmost untrusted entry of the whole header list if it is an address, and else
the peer. -/
def trueClient (trusted : List IPNet) (r : Request) : String :=
  match rightmostUntrusted trusted (r.xForwardedFor.flatMap entries) with
  | none => peerIP r
  | some e => if (parseIP e).isSome then e else peerIP r

/-- What an audit entry needs of the address: it is the peer or an address; under an
untrusted peer no header counts; under a trusted one it is the true client. -/
def Unforged (trusted : List IPNet) (r : Request) : Prop :=
  (ipFromRequest trusted r = peerIP r ∨ IsIP (ipFromRequest trusted r)) ∧
    (inAny (peerIP r) trusted = false → ∀ lines,
      ipFromRequest trusted r = ipFromRequest trusted { r with xForwardedFor := lines }) ∧
    (inAny (peerIP r) trusted = true → ipFromRequest trusted r = trueClient trusted r)

/-- The first line has the answer: no later line has an untrusted entry and the rightmost
one of the first line is an address if there is one; or the rightmost one of the later
lines is an address and the first line ends in the same; or it is none, and the first
line has no untrusted entry. -/
def FirstLineSuffices (trusted : List IPNet) (lines : List String) : Prop :=
  match rightmostUntrusted trusted (entries (headerGet lines)),
    rightmostUntrusted trusted (lines.tail.flatMap entries) with
  | first, none => ∀ e, first = some e → IsIP e
  | first, some e => (IsIP e → first = some e) ∧ (¬IsIP e → first = none)

theorem ipFromRequest_untrusted {trusted : List IPNet} {r : Request}
    (h : inAny (peerIP r) trusted = false) : ipFromRequest trusted r = peerIP r := by
  unfold ipFromRequest
  simp [h]

/-- The walk under a trusted peer. -/
theorem ipFromRequest_trusted {trusted : List IPNet} {r : Request}
    (h : inAny (peerIP r) trusted = true) :
    ipFromRequest trusted r =
      (rightmostUntrusted trusted (entries (headerGet r.xForwardedFor))).getD (peerIP r) := by
  have hsome : trusted.isEmpty = false := by
    cases trusted with
    | nil =>
        unfold inAny at h
        split at h
        · cases h
        · cases h
    | cons n ns => rfl
  unfold ipFromRequest
  simp only [hsome, h, Bool.not_true, Bool.or_self, Bool.false_eq_true, if_false,
    clientFromXFF_eq]

/-- All entries, by the first line and the later ones. -/
theorem flatMap_entries (lines : List String) :
    lines.flatMap entries = entries (headerGet lines) ++ lines.tail.flatMap entries := by
  cases lines with
  | nil => rfl
  | cons line lines => rfl

/-- The walk finds the true client where the first line suffices, and only there. -/
theorem ipFromRequest_eq_trueClient_iff {trusted : List IPNet} {r : Request}
    (h : inAny (peerIP r) trusted = true) :
    ipFromRequest trusted r = trueClient trusted r ↔
      FirstLineSuffices trusted r.xForwardedFor := by
  rw [ipFromRequest_trusted h]
  unfold trueClient FirstLineSuffices
  rw [flatMap_entries, rightmostUntrusted_append]
  -- an untrusted entry is not the peer
  have hne : ∀ {e : String}, inAny e trusted = false → e ≠ peerIP r := by
    intro e he heq
    rw [heq, h] at he
    cases he
  cases hfirst : rightmostUntrusted trusted (entries (headerGet r.xForwardedFor)) with
  | none =>
      cases hlater : rightmostUntrusted trusted (r.xForwardedFor.tail.flatMap entries) with
      | none => simp
      | some e =>
          have he := hne (not_inAny_of_rightmost hlater)
          unfold IsIP
          by_cases hip : (parseIP e).isSome = true
          · simp [hip, he.symm]
          · simp [hip]
  | some f =>
      have hf := hne (not_inAny_of_rightmost hfirst)
      cases hlater : rightmostUntrusted trusted (r.xForwardedFor.tail.flatMap entries) with
      | none =>
          unfold IsIP
          by_cases hip : (parseIP f).isSome = true
          · simp [hip]
          · simp [hip, hf]
      | some e =>
          unfold IsIP
          by_cases hip : (parseIP e).isSome = true
          · simp [hip]
          · simp [hip, hf]

/-- The true client is the peer or an address. -/
theorem trueClient_eq_or_isIP (trusted : List IPNet) (r : Request) :
    trueClient trusted r = peerIP r ∨ IsIP (trueClient trusted r) := by
  unfold trueClient
  split
  · exact Or.inl rfl
  · next e _ =>
      by_cases hip : (parseIP e).isSome = true
      · rw [if_pos hip]
        exact Or.inr hip
      · rw [if_neg hip]
        exact Or.inl rfl

/-- **When the address of an audit entry cannot be forged.** -/
theorem ipFromRequest_sound_iff (trusted : List IPNet) (r : Request) :
    Unforged trusted r ↔
      (inAny (peerIP r) trusted = true → FirstLineSuffices trusted r.xForwardedFor) := by
  unfold Unforged
  constructor
  · rintro ⟨-, -, htrusted⟩ h
    exact (ipFromRequest_eq_trueClient_iff h).mp (htrusted h)
  · intro hsuffices
    cases h : inAny (peerIP r) trusted with
    | false =>
        refine ⟨Or.inl (ipFromRequest_untrusted h), fun _ lines => ?_, fun h' => by cases h'⟩
        have hlines : inAny (peerIP { r with xForwardedFor := lines }) trusted = false := h
        rw [ipFromRequest_untrusted h, ipFromRequest_untrusted hlines]
        rfl
    | true =>
        have heq := (ipFromRequest_eq_trueClient_iff h).mpr (hsuffices h)
        refine ⟨?_, fun h' => (by cases h'), fun _ => heq⟩
        rw [heq]
        exact trueClient_eq_or_isIP trusted r

/-- **A client's first line, and a text that is no address, reach the audit log.** -/
theorem ipFromRequest_forged :
    ¬∀ (trusted : List IPNet) (r : Request), Unforged trusted r := by
  intro h
  have hunforged := h [⟨[10, 0, 0, 0], [255, 0, 0, 0]⟩]
    ⟨"10.0.0.1:443", ["not-an-address", "203.0.113.9"]⟩
  exact absurd (hunforged.2.2 (by decide)) (by decide)

end TLSentinel.Audit
