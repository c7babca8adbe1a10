/-
  TLSentinel.Toolbox.CertChain
  ────────────────────────────
  **THE CHAIN OF A LIST OF CERTIFICATES, AND ITS ORDER.**

  `buildChain` of the certificate chain page picks a leaf and leaves the rest to
  `X509ChainBuilder`, whose chain depends on the leaf and the set of certificates.  The
  leaf is the first certificate that is no CA, or the first of all: the comment over it
  asks for the CA with the shortest path there.

  Main result:
    * `buildChain_orderFree_iff` — when the order of the list does not matter.
-/
import Mathlib.Data.List.Perm.Basic

namespace TLSentinel.Toolbox

/-! ## §1. buildChain. -/

/-- What the page reads of an `X509Certificate`. -/
structure X509Certificate where
  subject : String
  issuer : String
  /-- `subjectName.getField('CN')?.[0]`. -/
  commonName : Option String
  /-- `ca` of the basic constraints, if there are any. -/
  basicConstraints : Option Bool
  notBefore : Int
  notAfter : Int
  /-- `toString()`. -/
  pem : String
  deriving DecidableEq, Repr

/-- `isExpired`. -/
def isExpired (now : Int) (cert : X509Certificate) : Bool :=
  decide (now < cert.notBefore) || decide (cert.notAfter < now)

/-- `isSelfSigned`. -/
def isSelfSigned (cert : X509Certificate) : Bool := cert.issuer = cert.subject

/-- `isCA`. -/
def isCA (cert : X509Certificate) : Bool := cert.basicConstraints.getD false

/-- The errors of a chain, by their texts. -/
inductive ChainError where
  /-- The message of the exception, or "Chain build failed.". -/
  | build (message : String)
  /-- "\"${cn}\" is expired or not yet valid.". -/
  | expired (cn : String)
  /-- "\"${cn}\" is missing the CA basic constraint.". -/
  | notCA (cn : String)
  /-- "Chain is incomplete — root certificate not found.". -/
  | incomplete
  deriving DecidableEq, Repr

/-- `ChainResult`. -/
structure ChainResult where
  chain : List X509Certificate
  valid : Bool
  incomplete : Bool
  wasReordered : Bool
  errors : List ChainError
  deriving DecidableEq, Repr

/-- `X509ChainBuilder({ certificates }).build(leaf)`: a chain, or the message of an
exception.  The leaf of an empty list is undefined. -/
abbrev Builder := List X509Certificate → Option X509Certificate →
  Except String (List X509Certificate)

/-- How a message names a certificate. -/
def displayName (cert : X509Certificate) : String := cert.commonName.getD cert.subject

/-- The leaf: the first certificate that is no CA, or the first. -/
def leafOf (certs : List X509Certificate) : Option X509Certificate :=
  match certs.filter (fun c => !isCA c) with
  | leaf :: _ => some leaf
  | [] => certs.head?

/-- The checks of a chain. -/
def chainErrors (now : Int) (chain : List X509Certificate) : List ChainError :=
  (chain.filter (isExpired now)).map (fun c => .expired (displayName c)) ++
    ((chain.drop 1).filter (fun c => !isCA c)).map (fun c => .notCA (displayName c)) ++
    if chain.getLast?.any (fun root => !isSelfSigned root) then [.incomplete] else []

/-- Whether the certificates of the chain stand in another order in the list. -/
def wasReordered (certs chain : List X509Certificate) : Bool :=
  let inputInChain := certs.filter fun c => (chain.map fun d => d.pem).contains c.pem
  inputInChain.zipIdx.any fun p => decide (some p.1.pem ≠ chain[p.2]?.map fun d => d.pem)

/-- `buildChain`. -/
def buildChain (build : Builder) (now : Int) (certs : List X509Certificate) : ChainResult :=
  match build certs (leafOf certs) with
  | .error message => ⟨certs, false, true, false, [.build message]⟩
  | .ok chain =>
      let errors := chainErrors now chain
      { chain := chain
        valid := errors.isEmpty
        incomplete := chain.getLast?.any fun root => !isSelfSigned root
        wasReordered := wasReordered certs chain
        errors := errors }

/-! ## §2. The order of the list. -/

/-- The chain is a function of the leaf and the set of certificates, and begins with the
leaf. -/
structure ChainsFromSet (build : Builder) : Prop where
  leaf : ∀ certs, ∀ leaf ∈ certs, ∃ rest, build certs (some leaf) = .ok (leaf :: rest)
  set : ∀ certs certs' leaf, (∀ c, c ∈ certs ↔ c ∈ certs') → build certs leaf = build certs' leaf

/-- The certificates that the leaf is picked from: those that are no CA, or all. -/
def candidates (certs : List X509Certificate) : List X509Certificate :=
  let leaves := certs.filter fun c => !isCA c
  if leaves = [] then certs else leaves

/-- The certificate issued none of the others. -/
def IssuedNoOther (Issued : X509Certificate → X509Certificate → Prop)
    (certs : List X509Certificate) (c : X509Certificate) : Prop :=
  ∀ d ∈ certs, d ≠ c → ¬Issued c d

/-- The certificate is the only one that issued none of the others. -/
structure OnlyEnd (Issued : X509Certificate → X509Certificate → Prop)
    (certs : List X509Certificate) (c : X509Certificate) : Prop where
  mem : c ∈ certs
  issuedNoOther : IssuedNoOther Issued certs c
  only : ∀ d ∈ certs, IssuedNoOther Issued certs d → d = c

/-- The order of the list does not matter, and the chain begins with the only certificate that
issued none of the others. -/
structure OrderFree (build : Builder) (Issued : X509Certificate → X509Certificate → Prop)
    (now : Int) (certs : List X509Certificate) : Prop where
  perm : ∀ certs', certs'.Perm certs →
    (buildChain build now certs').chain = (buildChain build now certs).chain ∧
      (buildChain build now certs').valid = (buildChain build now certs).valid ∧
      (buildChain build now certs').incomplete = (buildChain build now certs).incomplete
  start : ∀ c, OnlyEnd Issued certs c → (buildChain build now certs).chain.head? = some c

/-- One certificate alone is a candidate for the leaf, and no other is the only one that issued
none of the others. -/
structure OneLeaf (Issued : X509Certificate → X509Certificate → Prop)
    (certs : List X509Certificate) : Prop where
  one : ∀ c ∈ candidates certs, ∀ d ∈ candidates certs, c = d
  ends : ∀ c, OnlyEnd Issued certs c → c ∈ candidates certs

theorem mem_candidates {certs : List X509Certificate} {c : X509Certificate} :
    c ∈ candidates certs ↔
      c ∈ certs ∧ (isCA c = false ∨ ∀ d ∈ certs, isCA d = true) := by
  unfold candidates
  dsimp only
  split
  · next hleaves =>
      rw [List.filter_eq_nil_iff] at hleaves
      have hall : ∀ d ∈ certs, isCA d = true := fun d hd => by simpa using hleaves d hd
      exact (and_iff_left (Or.inr hall)).symm
  · next hleaves =>
      have hsome : ¬∀ d ∈ certs, isCA d = true := by
        intro hall
        exact hleaves (List.filter_eq_nil_iff.mpr fun d hd => by simp [hall d hd])
      rw [List.mem_filter, or_iff_left hsome]
      simp

theorem leafOf_eq_head? (certs : List X509Certificate) :
    leafOf certs = (candidates certs).head? := by
  unfold leafOf candidates
  cases hleaves : certs.filter fun c => !isCA c with
  | nil => rfl
  | cons leaf leaves => rfl

/-- The leaf is a candidate. -/
theorem leafOf_mem {certs : List X509Certificate} {c : X509Certificate}
    (h : leafOf certs = some c) : c ∈ candidates certs := by
  rw [leafOf_eq_head?] at h
  exact List.mem_of_head? h

theorem leafOf_cons {certs : List X509Certificate} {c : X509Certificate}
    (h : c ∈ candidates (c :: certs)) : leafOf (c :: certs) = some c := by
  obtain ⟨-, hleaf | hall⟩ := mem_candidates.mp h
  · unfold leafOf
    rw [List.filter_cons_of_pos (by simp [hleaf])]
  · have hnone : (c :: certs).filter (fun c => !isCA c) = [] := by
      refine List.filter_eq_nil_iff.mpr fun d hd => ?_
      simp [hall d hd]
    unfold leafOf
    rw [hnone]
    rfl

/-- Candidates depend on the set alone. -/
theorem mem_candidates_perm {certs certs' : List X509Certificate} (h : certs'.Perm certs)
    {c : X509Certificate} : c ∈ candidates certs' ↔ c ∈ candidates certs := by
  rw [mem_candidates, mem_candidates, h.mem_iff]
  exact and_congr_right fun _ => or_congr_right (forall_congr' fun d => by rw [h.mem_iff])

/-- Every candidate is the leaf of some order of the list. -/
theorem exists_perm_leafOf {certs : List X509Certificate} {c : X509Certificate}
    (h : c ∈ candidates certs) : ∃ certs', certs'.Perm certs ∧ leafOf certs' = some c := by
  have hperm := (List.perm_cons_erase (mem_candidates.mp h).1).symm
  exact ⟨_, hperm, leafOf_cons ((mem_candidates_perm hperm).mpr h)⟩

/-- The chain begins with the leaf. -/
theorem head?_chain {build : Builder} (hb : ChainsFromSet build) (now : Int)
    {certs : List X509Certificate} {c : X509Certificate} (h : leafOf certs = some c) :
    (buildChain build now certs).chain.head? = some c := by
  obtain ⟨rest, hbuild⟩ := hb.leaf certs c (mem_candidates.mp (leafOf_mem h)).1
  unfold buildChain
  rw [h, hbuild]
  rfl

theorem exists_leafOf {certs : List X509Certificate} (h : certs ≠ []) :
    ∃ leaf, leafOf certs = some leaf := by
  unfold leafOf
  split
  · exact ⟨_, rfl⟩
  · exact ⟨_, List.head?_eq_some_head h⟩

/-- One leaf makes one chain. -/
theorem buildChain_perm {build : Builder} (hb : ChainsFromSet build) (now : Int)
    {certs certs' : List X509Certificate} (hperm : certs'.Perm certs)
    (hleaf : leafOf certs' = leafOf certs) :
    (buildChain build now certs').chain = (buildChain build now certs).chain ∧
      (buildChain build now certs').valid = (buildChain build now certs).valid ∧
      (buildChain build now certs').incomplete = (buildChain build now certs).incomplete := by
  by_cases hnil : certs = []
  · subst hnil
    rw [hperm.eq_nil]
    exact ⟨rfl, rfl, rfl⟩
  · obtain ⟨leaf, hsome⟩ := exists_leafOf hnil
    obtain ⟨rest, hbuild⟩ := hb.leaf certs leaf (mem_candidates.mp (leafOf_mem hsome)).1
    have hbuild' := (hb.set certs' certs (some leaf) fun c => hperm.mem_iff).trans hbuild
    unfold buildChain
    rw [hleaf, hsome, hbuild, hbuild']
    exact ⟨rfl, rfl, rfl⟩

/-- A single candidate is the leaf in every order. -/
theorem OneLeaf.leafOf_perm {Issued : X509Certificate → X509Certificate → Prop}
    {certs certs' : List X509Certificate} (h : OneLeaf Issued certs)
    (hperm : certs'.Perm certs) : leafOf certs' = leafOf certs := by
  by_cases hnil : certs = []
  · subst hnil
    rw [hperm.eq_nil]
  · have hnil' : certs' ≠ [] := fun heq => hnil (heq ▸ hperm).symm.eq_nil
    obtain ⟨leaf, hleaf⟩ := exists_leafOf hnil
    obtain ⟨leaf', hleaf'⟩ := exists_leafOf hnil'
    have hmem := (mem_candidates_perm hperm).mp (leafOf_mem hleaf')
    rw [hleaf, hleaf', h.one leaf' hmem leaf (leafOf_mem hleaf)]

/-- **When the order of the list does not matter**: when one certificate alone is a candidate
for the leaf, and no other is the only one that issued none of the others. -/
theorem buildChain_orderFree_iff {build : Builder} (hb : ChainsFromSet build)
    (Issued : X509Certificate → X509Certificate → Prop) (now : Int)
    (certs : List X509Certificate) :
    OrderFree build Issued now certs ↔ OneLeaf Issued certs := by
  constructor
  · intro h
    have hhead : ∀ c ∈ candidates certs,
        (buildChain build now certs).chain.head? = some c := by
      intro c hc
      obtain ⟨certs', hperm, hleaf⟩ := exists_perm_leafOf hc
      rw [← (h.perm certs' hperm).1]
      exact head?_chain hb now hleaf
    refine ⟨fun c hc d hd => ?_, fun c hc => ?_⟩
    · exact Option.some.inj ((hhead c hc).symm.trans (hhead d hd))
    · -- the chain begins with the leaf, a candidate
      obtain ⟨leaf, hleaf⟩ := exists_leafOf (List.ne_nil_of_mem hc.mem)
      have heq := (h.start c hc).symm.trans (head?_chain hb now hleaf)
      injection heq with heq
      exact heq ▸ leafOf_mem hleaf
  · intro h
    refine ⟨fun certs' hperm => buildChain_perm hb now hperm (h.leafOf_perm hperm),
      fun c hc => ?_⟩
    obtain ⟨leaf, hleaf⟩ := exists_leafOf (List.ne_nil_of_mem hc.mem)
    rw [head?_chain hb now hleaf, h.one leaf (leafOf_mem hleaf) c (h.ends c hc)]

/-! ## §3. Chains of two. -/

/-- The issuer of a certificate by its name, if there is one alone. -/
def soleIssuer (certs : List X509Certificate) (c : X509Certificate) : Option X509Certificate :=
  (certs.find? fun d => decide (d.subject = c.issuer)).filter fun d =>
    certs.all fun e => decide (e.subject = c.issuer → e = d)

/-- A builder that goes from the leaf to its issuer. -/
def stepBuilder : Builder := fun certs leaf =>
  match leaf with
  | none => .error "undefined"
  | some leaf =>
      .ok (leaf :: if isSelfSigned leaf then [] else (soleIssuer certs leaf).toList)

theorem soleIssuer_eq_some_iff {certs : List X509Certificate} {c d : X509Certificate} :
    soleIssuer certs c = some d ↔
      d ∈ certs ∧ d.subject = c.issuer ∧ ∀ e ∈ certs, e.subject = c.issuer → e = d := by
  unfold soleIssuer
  rw [Option.filter_eq_some_iff, List.all_eq_true]
  simp only [decide_eq_true_eq]
  constructor
  · rintro ⟨hfind, hall⟩
    exact ⟨List.mem_of_find?_eq_some hfind, by simpa using List.find?_some hfind, hall⟩
  · rintro ⟨hmem, hsubject, hall⟩
    refine ⟨?_, hall⟩
    cases hfind : certs.find? fun d => decide (d.subject = c.issuer) with
    | none => exact absurd hsubject (by simpa using List.find?_eq_none.mp hfind d hmem)
    | some d' =>
        have hd' := List.find?_some hfind
        rw [decide_eq_true_eq] at hd'
        rw [hall d' (List.mem_of_find?_eq_some hfind) hd']

theorem stepBuilder_chainsFromSet : ChainsFromSet stepBuilder where
  leaf _ _ _ := ⟨_, rfl⟩
  set certs certs' leaf h := by
    have hissuer : ∀ c, soleIssuer certs c = soleIssuer certs' c := by
      refine fun c => Option.ext fun d => ?_
      rw [soleIssuer_eq_some_iff, soleIssuer_eq_some_iff, h]
      simp only [h]
    cases leaf with
    | none => rfl
    | some leaf =>
        unfold stepBuilder
        dsimp only
        rw [hissuer]

/-- A CA certificate. -/
def caCert (subject issuer : String) : X509Certificate :=
  ⟨subject, issuer, none, some true, 0, 100, subject⟩

/-- The issuer of a certificate has the name that it says. -/
def issuedByName (c d : X509Certificate) : Prop := d.issuer = c.subject

/-- A server certificate, pasted after its root. -/
def rootFirst : List X509Certificate :=
  [caCert "Root" "Root", ⟨"www", "Root", some "www", none, 0, 100, "www"⟩]

/-- The server certificate alone is a candidate, and the root issued it. -/
theorem oneLeaf_rootFirst : OneLeaf issuedByName rootFirst where
  one := by decide
  ends := by
    intro c hc
    obtain ⟨hmem, hissued, -⟩ := hc
    simp only [rootFirst, List.mem_cons, List.not_mem_nil, or_false] at hmem
    obtain rfl | rfl := hmem
    · exact absurd rfl (hissued ⟨"www", "Root", some "www", none, 0, 100, "www"⟩ (by decide)
        (by decide))
    · decide

/-- The chain is the same in both orders, and begins with the server certificate. -/
theorem buildChain_orderFree_server :
    ChainsFromSet stepBuilder
      ∧ OrderFree stepBuilder issuedByName 50 rootFirst
      ∧ (buildChain stepBuilder 50 rootFirst).chain.map (·.subject) = ["www", "Root"] :=
  ⟨stepBuilder_chainsFromSet,
    (buildChain_orderFree_iff stepBuilder_chainsFromSet issuedByName 50 rootFirst).mpr
      oneLeaf_rootFirst, by decide⟩

/-- An intermediate CA, pasted after its root: the chain is the root alone. -/
theorem buildChain_root_first :
    ¬∀ (build : Builder), ChainsFromSet build →
      ∀ (Issued : X509Certificate → X509Certificate → Prop) (now : Int)
        (certs : List X509Certificate), OrderFree build Issued now certs := by
  intro h
  have hfree := h stepBuilder stepBuilder_chainsFromSet issuedByName 50
    [caCert "Root" "Root", caCert "Sub" "Root"]
  have hend : OnlyEnd issuedByName [caCert "Root" "Root", caCert "Sub" "Root"]
      (caCert "Sub" "Root") := by
    refine ⟨by decide, ?_, ?_⟩
    · unfold IssuedNoOther issuedByName
      decide
    · unfold IssuedNoOther issuedByName
      decide
  exact absurd (hfree.start _ hend) (by decide)

end TLSentinel.Toolbox
