/-
  TLSentinel.Users.RecoveryCodeFormat
  ───────────────────────────────────
  **A RECOVERY CODE MAY BE RETYPED IN ANY FORMAT, AND STAYS THE CODE THAT IT IS.**

  `generateRecoveryCode` of `internal/totp/recovery.go` encodes ten random bytes in base 32
  and writes a dash before every fourth character.  `NormalizeRecoveryCode` trims white
  space, drops dashes and blanks and uppercases; what it makes of a code is hashed
  (`rotateRecoveryCodes` of `internal/users/totp_handler.go`), and what it makes of the
  user's input is compared with the hash.

  Main results:
    * `normalizeRecoveryCode_of_retypes` — every way to retype a code is normalised alike;
    * `recoveryCode_entry`               — so it is the code, and of no other value.
-/
import Mathlib.Data.List.TakeWhile
import TLSentinel.Foundation.Base32
import TLSentinel.Users.Store

namespace TLSentinel.Users

open Foundation

/-! ## §1. White space. -/

/-- Who does not look at white space does not see that it is trimmed. -/
theorem filter_trimSpace {keep : Char → Bool} {s : String}
    (h : ∀ c ∈ s.toList, isSpace c = true → keep c = false) :
    (trimSpace s).toList.filter keep = s.toList.filter keep := by
  have hdrop : ∀ chars : List Char, (∀ c ∈ chars, isSpace c = true → keep c = false) →
      (chars.dropWhile isSpace).filter keep = chars.filter keep := by
    intro chars hchars
    have hprefix : (chars.takeWhile isSpace).filter keep = [] := by
      refine List.filter_eq_nil_iff.mpr fun c hc => ?_
      simp [hchars c ((List.takeWhile_prefix _).subset hc) (List.mem_takeWhile_imp hc)]
    conv_rhs => rw [← List.takeWhile_append_dropWhile (p := isSpace) (l := chars)]
    rw [List.filter_append, hprefix, List.nil_append]
  unfold trimSpace
  rw [String.toList_ofList, List.filter_reverse, hdrop, ← List.filter_reverse,
    List.reverse_reverse, hdrop _ h]
  intro c hc
  exact h c ((List.dropWhile_suffix _).subset (List.mem_reverse.mp hc))

/-! ## §2. Generating a code. -/

/-- The ten bytes that `rand.Read` fills. -/
abbrev RecoveryCodeBytes := Vector Base32.Byte 10

/-- `base32.StdEncoding.WithPadding(base32.NoPadding).EncodeToString`. -/
def encodeToString (buf : RecoveryCodeBytes) : String := String.ofList (Base32.encode buf.toList)

/-- What the loop writes for the character at a place. -/
def writeGrouped (p : Char × Nat) : List Char :=
  if p.2 > 0 ∧ p.2 % 4 = 0 then ['-', p.1] else [p.1]

/-- The loop of `generateRecoveryCode`. -/
def formatCode (enc : String) : String := String.ofList (enc.toList.zipIdx.flatMap writeGrouped)

/-- `generateRecoveryCode`; `none` is an error of the random source. -/
def generateRecoveryCode (read : Option RecoveryCodeBytes) : Option String :=
  read.map fun buf => formatCode (encodeToString buf)

/-! ## §3. Retyping it. -/

/-- The characters `typed` are the characters of a code with dashes left out, blanks and
dashes put in, and letters in the other case. -/
inductive Retyped : List Char → List Char → Prop
  | nil : Retyped [] []
  | leaveOut {code typed : List Char} : Retyped code typed → Retyped ('-' :: code) typed
  | putIn {code typed : List Char} (d : Char) :
      d = ' ' ∨ d = '-' → Retyped code typed → Retyped code (d :: typed)
  | type {code typed : List Char} (c d : Char) :
      d.toUpper = c.toUpper → Retyped code typed → Retyped (c :: code) (d :: typed)

/-- The same with white space at the two ends. -/
def Retypes (code s : String) : Prop :=
  ∃ left typed right : List Char, (∀ c ∈ left, isSpace c = true) ∧
    (∀ c ∈ right, isSpace c = true) ∧ Retyped code.toList typed ∧
    s = String.ofList (left ++ typed ++ right)

/-! ## §4. What is kept of a text. -/

/-- The characters of a code: a dash, and those of the alphabet. -/
def codeChars : List Char := '-' :: Base32.alphabet

/-- The character is neither blank nor dash. -/
def kept (c : Char) : Bool := decide (c ≠ ' ') && decide (c ≠ '-')

theorem normalizeRecoveryCode_eq (X : Externals) (s : String) :
    normalizeRecoveryCode X s =
      String.ofList (((trimSpace s).toList.filter kept).map X.upperRune) := by
  unfold normalizeRecoveryCode toUpper removeRune
  rw [String.toList_ofList, String.toList_ofList, List.filter_filter]
  rfl

/-- A character of a code is ASCII, no white space and no small letter. -/
theorem codeChar_facts {c : Char} (hc : c ∈ codeChars) :
    c.toUpper = c ∧ c.toNat < 128 ∧ isSpace c = false := by
  have hself : codeChars.all (fun c => decide (c.toUpper = c)) = true := by decide
  have hlt : codeChars.all (fun c => decide (c.toNat < 128)) = true := by decide
  have hspace : codeChars.all (fun c => !isSpace c) = true := by decide
  exact ⟨of_decide_eq_true (List.all_eq_true.mp hself c hc),
    of_decide_eq_true (List.all_eq_true.mp hlt c hc),
    (Bool.not_eq_true' _).mp (List.all_eq_true.mp hspace c hc)⟩

/-- No letter is uppercased to a dash. -/
theorem toUpper_ne_dash {d : Char} (hlower : 'a'.val ≤ d.val ∧ d.val ≤ 'z'.val) :
    d.toUpper ≠ '-' := by
  intro h
  have hval := congrArg Char.val h
  unfold Char.toUpper at hval
  rw [dif_pos hlower] at hval
  -- the letter would have to be 'M'
  have hd : d.val = '-'.val - ('A'.val - 'a'.val) := by
    rw [← hval, UInt32.add_sub_cancel]
  rw [hd] at hlower
  exact absurd hlower.1 (by decide)

/-- A character that is typed for one of a code is that one, or a small letter. -/
theorem typed_cases {c d : Char} (hc : c ∈ codeChars) (h : d.toUpper = c.toUpper) :
    d = c ∨ (97 ≤ d.toNat ∧ d.toNat ≤ 122 ∧ c ≠ '-') := by
  rw [(codeChar_facts hc).1] at h
  by_cases hlower : 'a'.val ≤ d.val ∧ d.val ≤ 'z'.val
  · refine Or.inr ⟨hlower.1, hlower.2, ?_⟩
    rintro rfl
    exact toUpper_ne_dash hlower h
  · refine Or.inl (Eq.trans ?_ h)
    unfold Char.toUpper
    rw [dif_neg hlower]

/-- What is typed for a character of a code is kept if that one is, and is no white space. -/
theorem kept_typed {c d : Char} (hc : c ∈ codeChars) (h : d.toUpper = c.toUpper) :
    kept d = kept c ∧ isSpace d = false ∧ d.toNat < 128 := by
  obtain ⟨-, hlt, hspace⟩ := codeChar_facts hc
  obtain rfl | ⟨hlow, hhigh, hdash⟩ := typed_cases hc h
  · exact ⟨rfl, hspace, hlt⟩
  · have hne : ∀ e : Char, e.toNat < 97 → d ≠ e := by
      rintro e he rfl
      omega
    have hblank : c ≠ ' ' := by
      rintro rfl
      cases hspace
    refine ⟨?_, ?_, by omega⟩
    · simp [kept, hne ' ' (by decide), hne '-' (by decide), hdash, hblank]
    · unfold isSpace
      rw [Bool.or_eq_false_iff, Bool.and_eq_false_iff]
      refine ⟨decide_eq_false fun hmem => ?_, Or.inl (decide_eq_false (by omega))⟩
      simp only [List.mem_cons, List.not_mem_nil, or_false] at hmem
      omega

variable {X : Externals} {code typed : List Char}

/-- **Every way to retype a code** keeps its characters but for their case, and has no other
white space than blanks. -/
theorem retyped_kept (hupper : ∀ c, c.toNat < 128 → X.upperRune c = c.toUpper)
    (hcode : ∀ c ∈ code, c ∈ codeChars) (h : Retyped code typed) :
    (typed.filter kept).map X.upperRune = (code.filter kept).map X.upperRune ∧
      ∀ d ∈ typed, isSpace d = true → kept d = false := by
  induction h with
  | nil => exact ⟨rfl, fun d hd => absurd hd List.not_mem_nil⟩
  | leaveOut _ ih => exact ih fun c hc => hcode c (List.mem_cons_of_mem _ hc)
  | putIn d hd _ ih =>
      obtain ⟨hkept, hspace⟩ := ih hcode
      have hnot : kept d = false := by
        obtain rfl | rfl := hd <;> rfl
      refine ⟨?_, fun e he => ?_⟩
      · rw [List.filter_cons_of_neg (by simp [hnot]), hkept]
      · obtain rfl | he := List.mem_cons.mp he
        · exact fun _ => hnot
        · exact hspace e he
  | @type code typed c d hcase _ ih =>
      obtain ⟨hkept, hspace⟩ := ih fun c hc => hcode c (List.mem_cons_of_mem _ hc)
      have hc := hcode c List.mem_cons_self
      obtain ⟨hsame, hno, hlt⟩ := kept_typed hc hcase
      refine ⟨?_, fun e he => ?_⟩
      · have hup : X.upperRune d = X.upperRune c := by
          rw [hupper d hlt, hupper c (codeChar_facts hc).2.1, hcase]
        cases hk : kept c with
        | false =>
            rw [List.filter_cons_of_neg (by simp [hsame, hk]),
              List.filter_cons_of_neg (by simp [hk]), hkept]
        | true =>
            rw [List.filter_cons_of_pos (hsame.trans hk), List.filter_cons_of_pos hk,
              List.map_cons, List.map_cons, hup, hkept]
      · obtain rfl | he := List.mem_cons.mp he
        · intro hsp
          rw [hno] at hsp
          cases hsp
        · exact hspace e he

/-! ## §5. The characters of a code. -/

/-- Dashes are all that the loop adds. -/
theorem filter_kept_grouped (chars : List Char) :
    ∀ i, ((chars.zipIdx i).flatMap writeGrouped).filter kept = chars.filter kept := by
  induction chars with
  | nil =>
      intro i
      rfl
  | cons c chars ih =>
      intro i
      have hgroup : (writeGrouped (c, i)).filter kept = [c].filter kept := by
        unfold writeGrouped
        split <;> rfl
      rw [List.zipIdx_cons, List.flatMap_cons, List.filter_append, ih, hgroup,
        ← List.filter_append]
      rfl

theorem mem_codeChars_of_mem_formatCode {buf : RecoveryCodeBytes} :
    ∀ c ∈ (formatCode (encodeToString buf)).toList, c ∈ codeChars := by
  intro c hc
  unfold formatCode encodeToString at hc
  rw [String.toList_ofList, String.toList_ofList] at hc
  obtain ⟨p, hp, hc⟩ := List.mem_flatMap.mp hc
  have hmem : p.1 ∈ Base32.alphabet :=
    Base32.mem_alphabet_of_mem_encode (List.fst_mem_of_mem_zipIdx hp)
  unfold writeGrouped at hc
  split at hc
  · obtain rfl | hc := List.mem_cons.mp hc
    · exact List.mem_cons_self
    · exact List.mem_cons_of_mem _ (List.mem_singleton.mp hc ▸ hmem)
  · exact List.mem_cons_of_mem _ (List.mem_singleton.mp hc ▸ hmem)

/-- The characters of the alphabet are kept, as they are. -/
theorem kept_of_mem_alphabet {c : Char} (hc : c ∈ Base32.alphabet) : kept c = true := by
  have hall : Base32.alphabet.all kept = true := by decide
  exact List.all_eq_true.mp hall c hc

/-- What is kept of a code is the text. -/
theorem map_upper_filter_formatCode (hupper : ∀ c, c.toNat < 128 → X.upperRune c = c.toUpper)
    (buf : RecoveryCodeBytes) :
    ((formatCode (encodeToString buf)).toList.filter kept).map X.upperRune =
      Base32.encode buf.toList := by
  unfold formatCode encodeToString
  rw [String.toList_ofList, String.toList_ofList, filter_kept_grouped, List.filter_eq_self.mpr]
  · conv_rhs => rw [← List.map_id (Base32.encode buf.toList)]
    refine List.map_congr_left fun c hc => ?_
    obtain ⟨hself, hlt, -⟩ := codeChar_facts
      (List.mem_cons_of_mem '-' (Base32.mem_alphabet_of_mem_encode hc))
    exact (hupper c hlt).trans hself
  · exact fun c hc => kept_of_mem_alphabet (Base32.mem_alphabet_of_mem_encode hc)

/-! ## §6. Entering a code. -/

/-- **Every way to retype a code** is normalised to its unpadded base 32 text. -/
theorem normalizeRecoveryCode_of_retypes
    (hupper : ∀ c, c.toNat < 128 → X.upperRune c = c.toUpper) {buf : RecoveryCodeBytes}
    {s : String} (h : Retypes (formatCode (encodeToString buf)) s) :
    normalizeRecoveryCode X s = encodeToString buf := by
  obtain ⟨left, typed, right, hleft, hright, hretyped, rfl⟩ := h
  obtain ⟨hkept, hspace⟩ := retyped_kept hupper mem_codeChars_of_mem_formatCode hretyped
  rw [normalizeRecoveryCode_eq, trimSpace_surround hleft hright, filter_trimSpace,
    String.toList_ofList, hkept, map_upper_filter_formatCode hupper]
  · rfl
  · rwa [String.toList_ofList]

/-- A code is one of the ways to retype it. -/
theorem retypes_self (code : String) : Retypes code code := by
  have hself : ∀ chars : List Char, Retyped chars chars := by
    intro chars
    induction chars with
    | nil => exact .nil
    | cons c chars ih => exact .type c c rfl ih
  refine ⟨[], code.toList, [], ?_, ?_, hself _, ?_⟩
  · exact fun c hc => absurd hc List.not_mem_nil
  · exact fun c hc => absurd hc List.not_mem_nil
  · rw [List.nil_append, List.append_nil, String.ofList_toList]

theorem encodeToString_injective : Function.Injective encodeToString := by
  intro buf buf' h
  exact Vector.toList_inj.mp (Base32.encode_injective (String.ofList_inj.mp h))

/-- **Entering a recovery code**: what is typed for a code is normalised as the code is, to
its base 32 text, and codes of two values to two texts. -/
theorem recoveryCode_entry (X : Externals)
    (hupper : ∀ c, c.toNat < 128 → X.upperRune c = c.toUpper) :
    (∀ buf code s, generateRecoveryCode (some buf) = some code → Retypes code s →
      normalizeRecoveryCode X s = normalizeRecoveryCode X code ∧
        normalizeRecoveryCode X code = encodeToString buf) ∧
      ∀ buf buf' code code', generateRecoveryCode (some buf) = some code →
        generateRecoveryCode (some buf') = some code' → buf ≠ buf' →
          normalizeRecoveryCode X code ≠ normalizeRecoveryCode X code' := by
  have hcode : ∀ buf, normalizeRecoveryCode X (formatCode (encodeToString buf)) =
      encodeToString buf := fun buf => normalizeRecoveryCode_of_retypes hupper (retypes_self _)
  constructor
  · intro buf code s hgen hretypes
    obtain rfl := Option.some.inj hgen
    rw [normalizeRecoveryCode_of_retypes hupper hretypes, hcode]
    exact ⟨rfl, rfl⟩
  · intro buf buf' code code' hgen hgen' hne heq
    obtain rfl := Option.some.inj hgen
    obtain rfl := Option.some.inj hgen'
    rw [hcode, hcode] at heq
    exact hne (encodeToString_injective heq)

/-- Ten bytes, all zero but the first one. -/
def startingWith (b : Base32.Byte) : RecoveryCodeBytes := #v[b, 0, 0, 0, 0, 0, 0, 0, 0, 0]

/-- A code in small letters, with a blank for one dash and without another. -/
theorem retypes_zeros : Retypes "AAAA-AAAA-AAAA-AAAA" "\taaaa AAAA-AAAAAAAA" := by
  refine ⟨['\t'], "aaaa AAAA-AAAAAAAA".toList, [], List.forall_mem_singleton.mpr rfl, nofun, ?_,
    by decide⟩
  have hsame : ∀ {code typed : List Char}, Retyped code typed →
      Retyped ('A' :: 'A' :: 'A' :: 'A' :: code) ('A' :: 'A' :: 'A' :: 'A' :: typed) :=
    fun h => .type _ _ rfl (.type _ _ rfl (.type _ _ rfl (.type _ _ rfl h)))
  have hsmall : ∀ {code typed : List Char}, Retyped code typed →
      Retyped ('A' :: 'A' :: 'A' :: 'A' :: code) ('a' :: 'a' :: 'a' :: 'a' :: typed) :=
    fun h => .type _ _ (by decide) (.type _ _ (by decide) (.type _ _ (by decide)
      (.type _ _ (by decide) h)))
  have hcode : "AAAA-AAAA-AAAA-AAAA".toList = ['A', 'A', 'A', 'A', '-', 'A', 'A', 'A', 'A', '-',
      'A', 'A', 'A', 'A', '-', 'A', 'A', 'A', 'A'] := by decide
  have htyped : "aaaa AAAA-AAAAAAAA".toList = ['a', 'a', 'a', 'a', ' ', 'A', 'A', 'A', 'A', '-',
      'A', 'A', 'A', 'A', 'A', 'A', 'A', 'A'] := by decide
  rw [hcode, htyped]
  exact hsmall (.leaveOut (.putIn ' ' (Or.inl rfl) (hsame (.type '-' '-' rfl (hsame
    (.leaveOut (hsame .nil)))))))

/-- It is the code of ten zeros, and not that of another value. -/
theorem recoveryCode_entry_zeros :
    (normalizeRecoveryCode plainExternals "\taaaa AAAA-AAAAAAAA" =
        normalizeRecoveryCode plainExternals "AAAA-AAAA-AAAA-AAAA" ∧
      normalizeRecoveryCode plainExternals "AAAA-AAAA-AAAA-AAAA" =
        encodeToString (startingWith 0)) ∧
      normalizeRecoveryCode plainExternals "AAAA-AAAA-AAAA-AAAA" ≠
        normalizeRecoveryCode plainExternals "BAAA-AAAA-AAAA-AAAA" := by
  obtain ⟨hentry, hdiffer⟩ := recoveryCode_entry plainExternals fun _ _ => rfl
  exact ⟨hentry (startingWith 0) _ _ (by decide) retypes_zeros,
    hdiffer (startingWith 0) (startingWith 8) _ _ (by decide) (by decide) (by decide)⟩

end TLSentinel.Users
