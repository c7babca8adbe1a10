/-
  TLSentinel.Toolbox.CSRSubject
  ─────────────────────────────
  **THE SUBJECT OF A CERTIFICATE REQUEST, AND THE NAME THAT IT IS READ AS.**

  `generateCSR` of the CSR page writes `CN=…`, `O=…` and so on for the fields that are not
  empty, the values as they were typed, with a comma and a blank between them.  A comma in
  a value separates, and a backslash escapes what follows it.

  Main result:
    * `nameStr_carries_iff` — when the subject says what was typed.
-/
import TLSentinel.Foundation.DistinguishedNames
import TLSentinel.Foundation.Utf8

namespace TLSentinel.Toolbox

open Foundation.DistinguishedNames
open Foundation.Utf8

/-! ## §1. The subject of generateCSR. -/

/-- `fields`. -/
structure SubjectFields where
  cn : String
  o : String
  ou : String
  c : String
  st : String
  l : String
  email : String
  deriving DecidableEq, Repr

namespace SubjectFields

/-- The fields with their types, in the order of the subject. -/
def named (fields : SubjectFields) : List (String × String) :=
  [("CN", fields.cn), ("O", fields.o), ("OU", fields.ou), ("L", fields.l), ("ST", fields.st),
    ("C", fields.c), ("E", fields.email)]

/-- The fields that are not empty. -/
def filled (fields : SubjectFields) : List (String × String) :=
  fields.named.filter fun p => p.2 ≠ ""

/-- `parts`. -/
def parts (fields : SubjectFields) : List String := fields.filled.map fun p => p.1 ++ "=" ++ p.2

/-- `nameStr`. -/
def nameStr (fields : SubjectFields) : String := ", ".intercalate fields.parts

/-! ## §2. What it is read as. -/

/-- A type and a value as bytes. -/
def bytesOf (p : String × String) : List UInt8 × List UInt8 :=
  (utf8 p.1.toList, utf8 p.2.toList)

/-- The subject has one attribute for each field that is not empty, with its value, and no
other. -/
def Carries (lenient : Bool) (fields : SubjectFields) : Prop :=
  ∃ as, attributes lenient (utf8 fields.nameStr.toList) = some as ∧
    as.Perm (fields.filled.map fun p => attributeOf (bytesOf p))

theorem utf8_part (p : String × String) :
    utf8 (p.1 ++ "=" ++ p.2).toList = attributeText (bytesOf p) := by
  have hequals : "=".toList = ['='] := rfl
  rw [String.toList_append, String.toList_append, hequals, utf8_append, utf8_append,
    List.append_assoc]
  rfl

/-- The bytes of joined parts. -/
theorem utf8_intercalate (ps : List (String × String)) :
    utf8 (", ".intercalate (ps.map fun p => p.1 ++ "=" ++ p.2)).toList =
      joinText (ps.map bytesOf) := by
  have hcomma : ", ".toList = [',', ' '] := rfl
  induction ps with
  | nil => rfl
  | cons p ps ih =>
      cases ps with
      | nil =>
          rw [List.map_singleton, String.intercalate_singleton, utf8_part]
          rfl
      | cons q ps =>
          rw [List.map_cons] at ih
          rw [List.map_cons, List.map_cons, String.intercalate_cons_cons, String.toList_append,
            String.toList_append, utf8_append, utf8_append, utf8_part, hcomma, ih,
            List.append_assoc]
          rfl

theorem isDescr_of_mem_filled {fields : SubjectFields} {p : String × String}
    (hp : p ∈ fields.filled) : isDescr (bytesOf p).1 = true := by
  have htypes : (fields.named.map Prod.fst).all (fun k => isDescr (utf8 k.toList)) = true := by
    show ["CN", "O", "OU", "L", "ST", "C", "E"].all (fun k => isDescr (utf8 k.toList)) = true
    decide
  exact List.all_eq_true.mp htypes p.1 (List.mem_map_of_mem (List.mem_filter.mp hp).1)

theorem nodup_filled (fields : SubjectFields) :
    ((fields.filled.map bytesOf).map Prod.fst).Nodup := by
  have htypes : (fields.named.map Prod.fst).Nodup := by
    show ["CN", "O", "OU", "L", "ST", "C", "E"].Nodup
    decide
  have hinjective : Function.Injective fun k : String => utf8 k.toList :=
    fun k k' h => String.toList_inj.mp (utf8_injective h)
  have hsublist : (fields.filled.map Prod.fst).Sublist (fields.named.map Prod.fst) :=
    List.filter_sublist.map Prod.fst
  have hnodup := (htypes.sublist hsublist).map hinjective
  rw [List.map_map] at hnodup ⊢
  exact hnodup

/-- The subject says what was typed if the joined attributes are read back. -/
theorem carries_iff_attributes (lenient : Bool) (fields : SubjectFields) :
    fields.Carries lenient ↔ ∃ as, attributes lenient (joinText (fields.filled.map bytesOf)) =
      some as ∧ as.Perm ((fields.filled.map bytesOf).map attributeOf) := by
  unfold Carries nameStr parts
  rw [utf8_intercalate, List.map_map]
  rfl

theorem isDescr_bytesOf (fields : SubjectFields) :
    ∀ a ∈ fields.filled.map bytesOf, isDescr a.1 = true :=
  List.forall_mem_map.mpr fun _ hp => isDescr_of_mem_filled hp

theorem Carries.isPlain {lenient : Bool} {fields : SubjectFields} (h : fields.Carries lenient) :
    ∀ p ∈ fields.filled, IsPlain (utf8 p.2.toList) := by
  rw [carries_iff_attributes,
    attributes_joinText_iff lenient (isDescr_bytesOf fields) (nodup_filled fields)] at h
  exact fun p hp => h.1 (bytesOf p) (List.mem_map_of_mem hp)

/-- **When the subject says what was typed**: exactly if every value that is not empty needs
no escapes, and the reader skips the blank after a comma or there is one value at most. -/
theorem nameStr_carries_iff (lenient : Bool) (fields : SubjectFields) :
    fields.Carries lenient ↔ (∀ p ∈ fields.filled, IsPlain (utf8 p.2.toList)) ∧
      (lenient = true ∨ fields.filled.length ≤ 1) := by
  rw [carries_iff_attributes,
    attributes_joinText_iff lenient (isDescr_bytesOf fields) (nodup_filled fields),
    List.length_map, List.forall_mem_map]
  rfl

/-- A name with a comma is not read back, whether the reader skips blanks or not. -/
theorem nameStr_comma :
    ¬ Carries true { cn := "example.com", o := "Acme, Inc", ou := "", c := "", st := "", l := ""
                     email := "" } ∧
      ¬ Carries false { cn := "example.com", o := "Acme, Inc", ou := "", c := "", st := "", l := ""
                        email := "" } := by
  have hcomma : ¬ IsPlain (utf8 "Acme, Inc".toList) := fun h =>
    absurd (h.chars 0x2c (by decide)) (by decide)
  exact ⟨fun h => hcomma (h.isPlain ("O", "Acme, Inc") (by decide)),
    fun h => hcomma (h.isPlain ("O", "Acme, Inc") (by decide))⟩

end SubjectFields

end TLSentinel.Toolbox
