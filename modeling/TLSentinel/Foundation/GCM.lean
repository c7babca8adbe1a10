/-
  Foundation.GCM
  ──────────────
  **GALOIS/COUNTER MODE.**

  Authenticated encryption over a block cipher of 128 bits, with a nonce of
  twelve bytes, a tag of sixteen and no additional data.  The text is encrypted
  by the cipher's values at a counter; the tag is the GHASH of what comes out,
  masked with the cipher's value at the first counter.

  Of the block cipher nothing is assumed: it is only used in one direction.

  `aeadOpen_eq_some_iff`: exactly what was sealed is opened, as it was.
-/
import Mathlib.Data.BitVec
import Mathlib.Data.List.Basic

namespace Foundation.GCM

/-- A block; the first bit is the most significant one. -/
abbrev Block := BitVec 128

/-! ## §1. Blocks and bytes. -/

/-- The number that bytes write, the first one most significant. -/
def numberOf (bytes : List UInt8) : Nat := bytes.foldl (fun n b => n * 256 + b.toNat) 0

/-- A block of up to sixteen bytes, filled up with zeros. -/
def blockOf (bytes : List UInt8) : Block :=
  BitVec.ofNat 128 (numberOf bytes * 256 ^ (16 - bytes.length))

/-- A byte of a block. -/
def byteOf (x : Block) (i : Nat) : UInt8 := UInt8.ofNat (x.toNat / 256 ^ (15 - i))

/-- The sixteen bytes of a block. -/
def bytesOf (x : Block) : List UInt8 := (List.range 16).map (byteOf x)

/-- Bytes cut into blocks. -/
def blocksOf (bytes : List UInt8) : List Block := (bytes.toChunks 16).map blockOf

@[simp] theorem length_bytesOf (x : Block) : (bytesOf x).length = 16 := by
  unfold bytesOf
  rw [List.length_map, List.length_range]

/-! ## §2. GHASH. -/

/-- One step of the multiplication: a bit of `x`, and the multiple of `y` that it stands for. -/
def mulStep (x : Block) (zv : Block × Block) (i : Nat) : Block × Block :=
  (if x.getMsbD i then zv.1 ^^^ zv.2 else zv.1,
    if zv.2.getLsbD 0 then (zv.2 >>> 1) ^^^ (0xe1#128 <<< 120) else zv.2 >>> 1)

/-- The product in the field of 2¹²⁸ elements. -/
def mul (x y : Block) : Block := ((List.range 128).foldl (mulStep x) (0, y)).1

/-- GHASH of blocks under the key `h`. -/
def ghash (h : Block) (blocks : List Block) : Block :=
  blocks.foldl (fun y x => mul (y ^^^ x) h) 0

/-! ## §3. Sealing. -/

variable (cipher : Block → Block) (nonce : Vector UInt8 12)

/-- The nonce, and a counter of four bytes. -/
def counter (i : Nat) : Block :=
  BitVec.ofNat 128 (numberOf nonce.toList * 2 ^ 32 + i % 2 ^ 32)

/-- A byte of the key stream; the first counter is kept for the tag. -/
def streamByte (i : Nat) : UInt8 := byteOf (cipher (counter nonce (i / 16 + 2))) (i % 16)

/-- The bytes, each with its byte of the key stream. -/
def crypt (bytes : List UInt8) : List UInt8 :=
  bytes.mapIdx fun i b => b ^^^ streamByte cipher nonce i

/-- The tag of a ciphertext. -/
def tag (ciphertext : List UInt8) : List UInt8 :=
  bytesOf (ghash (cipher 0) (blocksOf ciphertext ++ [BitVec.ofNat 128 (ciphertext.length * 8)])
    ^^^ cipher (counter nonce 1))

/-- The counter is not to come round. -/
def maxLength : Nat := (2 ^ 32 - 2) * 16

/-- The ciphertext and its tag; `none` is a plaintext that is too large. -/
def aeadSeal (plaintext : List UInt8) : Option (List UInt8) :=
  if maxLength < plaintext.length then none
  else
    let ciphertext := crypt cipher nonce plaintext
    some (ciphertext ++ tag cipher nonce ciphertext)

/-- The plaintext, if the tag is that of the ciphertext before it. -/
def aeadOpen (sealed : List UInt8) : Option (List UInt8) :=
  if sealed.length < 16 then none
  else if maxLength + 16 < sealed.length then none
  else
    let ciphertext := sealed.take (sealed.length - 16)
    if sealed.drop (sealed.length - 16) = tag cipher nonce ciphertext then
      some (crypt cipher nonce ciphertext)
    else none

/-! ## §4. Exactness. -/

variable {cipher nonce}

@[simp] theorem length_crypt (bytes : List UInt8) :
    (crypt cipher nonce bytes).length = bytes.length := List.length_mapIdx

@[simp] theorem length_tag (ciphertext : List UInt8) :
    (tag cipher nonce ciphertext).length = 16 := length_bytesOf _

/-- Encrypting twice with one key stream gives the bytes back. -/
@[simp] theorem crypt_crypt (bytes : List UInt8) :
    crypt cipher nonce (crypt cipher nonce bytes) = bytes := by
  unfold crypt
  rw [List.mapIdx_mapIdx]
  apply List.ext_getElem
  · exact List.length_mapIdx
  · intro i hi hi'
    rw [List.getElem_mapIdx, Function.comp_apply, UInt8.xor_assoc, UInt8.xor_self, UInt8.xor_zero]

/-- A sealed text falls apart into its ciphertext and its tag. -/
theorem aeadOpen_append {ciphertext : List UInt8} (hlength : ciphertext.length ≤ maxLength) :
    aeadOpen cipher nonce (ciphertext ++ tag cipher nonce ciphertext) =
      some (crypt cipher nonce ciphertext) := by
  have hsize : (ciphertext ++ tag cipher nonce ciphertext).length = ciphertext.length + 16 := by
    rw [List.length_append, length_tag]
  unfold aeadOpen
  rw [hsize, if_neg (by omega), if_neg (by omega), Nat.add_sub_cancel, List.take_left,
    List.drop_left, if_pos rfl]

/-- **Exactly what was sealed is opened**, as it was. -/
theorem aeadOpen_eq_some_iff {sealed plaintext : List UInt8} :
    aeadOpen cipher nonce sealed = some plaintext ↔ aeadSeal cipher nonce plaintext = some sealed := by
  constructor
  · intro h
    unfold aeadOpen at h
    split at h
    · exact absurd h (by simp)
    · next hshort =>
        split at h
        · exact absurd h (by simp)
        · next hlong =>
            dsimp only at h
            split at h
            · next htag =>
                -- the plaintext is the ciphertext before the tag, decrypted
                obtain rfl := Option.some.inj h
                have hlength : (sealed.take (sealed.length - 16)).length = sealed.length - 16 := by
                  rw [List.length_take]
                  omega
                unfold aeadSeal
                rw [length_crypt, hlength, if_neg (by omega), crypt_crypt]
                show some (sealed.take (sealed.length - 16) ++
                  tag cipher nonce (sealed.take (sealed.length - 16))) = some sealed
                rw [← htag, List.take_append_drop]
            · exact absurd h (by simp)
  · intro h
    unfold aeadSeal at h
    split at h
    · exact absurd h (by simp)
    · next hlong =>
        obtain rfl := Option.some.inj h
        rw [aeadOpen_append (by rw [length_crypt]; omega), crypt_crypt]

/-- A known answer: sixteen zero bytes under the zero nonce and the AES cipher of the zero key,
given by its values at the three blocks that are asked for. -/
example :
    aeadSeal (fun x => if x = 0 then 0x66e94bd4ef8a2c3b884cfa59ca342b2e#128
        else if x = 1 then 0x58e2fccefa7e3061367f1d57a4e7455a#128
        else 0x0388dace60b6a392f328c2b971b2fe78#128)
      (Vector.replicate 12 0) (List.replicate 16 0) =
      some (bytesOf 0x0388dace60b6a392f328c2b971b2fe78#128
        ++ bytesOf 0xab6e47d42cec13bdf53a67b21257bddf#128) := by
  decide +kernel

end Foundation.GCM
