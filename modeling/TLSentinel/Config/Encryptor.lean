/-
  TLSentinel.Config.Encryptor
  ───────────────────────────
  **SECRETS AS THE DATABASE HOLDS THEM.**

  `internal/crypto/aes.go`, and the key that `internal/config/config.go` reads for
  it.  SMTP passwords and TOTP secrets are sealed with AES-GCM and written in
  base 64, behind the nonce they are sealed with.

  AES, GCM and base 64 are written out.  A nonce is what the random source gave,
  if it did.

  Main result: `secrets_roundTrip` — with a key that was loaded, what is encrypted
  is decrypted again, and nothing else is.
-/
import TLSentinel.Foundation.AES
import TLSentinel.Foundation.Base64
import TLSentinel.Foundation.GCM
import TLSentinel.Foundation.Utf8

namespace TLSentinel

open Foundation

/-! ## §1. The key. -/

/-- Why a key is not loaded. -/
inductive KeyError where
  /-- "not valid base64". -/
  | encoding
  /-- "must decode to 32 bytes, got %d". -/
  | size (bytes : Nat)
  deriving DecidableEq, Repr

/-- `EncryptionKeyBytes.UnmarshalText`. -/
def EncryptionKeyBytes.unmarshalText (text : List Char) : Except KeyError (List UInt8) :=
  match Base64.decodeString text with
  | none => .error .encoding
  | some decoded => if decoded.length ≠ 32 then .error (.size decoded.length) else .ok decoded

theorem EncryptionKeyBytes.length_of_unmarshalText {text : List Char} {key : List UInt8}
    (h : unmarshalText text = .ok key) : key.length = 32 := by
  unfold unmarshalText at h
  split at h
  · exact absurd h (by simp)
  · split at h
    · exact absurd h (by simp)
    · next hsize =>
        injection h with h
        exact h ▸ not_not.mp hsize

/-- Why an operation of the Encryptor fails. -/
inductive CryptoError where
  /-- `ErrNoKey`. -/
  | noKey
  /-- "aes cipher: crypto/aes: invalid key size %d". -/
  | keySize (bytes : Nat)
  /-- "nonce". -/
  | nonce
  /-- `Seal` panics: "message too large for GCM". -/
  | tooLarge
  /-- "invalid ciphertext encoding". -/
  | encoding
  /-- "ciphertext too short". -/
  | tooShort
  /-- "decryption failed (wrong key?)". -/
  | decryption
  deriving DecidableEq, Repr

/-- AES on a block. -/
def aesBlock (key : List UInt8) (x : GCM.Block) : GCM.Block :=
  GCM.blockOf ((AES.encryptBytes (key.map UInt8.toNat)
    ((GCM.bytesOf x).map UInt8.toNat)).map UInt8.ofNat)

/-- `aes.NewCipher`: keys are of 16, 24 or 32 bytes. -/
def newCipher (key : List UInt8) : Except CryptoError (GCM.Block → GCM.Block) :=
  if key.length ∈ [16, 24, 32] then .ok (aesBlock key) else .error (.keySize key.length)

theorem newCipher_eq_ok_iff {key : List UInt8} {block : GCM.Block → GCM.Block} :
    newCipher key = .ok block ↔ key.length ∈ [16, 24, 32] ∧ aesBlock key = block := by
  unfold newCipher
  by_cases h : key.length ∈ [16, 24, 32]
  · rw [if_pos h]
    simp [h]
  · rw [if_neg h]
    simp [h]

/-! ## §2. Encrypt and Decrypt. -/

/-- The nonce in front of some data. -/
def nonceOf (data : List UInt8) (h : ¬ data.length < 12) : Vector UInt8 12 :=
  ⟨(data.take 12).toArray, by rw [List.size_toArray, List.length_take]; omega⟩

/-- `Encrypt`. -/
def encryptWith (key : List UInt8) (random : Option (Vector UInt8 12))
    (plaintext : List UInt8) : Except CryptoError String :=
  match newCipher key with
  | .error e => .error e
  | .ok block =>
      match random with
      | none => .error .nonce
      | some nonce =>
          match GCM.aeadSeal block nonce plaintext with
          | none => .error .tooLarge
          | some sealed =>
              .ok (String.ofList (Base64.encodeToString (nonce.toList ++ sealed)))

/-- `Decrypt`. -/
def decryptWith (key : List UInt8) (encoded : String) :
    Except CryptoError (List UInt8) :=
  match Base64.decodeString encoded.toList with
  | none => .error .encoding
  | some data =>
      match newCipher key with
      | .error e => .error e
      | .ok block =>
          if h : data.length < 12 then .error .tooShort
          else
            match GCM.aeadOpen block (nonceOf data h) (data.drop 12) with
            | none => .error .decryption
            | some plaintext => .ok plaintext

/-- `Encryptor`; the key may be empty. -/
structure Encryptor where
  key : List UInt8
  deriving DecidableEq, Repr

namespace Encryptor

/-- `Encryptor.Encrypt`. -/
def encrypt (e : Encryptor) (random : Option (Vector UInt8 12))
    (plaintext : List UInt8) : Except CryptoError String :=
  if e.key.length = 0 then .error .noKey else encryptWith e.key random plaintext

/-- `Encryptor.Decrypt`. -/
def decrypt (e : Encryptor) (encoded : String) : Except CryptoError (List UInt8) :=
  if e.key.length = 0 then .error .noKey else decryptWith e.key encoded

end Encryptor

/-! ## §3. What is decrypted. -/

theorem nonceOf_append (nonce : Vector UInt8 12) (sealed : List UInt8)
    (h : ¬ (nonce.toList ++ sealed).length < 12) :
    nonceOf (nonce.toList ++ sealed) h = nonce := by
  have htake : (nonce.toList ++ sealed).take 12 = nonce.toList := by
    rw [List.take_append_of_le_length (by simp), List.take_of_length_le (by simp)]
  apply Vector.toList_inj.mp
  show ((nonce.toList ++ sealed).take 12) = nonce.toList
  exact htake

theorem toList_nonceOf {data : List UInt8} (h : ¬ data.length < 12) :
    (nonceOf data h).toList = data.take 12 := rfl

/-- What is written: the nonce, and the text sealed with it, in base 64. -/
theorem encryptWith_eq_ok_iff {key plaintext : List UInt8} {nonce : Vector UInt8 12}
    {written : String} :
    encryptWith key (some nonce) plaintext = .ok written ↔
      key.length ∈ [16, 24, 32] ∧ ∃ sealed, GCM.aeadSeal (aesBlock key) nonce plaintext = some sealed
        ∧ written = String.ofList (Base64.encodeToString (nonce.toList ++ sealed)) := by
  unfold encryptWith
  by_cases hkey : key.length ∈ [16, 24, 32]
  · rw [newCipher_eq_ok_iff.mpr ⟨hkey, rfl⟩]
    cases hseal : GCM.aeadSeal (aesBlock key) nonce plaintext with
    | none => simp [hseal]
    | some sealed => simp [hseal, hkey, eq_comm]
  · have hcipher : newCipher key = .error (.keySize key.length) := if_neg hkey
    simp [hcipher, hkey]

/-- What is read: a nonce and a text sealed with it. -/
theorem decryptWith_eq_ok_iff {key plaintext : List UInt8} {encoded : String} :
    decryptWith key encoded = .ok plaintext ↔
      key.length ∈ [16, 24, 32] ∧ ∃ nonce sealed,
        GCM.aeadSeal (aesBlock key) nonce plaintext = some sealed
        ∧ Base64.decodeString encoded.toList = some (nonce.toList ++ sealed) := by
  unfold decryptWith
  cases hdata : Base64.decodeString encoded.toList with
  | none => simp
  | some data =>
      by_cases hkey : key.length ∈ [16, 24, 32]
      · rw [newCipher_eq_ok_iff.mpr ⟨hkey, rfl⟩]
        by_cases hshort : data.length < 12
        · -- there is no nonce
          refine iff_of_false (by simp [hshort]) ?_
          rintro ⟨_, nonce, sealed, _, hsplit⟩
          rw [Option.some.inj hsplit, List.length_append, Vector.length_toList] at hshort
          omega
        · have hopen : (∃ nonce sealed, GCM.aeadSeal (aesBlock key) nonce plaintext = some sealed
              ∧ some data = some (nonce.toList ++ sealed)) ↔
              GCM.aeadOpen (aesBlock key) (nonceOf data hshort) (data.drop 12) = some plaintext := by
            rw [GCM.aeadOpen_eq_some_iff]
            constructor
            · intro h
              obtain ⟨nonce, sealed, hseal, hsplit⟩ := h
              obtain rfl := Option.some.inj hsplit
              rw [nonceOf_append, List.drop_append_of_le_length (by simp),
                List.drop_of_length_le (by simp), List.nil_append, hseal]
            · intro h
              refine ⟨nonceOf data hshort, data.drop 12, h, ?_⟩
              rw [toList_nonceOf, List.take_append_drop]
          rw [hopen]
          cases hplain : GCM.aeadOpen (aesBlock key) (nonceOf data hshort) (data.drop 12) with
          | none => simp [hshort, hplain]
          | some bytes => simp [hshort, hplain, hkey]
      · have hcipher : newCipher key = .error (.keySize key.length) := if_neg hkey
        simp [hcipher, hkey]

namespace Encryptor

/-- **What is decrypted**: what reads in base 64 as what is written for the plaintext, with
some nonce. -/
theorem decrypt_eq_ok_iff {e : Encryptor} {encoded : String}
    {plaintext : List UInt8} :
    e.decrypt encoded = .ok plaintext ↔
      ∃ nonce written, e.encrypt (some nonce) plaintext = .ok written
        ∧ Base64.decodeString encoded.toList = Base64.decodeString written.toList := by
  unfold decrypt encrypt
  by_cases hkey : e.key.length = 0
  · simp [hkey]
  · simp only [if_neg hkey, decryptWith_eq_ok_iff, encryptWith_eq_ok_iff]
    constructor
    · intro h
      obtain ⟨hsize, nonce, sealed, hseal, hdata⟩ := h
      refine ⟨nonce, _, ⟨hsize, sealed, hseal, rfl⟩, ?_⟩
      rw [hdata, String.toList_ofList, Base64.decodeString_encodeToString]
    · intro h
      obtain ⟨nonce, written, ⟨hsize, sealed, hseal, rfl⟩, hdata⟩ := h
      refine ⟨hsize, nonce, sealed, hseal, ?_⟩
      rw [hdata, String.toList_ofList, Base64.decodeString_encodeToString]

/-- **What was encrypted is decrypted.** -/
theorem decrypt_encrypt {e : Encryptor} {random : Option (Vector UInt8 12)}
    {plaintext : List UInt8} {written : String}
    (h : e.encrypt random plaintext = .ok written) :
    e.decrypt written = .ok plaintext := by
  cases random with
  | none =>
      unfold encrypt encryptWith at h
      split at h
      · exact absurd h (by simp)
      · cases hcipher : newCipher e.key with
        | error _ => simp [hcipher] at h
        | ok _ => simp [hcipher] at h
  | some nonce => exact decrypt_eq_ok_iff.mpr ⟨nonce, written, h, rfl⟩

/-- With a key that was loaded, nothing but the size of the text keeps it from being encrypted. -/
theorem exists_encrypt {text : List Char} {key : List UInt8}
    (hkey : EncryptionKeyBytes.unmarshalText text = .ok key) (nonce : Vector UInt8 12)
    {plaintext : List UInt8} (hlength : plaintext.length ≤ GCM.maxLength) :
    ∃ written, (Encryptor.mk key).encrypt (some nonce) plaintext = .ok written := by
  have hsize := EncryptionKeyBytes.length_of_unmarshalText hkey
  have hseal : ∃ sealed, GCM.aeadSeal (aesBlock key) nonce plaintext = some sealed := by
    unfold GCM.aeadSeal
    rw [if_neg (by omega)]
    exact ⟨_, rfl⟩
  obtain ⟨sealed, hseal⟩ := hseal
  refine ⟨String.ofList (Base64.encodeToString (nonce.toList ++ sealed)), ?_⟩
  unfold encrypt
  rw [if_neg (show ¬ key.length = 0 by omega), encryptWith_eq_ok_iff]
  exact ⟨by simp [hsize], sealed, hseal, rfl⟩

end Encryptor

/-- **Secrets come back**: with a key that was loaded, a text of up to 64 GiB is encrypted
whatever the nonce, what is written is decrypted to it, and a text is decrypted to it only if it
reads in base 64 as something written for it. -/
theorem secrets_roundTrip {text : List Char} {key : List UInt8}
    (hkey : EncryptionKeyBytes.unmarshalText text = .ok key) (plaintext : List UInt8) :
    (plaintext.length ≤ GCM.maxLength → ∀ nonce, ∃ written,
      (Encryptor.mk key).encrypt (some nonce) plaintext = .ok written
        ∧ (Encryptor.mk key).decrypt written = .ok plaintext)
    ∧ ∀ encoded, (Encryptor.mk key).decrypt encoded = .ok plaintext ↔
        ∃ nonce written, (Encryptor.mk key).encrypt (some nonce) plaintext = .ok written
          ∧ Base64.decodeString encoded.toList = Base64.decodeString written.toList := by
  refine ⟨fun hlength nonce => ?_, fun encoded => Encryptor.decrypt_eq_ok_iff⟩
  obtain ⟨written, hwritten⟩ := Encryptor.exists_encrypt hkey nonce hlength
  exact ⟨written, hwritten, Encryptor.decrypt_encrypt hwritten⟩

/-- The key of 32 zero bytes, as `UnmarshalText` reads it. -/
theorem unmarshalText_zeros :
    EncryptionKeyBytes.unmarshalText (Base64.encodeToString (List.replicate 32 0)) =
      .ok (List.replicate 32 0) := by
  unfold EncryptionKeyBytes.unmarshalText
  rw [Base64.decodeString_encodeToString]
  rfl

theorem secrets_roundTrip_zeros :
    ∃ written, (Encryptor.mk (List.replicate 32 0)).encrypt (some (Vector.replicate 12 7))
          (Utf8.utf8 ['s', 'e', 'c', 'r', 'e', 't']) = .ok written
      ∧ (Encryptor.mk (List.replicate 32 0)).decrypt written =
          .ok (Utf8.utf8 ['s', 'e', 'c', 'r', 'e', 't']) :=
  (secrets_roundTrip unmarshalText_zeros
    (Utf8.utf8 ['s', 'e', 'c', 'r', 'e', 't'])).1 (by decide) _

end TLSentinel
