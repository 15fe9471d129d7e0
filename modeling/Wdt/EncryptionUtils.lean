/-
The ciphers of util/EncryptionUtils as the socket uses them: a context is started with
an IV, encrypts or decrypts byte after byte, and at any moment has a tag over what it
has processed. OpenSSL itself is the `Cipher` below: a byte is encrypted by its position
after the IV, and a tag is a function of the bytes since the IV.
-/

import Wdt.Lib.Transducer
import Wdt.Protocol

namespace Wdt

def kAESBlockSize : Nat := 16

abbrev AesBlock := { bytes : List Byte // bytes.length = kAESBlockSize }

/-- The encrypting types; ENC_NONE is the absence of parameters. -/
inductive EncryptionType
  | aes128Ctr | aes128Gcm
  deriving DecidableEq

def EncryptionType.toNat : EncryptionType → Nat
  | aes128Ctr => 1
  | aes128Gcm => 2

def encryptionTypeToTagLen : EncryptionType → Nat
  | .aes128Ctr => 0
  | .aes128Gcm => kAESBlockSize

structure EncryptionParams where
  type : EncryptionType
  secret : AesBlock
  deriving DecidableEq

structure Cipher where
  encryptByte : EncryptionParams → AesBlock → (position : Nat) → Byte → Byte
  decryptByte : EncryptionParams → AesBlock → (position : Nat) → Byte → Byte
  tag : EncryptionParams → AesBlock → (processed : List Byte) → AesBlock
  decryptByte_encryptByte : ∀ params iv position byte,
    decryptByte params iv position (encryptByte params iv position byte) = byte

/-- A started context: its IV and the encrypted bytes that went through it. -/
structure CipherContext where
  iv : AesBlock
  processed : List Byte := []

def CipherContext.getNumProcessed (context : CipherContext) : Nat := context.processed.length

def CipherContext.process (context : CipherContext) (encrypted : Byte) : CipherContext :=
  { context with processed := context.processed ++ [encrypted] }

namespace Cipher

variable (cipher : Cipher) (params : EncryptionParams)

def encrypt : Transducer CipherContext Byte Byte where
  step context byte :=
    let encrypted := cipher.encryptByte params context.iv context.getNumProcessed byte
    ([encrypted], context.process encrypted)

def decrypt : Transducer CipherContext Byte Byte where
  step context encrypted :=
    ([cipher.decryptByte params context.iv context.getNumProcessed encrypted],
      context.process encrypted)

theorem decrypt_undoes (cipher : Cipher) (params : EncryptionParams) :
    (cipher.decrypt params).Undoes (cipher.encrypt params) := by
  intro context byte
  let encrypted := cipher.encryptByte params context.iv context.getNumProcessed byte
  refine ⟨encrypted, context.process encrypted, rfl, ?_⟩
  change ([_], _) = _
  rw [cipher.decryptByte_encryptByte]

variable (context : CipherContext)

/-- The tag that finishing the context, or a clone of it, gives. -/
def computeCurrentTag : AesBlock :=
  cipher.tag params context.iv context.processed

/-- A finished context compares the tag only when the type has one. -/
def finish (tag : List Byte) : Bool :=
  encryptionTypeToTagLen params.type = 0 ∨ tag = (cipher.computeCurrentTag params context).val

def verifyTag (tag : List Byte) : Bool :=
  cipher.finish params context tag

end Cipher

def zeroBlock : AesBlock := ⟨List.replicate kAESBlockSize 0, List.length_replicate⟩

/-- A toy cipher: data is shifted by one, and a tag counts the bytes since the IV. -/
def shiftCipher : Cipher where
  encryptByte _ _ _ byte := byte + 1
  decryptByte _ _ _ byte := byte - 1
  tag _ _ processed := ⟨List.replicate kAESBlockSize (UInt8.ofNat processed.length),
    List.length_replicate⟩
  decryptByte_encryptByte _ _ _ byte := UInt8.add_sub_cancel byte 1

/-! ### Encryption settings -/

def kEncryptionCmdLen : Nat := 1 + 1 + 1 + kAESBlockSize + 4

def encodeInt32FixedLength (max value : Nat) (written : List Byte) : Option (List Byte) :=
  append max written (leBytes 4 value)

def encodeEncryptionSettings (max : Nat) (type : EncryptionType) (iv : List Byte)
    (tagInterval : Nat) (written : List Byte) : Option (List Byte) :=
  (encodeVarI64C max type.toNat written).bind (fun written =>
    (encodeString max iv written).bind (fun written =>
      encodeInt32FixedLength max tagInterval written))

def decodeEncryptionSettings : Decoder Byte (Nat × List Byte × Nat) :=
  decodeInt64C.bind (fun type =>
    decodeString.bind (fun iv =>
      decodeInt32FixedLength.map (fun tagInterval => (type, iv, tagInterval))))

variable (type : EncryptionType)

def encryptionFields (iv : AesBlock) (tagInterval : Nat) : List Byte :=
  varU64 type.toNat ++ ((varU64 kAESBlockSize ++ iv.val) ++ leBytes 4 tagInterval)

theorem EncryptionType.toNat_le : type.toNat ≤ 2 := by
  cases type with
  | aes128Ctr => exact Nat.le_succ 1
  | aes128Gcm => exact Nat.le_refl 2

theorem varU64_small_length {value : Nat} (small : value < 128) : (varU64 value).length = 1 := by
  have upper := @varU64_length_le_of_lt value 0 (by omega)
  have lower := List.length_pos_iff.mpr (varU64_ne_nil value)
  omega

theorem encryptionFields_length (iv : AesBlock) (tagInterval : Nat) :
    (encryptionFields type iv tagInterval).length = kEncryptionCmdLen - 1 := by
  have typeBound := type.toNat_le
  unfold encryptionFields
  rw [List.length_append, List.length_append, List.length_append, leBytes_length, iv.property,
    varU64_small_length (by omega), varU64_small_length (by decide)]
  rfl

theorem encodeEncryptionSettings_eq {max : Nat} {type : EncryptionType} {iv : AesBlock}
    {tagInterval : Nat} {written : List Byte}
    (room : written.length + kEncryptionCmdLen ≤ max + 1) :
    encodeEncryptionSettings max type iv.val tagInterval written =
      some (written ++ encryptionFields type iv tagInterval) := by
  have typeLength := @varU64_small_length type.toNat (by have := type.toNat_le; omega)
  have ivLength := @varU64_small_length kAESBlockSize (by decide)
  have value : kEncryptionCmdLen = 23 := rfl
  have block : iv.val.length = 16 := iv.property
  unfold encodeEncryptionSettings encodeVarI64C encodeString encodeInt32FixedLength encodeVarU64
  rw [iv.property]
  have first : append max written (varU64 type.toNat) = some (written ++ varU64 type.toNat) :=
    append_eq_some_iff.mpr ⟨by omega, rfl⟩
  have second : append max (written ++ varU64 type.toNat) (varU64 kAESBlockSize) =
      some (written ++ varU64 type.toNat ++ varU64 kAESBlockSize) :=
    append_eq_some_iff.mpr ⟨by rw [List.length_append]; omega, rfl⟩
  have third : append max (written ++ varU64 type.toNat ++ varU64 kAESBlockSize) iv.val =
      some (written ++ varU64 type.toNat ++ varU64 kAESBlockSize ++ iv.val) :=
    append_eq_some_iff.mpr ⟨by rw [List.length_append, List.length_append]; omega, rfl⟩
  rw [first, Option.bind_some, second, Option.bind_some, third, Option.bind_some]
  refine append_eq_some_iff.mpr ⟨?_, ?_⟩
  · rw [List.length_append, List.length_append, List.length_append, leBytes_length]
    omega
  · unfold encryptionFields
    simp only [List.append_assoc]

theorem decodeEncryptionSettings_reads {type : EncryptionType} {iv : AesBlock}
    {tagInterval : Nat} (small : tagInterval ≤ int32Max) :
    decodeEncryptionSettings.Reads (encryptionFields type iv tagInterval)
      (type.toNat, iv.val, tagInterval) := by
  have typeBound := type.toNat_le
  have readType : decodeInt64C.Reads (varU64 type.toNat) type.toNat :=
    decodeInt64C_reads (by unfold int64Max; omega)
  have readIv : decodeString.Reads (varU64 kAESBlockSize ++ iv.val) iv.val := by
    have read := @decodeString_reads iv.val (by rw [iv.property]; decide)
    rw [iv.property] at read
    exact read
  exact readType.bind (readIv.bind ((decodeInt32FixedLength_reads small).map _))

end Wdt
