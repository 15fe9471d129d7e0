/-
The integer and string encodings of util/SerializationUtil. An encoder appends to
what is already written and fails when the buffer bound would be passed; a decoder
consumes the front of a byte range.
-/

import Wdt.Lib.VarInt

namespace Wdt

abbrev Byte := UInt8

def int64Max : Nat := 2 ^ 63 - 1

def int32Max : Nat := 2 ^ 31 - 1

variable (max : Nat)

/-- Append a word to the written bytes, unless the buffer of `max` bytes is too small. -/
def append (written word : List Byte) : Option (List Byte) :=
  if written.length + word.length ≤ max then some (written ++ word) else none

theorem append_eq_some_iff {max : Nat} {written word result : List Byte} :
    append max written word = some result ↔
      written.length + word.length ≤ max ∧ result = written ++ word := by
  unfold append
  by_cases fits : written.length + word.length ≤ max
  · rw [if_pos fits, Option.some.injEq]
    exact ⟨fun same => ⟨fits, same.symm⟩, fun both => both.2.symm⟩
  rw [if_neg fits]
  constructor
  · intro impossible
    cases impossible
  · intro both
    exact absurd both.1 fits

/-- Eight continuation bytes and a last byte of eight bits carry 64 bits. -/
def varU64 (value : Nat) : List Byte := VarInt.encode 8 value

def encodeVarU64 (value : Nat) (written : List Byte) : Option (List Byte) :=
  append max written (varU64 value)

/-- The source's check that the value is not negative is the type here. -/
def encodeVarI64C (value : Nat) (written : List Byte) : Option (List Byte) :=
  encodeVarU64 max value written

def encodeZigZag (value : Int) : Nat :=
  if 0 ≤ value then 2 * value.toNat else 2 * (-value - 1).toNat + 1

def decodeZigZag (value : Nat) : Int :=
  if value % 2 = 0 then (value / 2 : Nat) else -((value / 2 : Nat) : Int) - 1

def encodeVarI64 (value : Int) (written : List Byte) : Option (List Byte) :=
  encodeVarU64 max (encodeZigZag value) written

def encodeString (str : List Byte) (written : List Byte) : Option (List Byte) :=
  (encodeVarU64 max str.length written).bind (fun written => append max written str)

/-! ### Integers of fixed length -/

def leBytes : (count value : Nat) → List Byte
  | 0, _ => []
  | count + 1, value => UInt8.ofNat value :: leBytes count (value / 256)

def loadLittle : List Byte → Nat
  | [] => 0
  | byte :: rest => byte.toNat + 256 * loadLittle rest

variable (bytes : List Byte)

def loadSigned : Int :=
  let value := loadLittle bytes
  if 2 * value < 256 ^ bytes.length then value else (value : Int) - 256 ^ bytes.length

theorem leBytes_length (count value : Nat) : (leBytes count value).length = count := by
  induction count generalizing value with
  | zero => rfl
  | succ count ih => rw [leBytes, List.length_cons, ih]

variable {value : Nat}

theorem loadLittle_leBytes {count : Nat} (small : value < 256 ^ count) :
    loadLittle (leBytes count value) = value := by
  induction count generalizing value with
  | zero =>
    rw [leBytes, loadLittle]
    omega
  | succ count ih =>
    rw [leBytes, loadLittle, ih (by omega), UInt8.toNat_ofNat']
    omega

theorem loadLittle_lt : loadLittle bytes < 256 ^ bytes.length := by
  induction bytes with
  | nil => exact Nat.zero_lt_one
  | cons byte rest ih =>
    have small := byte.toNat_lt
    rw [loadLittle, List.length_cons, pow_succ]
    omega

theorem loadSigned_leBytes {count value : Nat} (small : 2 * value < 256 ^ count) :
    loadSigned (leBytes count value) = value := by
  unfold loadSigned
  rw [loadLittle_leBytes (by omega), leBytes_length, if_pos small]

theorem leBytes_loadLittle : leBytes bytes.length (loadLittle bytes) = bytes := by
  induction bytes with
  | nil => rfl
  | cons byte rest ih =>
    have small := byte.toNat_lt
    have low : UInt8.ofNat (byte.toNat + 256 * loadLittle rest) = byte := by
      apply UInt8.toNat_inj.mp
      rw [UInt8.toNat_ofNat']
      omega
    have high : (byte.toNat + 256 * loadLittle rest) / 256 = loadLittle rest := by
      omega
    rw [List.length_cons, loadLittle, leBytes, low, high, ih]

theorem leBytes_loadSigned {bytes : List Byte} (positive : 0 < loadSigned bytes) :
    leBytes bytes.length (loadSigned bytes).toNat = bytes := by
  have unsigned : loadSigned bytes = loadLittle bytes := by
    unfold loadSigned at positive ⊢
    by_cases small : 2 * loadLittle bytes < 256 ^ bytes.length
    · rw [if_pos small]
    rw [if_neg small] at positive
    have bounded : (loadLittle bytes : Int) < 256 ^ bytes.length := by
      exact_mod_cast loadLittle_lt bytes
    exact absurd positive (by omega)
  rw [unsigned, Int.toNat_natCast, leBytes_loadLittle]

def decodeUInt64 : Decoder Byte Nat := VarInt.decode 8

def decodeInt64C : Decoder Byte Nat := decodeUInt64.filter (fun value => decide (value ≤ int64Max))

/-- A value above the 32 bit range gives the range back; a value above the 63 bit range does
not. -/
def decodeInt32C : Decoder Byte Nat :=
  fun range =>
    match decodeInt64C range with
    | (some value, rest) => if value ≤ int32Max then (some value, rest) else (none, range)
    | (none, rest) => (none, rest)

def decodeInt64 : Decoder Byte Int := decodeUInt64.map decodeZigZag

def decodeInt32 : Decoder Byte Int :=
  fun range =>
    match decodeInt64 range with
    | (some value, rest) =>
      if value ≤ int32Max ∧ -(int32Max : Int) - 1 ≤ value then (some value, rest)
      else (none, range)
    | (none, rest) => (none, rest)

def decodeString : Decoder Byte (List Byte) := decodeUInt64.bind (fun length => Decoder.take length)

/-- A negative value is refused, after its bytes are consumed. -/
def decodeInt32FixedLength : Decoder Byte Nat :=
  (((Decoder.take 4).map loadSigned).filter (fun value => decide (0 ≤ value))).map Int.toNat

theorem fits_of_lt (small : value < 2 ^ 64) : VarInt.Fits 8 value := by
  unfold VarInt.Fits
  omega

theorem decodeUInt64_reads (small : value < 2 ^ 64) : decodeUInt64.Reads (varU64 value) value :=
  VarInt.reads_encode (fits_of_lt small)

theorem decodeInt64C_reads (small : value ≤ int64Max) :
    decodeInt64C.Reads (varU64 value) value := by
  have bounded : value < 2 ^ 64 := by
    unfold int64Max at small
    omega
  exact (decodeUInt64_reads bounded).filter (by simpa using small)

theorem decodeInt32C_reads (small : value ≤ int32Max) :
    decodeInt32C.Reads (varU64 value) value := by
  intro rest
  have bounded : value ≤ int64Max := by
    unfold int32Max at small
    unfold int64Max
    omega
  unfold decodeInt32C
  rw [decodeInt64C_reads bounded rest]
  exact if_pos small

theorem decodeZigZag_encodeZigZag (value : Int) : decodeZigZag (encodeZigZag value) = value := by
  unfold decodeZigZag encodeZigZag
  by_cases positive : 0 ≤ value
  · rw [if_pos positive, if_pos (by omega)]
    omega
  · rw [if_neg positive, if_neg (by omega)]
    omega

theorem decodeInt32_reads {value : Int} (upper : value ≤ int32Max)
    (lower : -(int32Max : Int) - 1 ≤ value) :
    decodeInt32.Reads (varU64 (encodeZigZag value)) value := by
  intro rest
  have bounded : encodeZigZag value < 2 ^ 64 := by
    unfold encodeZigZag
    unfold int32Max at upper lower
    split <;> omega
  have read : decodeInt64.Reads (varU64 (encodeZigZag value)) value := by
    simpa only [decodeZigZag_encodeZigZag, decodeInt64] using
      (decodeUInt64_reads bounded).map decodeZigZag
  unfold decodeInt32
  rw [read rest]
  exact if_pos ⟨upper, lower⟩

theorem decodeString_reads {str : List Byte} (short : str.length < 2 ^ 64) :
    decodeString.Reads (varU64 str.length ++ str) str :=
  (decodeUInt64_reads short).bind (Decoder.reads_take str)

theorem decodeInt32FixedLength_reads (small : value ≤ int32Max) :
    decodeInt32FixedLength.Reads (leBytes 4 value) value := by
  have bounded : value ≤ 2 ^ 31 - 1 := small
  have loaded := @loadSigned_leBytes 4 value (by omega)
  have taken := (Decoder.reads_take (leBytes 4 value)).map loadSigned
  rw [leBytes_length, loaded] at taken
  have kept : (((Decoder.take 4).map loadSigned).filter (fun value => decide (0 ≤ value))).Reads
      (leBytes 4 value) (value : Int) := taken.filter (decide_eq_true (by omega))
  have read := kept.map Int.toNat
  exact read

theorem decodeInt64C_yields : decodeInt64C.Yields (fun value => value ≤ int64Max) :=
  fun range value rest decoded => of_decide_eq_true
    (Decoder.yields_filter decodeUInt64 _ range value rest decoded)

theorem varU64_length_le (value : Nat) : (varU64 value).length ≤ 9 :=
  VarInt.encode_length_le 8 value

theorem varU64_length_le_of_lt {value count : Nat} (small : value < 128 ^ (count + 1)) :
    (varU64 value).length ≤ count + 1 :=
  VarInt.encode_length_le_of_lt small

theorem varU64_ne_nil (value : Nat) : varU64 value ≠ [] := VarInt.encode_ne_nil 8 value

end Wdt
