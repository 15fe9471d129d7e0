/-
The loops of util/SerializationUtil.h on 64 bit words, and the bit operations of its zigzag
forms: they compute the arithmetic that the model of the messages is built on.
-/

import Wdt.SerializationUtil

namespace Wdt.VarIntLoops

def continuationByte (v : UInt64) : Byte := (0x80 ||| (v &&& 0x7f)).toUInt8

/-- `encodeVarU64` onto a string; `left` turns of the loop are left of eight. -/
def encodeOnto : (left : Nat) → (v : UInt64) → (buffer : List Byte) → List Byte
  | 0, v, buffer => buffer ++ [v.toUInt8]
  | left + 1, v, buffer =>
    if 128 ≤ v then encodeOnto left (v >>> 7) (buffer ++ [continuationByte v])
    else buffer ++ [v.toUInt8]

/-- `encodeVarU64` into a buffer with `room` bytes between `p` and its end, which each store
checks: the bytes from the first `p` on. -/
def encodeInto : (left : Nat) → (v : UInt64) → (room : Nat) → Option (List Byte)
  | _, _, 0 => none
  | 0, v, _ + 1 => some [v.toUInt8]
  | left + 1, v, room + 1 =>
    if 128 ≤ v then (encodeInto left (v >>> 7) room).map (continuationByte v :: ·)
    else some [v.toUInt8]

variable (v : UInt64)

theorem toUInt8_eq : v.toUInt8 = UInt8.ofNat v.toNat := by
  apply UInt8.toNat_inj.mp
  rw [UInt64.toNat_toUInt8, UInt8.toNat_ofNat']

theorem shift_toNat : (v >>> 7).toNat = v.toNat / 128 := by
  exact Nat.shiftRight_eq_div_pow _ 7

theorem continuationByte_eq : continuationByte v = UInt8.ofNat (128 + v.toNat % 128) := by
  have low : v.toNat &&& 127 = v.toNat % 128 := Nat.and_two_pow_sub_one_eq_mod _ 7
  have both : 128 ||| v.toNat % 128 = 128 + v.toNat % 128 :=
    (@Nat.two_pow_add_eq_or_of_lt 7 (v.toNat % 128) (Nat.mod_lt _ (by decide)) 1).symm
  unfold continuationByte
  change UInt8.ofNat (128 ||| (v.toNat &&& 127)) = _
  rw [low, both]

theorem encodeOnto_eq (left : Nat) (v : UInt64) (buffer : List Byte) :
    encodeOnto left v buffer = buffer ++ VarInt.encode left v.toNat := by
  induction left generalizing v buffer with
  | zero => rw [encodeOnto, VarInt.encode, toUInt8_eq]
  | succ left ih =>
    have same : 128 ≤ v ↔ 128 ≤ v.toNat := UInt64.le_iff_toNat_le
    rw [encodeOnto, VarInt.encode, ih, shift_toNat, continuationByte_eq, toUInt8_eq,
      List.append_assoc]
    simp only [same]
    split <;> rfl

theorem encodeInto_eq (left : Nat) (v : UInt64) (room : Nat) :
    encodeInto left v room =
      if (VarInt.encode left v.toNat).length ≤ room then some (VarInt.encode left v.toNat)
      else none := by
  have nonempty := List.length_pos_of_ne_nil (VarInt.encode_ne_nil left v.toNat)
  induction left generalizing v room with
  | zero =>
    cases room with
    | zero => exact (if_neg (by omega)).symm
    | succ room =>
      exact (if_pos (Nat.le_add_left 1 room)).symm
  | succ left ih =>
    cases room with
    | zero => exact (if_neg (by omega)).symm
    | succ room =>
      have same : 128 ≤ v ↔ 128 ≤ v.toNat := UInt64.le_iff_toNat_le
      have rest := ih (v >>> 7) room (List.length_pos_of_ne_nil (VarInt.encode_ne_nil _ _))
      rw [shift_toNat] at rest
      rw [encodeInto, VarInt.encode, rest, continuationByte_eq, toUInt8_eq]
      by_cases continues : 128 ≤ v.toNat
      · rw [if_pos (same.mpr continues), if_pos continues]
        simp only [List.length_cons, Nat.add_le_add_iff_right]
        split <;> rfl
      · rw [if_neg (mt same.mp continues), if_neg continues]
        exact (if_pos (Nat.le_add_left 1 room)).symm

/-! ### The decoder -/

/-- `decodeVarU64`, with `left` turns of the loop left. A `char` above 127 that is not a
continuation byte is the ninth one, and then the shift drops what its sign adds. -/
def decodeFrom : (left shift : Nat) → (val : UInt64) → List Byte → Option (UInt64 × List Byte)
  | _, _, _, [] => none
  | 0, shift, val, byte :: rest => some (val ||| (byte.toUInt64 <<< UInt64.ofNat shift), rest)
  | left + 1, shift, val, byte :: rest =>
    if byte &&& 0x80 ≠ 0 then
      decodeFrom left (shift + 7) (val ||| ((byte &&& 0x7f).toUInt64 <<< UInt64.ofNat shift)) rest
    else some (val ||| (byte.toUInt64 <<< UInt64.ofNat shift), rest)

theorem or_shifted {val bits : UInt64} {shift width : Nat} (small : val.toNat < 2 ^ shift)
    (narrow : bits.toNat < 2 ^ width) (fits : shift + width ≤ 64) (within : shift < 64) :
    (val ||| (bits <<< UInt64.ofNat shift)).toNat = val.toNat + 2 ^ shift * bits.toNat := by
  have inside : 2 ^ shift * bits.toNat < 2 ^ 64 := by
    calc 2 ^ shift * bits.toNat < 2 ^ shift * 2 ^ width :=
          Nat.mul_lt_mul_of_pos_left narrow (Nat.two_pow_pos shift)
      _ = 2 ^ (shift + width) := (Nat.pow_add 2 shift width).symm
      _ ≤ 2 ^ 64 := Nat.pow_le_pow_right (by decide) fits
  have amount : (UInt64.ofNat shift).toNat % 64 = shift := by
    rw [UInt64.toNat_ofNat']
    omega
  rw [UInt64.toNat_or, UInt64.toNat_shiftLeft, amount, Nat.shiftLeft_eq, Nat.mul_comm,
    Nat.mod_eq_of_lt inside, Nat.or_comm, ← Nat.two_pow_add_eq_or_of_lt small, Nat.add_comm]

theorem continues_iff (byte : Byte) : byte &&& 0x80 ≠ 0 ↔ 128 ≤ byte.toNat := by
  have bits : ∀ b : BitVec 8, b &&& 0x80#8 ≠ 0 ↔ 128 ≤ b.toNat := by decide +kernel
  exact (not_congr UInt8.toBitVec_inj.symm).trans (bits byte.toBitVec)

theorem low_toNat (byte : Byte) : (byte &&& 0x7f).toNat = byte.toNat % 128 := by
  exact Nat.and_two_pow_sub_one_eq_mod _ 7

/-- The bytes that were read are below the shift, and the number of the bytes to come is above
it. -/
theorem decodeFrom_eq {left shift : Nat} {val : UInt64} (small : val.toNat < 2 ^ shift)
    (whole : shift + 7 * left + 8 = 64) (range : List Byte) :
    (decodeFrom left shift val range).map (fun read => (read.1.toNat, read.2)) =
      match VarInt.decode left range with
      | (some value, rest) => some (val.toNat + 2 ^ shift * value, rest)
      | (none, _) => none := by
  have last (byte : Byte) :
      (val ||| (byte.toUInt64 <<< UInt64.ofNat shift)).toNat = val.toNat + 2 ^ shift * byte.toNat :=
    @or_shifted val byte.toUInt64 shift 8 small byte.toNat_lt (by omega) (by omega)
  induction left generalizing shift val range with
  | zero =>
    cases range with
    | nil => rfl
    | cons byte rest =>
      rw [decodeFrom, VarInt.decode, Option.map_some, last]
  | succ left ih =>
    cases range with
    | nil => rfl
    | cons byte rest =>
      rw [decodeFrom, VarInt.decode]
      by_cases continues : 128 ≤ byte.toNat
      · have low : (byte &&& 0x7f).toUInt64.toNat = byte.toNat % 128 := low_toNat byte
        have next := @or_shifted val (byte &&& 0x7f).toUInt64 shift 7 small
          (by rw [low]; exact Nat.mod_lt _ (by decide)) (by omega) (by omega)
        rw [low] at next
        have below : (val ||| ((byte &&& 0x7f).toUInt64 <<< UInt64.ofNat shift)).toNat <
            2 ^ (shift + 7) := by
          have bits := Nat.mod_lt byte.toNat (by decide : 0 < 128)
          have room : 2 ^ shift * (byte.toNat % 128 + 1) ≤ 2 ^ shift * 128 :=
            Nat.mul_le_mul_left _ bits
          rw [next, Nat.pow_add]
          rw [Nat.mul_succ] at room
          omega
        rw [if_pos ((continues_iff byte).mpr continues), if_pos continues,
          ih below (by omega) rest (fun other => or_shifted below other.toNat_lt
            (by omega) (by omega)), next]
        cases decoded : VarInt.decode left rest with
        | mk value left =>
          cases value with
          | none => rfl
          | some value =>
            dsimp only
            rw [Nat.mul_add, Nat.pow_add, Nat.add_assoc, Nat.mul_assoc]
      · rw [if_neg (mt (continues_iff byte).mp continues), if_neg continues, Option.map_some, last]

def encodeZigZagBits (val : BitVec 64) : BitVec 64 := (val <<< 1) ^^^ val.sshiftRight 63

def decodeZigZagBits (val : BitVec 64) : BitVec 64 := (val >>> 1) ^^^ -(val &&& 1)

variable (val : BitVec 64)

theorem sign_eq : val.sshiftRight 63 = if val.msb then BitVec.allOnes 64 else 0 := by
  apply BitVec.eq_of_toInt_eq
  have high := @BitVec.toInt_lt 64 val
  have low := @BitVec.le_toInt 64 val
  rw [BitVec.toInt_sshiftRight, Int.shiftRight_eq_div_pow, BitVec.msb_eq_toInt]
  by_cases negative : val.toInt < 0
  · rw [decide_eq_true negative, if_pos rfl, BitVec.toInt_allOnes, if_pos (by decide)]
    omega
  · rw [decide_eq_false negative, if_neg (by decide)]
    change _ = (0 : Int)
    omega

theorem encodeZigZagBits_toNat : (encodeZigZagBits val).toNat = encodeZigZag val.toInt := by
  have value := @BitVec.toInt_eq_msb_cond 64 val
  have small := val.isLt
  have shifted : (val <<< 1).toNat = val.toNat * 2 % 2 ^ 64 := by
    rw [BitVec.toNat_shiftLeft, Nat.shiftLeft_eq]
  unfold encodeZigZagBits encodeZigZag
  rw [sign_eq]
  by_cases negative : val.msb = true
  · have large := BitVec.le_toNat_of_msb_true negative
    rw [if_pos negative] at value ⊢
    rw [BitVec.xor_allOnes, BitVec.toNat_not, shifted, if_neg (by omega)]
    omega
  have small := BitVec.toNat_lt_of_msb_false (Bool.eq_false_of_not_eq_true negative)
  rw [if_neg negative] at value ⊢
  rw [show (0 : BitVec 64) = 0#64 from rfl, BitVec.xor_zero, shifted, if_pos (by omega)]
  omega

theorem decodeZigZagBits_toInt : (decodeZigZagBits val).toInt = decodeZigZag val.toNat := by
  have half : (val >>> 1).toNat = val.toNat / 2 := by
    rw [BitVec.toNat_ushiftRight, Nat.shiftRight_eq_div_pow]
  have bit : (val &&& 1).toNat = val.toNat % 2 := by
    exact Nat.and_one_is_mod _
  unfold decodeZigZagBits decodeZigZag
  by_cases even : val.toNat % 2 = 0
  · have none : val &&& 1 = 0#64 := BitVec.eq_of_toNat_eq (bit.trans even)
    rw [none, if_pos even, BitVec.neg_zero, BitVec.xor_zero, BitVec.toInt_eq_toNat_of_lt (by omega),
      half]
  have one : val &&& 1 = 1#64 := BitVec.eq_of_toNat_eq (bit.trans (by change _ = 1; omega))
  rw [one, if_neg even, show -1#64 = BitVec.allOnes 64 from rfl, BitVec.xor_allOnes,
    BitVec.toInt_not, half, Int.bmod_def]
  omega

theorem decode_encodeZigZagBits : decodeZigZagBits (encodeZigZagBits val) = val := by
  apply BitVec.eq_of_toInt_eq
  rw [decodeZigZagBits_toInt, encodeZigZagBits_toNat, decodeZigZag_encodeZigZag]

theorem encode_decodeZigZagBits : encodeZigZagBits (decodeZigZagBits val) = val := by
  apply BitVec.eq_of_toNat_eq
  rw [encodeZigZagBits_toNat, decodeZigZagBits_toInt]
  unfold encodeZigZag decodeZigZag
  split <;> split <;> omega

theorem decodeFrom_encoded (rest : List Byte) :
    decodeFrom 8 0 0 (VarInt.encode 8 v.toNat ++ rest) = some (v, rest) := by
  have fits : VarInt.Fits 8 v.toNat := v.toNat_lt
  have read := @decodeFrom_eq 8 0 0 (by decide) (by decide) (VarInt.encode 8 v.toNat ++ rest)
  rw [VarInt.reads_encode fits rest] at read
  obtain ⟨decoded, loaded, same⟩ := Option.map_eq_some_iff.mp read
  obtain ⟨value, tail⟩ := Prod.mk.inj same
  rw [loaded, ← tail]
  exact congrArg (fun word => some (word, decoded.2)) (UInt64.toNat_inj.mp (by simpa using value))

/-- The loops of both encoders write the same at most nine bytes, which the decoder reads back
whatever follows and never from a part of them; the zigzag forms are each other's inverse. -/
theorem varints_faithful :
    (∀ v : UInt64,
      (encodeOnto 8 v []).length ≤ 9 ∧
      (∀ rest, decodeFrom 8 0 0 (encodeOnto 8 v [] ++ rest) = some (v, rest)) ∧
      (∀ front, front <+: encodeOnto 8 v [] → front ≠ encodeOnto 8 v [] →
        decodeFrom 8 0 0 front = none) ∧
      (∀ buffer, encodeOnto 8 v buffer = buffer ++ encodeOnto 8 v []) ∧
      ∀ room, encodeInto 8 v room =
        if (encodeOnto 8 v []).length ≤ room then some (encodeOnto 8 v []) else none) ∧
    Function.Bijective encodeZigZagBits ∧
    ∀ val, decodeZigZagBits (encodeZigZagBits val) = val := by
  refine ⟨fun v => ?_, Function.bijective_iff_has_inverse.mpr
    ⟨decodeZigZagBits, decode_encodeZigZagBits, encode_decodeZigZagBits⟩, decode_encodeZigZagBits⟩
  have bytes : encodeOnto 8 v [] = VarInt.encode 8 v.toNat := encodeOnto_eq 8 v []
  rw [bytes]
  refine ⟨VarInt.encode_length_le 8 _, decodeFrom_encoded v, fun front short proper => ?_,
    encodeOnto_eq 8 v, encodeInto_eq 8 v⟩
  have read := @decodeFrom_eq 8 0 0 (by decide) (by decide) front
  have stops := VarInt.decode_of_proper_prefix short proper
  cases decoded : VarInt.decode 8 front with
  | mk value rest =>
    rw [decoded] at stops read
    cases stops
    exact Option.map_eq_none_iff.mp read

end Wdt.VarIntLoops
