/-
A variable length format for natural numbers: little-endian groups of seven bits,
the high bit of a byte announcing another one, and at most `groups` continuation
bytes. The byte after the last allowed continuation byte carries eight bits.
-/

import Wdt.Lib.Decoder
import Mathlib.Tactic.Ring
import Mathlib.Algebra.Order.Ring.Nat

namespace VarInt

/-- The bytes of `value`, with at most `groups` continuation bytes. -/
def encode : (groups : Nat) → (value : Nat) → List UInt8
  | 0, value => [UInt8.ofNat value]
  | groups + 1, value =>
    if 128 ≤ value then UInt8.ofNat (128 + value % 128) :: encode groups (value / 128)
    else [UInt8.ofNat value]

/-- The inverse of `encode`: a range that ends inside a number is given back whole. -/
def decode : (groups : Nat) → Decoder UInt8 Nat
  | _, [] => (none, [])
  | 0, byte :: rest => (some byte.toNat, rest)
  | groups + 1, byte :: rest =>
    if 128 ≤ byte.toNat then
      match decode groups rest with
      | (some value, rest) => (some (byte.toNat % 128 + 128 * value), rest)
      | (none, _) => (none, byte :: rest)
    else (some byte.toNat, rest)

/-- The numbers that `groups` continuation bytes and a last byte can carry. -/
def Fits (groups value : Nat) : Prop := value < 256 * 128 ^ groups

variable {groups value : Nat}

theorem Fits.div (fits : Fits (groups + 1) value) : Fits groups (value / 128) := by
  unfold Fits at *
  omega

theorem reads_encode (fits : Fits groups value) :
    (decode groups).Reads (encode groups value) value := by
  induction groups generalizing value with
  | zero =>
    intro rest
    have small : value < 256 := by simpa [Fits] using fits
    simp [encode, decode, Nat.mod_eq_of_lt small]
  | succ groups ih =>
    intro rest
    unfold encode
    by_cases continues : 128 ≤ value
    · have byteValue : (UInt8.ofNat (128 + value % 128)).toNat = 128 + value % 128 := by
        rw [UInt8.toNat_ofNat']
        omega
      rw [if_pos continues, List.cons_append, decode, byteValue, if_pos (by omega),
        ih fits.div rest]
      have recombined : (128 + value % 128) % 128 + 128 * (value / 128) = value := by omega
      simp only [recombined]
    · have byteValue : (UInt8.ofNat value).toNat = value := by
        rw [UInt8.toNat_ofNat']
        omega
      rw [if_neg continues, List.cons_append, List.nil_append, decode, byteValue, if_neg continues]

theorem encode_ne_nil (groups value : Nat) : encode groups value ≠ [] := by
  cases groups with
  | zero => simp [encode]
  | succ groups =>
    unfold encode
    by_cases continues : 128 ≤ value
    · rw [if_pos continues]
      exact List.cons_ne_nil _ _
    · rw [if_neg continues]
      exact List.cons_ne_nil _ _

theorem encode_length_le (groups value : Nat) : (encode groups value).length ≤ groups + 1 := by
  induction groups generalizing value with
  | zero => simp [encode]
  | succ groups ih =>
    unfold encode
    by_cases continues : 128 ≤ value
    · rw [if_pos continues, List.length_cons]
      have shorter := ih (value / 128)
      omega
    · rw [if_neg continues]
      simp

theorem encode_succ_groups (small : value < 128 ^ (groups + 1)) :
    encode (groups + 1) value = encode groups value := by
  induction groups generalizing value with
  | zero => exact if_neg (by omega)
  | succ groups ih =>
    have shorter : value / 128 < 128 ^ (groups + 1) := by
      omega
    rw [encode, ih shorter]
    rfl

theorem decode_of_proper_prefix {front : List UInt8}
    (short : front <+: encode groups value) (proper : front ≠ encode groups value) :
    (decode groups front).1 = none := by
  induction groups generalizing value front with
  | zero =>
    cases front with
    | nil => rfl
    | cons byte front =>
      obtain ⟨rfl, empty⟩ := List.cons_prefix_cons.mp short
      exact absurd (by rw [encode, List.prefix_nil.mp empty]) proper
  | succ groups ih =>
    cases front with
    | nil => rfl
    | cons byte front =>
      unfold encode at short proper
      by_cases continues : 128 ≤ value
      · rw [if_pos continues] at short proper
        obtain ⟨rfl, shorter⟩ := List.cons_prefix_cons.mp short
        have stops := ih shorter (fun same => proper (by rw [same]))
        have byteValue : (UInt8.ofNat (128 + value % 128)).toNat = 128 + value % 128 := by
          rw [UInt8.toNat_ofNat']
          omega
        rw [decode, byteValue, if_pos (by omega)]
        cases decoded : decode groups front with
        | mk found rest =>
          rw [decoded] at stops
          cases stops
          rfl
      · rw [if_neg continues] at short proper
        obtain ⟨rfl, empty⟩ := List.cons_prefix_cons.mp short
        exact absurd (by rw [List.prefix_nil.mp empty]) proper

theorem encode_length_le_of_lt {count : Nat} (small : value < 128 ^ (count + 1)) :
    (encode groups value).length ≤ count + 1 := by
  induction count generalizing groups value with
  | zero =>
    cases groups with
    | zero => exact le_refl 1
    | succ groups =>
      unfold encode
      rw [if_neg (by omega)]
      exact le_refl 1
  | succ count ih =>
    cases groups with
    | zero => exact Nat.succ_le_succ (Nat.zero_le _)
    | succ groups =>
      unfold encode
      by_cases continues : 128 ≤ value
      · have shorter := @ih groups (value / 128) (by
          omega)
        rw [if_pos continues, List.length_cons]
        omega
      · rw [if_neg continues, List.length_singleton]
        omega

/-- With a continuation byte in place of the last one, a number is cut off or grows beyond all
that the format is for. -/
theorem le_of_decode_spoiled {byte : UInt8} (continues : 128 ≤ byte.toNat) (groups value : Nat)
    {result : Nat}
    (decoded : (decode groups ((encode groups value).dropLast ++ [byte])).1 = some result) :
    128 ^ (groups + 1) ≤ result := by
  induction groups generalizing value result with
  | zero =>
    have same : byte.toNat = result := by simpa [encode, decode] using decoded
    omega
  | succ groups ih =>
    unfold encode at decoded
    by_cases long : 128 ≤ value
    · rw [if_pos long, List.dropLast_cons_of_ne_nil (encode_ne_nil _ _), List.cons_append,
        decode] at decoded
      split at decoded
      · cases rest : decode groups ((encode groups (value / 128)).dropLast ++ [byte]) with
        | mk inner left =>
          rw [rest] at decoded
          cases inner with
          | none => cases decoded
          | some inner =>
            have larger := ih (value / 128) (by rw [rest])
            cases decoded
            omega
      · rename_i notByte
        rw [UInt8.toNat_ofNat'] at notByte
        omega
    · have ended : decode groups [] = (none, []) := by
        cases groups <;> rfl
      rw [if_neg long, List.dropLast_singleton, List.nil_append, decode, if_pos continues, ended]
        at decoded
      cases decoded

end VarInt
