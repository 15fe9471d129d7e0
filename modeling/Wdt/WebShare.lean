/-
Range requests to the web share of WebShare.kt. A number that does not fit a Long
cannot be told from one that is missing.
-/

import Wdt.Protocol

namespace Wdt

open List

/-- A file, with how many bytes each read gives: at least one, and no more than asked for. -/
structure SharedFile where
  content : List Byte
  fits : content.length ≤ int64Max
  read : (position len : Nat) → Nat
  reads : ∀ position len, 0 < len → 0 < read position len
  atMost : ∀ position len, read position len ≤ len

inductive ContentRange
  | absent
  | bytes (start stop size : Int)
  | unsatisfied (size : Int)

structure HttpAnswer where
  status : Nat
  contentRange : ContentRange := .absent
  contentLength : Int := 0
  body : List Byte := []

/-- The headers bytes=a-b, bytes=a- and bytes=-s; the digit strings have any length. -/
inductive RangeHeader
  | closed (first last : Nat)
  | starting (first : Nat)
  | suffix (length : Nat)

/-- What the groups of `^bytes=(\d*)-(\d*)$` match; an empty one has no number. -/
def RangeHeader.groups : RangeHeader → Option Nat × Option Nat
  | closed first last => (some first, some last)
  | starting first => (some first, none)
  | suffix length => (none, some length)

def toLongOrNull (group : Option Nat) : Option Nat := group.filter (fun n => decide (n ≤ int64Max))

namespace SharedFile

variable (file : SharedFile)

def size : Int := file.content.length

/-- The loop over the buffer: `remaining` is `end - position + 1`. -/
def sendBody : (rounds position remaining : Nat) → List Byte
  | 0, _, _ => []
  | rounds + 1, position, remaining =>
    if remaining = 0 then []
    else
      let n := file.read position (min (256 * 1024) remaining)
      if n = 0 then []
      else (file.content.drop position).take n ++ sendBody rounds (position + n) (remaining - n)

def answer (head : Bool) (status : Nat) (start stop : Int) : HttpAnswer :=
  if status = 206 ∧ (stop < start ∨ file.size ≤ start) then
    { status := 416, contentRange := .unsatisfied file.size }
  else
    { status
      contentRange := if status = 206 then .bytes start stop file.size else .absent
      contentLength := stop - start + 1
      body := if head then []
        else file.sendBody file.content.length start.toNat (stop - start + 1).toNat }

def download (range : RangeHeader) (head : Bool) : HttpAnswer :=
  match toLongOrNull range.groups.1, toLongOrNull range.groups.2 with
  | some first, some last => file.answer head 206 first (min last (file.size - 1))
  | some first, none => file.answer head 206 first (file.size - 1)
  | none, some last => file.answer head 206 (max 0 (file.size - last)) (file.size - 1)
  | none, none => file.answer head 200 0 (file.size - 1)

/-- The bytes from `first` up to `stop`, or none at all. -/
def exactly (head : Bool) (first stop : Nat) : HttpAnswer :=
  if first < stop then
    { status := 206
      contentRange := .bytes first (stop - 1) file.size
      contentLength := stop - first
      body := if head then [] else (file.content.drop first).take (stop - first) }
  else { status := 416, contentRange := .unsatisfied file.size }

/-- What the standard asks for a GET, in unbounded numbers, and the same without a body for a HEAD,
which the standard has no ranges for. -/
def standard (head : Bool) : RangeHeader → HttpAnswer
  | .closed first last => file.exactly head first (min file.content.length (last + 1))
  | .starting first => file.exactly head first file.content.length
  | .suffix length => file.exactly head (file.content.length - length) file.content.length

/-- The first position, or the length of the suffix, fits a Long; or nothing is sent anyway. -/
def Readable : RangeHeader → Prop
  | .closed first last =>
    first ≤ int64Max ∨ last ≤ int64Max ∧ (last = 0 ∨ file.content.length = 0)
  | .starting first => first ≤ int64Max
  | .suffix length => length ≤ int64Max

variable {file} {head : Bool}

theorem sendBody_eq {rounds position remaining : Nat} (enough : remaining ≤ rounds) :
    file.sendBody rounds position remaining = (file.content.drop position).take remaining := by
  induction rounds generalizing position remaining with
  | zero => rw [Nat.le_zero.mp enough, sendBody, take_zero]
  | succ rounds ih =>
    rw [sendBody]
    split
    · rename_i done
      rw [done, take_zero]
    rename_i more
    have some := file.reads position (min (256 * 1024) remaining) (by omega)
    have most := file.atMost position (min (256 * 1024) remaining)
    generalize file.read position _ = n at *
    rw [if_neg (by omega), ih (by omega), ← drop_drop, ← take_add]
    congr 1
    omega

theorem answer_eq_exactly {start stop : Int} {low high : Nat} (isStart : start = low)
    (isStop : stop = high - 1) (within : high ≤ file.content.length) :
    file.answer head 206 start stop = file.exactly head low high := by
  subst isStart isStop
  unfold answer exactly size
  by_cases some : low < high
  · have length : ((high - 1 : Int) - low + 1).toNat = high - low := by omega
    rw [if_pos some, if_neg (by omega), if_pos rfl, length, Int.toNat_natCast,
      sendBody_eq (by omega)]
    simp only [HttpAnswer.mk.injEq, true_and, and_true]
    omega
  · rw [if_neg some, if_pos (by omega)]

theorem toLongOrNull_some {n : Nat} (fits : n ≤ int64Max) : toLongOrNull (some n) = some n :=
  if_pos (decide_eq_true fits)

theorem toLongOrNull_none {n : Nat} (long : ¬ n ≤ int64Max) : toLongOrNull (some n) = none :=
  if_neg (by simpa using long)

theorem exactly_status {low high : Nat} :
    (file.exactly head low high).status = if low < high then 206 else 416 := by
  unfold exactly
  split <;> rfl

theorem exactly_beyond {low high low' high' : Nat} (beyond : high ≤ low)
    (beyondToo : high' ≤ low') :
    file.exactly head low high = file.exactly head low' high' := by
  unfold exactly
  rw [if_neg (Nat.not_lt.mpr beyond), if_neg (Nat.not_lt.mpr beyondToo)]

theorem answer_suffix (length : Nat) :
    file.answer head 206 (max 0 (file.size - length)) (file.size - 1) =
      file.exactly head (file.content.length - length) file.content.length :=
  answer_eq_exactly (by unfold size; omega) rfl (Nat.le_refl _)

/-- A whole file is not the answer that the standard asks for. -/
theorem whole_ne_exactly {low high : Nat} :
    file.answer head 200 0 (file.size - 1) ≠ file.exactly head low high := by
  intro same
  have status := congrArg HttpAnswer.status same
  rw [exactly_status] at status
  split at status <;> cases status

/-- A range request is answered as the standard says if and only if it is readable. -/
theorem ranges_served_iff (file : SharedFile) (range : RangeHeader) (head : Bool) :
    file.download range head = file.standard head range ↔ file.Readable range := by
  have size := file.fits
  cases range with
  | closed first last =>
    unfold download
    dsimp only [RangeHeader.groups, Readable, standard]
    by_cases fits : first ≤ int64Max <;> by_cases lastFits : last ≤ int64Max
    · rw [toLongOrNull_some fits, toLongOrNull_some lastFits]
      refine iff_of_true (answer_eq_exactly rfl ?_ (Nat.min_le_left _ _)) (.inl fits)
      unfold SharedFile.size
      omega
    · rw [toLongOrNull_some fits, toLongOrNull_none lastFits]
      refine iff_of_true (answer_eq_exactly rfl ?_ (Nat.min_le_left _ _)) (.inl fits)
      unfold SharedFile.size
      omega
    · rw [toLongOrNull_none fits, toLongOrNull_some lastFits, or_iff_right fits,
        and_iff_right lastFits]
      dsimp only
      rw [answer_suffix]
      constructor
      · intro same
        have status := congrArg HttpAnswer.status same
        rw [exactly_status, exactly_status, if_neg (show ¬ first < _ by omega)] at status
        split at status
        · cases status
        · omega
      · intro empty
        exact exactly_beyond (by omega) (by omega)
    · rw [toLongOrNull_none fits, toLongOrNull_none lastFits]
      exact iff_of_false whole_ne_exactly (by tauto)
  | starting first =>
    unfold download
    dsimp only [RangeHeader.groups, Readable, standard]
    by_cases fits : first ≤ int64Max
    · rw [toLongOrNull_some fits]
      exact iff_of_true (answer_eq_exactly rfl rfl (Nat.le_refl _)) fits
    · rw [toLongOrNull_none fits]
      exact iff_of_false whole_ne_exactly fits
  | suffix length =>
    unfold download
    dsimp only [RangeHeader.groups, Readable, standard]
    by_cases fits : length ≤ int64Max
    · rw [toLongOrNull_some fits]
      exact iff_of_true (answer_suffix length) fits
    · rw [toLongOrNull_none fits]
      exact iff_of_false whole_ne_exactly fits

/-- A first position of 2 ^ 63 counts as missing: without a last position the whole file is
sent, and with the last position 1 its last byte. -/
theorem long_position_ignored :
    let file : SharedFile :=
      { content := [0x61, 0x62, 0x63]
        fits := by decide
        read := fun _ => id
        reads := fun _ _ => id
        atMost := fun _ _ => Nat.le_refl _ }
    (file.standard false (.starting (2 ^ 63))).status = 416 ∧
      (file.download (.starting (2 ^ 63)) false).body = [0x61, 0x62, 0x63] ∧
      (file.standard false (.closed (2 ^ 63) 1)).status = 416 ∧
      (file.download (.closed (2 ^ 63) 1) false).body = [0x63] := by
  decide

end SharedFile

end Wdt
