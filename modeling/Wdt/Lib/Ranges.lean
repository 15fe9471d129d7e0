/-
Ranges of positions in keyed sequences. A range reserves at least its own start, so
that two ranges of one sequence that are apart also differ in where they start.
-/

import Mathlib.Data.List.Basic
import Mathlib.Algebra.BigOperators.Group.List.Basic
import Mathlib.Algebra.GroupWithZero.Nat

universe u

/-- The positions from `start` on, so many of them, in the sequence of a key. -/
structure Range (κ : Type u) where
  key : κ
  start : Nat
  size : Nat

namespace Range

variable {κ : Type u}

def reserve (range : Range κ) : Nat := max 1 range.size

def Reserves (range : Range κ) (key : κ) (position : Nat) : Prop :=
  range.key = key ∧ range.start ≤ position ∧ position < range.start + range.reserve

def Apart (first second : Range κ) : Prop :=
  ∀ key position, first.Reserves key position → ¬ second.Reserves key position

theorem reserves_start (range : Range κ) : range.Reserves range.key range.start := by
  refine ⟨rfl, Nat.le_refl _, ?_⟩
  unfold reserve
  omega

theorem Apart.symm {first second : Range κ} (apart : first.Apart second) : second.Apart first :=
  fun key position inSecond inFirst => apart key position inFirst inSecond

/-- Without its first `count` positions. -/
def advance (range : Range κ) (count : Nat) : Range κ :=
  { range with
    start := range.start + count
    size := range.size - count }

variable {range : Range κ} {count : Nat}

theorem Reserves.of_advance (within : count < range.size) {key : κ}
    {position : Nat} (reserves : (range.advance count).Reserves key position) :
    range.Reserves key position ∧ range.start + count ≤ position := by
  obtain ⟨sameKey, lower, upper⟩ := reserves
  have lowerStart : range.start + count ≤ position := lower
  have upperEnd : position < range.start + count + max 1 (range.size - count) := upper
  refine ⟨⟨sameKey, by omega, ?_⟩, lowerStart⟩
  unfold reserve
  omega

theorem Apart.advance {other : Range κ} (apart : range.Apart other)
    (within : count < range.size) : (range.advance count).Apart other :=
  fun key position reserves => apart key position (reserves.of_advance within).1

theorem reserve_advance_le (within : count < range.size) :
    (range.advance count).reserve + count ≤ range.reserve := by
  change max 1 (range.size - count) + count ≤ max 1 range.size
  omega

theorem one_le_reserve (range : Range κ) : 1 ≤ range.reserve := Nat.le_max_left _ _

/-! ### Families -/

def Disjoint (ranges : List (Range κ)) : Prop := ranges.Pairwise Apart

variable {ranges : List (Range κ)}

theorem Disjoint.perm {others : List (Range κ)} (disjoint : Disjoint ranges)
    (permuted : ranges.Perm others) : Disjoint others :=
  permuted.pairwise disjoint (fun apart => apart.symm)

def total (ranges : List (Range κ)) : Nat := (ranges.map reserve).sum

theorem total_perm {others : List (Range κ)} (permuted : ranges.Perm others) :
    total ranges = total others :=
  (permuted.map reserve).sum_eq

theorem length_le_total (ranges : List (Range κ)) : ranges.length ≤ total ranges := by
  induction ranges with
  | nil => exact Nat.le_refl _
  | cons range ranges ih =>
    have one := one_le_reserve range
    unfold total at ih ⊢
    rw [List.map_cons, List.sum_cons, List.length_cons]
    omega

@[simp] theorem total_cons (range : Range κ) (ranges : List (Range κ)) :
    total (range :: ranges) = range.reserve + total ranges := by
  unfold total
  rw [List.map_cons, List.sum_cons]

theorem Disjoint.advance_head
    (disjoint : Disjoint (range :: ranges)) (within : count < range.size) :
    Disjoint (range.advance count :: ranges) := by
  obtain ⟨apart, rest⟩ := List.pairwise_cons.mp disjoint
  exact List.pairwise_cons.mpr ⟨fun other member => (apart other member).advance within, rest⟩

theorem Disjoint.not_reserves_of_head
    (disjoint : Disjoint (range :: ranges)) {key : κ} {position : Nat}
    (reserves : range.Reserves key position) : ∀ other ∈ ranges, ¬ other.Reserves key position :=
  fun other member => (List.pairwise_cons.mp disjoint).1 other member key position reserves

end Range
