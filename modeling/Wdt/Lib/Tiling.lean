/-
Items that lie one behind the other on the line of natural numbers, and lists of them
that tile a stretch of it: no position twice, none left out.
-/

import Mathlib.Data.List.Basic
import Mathlib.Algebra.BigOperators.Group.List.Basic
import Mathlib.Algebra.GroupWithZero.Nat

universe u v

namespace Tiling

/-- How items lie on the line: from `start` up to `stop`. -/
structure Extent (β : Type u) where
  start : β → Nat
  stop : β → Nat

namespace Extent

variable {β : Type u} {γ : Type v} (extent : Extent β) (outer : Extent γ) (items : List β)

def Covers (position : Nat) : Prop :=
  ∃ item ∈ items, extent.start item ≤ position ∧ position < extent.stop item

def Sequence : Prop :=
  items.Pairwise fun first second => extent.stop first ≤ extent.start second

structure Tiles (low high : Nat) : Prop where
  sequence : extent.Sequence items
  inside : ∀ item ∈ items, low ≤ extent.start item ∧ extent.start item ≤ extent.stop item ∧
    extent.stop item ≤ high
  covers : ∀ position, extent.Covers items position ↔ low ≤ position ∧ position < high

variable {extent outer}

theorem covers_nil (position : Nat) : ¬ extent.Covers [] position := by
  rintro ⟨item, member, _⟩
  cases member

theorem covers_cons {item : β} {items : List β} {position : Nat} :
    extent.Covers (item :: items) position ↔
      (extent.start item ≤ position ∧ position < extent.stop item) ∨
        extent.Covers items position := by
  unfold Covers
  simp only [List.mem_cons, exists_eq_or_imp]

theorem covers_append {items others : List β} {position : Nat} :
    extent.Covers (items ++ others) position ↔
      extent.Covers items position ∨ extent.Covers others position := by
  unfold Covers
  simp only [List.mem_append, or_and_right, exists_or]

theorem tiles_singleton {item : β} (ordered : extent.start item ≤ extent.stop item) :
    extent.Tiles [item] (extent.start item) (extent.stop item) where
  sequence := List.pairwise_singleton _ _
  inside other member := by
    rw [List.mem_singleton] at member
    subst member
    exact ⟨Nat.le_refl _, ordered, Nat.le_refl _⟩
  covers position := by
    rw [covers_cons]
    constructor
    · rintro (own | none)
      · exact own
      · exact absurd none (covers_nil position)
    · exact .inl

theorem Tiles.cons {item : β} {items : List β} {high : Nat}
    (tiles : extent.Tiles items (extent.stop item) high)
    (ordered : extent.start item ≤ extent.stop item) (more : extent.stop item ≤ high) :
    extent.Tiles (item :: items) (extent.start item) high where
  sequence := List.pairwise_cons.mpr
    ⟨fun other member => (tiles.inside other member).1, tiles.sequence⟩
  inside other member := by
    rcases List.mem_cons.mp member with own | later
    · subst own
      exact ⟨Nat.le_refl _, ordered, more⟩
    · have inside := tiles.inside other later
      exact ⟨by omega, inside.2⟩
  covers position := by
    rw [covers_cons, tiles.covers]
    omega

/-! ### Parts that are tiled one by one -/

variable {parts : List γ} {pieces : γ → List β}

theorem covers_flatMap
    (tiled : ∀ part ∈ parts, extent.Tiles (pieces part) (outer.start part) (outer.stop part))
    (position : Nat) :
    extent.Covers (parts.flatMap pieces) position ↔ outer.Covers parts position := by
  induction parts with
  | nil => exact ⟨fun none => absurd none (covers_nil position),
      fun none => absurd none (covers_nil position)⟩
  | cons part rest ih =>
    rw [List.flatMap_cons, covers_append, covers_cons, (tiled part List.mem_cons_self).covers,
      ih (List.forall_mem_cons.mp tiled).2]

theorem sequence_flatMap (sequence : outer.Sequence parts)
    (tiled : ∀ part ∈ parts, extent.Tiles (pieces part) (outer.start part) (outer.stop part)) :
    extent.Sequence (parts.flatMap pieces) := by
  induction parts with
  | nil => exact List.Pairwise.nil
  | cons part rest ih =>
    obtain ⟨before, restSequence⟩ := List.pairwise_cons.mp sequence
    apply List.pairwise_append.mpr
    refine ⟨(tiled part List.mem_cons_self).sequence,
      ih restSequence (List.forall_mem_cons.mp tiled).2, ?_⟩
    intro piece inPart later inRest
    obtain ⟨other, isOther, inOther⟩ := List.mem_flatMap.mp inRest
    have here := (tiled part List.mem_cons_self).inside piece inPart
    have there := (tiled other (List.mem_cons_of_mem _ isOther)).inside later inOther
    have apart := before other isOther
    omega

variable (extent) in
def size (item : β) : Nat := extent.stop item - extent.start item

theorem sum_size_le {items : List β} {low high : Nat} (sequence : extent.Sequence items)
    (inside : ∀ item ∈ items, low ≤ extent.start item ∧ extent.start item ≤ extent.stop item ∧
      extent.stop item ≤ high) : (items.map extent.size).sum ≤ high - low := by
  induction items generalizing low with
  | nil => exact Nat.zero_le _
  | cons item rest ih =>
    obtain ⟨before, restSequence⟩ := List.pairwise_cons.mp sequence
    have own := inside item List.mem_cons_self
    have restInside : ∀ other ∈ rest, extent.stop item ≤ extent.start other ∧
        extent.start other ≤ extent.stop other ∧ extent.stop other ≤ high := by
      intro other member
      exact ⟨before other member, (inside other (List.mem_cons_of_mem _ member)).2⟩
    have restSum := ih restSequence restInside
    rw [List.map_cons, List.sum_cons]
    unfold size at restSum ⊢
    omega

end Extent

end Tiling
