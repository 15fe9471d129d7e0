/-
Items spread over finitely many places: sums of which one term changes, and what follows
for each item when the whole is free of repetitions.
-/

import Mathlib.Algebra.BigOperators.Group.Finset.Basic
import Mathlib.Algebra.Order.BigOperators.Group.Multiset
import Mathlib.Data.Fintype.BigOperators
import Mathlib.Data.Multiset.UnionInter

universe u v

namespace Ownership

variable {π : Type u} [Fintype π] [DecidableEq π]

section Sums

variable {M : Type v} [AddCommMonoid M]

theorem sum_split (held : π → M) (place : π) :
    ∑ other, held other = held place + ∑ other ∈ Finset.univ.erase place, held other :=
  (Finset.add_sum_erase Finset.univ held (Finset.mem_univ place)).symm

theorem sum_update {β : Type*} (values : π → β) (size : β → M) (place : π) (value : β) :
    size (values place) + ∑ other, size (Function.update values place value other) =
      size value + ∑ other, size (values other) := by
  have others : ∀ other ∈ Finset.univ.erase place,
      size (Function.update values place value other) = size (values other) := by
    intro other member
    rw [Function.update_of_ne (Finset.ne_of_mem_erase member)]
  rw [sum_split _ place, sum_split (fun other => size (values other)) place,
    Finset.sum_congr rfl others, Function.update_self]
  exact add_left_comm _ _ _

end Sums

/-! ### Each item in exactly one place -/

section Items

variable {ι : Type v} {held : π → Multiset ι}

omit [DecidableEq π] in
theorem mem_total {item : ι} : item ∈ ∑ place, held place ↔ ∃ place, item ∈ held place := by
  simp [Multiset.mem_sum]

theorem nodup_of_total (distinct : (∑ place, held place).Nodup) (place : π) :
    (held place).Nodup := by
  rw [sum_split held place] at distinct
  exact (Multiset.nodup_add.mp distinct).1

theorem existsUnique_of_total (distinct : (∑ place, held place).Nodup) {item : ι}
    (member : item ∈ ∑ place, held place) : ∃! place, item ∈ held place := by
  obtain ⟨place, present⟩ := mem_total.mp member
  refine ⟨place, present, ?_⟩
  intro other elsewhere
  by_contra apart
  rw [sum_split held place] at distinct
  have inRest : item ∈ ∑ other ∈ Finset.univ.erase place, held other := Multiset.mem_sum.mpr
      ⟨other, Finset.mem_erase.mpr ⟨apart, Finset.mem_univ other⟩, elsewhere⟩
  exact Multiset.disjoint_left.mp (Multiset.nodup_add.mp distinct).2.2 present inRest

end Items

end Ownership
