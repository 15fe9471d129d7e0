/-
Chunks as sets of bytes: what `mergeChunks` leaves, whatever order the sort gives to chunks
with one start, and what `getRemainingChunks` then finds missing.
-/

import Mathlib.Data.Set.Card
import Wdt.FileDiscovery

namespace Wdt

open Tiling List

namespace Interval

variable {chunk : Interval} {chunks rest : List Interval}

/-- The loop of `mergeChunks` over the sorted chunks. -/
def mergeSorted : List Interval → List Interval
  | [] => []
  | chunk :: rest => mergeFrom chunk rest

def Sorted (chunks : List Interval) : Prop :=
  chunks.Pairwise fun first second => first.start ≤ second.start

def Proper (chunks : List Interval) : Prop :=
  ∀ chunk ∈ chunks, chunk.start ≤ chunk.stop

/-- In order, disjoint, and with a byte between any two. -/
def Separated (chunks : List Interval) : Prop :=
  chunks.Pairwise fun first second => first.stop < second.start

def union (chunks : List Interval) : Set Nat :=
  { position | ∃ chunk ∈ chunks, chunk.Covers position }

theorem mergeFrom_separated (sorted : Sorted (chunk :: rest)) (proper : Proper (chunk :: rest)) :
    Separated (mergeFrom chunk rest) ∧ ∀ merged ∈ mergeFrom chunk rest,
      chunk.start ≤ merged.start ∧ merged.start ≤ merged.stop := by
  induction rest generalizing chunk with
  | nil =>
    refine ⟨pairwise_singleton _ _, fun merged member => ?_⟩
    rw [mem_singleton.mp member]
    exact ⟨Nat.le_refl _, proper chunk mem_cons_self⟩
  | cons next rest ih =>
    obtain ⟨first, sortedRest⟩ := pairwise_cons.mp sorted
    obtain ⟨ownProper, properRest⟩ := forall_mem_cons.mp proper
    unfold mergeFrom
    by_cases gap : chunk.stop < next.start
    · rw [if_pos gap]
      obtain ⟨separated, behind⟩ := ih sortedRest properRest
      refine ⟨pairwise_cons.mpr ⟨fun merged member => ?_, separated⟩, ?_⟩
      · exact gap.trans_le (behind merged member).1
      · refine forall_mem_cons.mpr ⟨⟨Nat.le_refl _, ownProper⟩, fun merged member => ?_⟩
        have later := behind merged member
        omega
    · rw [if_neg gap]
      obtain ⟨_, properTail⟩ := forall_mem_cons.mp properRest
      refine ih (pairwise_cons.mpr ⟨?_, (pairwise_cons.mp sortedRest).2⟩)
        (forall_mem_cons.mpr ⟨ownProper.trans (Nat.le_max_left _ _), properTail⟩)
      exact (forall_mem_cons.mp first).2

theorem mergeFrom_of_separated (separated : Separated (chunk :: rest)) :
    mergeFrom chunk rest = chunk :: rest := by
  induction rest generalizing chunk with
  | nil => rfl
  | cons next rest ih =>
    obtain ⟨first, separatedRest⟩ := pairwise_cons.mp separated
    rw [mergeFrom, if_pos (first next mem_cons_self), ih separatedRest]

theorem mergeSorted_of_separated {again : List Interval} (separated : Separated chunks)
    (proper : Proper chunks) (arranged : again.Perm chunks) (sorted : Sorted again) :
    mergeSorted again = chunks := by
  have ordered : Sorted chunks := by
    refine List.Pairwise.imp_of_mem (fun member _ before => ?_) separated
    have own := proper _ member
    omega
  have same : again = chunks := by
    refine arranged.eq_of_pairwise (fun first second inAgain inChunks less more => ?_) sorted
      ordered
    by_contra different
    have inFirst := arranged.mem_iff.mp inAgain
    have ownFirst := proper first inFirst
    have ownSecond := proper second inChunks
    have apart := List.Pairwise.forall_of_forall_of_flip (R := fun one other : Interval =>
        one ≠ other → one.stop < other.start ∨ other.stop < one.start)
      (fun _ _ same => absurd rfl same) (separated.imp fun before _ => .inl before)
      (separated.imp fun before _ => .inr before) inFirst inChunks different
    omega
  rw [same]
  cases chunks with
  | nil => rfl
  | cons chunk rest => exact mergeFrom_of_separated separated

theorem sum_size (proper : Proper chunks) :
    (chunks.map size).sum = ((chunks.map bytes).sum : Nat) := by
  induction chunks with
  | nil => rfl
  | cons chunk rest ih =>
    obtain ⟨own, others⟩ := forall_mem_cons.mp proper
    rw [map_cons, map_cons, sum_cons, sum_cons, ih others]
    unfold size bytes
    omega

theorem sum_size_eq_ncard (separated : Separated chunks) (proper : Proper chunks) :
    (chunks.map size).sum = (union chunks).ncard := by
  rw [sum_size proper]
  let positions := chunks.flatMap fun chunk => range' chunk.start chunk.bytes
  have covered (position : Nat) : position ∈ positions ↔ position ∈ union chunks := by
    simp only [positions, mem_flatMap, mem_range'_1]
    refine exists_congr fun chunk => and_congr_right fun member => ?_
    unfold Covers bytes
    omega
  have distinct : positions.Nodup := by
    refine nodup_flatMap.mpr ⟨fun chunk _ => nodup_range', ?_⟩
    refine List.Pairwise.imp_of_mem (fun {first second} member _ before => ?_) separated
    intro position inFirst inSecond
    rw [mem_range'_1] at inFirst inSecond
    unfold bytes at inFirst
    omega
  have same : (positions.toFinset : Set Nat) = union chunks := by
    ext position
    rw [← covered, Finset.mem_coe, mem_toFinset]
  rw [← same, Set.ncard_coe_finset, toFinset_card_of_nodup distinct, length_flatMap]
  simp only [length_range']

/-- For chunks with any overlaps, in any order that the sort can leave. The chunks that remain of
a file may touch at an empty chunk. -/
theorem mergeChunks_algebra (proper : Proper chunks) :
    (∃ sorted, sorted.Perm chunks ∧ Sorted sorted ∧ mergedChunks chunks = mergeSorted sorted) ∧
    ∀ sorted, sorted.Perm chunks → Sorted sorted →
      Separated (mergeSorted sorted) ∧ Proper (mergeSorted sorted) ∧
        union (mergeSorted sorted) = union chunks ∧
        (∀ again, again.Perm (mergeSorted sorted) → Sorted again →
          mergeSorted again = mergeSorted sorted) ∧
        ∀ info : FileChunksInfo, info.chunks = mergeSorted sorted →
          info.getTotalChunkSize = (union chunks).ncard ∧
          ∀ fileSize, (∀ chunk ∈ chunks, chunk.stop ≤ fileSize) →
            union (info.getRemainingChunks fileSize) =
                { position | position < fileSize } \ union chunks ∧
              intervalExtent.Sequence (info.getRemainingChunks fileSize) ∧
              ∀ chunk ∈ info.getRemainingChunks fileSize, chunk.start < chunk.stop := by
  refine ⟨⟨_, perm_insertionSort _ chunks, pairwise_insertionSort_start chunks, ?_⟩, ?_⟩
  · unfold mergedChunks
    split <;> rename_i shape <;> rw [shape] <;> rfl
  intro sorted arranged ordered
  have properSorted : Proper sorted := fun chunk member =>
    proper chunk (arranged.mem_iff.mp member)
  have separated : Separated (mergeSorted sorted) ∧ Proper (mergeSorted sorted) := by
    cases sorted with
    | nil => exact ⟨.nil, nofun⟩
    | cons chunk rest =>
      obtain ⟨separated, inside⟩ := mergeFrom_separated ordered properSorted
      exact ⟨separated, fun merged member => (inside merged member).2⟩
  have covers : union (mergeSorted sorted) = union chunks := by
    ext position
    have same : (∃ chunk ∈ sorted, chunk.Covers position) ↔ position ∈ union chunks :=
      exists_congr fun chunk => and_congr_left fun _ => arranged.mem_iff
    rw [← same]
    cases sorted with
    | nil => exact Iff.rfl
    | cons chunk rest => exact mergeFrom_covers ordered position
  refine ⟨separated.1, separated.2, covers,
    fun again => mergeSorted_of_separated separated.1 separated.2, fun info merged => ⟨?_, ?_⟩⟩
  · unfold FileChunksInfo.getTotalChunkSize
    rw [merged, sum_size_eq_ncard separated.1 separated.2, covers]
  intro fileSize large
  have within : Ordered 0 fileSize info.chunks := by
    rw [merged]
    refine ⟨separated.1.imp Nat.le_of_lt, fun chunk member => ⟨Nat.zero_le _, ?_⟩⟩
    cases sorted with
    | nil => cases member
    | cons first rest =>
      exact mergeFrom_within (fun part present => ⟨properSorted part present,
        large part (arranged.mem_iff.mp present)⟩) chunk member
  obtain ⟨remaining, nonempty, complement⟩ := remainingFrom_spec within
  refine ⟨?_, remaining.1, nonempty⟩
  rw [← covers, ← merged]
  ext position
  refine (complement position).trans ?_
  simp only [Nat.zero_le, true_and]
  exact Iff.rfl

/-- Chunks that overlap, touch, contain one another and are empty. -/
theorem mergeChunks_algebra_sample :
    mergedChunks [⟨8, 8⟩, ⟨4, 6⟩, ⟨0, 2⟩, ⟨1, 3⟩, ⟨5, 5⟩, ⟨3, 3⟩] = [⟨0, 3⟩, ⟨4, 6⟩, ⟨8, 8⟩] ∧
      union [⟨0, 3⟩, ⟨4, 6⟩, ⟨8, 8⟩] =
        union [⟨8, 8⟩, ⟨4, 6⟩, ⟨0, 2⟩, ⟨1, 3⟩, ⟨5, 5⟩, ⟨3, 3⟩] := by
  refine ⟨by decide, ?_⟩
  exact ((mergeChunks_algebra (by unfold Proper; decide)).2
    [⟨0, 2⟩, ⟨1, 3⟩, ⟨3, 3⟩, ⟨4, 6⟩, ⟨5, 5⟩, ⟨8, 8⟩] (by decide)
    (by unfold Sorted; decide)).2.2.1

end Interval

end Wdt
