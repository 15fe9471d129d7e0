/-
What a list of chunks can do to the queue of a sender, which takes it as it is decoded:
a chunk may lie behind the end of its file, and the list decides on the next seq-id.
-/

import Wdt.ChunkArrival

namespace Wdt

/-! ### Chunks behind the end of a file -/

/-- Where a gap opens in front of a chunk, the chunk starts in the file. -/
def FileChunksInfo.GapsWithin (info : FileChunksInfo) (fileSize : Nat) : Prop :=
  (⟨0, 0⟩ :: info.chunks).IsChain fun before chunk =>
    before.stop < chunk.start → chunk.start ≤ fileSize

instance (info : FileChunksInfo) (fileSize : Nat) : Decidable (info.GapsWithin fileSize) := by
  unfold FileChunksInfo.GapsWithin
  infer_instance

theorem remainingFrom_within_iff {fileSize : Nat} (before : Interval) (chunks : List Interval) :
    (∀ chunk ∈ remainingFrom fileSize before.stop chunks, chunk.stop ≤ fileSize) ↔
      (before :: chunks).IsChain fun before chunk =>
        before.stop < chunk.start → chunk.start ≤ fileSize := by
  induction chunks generalizing before with
  | nil =>
    unfold remainingFrom
    split <;> simp
  | cons chunk rest ih =>
    rw [remainingFrom, List.isChain_cons_cons, ← ih chunk]
    by_cases gap : before.stop < chunk.start
    · rw [if_pos gap, List.forall_mem_cons]
      exact and_congr_left fun _ => ⟨fun within _ => within, fun within => within gap⟩
    · rw [if_neg gap]
      exact ⟨fun within => ⟨fun opens => absurd opens gap, within⟩, fun both => both.2⟩

theorem remainingFrom_proper {fileSize curStart : Nat} {chunks : List Interval} :
    ∀ chunk ∈ remainingFrom fileSize curStart chunks, chunk.start < chunk.stop := by
  induction chunks generalizing curStart with
  | nil =>
    unfold remainingFrom
    split <;> simp_all
  | cons chunk rest ih =>
    rw [remainingFrom]
    split
    · exact List.forall_mem_cons.mpr ⟨‹_›, ih⟩
    · exact ih

theorem missingChunks_within_iff (entry : Option FileChunksInfo) (fileSize : Nat) :
    (∀ chunk ∈ missingChunks entry fileSize, chunk.start ≤ chunk.stop ∧
      (fileSize < chunk.stop → chunk.start < chunk.stop)) ∧
    ((∀ chunk ∈ missingChunks entry fileSize, chunk.stop ≤ fileSize) ↔
      ∀ info, entry = some info → info.fileSize ≤ fileSize → info.GapsWithin fileSize) := by
  unfold missingChunks
  cases entry with
  | none => simp
  | some info =>
    dsimp only
    by_cases tooLarge : fileSize < info.fileSize
    · rw [if_pos tooLarge]
      have none : ¬ info.fileSize ≤ fileSize := by omega
      simp [none]
    rw [if_neg tooLarge]
    constructor
    · intro chunk member
      have proper := remainingFrom_proper chunk member
      exact ⟨proper.le, fun _ => proper⟩
    · unfold FileChunksInfo.getRemainingChunks
      rw [remainingFrom_within_iff ⟨0, 0⟩]
      refine ⟨fun chain other same _ => ?_, fun chain => chain info rfl (by omega)⟩
      cases same
      exact chain

namespace DiscoveryQueue

variable {queue : DiscoveryQueue} {index rounds : Nat} {metadata : SourceMetaData}

/-- Without gaps behind its end, a file is queued in finitely many rounds and within its bytes;
otherwise a loop never ends, or a block reaches behind the end. No interval fails its check. -/
theorem queue_building_survives_iff (queue : DiscoveryQueue) (index : Nat)
    (metadata : SourceMetaData) (present : queue.sharedFileData[index]? = some metadata) :
    (∀ chunk ∈ missingChunks (queue.find metadata.relPath) metadata.size,
      chunk.start ≤ chunk.stop) ∧
    ((∃ rounds after blocks, queue.createIntoQueueWithin rounds index = some after ∧
        after.sourceQueue = queue.sourceQueue ++ blocks ∧
        ∀ block ∈ blocks, block.metadata = index ∧ block.offset + block.size ≤ metadata.size) ↔
      ∀ info, queue.find metadata.relPath = some info → info.fileSize ≤ metadata.size →
        info.GapsWithin metadata.size) := by
  obtain ⟨proper, within⟩ := missingChunks_within_iff (queue.find metadata.relPath) metadata.size
  have added := (createIntoQueueInternal_adds present).1
  refine ⟨fun chunk member => (proper chunk member).1, ?_⟩
  rw [← within]
  constructor
  · rintro ⟨rounds, after, blocks, created, adds, inFile⟩ chunk member
    obtain ⟨rfl, ends⟩ := (createIntoQueueWithin_eq_some present).mp created
    have same : blocks = queue.newBlocks index metadata :=
      List.append_cancel_left (adds.symm.trans added)
    by_contra behind
    have bytes := (proper chunk member).2 (by omega)
    have enough := (ends chunk member).2
    have positive : 0 < queue.blockSize metadata.size := by
      rcases Nat.eq_zero_or_pos (queue.blockSize metadata.size) with zero | positive
      · rw [zero] at enough
        unfold Interval.bytes at enough
        omega
      · exact positive
    -- the last byte of the gap is in a block
    have tiles := @cutChunk_tiles index (queue.blockSize metadata.size) chunk.start chunk.bytes
      (.inr positive)
    obtain ⟨block, ofChunk, _, last⟩ := (tiles.covers (chunk.stop - 1)).mpr
      (by unfold Interval.bytes; omega)
    have isNew : block ∈ blocks := by
      rw [same]
      exact List.mem_flatMap.mpr ⟨chunk, member, ofChunk⟩
    have inside := (inFile block isNew).2
    change chunk.stop - 1 < block.offset + block.size at last
    omega
  · intro inside
    have ends := endsWithin_of_inside inside (Nat.lt_succ_self _)
    refine ⟨_, _, _, (createIntoQueueWithin_eq_some present).mpr ⟨rfl, ends⟩, added, ?_⟩
    intro block isNew
    obtain ⟨chunk, member, ofChunk⟩ := List.mem_flatMap.mp isNew
    have stops := inside chunk member
    have ordered := (proper chunk member).1
    have cut := @cuts queue metadata chunk stops
    have bounds := ((cutChunk_tiles cut).inside block ofChunk).2.2
    change block.offset + block.size ≤ chunk.start + chunk.bytes at bounds
    refine ⟨((cutChunk_sizes cut).1 block ofChunk).1, ?_⟩
    unfold Interval.bytes at bounds
    omega

/-- Of a file that is empty on the receiver's side, it says that it has some later bytes. -/
def behindTheEnd : FileChunksInfo where
  seqId := 1
  fileName := [97]
  fileSize := 0
  chunks := [⟨100, 200⟩]

theorem queue_building_survives_partly : ∃ rounds after blocks,
    (oneFile 4194304 (by decide) [secondMegabyte]).createIntoQueueWithin rounds 0 = some after ∧
    after.sourceQueue = [] ++ blocks ∧
    ∀ block ∈ blocks, block.metadata = 0 ∧ block.offset + block.size ≤ 4194304 := by
  apply (queue_building_survives_iff (oneFile 4194304 (by decide) [secondMegabyte]) 0
    { relPath := [97], size := 4194304, sizeSmall := by decide } rfl).2.mpr
  intro info found _
  have same : secondMegabyte = info := Option.some.inj found
  rw [← same]
  decide

/-- The list can be decoded. Without block transfer it has an empty file cut for ever, and a file
of ten bytes gets a block of a hundred. -/
theorem gaps_behind_the_end :
    decodeFileChunksInfoList (fileChunksBytes behindTheEnd) = some [behindTheEnd] ∧
    (∀ rounds, ({ oneFile 0 (by decide) [behindTheEnd] with
      blockSizeMbytes := 0 }).createIntoQueueWithin rounds 0 = none) ∧
    ((oneFile 10 (by decide) [behindTheEnd]).createIntoQueueWithin 2 0).map
      (fun after => after.sourceQueue) = some [{ metadata := 0, size := 100, offset := 0 }] := by
  refine ⟨by decide +kernel, fun rounds => ?_, by decide +kernel⟩
  rw [Option.eq_none_iff_forall_ne_some]
  intro after created
  obtain ⟨_, ends⟩ := (createIntoQueueWithin_eq_some rfl).mp created
  have enough := (ends ⟨0, 100⟩ (by decide)).2
  change 100 ≤ rounds * 0 at enough
  omega

end DiscoveryQueue

end Wdt
