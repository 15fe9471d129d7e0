/-
How a sender's queue is filled. Each discovered file becomes blocks for those of its
bytes that the receiver does not have yet, according to the list of chunks that the
receiver has sent; files that only the receiver has become entries to be deleted.
-/

import Wdt.FileChunks
import Wdt.Lib.Tiling

namespace Wdt

open Tiling List Wdt.Interval Extent

/-- The size of a chunk that does not end before it starts, as those that remain of a file. -/
def Interval.bytes (chunk : Interval) : Nat := chunk.stop - chunk.start

variable (info : FileChunksInfo)

def remainingFrom (curFileSize curStart : Nat) : List Interval → List Interval
  | [] => if curStart < curFileSize then [⟨curStart, curFileSize⟩] else []
  | chunk :: rest =>
    if curStart < chunk.start then
      ⟨curStart, chunk.start⟩ :: remainingFrom curFileSize chunk.stop rest
    else remainingFrom curFileSize chunk.stop rest

def FileChunksInfo.getRemainingChunks (curFileSize : Nat) : List Interval :=
  remainingFrom curFileSize 0 info.chunks

/-! ### The queue -/

structure SourceMetaData where
  relPath : List Byte
  size : Nat
  seqId : Int64 := 0
  prevSeqId : Int64 := 0
  allocationStatus : FileAllocationStatus := .notExists
  sizeSmall : size ≤ int64Max

structure FileByteSource where
  metadata : Nat
  size : Nat
  offset : Nat
  deriving DecidableEq

/-- The part of a `DirectorySourceQueue` that discovery fills; the order of the sources does not
matter here. Of the map of chunks there is the list of its entries. -/
structure DiscoveryQueue where
  blockSizeMbytes : Int64
  deleteFiles : Bool := false
  sharedFileData : List SourceMetaData := []
  previouslyTransferredChunks : List FileChunksInfo := []
  sourceQueue : List FileByteSource := []
  nextSeqId : Int64 := 1
  numEntries : Int64 := 0
  numBlocks : Int64 := 0
  totalFileSize : Int64 := 0
  previouslySentBytes : Int64 := 0
  numBlocksDequeued : Int64 := 0
  initFinished : Bool := false

namespace DiscoveryQueue

variable (queue : DiscoveryQueue)

def find (relPath : List Byte) : Option FileChunksInfo :=
  queue.previouslyTransferredChunks.find? fun info => info.fileName == relPath

/-- Without block transfer, a file is one block. -/
def blockSize (fileSize : Nat) : Nat :=
  let blockSizeBytes := queue.blockSizeMbytes * 1024 * 1024
  if 0 < blockSizeBytes then blockSizeBytes.toInt.toNat else fileSize

end DiscoveryQueue

/-- The blocks of a chunk, if the do-while loop ends within so many rounds. -/
def cutRounds (metadata blockSize : Nat) :
    (rounds offset remainingBytes : Nat) → Option (List FileByteSource)
  | 0, _, _ => none
  | rounds + 1, offset, remainingBytes =>
    let size := min remainingBytes blockSize
    if 0 < remainingBytes - size then
      (cutRounds metadata blockSize rounds (offset + size) (remainingBytes - size)).map
        ({ metadata, size, offset } :: ·)
    else some [{ metadata, size, offset }]

/-- The blocks up to the round in which the loop gets stuck. With the block size 0 of an empty file,
and an entry by which bytes of it are missing, it adds empty blocks for ever and `cutRounds` has no
result. -/
def cutChunk (metadata blockSize offset remainingBytes : Nat) : List FileByteSource :=
  let size := min remainingBytes blockSize
  { metadata, size, offset } ::
    if _more : 0 < remainingBytes - size ∧ 0 < size then
      cutChunk metadata blockSize (offset + size) (remainingBytes - size)
    else []
termination_by remainingBytes

structure FilePlan where
  remainingChunks : List Interval
  seqId : Int64
  allocationStatus : FileAllocationStatus
  prevSeqId : Int64 := 0

variable (entry : Option FileChunksInfo)

/-- The first half of `createIntoQueueInternal`: the plan, unless all of the file has been sent
before, the next sequence id and the bytes saved. -/
def planFile (nextSeqId : Int64) (fileSize : Nat) : Option FilePlan × Int64 × Int :=
  match entry with
  | none =>
    (some
      { remainingChunks := [⟨0, fileSize⟩]
        seqId := nextSeqId
        allocationStatus := .notExists }, nextSeqId + 1, 0)
  | some info =>
    if fileSize < info.fileSize then
      (some
        { remainingChunks := [⟨0, fileSize⟩]
          seqId := nextSeqId
          allocationStatus := .existsTooLarge
          prevSeqId := Int64.ofNat info.seqId }, nextSeqId + 1, 0)
    else
      let remainingChunks := info.getRemainingChunks fileSize
      (if remainingChunks.isEmpty then none
        else some
          { remainingChunks
            seqId := Int64.ofNat info.seqId
            allocationStatus :=
              if info.fileSize < fileSize then .existsTooSmall else .existsCorrectSize },
        nextSeqId, info.getTotalChunkSize)

/-- The variables of the loop over the remaining chunks; the number of blocks is an `int`. -/
structure EnqueuedBlocks where
  sources : List FileByteSource := []
  blockCount : Int32 := 0
  totalFileSize : Int64

def EnqueuedBlocks.addChunk (metadata blockSize : Nat) (enqueued : EnqueuedBlocks)
    (chunk : Interval) : EnqueuedBlocks :=
  let blocks := cutChunk metadata blockSize chunk.start chunk.bytes
  { sources := enqueued.sources ++ blocks
    blockCount := enqueued.blockCount + Int32.ofNat blocks.length
    totalFileSize := enqueued.totalFileSize + Int64.ofNat chunk.bytes }

namespace DiscoveryQueue

def createIntoQueueInternal (queue : DiscoveryQueue) (index : Nat) : DiscoveryQueue :=
  match queue.sharedFileData[index]? with
  | none => queue
  | some metadata =>
    let (plan, nextSeqId, sentBytes) :=
      planFile (queue.find metadata.relPath) queue.nextSeqId metadata.size
    let queue :=
      { queue with
        nextSeqId
        previouslySentBytes := queue.previouslySentBytes + Int64.ofInt sentBytes }
    match plan with
    | none => queue
    | some plan =>
      let enqueued := plan.remainingChunks.foldl
        (EnqueuedBlocks.addChunk index (queue.blockSize metadata.size))
        { totalFileSize := queue.totalFileSize }
      { queue with
        sharedFileData := queue.sharedFileData.set index
          { metadata with
            seqId := plan.seqId
            prevSeqId := plan.prevSeqId
            allocationStatus := plan.allocationStatus }
        sourceQueue := queue.sourceQueue ++ enqueued.sources
        totalFileSize := enqueued.totalFileSize
        numEntries := queue.numEntries + 1
        numBlocks := queue.numBlocks + enqueued.blockCount.toInt64 }

/-- `createIntoQueueInternal`, if each of its loops over a chunk ends within so many rounds. -/
def createIntoQueueWithin (rounds : Nat) (queue : DiscoveryQueue) (index : Nat) :
    Option DiscoveryQueue :=
  match queue.sharedFileData[index]? with
  | none => some queue
  | some metadata =>
    let plan := (planFile (queue.find metadata.relPath) queue.nextSeqId metadata.size).1
    let cut (chunk : Interval) :=
      cutRounds index (queue.blockSize metadata.size) rounds chunk.start chunk.bytes
    if plan.all fun plan => plan.remainingChunks.all fun chunk => (cut chunk).isSome then
      some (queue.createIntoQueueInternal index)
    else none

/-- Called with the lock held, once a file has been found. -/
def createIntoQueue (rounds : Nat) (queue : DiscoveryQueue) (metadata : SourceMetaData) :
    Option DiscoveryQueue :=
  ({ queue with sharedFileData := queue.sharedFileData ++ [metadata] }).createIntoQueueWithin
    rounds queue.sharedFileData.length

end DiscoveryQueue

/-! ### Cutting one chunk -/

def sourceExtent : Extent FileByteSource where
  start source := source.offset
  stop source := source.offset + source.size

def intervalExtent : Extent Interval where
  start := Interval.start
  stop := Interval.stop

section CutChunk

variable {metadata blockSize : Nat}

theorem cutChunk_empty (offset : Nat) :
    cutChunk metadata blockSize offset 0 = [{ metadata, size := 0, offset }] := by
  rw [cutChunk]
  simp

theorem cutChunk_last {offset remainingBytes : Nat} (fits : remainingBytes ≤ blockSize) :
    cutChunk metadata blockSize offset remainingBytes =
      [{ metadata, size := remainingBytes, offset }] := by
  rw [cutChunk]
  simp [Nat.min_eq_left fits]

theorem cutChunk_more {offset remainingBytes : Nat} (positive : 0 < blockSize)
    (more : blockSize < remainingBytes) :
    cutChunk metadata blockSize offset remainingBytes = { metadata, size := blockSize, offset } ::
        cutChunk metadata blockSize (offset + blockSize) (remainingBytes - blockSize) := by
  rw [cutChunk]
  simp only [Nat.min_eq_right more.le]
  rw [dif_pos ⟨by omega, positive⟩]

theorem cutChunk_induction {motive : Nat → Nat → List FileByteSource → Prop}
    (last : ∀ offset remainingBytes, remainingBytes ≤ blockSize →
      motive offset remainingBytes [{ metadata, size := remainingBytes, offset }])
    (more : ∀ offset remainingBytes blocks, 0 < blockSize → blockSize < remainingBytes →
      motive (offset + blockSize) (remainingBytes - blockSize) blocks →
      motive offset remainingBytes ({ metadata, size := blockSize, offset } :: blocks))
    {offset remainingBytes : Nat} (applies : remainingBytes = 0 ∨ 0 < blockSize) :
    motive offset remainingBytes (cutChunk metadata blockSize offset remainingBytes) := by
  induction remainingBytes using Nat.strong_induction_on generalizing offset with
  | _ remainingBytes ih =>
    by_cases fits : remainingBytes ≤ blockSize
    · rw [cutChunk_last fits]
      exact last offset remainingBytes fits
    have positive : 0 < blockSize := by omega
    rw [cutChunk_more positive (by omega)]
    exact more offset remainingBytes _ positive (by omega)
      (ih (remainingBytes - blockSize) (by omega) (.inr positive))

/-- Each round but the last takes a whole block. -/
theorem cutRounds_eq (metadata blockSize rounds offset remainingBytes : Nat) :
    cutRounds metadata blockSize rounds offset remainingBytes =
      if 0 < rounds ∧ remainingBytes ≤ rounds * blockSize then
        some (cutChunk metadata blockSize offset remainingBytes)
      else none := by
  induction rounds generalizing offset remainingBytes with
  | zero => rfl
  | succ rounds ih =>
    rw [cutRounds, Nat.succ_mul]
    by_cases fits : remainingBytes ≤ blockSize
    · rw [cutChunk_last fits, Nat.min_eq_left fits, Nat.sub_self]
      exact (if_pos ⟨Nat.succ_pos _, by omega⟩).symm
    rw [Nat.min_eq_right (by omega), if_pos (by omega), ih]
    rcases Nat.eq_zero_or_pos blockSize with rfl | positive
    · rw [Nat.mul_zero, if_neg (by omega), if_neg (by omega)]
      rfl
    rw [@cutChunk_more metadata blockSize offset remainingBytes positive (by omega)]
    rcases Nat.eq_zero_or_pos rounds with rfl | before
    · rw [if_neg (by omega), if_neg (by omega)]
      rfl
    · simp only [before, Nat.succ_pos, true_and, Nat.sub_le_iff_le_add]
      split <;> rfl

variable {offset remainingBytes : Nat}

theorem cutChunk_tiles (applies : remainingBytes = 0 ∨ 0 < blockSize) :
    sourceExtent.Tiles (cutChunk metadata blockSize offset remainingBytes) offset
      (offset + remainingBytes) := by
  apply cutChunk_induction (motive := fun offset remainingBytes blocks =>
    sourceExtent.Tiles blocks offset (offset + remainingBytes)) _ _ applies
  · intro offset remainingBytes _
    exact @tiles_singleton _ sourceExtent { metadata, size := remainingBytes, offset }
      (Nat.le_add_right _ _)
  · intro offset remainingBytes blocks _ more tiles
    have same : offset + blockSize + (remainingBytes - blockSize) = offset + remainingBytes := by
      omega
    rw [same] at tiles
    exact @Tiles.cons _ sourceExtent { metadata, size := blockSize, offset } _ _ tiles
      (Nat.le_add_right _ _) (Nat.add_le_add_left more.le offset)

theorem cutChunk_sizes (applies : remainingBytes = 0 ∨ 0 < blockSize) :
    (∀ source ∈ cutChunk metadata blockSize offset remainingBytes,
      source.metadata = metadata ∧ source.size ≤ blockSize) ∧
      ((cutChunk metadata blockSize offset remainingBytes).map FileByteSource.size).sum =
        remainingBytes := by
  apply cutChunk_induction (motive := fun _ remainingBytes blocks =>
    (∀ source ∈ blocks, source.metadata = metadata ∧ source.size ≤ blockSize) ∧
      (blocks.map FileByteSource.size).sum = remainingBytes) _ _ applies
  · intro offset remainingBytes fits
    refine ⟨?_, by simp⟩
    intro source member
    rw [mem_singleton] at member
    subst member
    exact ⟨rfl, fits⟩
  · intro offset remainingBytes blocks _ more rest
    refine ⟨?_, ?_⟩
    · intro source member
      rcases mem_cons.mp member with own | later
      · subst own
        exact ⟨rfl, Nat.le_refl _⟩
      · exact rest.1 source later
    · rw [map_cons, sum_cons, rest.2]
      change blockSize + (remainingBytes - blockSize) = remainingBytes
      omega

def blocksOf (blockSize size : Nat) : Nat := max 1 ((size + blockSize - 1) / blockSize)

theorem cutChunk_length (applies : remainingBytes = 0 ∨ 0 < blockSize) :
    (cutChunk metadata blockSize offset remainingBytes).length =
      blocksOf blockSize remainingBytes := by
  apply cutChunk_induction (motive := fun _ remainingBytes blocks =>
    blocks.length = blocksOf blockSize remainingBytes) _ _ applies
  · intro offset remainingBytes fits
    unfold blocksOf
    have one : (remainingBytes + blockSize - 1) / blockSize ≤ 1 := by
      rcases Nat.eq_zero_or_pos blockSize with zero | positive
      · rw [zero, Nat.div_zero]
        exact Nat.zero_le 1
      · rw [Nat.div_le_iff_le_mul_add_pred positive]
        omega
    rw [length_singleton]
    omega
  · intro offset remainingBytes blocks positive more rest
    rw [length_cons, rest]
    unfold blocksOf
    have shift : (remainingBytes + blockSize - 1) / blockSize =
        (remainingBytes - blockSize + blockSize - 1) / blockSize + 1 := by
      rw [← Nat.add_div_right _ positive]
      congr 1
      omega
    have least : 1 ≤ (remainingBytes - blockSize + blockSize - 1) / blockSize := by
      rw [Nat.one_le_div_iff positive]
      omega
    omega

end CutChunk

def Interval.Ordered (low high : Nat) (chunks : List Interval) : Prop :=
  intervalExtent.Sequence chunks ∧
    ∀ chunk ∈ chunks, low ≤ chunk.start ∧ chunk.start ≤ chunk.stop ∧ chunk.stop ≤ high

theorem Interval.Ordered.tail {low high : Nat} {chunk : Interval} {rest : List Interval}
    (ordered : Ordered low high (chunk :: rest)) : Ordered chunk.stop high rest := by
  obtain ⟨sequence, inside⟩ := ordered
  obtain ⟨before, restSequence⟩ := pairwise_cons.mp sequence
  refine ⟨restSequence, ?_⟩
  intro other member
  exact ⟨before other member, (inside other (mem_cons_of_mem _ member)).2⟩

variable {chunks : List Interval}

theorem Interval.Ordered.weaken {low lower high : Nat}
    (ordered : Ordered low high chunks) (less : lower ≤ low) : Ordered lower high chunks := by
  refine ⟨ordered.1, ?_⟩
  intro chunk member
  have inside := ordered.2 chunk member
  omega

theorem Interval.Ordered.cons {low high : Nat} {chunk : Interval} {rest : List Interval}
    (ordered : Ordered chunk.stop high rest) (lower : low ≤ chunk.start)
    (proper : chunk.start ≤ chunk.stop) (upper : chunk.stop ≤ high) :
    Ordered low high (chunk :: rest) := by
  refine ⟨pairwise_cons.mpr ⟨fun other member => (ordered.2 other member).1, ordered.1⟩, ?_⟩
  intro other member
  rcases mem_cons.mp member with own | later
  · subst own
    exact ⟨lower, proper, upper⟩
  · have inside := ordered.2 other later
    omega

theorem remainingFrom_spec {curStart curFileSize : Nat}
    (ordered : Ordered curStart curFileSize chunks) :
    Ordered curStart curFileSize (remainingFrom curFileSize curStart chunks) ∧
      (∀ chunk ∈ remainingFrom curFileSize curStart chunks, chunk.start < chunk.stop) ∧
      ∀ position, intervalExtent.Covers (remainingFrom curFileSize curStart chunks) position ↔
        (curStart ≤ position ∧ position < curFileSize) ∧
          ¬ intervalExtent.Covers chunks position := by
  induction chunks generalizing curStart with
  | nil =>
    unfold remainingFrom
    by_cases more : curStart < curFileSize
    · rw [if_pos more]
      refine ⟨⟨pairwise_singleton _ _, ?_⟩, ?_, ?_⟩
      · intro chunk member
        rw [mem_singleton] at member
        subst member
        exact ⟨Nat.le_refl _, more.le, Nat.le_refl _⟩
      · intro chunk member
        rw [mem_singleton] at member
        subst member
        exact more
      · intro position
        have none := @covers_nil _ intervalExtent position
        rw [covers_cons]
        tauto
    · rw [if_neg more]
      refine ⟨⟨List.Pairwise.nil, nofun⟩, nofun, ?_⟩
      intro position
      have none := @covers_nil _ intervalExtent position
      constructor
      · exact fun covered => absurd covered none
      · omega
  | cons chunk rest ih =>
    have own := ordered.2 chunk mem_cons_self
    have restOrdered := ordered.tail
    obtain ⟨laterOrdered, laterProper, laterCovers⟩ := ih restOrdered
    have behind : ∀ position, intervalExtent.Covers rest position → chunk.stop ≤ position := by
      rintro position ⟨other, member, lower, _⟩
      have inside := restOrdered.2 other member
      exact inside.1.trans lower
    unfold remainingFrom
    by_cases gap : curStart < chunk.start
    · rw [if_pos gap]
      refine ⟨?_, ?_, ?_⟩
      · exact (laterOrdered.weaken own.2.1).cons (Nat.le_refl _) gap.le (by
          change chunk.start ≤ curFileSize
          omega)
      · intro other member
        rcases mem_cons.mp member with isGap | later
        · subst isGap
          exact gap
        · exact laterProper other later
      · intro position
        have restBehind := behind position
        rw [covers_cons, covers_cons, laterCovers]
        change (curStart ≤ position ∧ position < chunk.start) ∨ _ ↔
          _ ∧ ¬ ((chunk.start ≤ position ∧ position < chunk.stop) ∨ _)
        by_cases covered : intervalExtent.Covers rest position
        · have stop := restBehind covered
          simp only [covered, not_true_eq_false, and_false, or_true, or_false, iff_false]
          omega
        · simp only [covered, not_false_eq_true, and_true, or_false]
          omega
    · rw [if_neg gap]
      refine ⟨laterOrdered.weaken (by omega), laterProper, ?_⟩
      intro position
      rw [covers_cons, laterCovers]
      change _ ↔ _ ∧ ¬ ((chunk.start ≤ position ∧ position < chunk.stop) ∨ _)
      by_cases covered : intervalExtent.Covers rest position
      · simp only [covered, not_true_eq_false, and_false, or_true]
      · simp only [covered, not_false_eq_true, and_true, or_false]
        omega

/-! ### One file -/

/-- An entry as a receiver sends it. -/
def FileChunksInfo.Honest : Prop :=
  Ordered 0 info.fileSize info.chunks

theorem FileChunksInfo.Honest.ordered {info : FileChunksInfo} (honest : info.Honest)
    {fileSize : Nat} (large : info.fileSize ≤ fileSize) : Ordered 0 fileSize info.chunks := by
  obtain ⟨sequence, inside⟩ := honest
  refine ⟨sequence, ?_⟩
  intro chunk member
  have own := inside chunk member
  omega

def usableChunks (fileSize : Nat) : List Interval :=
  match entry with
  | none => []
  | some info => if fileSize < info.fileSize then [] else info.chunks

def missingChunks (fileSize : Nat) : List Interval :=
  match entry with
  | none => [⟨0, fileSize⟩]
  | some info =>
    if fileSize < info.fileSize then [⟨0, fileSize⟩] else info.getRemainingChunks fileSize

theorem planFile_chunks (entry : Option FileChunksInfo) (nextSeqId : Int64) (fileSize : Nat) :
    match (planFile entry nextSeqId fileSize).1 with
    | none => missingChunks entry fileSize = []
    | some plan => plan.remainingChunks = missingChunks entry fileSize := by
  unfold planFile missingChunks
  cases entry with
  | none => rfl
  | some info =>
    dsimp only
    by_cases tooLarge : fileSize < info.fileSize
    · rw [if_pos tooLarge, if_pos tooLarge]
    rw [if_neg tooLarge, if_neg tooLarge]
    by_cases empty : (info.getRemainingChunks fileSize).isEmpty = true
    · rw [if_pos empty]
      exact isEmpty_iff.mp empty
    · rw [if_neg empty]

theorem wholeFile_spec (fileSize : Nat) : Ordered 0 fileSize [⟨0, fileSize⟩] ∧
      ∀ position, intervalExtent.Covers [⟨0, fileSize⟩] position ↔
        position < fileSize ∧ ¬ intervalExtent.Covers [] position := by
  have tiles := @tiles_singleton _ intervalExtent ⟨0, fileSize⟩ (Nat.zero_le _)
  refine ⟨⟨tiles.sequence, tiles.inside⟩, ?_⟩
  intro position
  have none := @covers_nil _ intervalExtent position
  rw [tiles.covers]
  change 0 ≤ position ∧ position < fileSize ↔ _
  simp only [none, not_false_eq_true, and_true, Nat.zero_le, true_and]

theorem missingChunks_spec {entry : Option FileChunksInfo}
    (honest : ∀ info, entry = some info → info.Honest) (fileSize : Nat) :
    Ordered 0 fileSize (missingChunks entry fileSize) ∧
      ∀ position, intervalExtent.Covers (missingChunks entry fileSize) position ↔
        position < fileSize ∧ ¬ intervalExtent.Covers (usableChunks entry fileSize) position := by
  unfold missingChunks usableChunks
  cases entry with
  | none => exact wholeFile_spec fileSize
  | some info =>
    dsimp only
    by_cases tooLarge : fileSize < info.fileSize
    · rw [if_pos tooLarge, if_pos tooLarge]
      exact wholeFile_spec fileSize
    rw [if_neg tooLarge, if_neg tooLarge]
    obtain ⟨remaining, _, covers⟩ := remainingFrom_spec
      ((honest info rfl).ordered (Nat.le_of_not_lt tooLarge))
    refine ⟨remaining, ?_⟩
    intro position
    have same := covers position
    simp only [Nat.zero_le, true_and] at same
    exact same

theorem foldl_addChunk (metadata blockSize : Nat) (chunks : List Interval)
    (enqueued : EnqueuedBlocks) :
    chunks.foldl (EnqueuedBlocks.addChunk metadata blockSize) enqueued =
      { sources := enqueued.sources ++
          chunks.flatMap fun chunk => cutChunk metadata blockSize chunk.start chunk.bytes
        blockCount := enqueued.blockCount + Int32.ofNat (chunks.flatMap fun chunk =>
          cutChunk metadata blockSize chunk.start chunk.bytes).length
        totalFileSize := enqueued.totalFileSize +
          Int64.ofNat (chunks.map Interval.bytes).sum } := by
  induction chunks generalizing enqueued with
  | nil =>
    have noBlocks : enqueued.blockCount + Int32.ofNat 0 = enqueued.blockCount := Int32.add_zero _
    have noBytes : enqueued.totalFileSize + Int64.ofNat 0 = enqueued.totalFileSize :=
      Int64.add_zero _
    simp only [foldl_nil, flatMap_nil, append_nil, length_nil, map_nil,
      sum_nil, noBlocks, noBytes]
  | cons chunk rest ih =>
    rw [foldl_cons, ih]
    unfold EnqueuedBlocks.addChunk
    simp only [flatMap_cons, append_assoc, length_append, map_cons,
      sum_cons, Int32.ofNat_add, Int64.ofNat_add, Int32.add_assoc, Int64.add_assoc]

namespace DiscoveryQueue

variable {queue : DiscoveryQueue} {index : Nat} {metadata : SourceMetaData}

def newBlocks (queue : DiscoveryQueue) (index : Nat) (metadata : SourceMetaData) :
    List FileByteSource :=
  (missingChunks (queue.find metadata.relPath) metadata.size).flatMap fun chunk =>
    cutChunk index (queue.blockSize metadata.size) chunk.start chunk.bytes

def missingBytes (queue : DiscoveryQueue) (metadata : SourceMetaData) : Nat :=
  ((missingChunks (queue.find metadata.relPath) metadata.size).map Interval.bytes).sum

theorem createIntoQueueInternal_adds (present : queue.sharedFileData[index]? = some metadata) :
    (queue.createIntoQueueInternal index).sourceQueue =
        queue.sourceQueue ++ queue.newBlocks index metadata ∧
      (queue.createIntoQueueInternal index).totalFileSize =
        queue.totalFileSize + Int64.ofNat (queue.missingBytes metadata) ∧
      (queue.createIntoQueueInternal index).numBlocks = queue.numBlocks +
        (Int32.ofNat (queue.newBlocks index metadata).length).toInt64 := by
  have chunks := planFile_chunks (queue.find metadata.relPath) queue.nextSeqId metadata.size
  unfold createIntoQueueInternal newBlocks missingBytes
  rw [present]
  dsimp only
  cases planned : (planFile (queue.find metadata.relPath) queue.nextSeqId metadata.size).1 with
  | none =>
    rw [planned] at chunks
    rw [chunks]
    exact ⟨(append_nil _).symm, (Int64.add_zero _).symm, (Int64.add_zero _).symm⟩
  | some plan =>
    rw [planned] at chunks
    dsimp only at chunks ⊢
    rw [foldl_addChunk, chunks]
    refine ⟨rfl, rfl, ?_⟩
    rw [Int32.zero_add]
    rfl

/-- So many rounds are enough for each missing chunk of a file. -/
def EndsWithin (rounds : Nat) (queue : DiscoveryQueue) (relPath : List Byte) (size : Nat) : Prop :=
  ∀ chunk ∈ missingChunks (queue.find relPath) size,
    0 < rounds ∧ chunk.bytes ≤ rounds * queue.blockSize size

theorem createIntoQueueWithin_eq_some {rounds : Nat} {after : DiscoveryQueue}
    (present : queue.sharedFileData[index]? = some metadata) :
    queue.createIntoQueueWithin rounds index = some after ↔
      after = queue.createIntoQueueInternal index ∧
        queue.EndsWithin rounds metadata.relPath metadata.size := by
  have chunks := planFile_chunks (queue.find metadata.relPath) queue.nextSeqId metadata.size
  unfold createIntoQueueWithin EndsWithin
  rw [present]
  rw [Option.ite_none_right_eq_some, Option.some.injEq, and_comm, eq_comm]
  cases planned : (planFile (queue.find metadata.relPath) queue.nextSeqId metadata.size).1 with
  | none =>
    rw [planned] at chunks
    simp [chunks]
  | some plan =>
    rw [planned] at chunks
    simp [← chunks, cutRounds_eq]

/-! ### The blocks tile what is missing -/

theorem mulMbytes_toInt (mbytes : Int64) (positive : 0 < mbytes.toInt)
    (fits : mbytes.toInt * 1048576 < 2 ^ 63) :
    (mbytes * 1024 * 1024).toInt = mbytes.toInt * 1048576 := by
  have constant : (1024 : Int64).toInt = 1024 := rfl
  rw [Int64.toInt_mul, Int64.toInt_mul, constant,
    @Int.bmod_eq_of_le_mul_two (mbytes.toInt * 1024) (2 ^ 64) (by omega) (by omega),
    @Int.bmod_eq_of_le_mul_two (mbytes.toInt * 1024 * 1024) (2 ^ 64) (by omega) (by omega)]
  omega

theorem blockSize_le (positive : 0 < queue.blockSizeMbytes.toInt) {fileSize : Nat}
    (small : fileSize ≤ int64Max) :
    (queue.blockSize fileSize : Int) ≤ queue.blockSizeMbytes.toInt * 1048576 := by
  have bound : int64Max = 2 ^ 63 - 1 := rfl
  have upper := (queue.blockSizeMbytes * 1024 * 1024).toInt_lt
  unfold blockSize
  dsimp only
  by_cases fits : queue.blockSizeMbytes.toInt * 1048576 < 2 ^ 63
  · have bytes := mulMbytes_toInt queue.blockSizeMbytes positive fits
    have enabled : 0 < queue.blockSizeMbytes * 1024 * 1024 := by
      rw [Int64.lt_iff_toInt_lt, bytes]
      change 0 < _
      omega
    rw [if_pos enabled, bytes]
    omega
  · split <;> omega

theorem cuts {chunk : Interval} (inside : chunk.stop ≤ metadata.size) :
    chunk.bytes = 0 ∨ 0 < queue.blockSize metadata.size := by
  unfold Interval.bytes blockSize
  dsimp only
  split
  · rename_i enabled
    rw [Int64.lt_iff_toInt_lt] at enabled
    have zero : (0 : Int64).toInt = 0 := rfl
    omega
  · omega

theorem endsWithin_of_inside {rounds : Nat}
    (inside : ∀ chunk ∈ missingChunks (queue.find metadata.relPath) metadata.size,
      chunk.stop ≤ metadata.size)
    (enough : metadata.size < rounds) : queue.EndsWithin rounds metadata.relPath metadata.size := by
  intro chunk member
  have stops := inside chunk member
  have bytes : chunk.bytes = chunk.stop - chunk.start := rfl
  refine ⟨by omega, ?_⟩
  rcases cuts stops with nothing | positive
  · omega
  · exact (show chunk.bytes ≤ rounds by omega).trans (Nat.le_mul_of_pos_right rounds positive)

theorem newBlocks_tile (honest : ∀ info, queue.find metadata.relPath = some info → info.Honest)
    (index : Nat) :
    sourceExtent.Sequence (queue.newBlocks index metadata) ∧
      ∀ position, sourceExtent.Covers (queue.newBlocks index metadata) position ↔
        position < metadata.size ∧ ¬ intervalExtent.Covers
          (usableChunks (queue.find metadata.relPath) metadata.size) position := by
  obtain ⟨ordered, covers⟩ := missingChunks_spec honest metadata.size
  have tiled : ∀ chunk ∈ missingChunks (queue.find metadata.relPath) metadata.size,
      sourceExtent.Tiles (cutChunk index (queue.blockSize metadata.size) chunk.start chunk.bytes)
        (intervalExtent.start chunk) (intervalExtent.stop chunk) := by
    intro chunk member
    have inside := ordered.2 chunk member
    have tiles := @cutChunk_tiles index (queue.blockSize metadata.size) chunk.start chunk.bytes
      (cuts inside.2.2)
    have stop : chunk.start + chunk.bytes = chunk.stop := by
      unfold Interval.bytes
      omega
    rw [stop] at tiles
    exact tiles
  refine ⟨sequence_flatMap ordered.1 tiled, ?_⟩
  intro position
  have same := covers_flatMap tiled position
  unfold newBlocks
  rw [same]
  exact covers position

theorem newBlocks_sizes (honest : ∀ info, queue.find metadata.relPath = some info → info.Honest)
    (index : Nat) :
    (∀ source ∈ queue.newBlocks index metadata,
      source.metadata = index ∧ source.size ≤ queue.blockSize metadata.size) ∧
      ((queue.newBlocks index metadata).map FileByteSource.size).sum =
        queue.missingBytes metadata := by
  obtain ⟨ordered, _⟩ := missingChunks_spec honest metadata.size
  have applies : ∀ chunk ∈ missingChunks (queue.find metadata.relPath) metadata.size,
      chunk.bytes = 0 ∨ 0 < queue.blockSize metadata.size :=
    fun chunk member => cuts (ordered.2 chunk member).2.2
  unfold newBlocks missingBytes
  generalize missingChunks (queue.find metadata.relPath) metadata.size = chunks at applies
  induction chunks with
  | nil => exact ⟨fun source member => (nomatch member), rfl⟩
  | cons chunk rest ih =>
    obtain ⟨own, ownSum⟩ := @cutChunk_sizes index (queue.blockSize metadata.size) chunk.start
      chunk.bytes (applies chunk mem_cons_self)
    obtain ⟨later, laterSum⟩ := ih (forall_mem_cons.mp applies).2
    rw [flatMap_cons, map_append, sum_append, map_cons, sum_cons, ownSum,
      laterSum]
    refine ⟨?_, rfl⟩
    exact forall_mem_append.mpr ⟨own, later⟩

def neededBlocks (queue : DiscoveryQueue) (metadata : SourceMetaData) : Nat :=
  ((missingChunks (queue.find metadata.relPath) metadata.size).map fun chunk =>
    blocksOf (queue.blockSize metadata.size) chunk.bytes).sum

theorem newBlocks_length (honest : ∀ info, queue.find metadata.relPath = some info → info.Honest)
    (index : Nat) : (queue.newBlocks index metadata).length = queue.neededBlocks metadata := by
  obtain ⟨ordered, _⟩ := missingChunks_spec honest metadata.size
  unfold newBlocks neededBlocks
  rw [length_flatMap]
  congr 1
  apply map_congr_left
  intro chunk member
  exact cutChunk_length (cuts (ordered.2 chunk member).2.2)

end DiscoveryQueue

theorem blocksOf_le (blockSize size : Nat) : blocksOf blockSize size ≤ max 1 size := by
  unfold blocksOf
  have bound : (size + blockSize - 1) / blockSize ≤ max 1 size := by
    rcases Nat.eq_zero_or_pos blockSize with zero | positive
    · rw [zero, Nat.div_zero]
      exact Nat.zero_le _
    apply Nat.div_le_of_le_mul
    obtain ⟨more, rfl⟩ := Nat.exists_eq_add_of_lt positive
    cases size with
    | zero => simp
    | succ less =>
      rw [Nat.max_eq_right (by omega), Nat.mul_succ, Nat.add_mul]
      omega
  omega

theorem sum_blocksOf_le (blockSize : Nat) (proper : ∀ chunk ∈ chunks, chunk.start < chunk.stop) :
    (chunks.map fun chunk => blocksOf blockSize chunk.bytes).sum ≤
      (chunks.map Interval.bytes).sum := by
  induction chunks with
  | nil => exact Nat.le_refl _
  | cons chunk rest ih =>
    have own := blocksOf_le blockSize chunk.bytes
    have ownProper := proper chunk mem_cons_self
    have size : chunk.bytes = chunk.stop - chunk.start := rfl
    have later := ih (forall_mem_cons.mp proper).2
    rw [map_cons, sum_cons, map_cons, sum_cons]
    omega

namespace DiscoveryQueue

variable {queue : DiscoveryQueue} {index : Nat} {metadata : SourceMetaData}

section

variable (honest : ∀ info, queue.find metadata.relPath = some info → info.Honest)

include honest

theorem missingBytes_le :
    queue.missingBytes metadata ≤ metadata.size := by
  obtain ⟨ordered, _⟩ := missingChunks_spec honest metadata.size
  exact @sum_size_le _ intervalExtent _ 0 metadata.size ordered.1 ordered.2

theorem neededBlocks_le :
    queue.neededBlocks metadata ≤ max 1 metadata.size := by
  have bytes := missingBytes_le honest
  have whole := blocksOf_le (queue.blockSize metadata.size) (Interval.bytes ⟨0, metadata.size⟩)
  unfold neededBlocks
  unfold missingBytes at bytes
  cases entry : queue.find metadata.relPath with
  | none =>
    exact whole
  | some info =>
    rw [entry] at bytes
    unfold missingChunks at bytes ⊢
    dsimp only at bytes ⊢
    by_cases tooLarge : metadata.size < info.fileSize
    · rw [if_pos tooLarge]
      exact whole
    rw [if_neg tooLarge] at bytes ⊢
    have blocks := sum_blocksOf_le (queue.blockSize metadata.size)
      (remainingFrom_spec ((honest info entry).ordered (Nat.le_of_not_lt tooLarge))).2.1
    change (map _ (remainingFrom metadata.size 0 info.chunks)).sum ≤ _ at bytes
    change (map _ (remainingFrom metadata.size 0 info.chunks)).sum ≤ _
    omega

end

theorem add_bytes_exact_iff (total : Int64) {bytes : Nat} (small : bytes ≤ int64Max) :
    (total + Int64.ofNat bytes).toInt = total.toInt + bytes ↔
      total.toInt + bytes ≤ int64Max := by
  have bound : int64Max = 2 ^ 63 - 1 := rfl
  have lower := total.le_toInt
  rw [Int64.toInt_add, Int64.toInt_ofNat']
  unfold Int64.size
  rw [Int.add_bmod_bmod]
  generalize total.toInt = value at *
  rw [Int.bmod_def]
  split <;> omega

theorem add_blocks_exact_iff (total : Int64) {count : Nat} (small : count ≤ int64Max) :
    (total + (Int32.ofNat count).toInt64).toInt = total.toInt + count ↔
      count ≤ int32Max ∧ total.toInt + count ≤ int64Max := by
  have bound : int64Max = 2 ^ 63 - 1 ∧ int32Max = 2 ^ 31 - 1 := ⟨rfl, rfl⟩
  have lower := total.le_toInt
  rw [Int64.toInt_add, Int32.toInt_toInt64, Int32.toInt_ofNat']
  unfold Int32.size
  generalize total.toInt = value at *
  rw [Int.bmod_def, Int.bmod_def]
  split <;> split <;> omega

/-- Disjoint blocks of the file, none above the block size, for exactly the bytes that no usable
chunk has; an empty file without an entry is one empty block. -/
structure TilesMissing (queue : DiscoveryQueue) (index : Nat) (metadata : SourceMetaData)
    (blocks : List FileByteSource) : Prop where
  ofFile : ∀ source ∈ blocks, source.metadata = index
  disjoint : blocks.Pairwise fun first second => first.offset + first.size ≤ second.offset
  bounded : 0 < queue.blockSizeMbytes.toInt → ∀ source ∈ blocks,
    (source.size : Int) ≤ queue.blockSizeMbytes.toInt * 1048576
  exact : ∀ position,
    (∃ source ∈ blocks, source.offset ≤ position ∧ position < source.offset + source.size) ↔
      position < metadata.size ∧
        ¬ ∃ chunk ∈ usableChunks (queue.find metadata.relPath) metadata.size, chunk.Covers position
  newEmpty : queue.find metadata.relPath = none → metadata.size = 0 →
    blocks = [{ metadata := index, size := 0, offset := 0 }]

theorem newBlocks_tilesMissing
    (honest : ∀ info, queue.find metadata.relPath = some info → info.Honest) (index : Nat) :
    queue.TilesMissing index metadata (queue.newBlocks index metadata) := by
  obtain ⟨sequence, covers⟩ := newBlocks_tile honest index
  obtain ⟨sizes, _⟩ := newBlocks_sizes honest index
  refine ⟨fun source member => (sizes source member).1, sequence, ?_, covers, ?_⟩
  · intro positive source member
    have below := (sizes source member).2
    have nominal := blockSize_le positive metadata.sizeSmall
    omega
  · intro unknown empty
    unfold newBlocks missingChunks
    rw [unknown, empty]
    exact congrArg (· ++ []) (cutChunk_empty 0)

/-- The blocks are right for every file, entry and block size. The totals grow by what was
enqueued exactly if the blocks fit into an `int` and the new totals into 64 bits. -/
theorem createIntoQueueInternal_tiles (queue : DiscoveryQueue) (index : Nat)
    (metadata : SourceMetaData) (present : queue.sharedFileData[index]? = some metadata)
    (honest : ∀ info, queue.find metadata.relPath = some info → info.Honest) :
    ∃ blocks, (queue.createIntoQueueInternal index).sourceQueue = queue.sourceQueue ++ blocks ∧
      queue.TilesMissing index metadata blocks ∧
      ((queue.createIntoQueueInternal index).totalFileSize.toInt =
            queue.totalFileSize.toInt + (blocks.map FileByteSource.size).sum ∧
          (queue.createIntoQueueInternal index).numBlocks.toInt =
            queue.numBlocks.toInt + blocks.length ↔
        queue.totalFileSize.toInt + queue.missingBytes metadata ≤ int64Max ∧
          queue.neededBlocks metadata ≤ int32Max ∧
          queue.numBlocks.toInt + queue.neededBlocks metadata ≤ int64Max) := by
  obtain ⟨sources, bytes, blocks⟩ := createIntoQueueInternal_adds present
  obtain ⟨_, sum⟩ := newBlocks_sizes honest index
  have length := newBlocks_length honest index
  have fewBytes := missingBytes_le honest
  have fewBlocks := neededBlocks_le honest
  have small := metadata.sizeSmall
  refine ⟨_, sources, newBlocks_tilesMissing honest index, ?_⟩
  rw [bytes, blocks, sum, length, add_bytes_exact_iff _ (by omega),
    add_blocks_exact_iff _ (by
      have large : 1 ≤ int64Max := by decide
      omega)]

def oneFile (size : Nat) (sizeSmall : size ≤ int64Max) (entries : List FileChunksInfo) :
    DiscoveryQueue where
  blockSizeMbytes := 1
  sharedFileData := [{ relPath := [97], size, sizeSmall }]
  previouslyTransferredChunks := entries

def secondMegabyte : FileChunksInfo where
  seqId := 5
  fileName := [97]
  fileSize := 4194304
  chunks := [⟨1048576, 2097152⟩]

theorem createIntoQueueInternal_tiles_resumed : ∃ blocks,
      ((oneFile 4194304 (by decide) [secondMegabyte]).createIntoQueueInternal 0).sourceQueue =
        blocks ∧
      (oneFile 4194304 (by decide) [secondMegabyte]).TilesMissing 0
        { relPath := [97], size := 4194304, sizeSmall := by decide } blocks := by
  have honest : ∀ info, (oneFile 4194304 (by decide) [secondMegabyte]).find [97] = some info →
      info.Honest := by
    intro info found
    have same : secondMegabyte = info := Option.some.inj found
    rw [← same]
    refine ⟨pairwise_singleton _ _, ?_⟩
    intro chunk member
    have own : chunk = ⟨1048576, 2097152⟩ := mem_singleton.mp member
    rw [own]
    decide
  obtain ⟨blocks, sources, tiles, _⟩ := createIntoQueueInternal_tiles
    (oneFile 4194304 (by decide) [secondMegabyte]) 0
    { relPath := [97], size := 4194304, sizeSmall := by decide } rfl honest
  exact ⟨blocks, sources, tiles⟩

/-- Two petabytes are too many blocks for the counter. -/
theorem many_blocks_miscounted :
    ((oneFile 2251799813685248 (by decide) []).createIntoQueueInternal 0).sourceQueue.length =
        2147483648 ∧
      ((oneFile 2251799813685248 (by decide) []).createIntoQueueInternal 0).numBlocks.toInt =
        -2147483648 := by
  have honest : ∀ info, (oneFile 2251799813685248 (by decide) []).find [97] = some info →
      info.Honest := nofun
  obtain ⟨sources, _, blocks⟩ := @createIntoQueueInternal_adds
    (oneFile 2251799813685248 (by decide) []) 0
    { relPath := [97], size := 2251799813685248, sizeSmall := by decide } rfl
  have length := @newBlocks_length (oneFile 2251799813685248 (by decide) [])
    { relPath := [97], size := 2251799813685248, sizeSmall := by decide } honest 0
  have count : (oneFile 2251799813685248 (by decide) []).neededBlocks
      { relPath := [97], size := 2251799813685248, sizeSmall := by decide } = 2147483648 := by
    decide
  rw [sources, blocks, length, count]
  refine ⟨?_, by decide⟩
  rw [length_append, length, count]
  rfl

end DiscoveryQueue

end Wdt
