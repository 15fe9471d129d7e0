/-
Which bytes of which files the sources of a sender stand for. Checkpoints change the
statistics of the sources that they return; the blocks change in one place only, by
the credit for the oldest source that was not acknowledged.
-/

import Wdt.SenderThread

namespace Wdt

open List ThreadTransferHistory Range

namespace ByteSource

def block (source : ByteSource) : Nat × Nat × Int := (source.seqId, source.offset, source.size)

variable {source other : ByteSource} {files : Nat → SourceFile}

def blockRange : Nat × Nat × Int → Range Nat
  | (seqId, offset, size) => { key := seqId, start := offset, size := size.toNat }

theorem map_range (sources : List ByteSource) :
    sources.map range = (sources.map block).map blockRange := by
  rw [map_map]
  rfl

theorem Within.of_block (within : source.Within files) (same : source.block = other.block) :
    other.Within files := by
  cases source
  cases other
  cases same
  exact ⟨within.seqId, within.size, within.inside⟩

@[simp] theorem advanceOffset_zero (source : ByteSource) : source.advanceOffset 0 = source := by
  unfold advanceOffset
  simp

end ByteSource

/-- Sources that are disjoint parts of their files, and not more bytes than a counter holds. -/
structure Separate (files : Nat → SourceFile) (sources : List ByteSource) : Prop where
  within : ∀ source ∈ sources, source.Within files
  disjoint : Disjoint (sources.map ByteSource.range)
  bounded : total (sources.map ByteSource.range) ≤ int64Max

namespace Separate

variable {files : Nat → SourceFile} {sources others : List ByteSource} {source : ByteSource}

theorem perm (separate : Separate files sources) (permuted : sources.Perm others) :
    Separate files others := by
  refine ⟨?_, ?_, ?_⟩
  · intro source member
    exact separate.within source (permuted.mem_iff.mpr member)
  · exact separate.disjoint.perm (permuted.map _)
  · rw [← total_perm (permuted.map ByteSource.range)]
    exact separate.bounded

theorem of_blocks (separate : Separate files sources)
    (same : sources.map ByteSource.block = others.map ByteSource.block) :
    Separate files others := by
  have ranges : sources.map ByteSource.range = others.map ByteSource.range := by
    rw [ByteSource.map_range, ByteSource.map_range, same]
  refine ⟨?_, ?_, ?_⟩
  · intro other member
    have block : other.block ∈ sources.map ByteSource.block := by
      rw [same]
      exact mem_map_of_mem member
    obtain ⟨source, isSource, sameBlock⟩ := mem_map.mp block
    exact (separate.within source isSource).of_block sameBlock
  · rw [← ranges]
    exact separate.disjoint
  · rw [← ranges]
    exact separate.bounded

theorem advanceOffset (separate : Separate files (source :: sources)) {received : Nat}
    (less : received < source.size.toNat) :
    Separate files (source.advanceOffset received :: sources) := by
  have within := separate.within source mem_cons_self
  refine ⟨?_, ?_, ?_⟩
  · intro other member
    rcases mem_cons.mp member with rfl | later
    · exact within.advanceOffset (by omega)
    · exact separate.within other (mem_cons_of_mem _ later)
  · rw [map_cons, ByteSource.range_advanceOffset]
    exact Disjoint.advance_head separate.disjoint less
  · have bounded := separate.bounded
    have smaller : (source.range.advance received).reserve + received ≤ source.range.reserve :=
      reserve_advance_le less
    rw [map_cons, total_cons] at bounded
    rw [map_cons, total_cons, ByteSource.range_advanceOffset]
    omega

theorem length_le (separate : Separate files sources) : sources.length ≤ int64Max := by
  have counted := length_le_total (sources.map ByteSource.range)
  rw [length_map] at counted
  exact counted.trans separate.bounded

end Separate

/-! ### What a checkpoint returns -/

/-- The sources behind the acknowledged ones as they go back, the most recent first. -/
def creditOldest (checkpoint : Checkpoint) : List ByteSource → List ByteSource
  | [] => []
  | oldest :: newer =>
    newer.reverse ++ [oldest.advanceOffset (receivedBytes oldest (some checkpoint))]

theorem creditOldest_perm (checkpoint : Checkpoint) (kept newer queue : List ByteSource)
    (oldest : ByteSource) :
    (oldest.advanceOffset (receivedBytes oldest (some checkpoint)) :: (kept ++ newer ++ queue)).Perm
      (kept ++ (queue ++ creditOldest checkpoint (oldest :: newer))) := by
  rw [perm_iff_count]
  intro source
  simp only [creditOldest, count_cons, count_append, count_reverse, count_nil]
  omega

variable {checkpoint : Checkpoint}

theorem Separate.creditOldest {files : Nat → SourceFile} {kept unverified queue : List ByteSource}
    (separate : Separate files (kept ++ unverified ++ queue))
    (credit : ∀ oldest newer, unverified = oldest :: newer →
      receivedBytes oldest (some checkpoint) = 0 ∨
        receivedBytes oldest (some checkpoint) < oldest.size.toNat) :
    Separate files (kept ++ (queue ++ creditOldest checkpoint unverified)) := by
  cases unverified with
  | nil =>
    rw [append_nil] at separate
    rw [Wdt.creditOldest, append_nil]
    exact separate
  | cons oldest newer =>
    have front : (kept ++ oldest :: newer ++ queue).Perm (oldest :: (kept ++ newer ++ queue)) := by
      rw [append_assoc, cons_append, append_assoc]
      exact perm_middle
    have moved := separate.perm front
    apply Separate.perm _ (creditOldest_perm checkpoint kept newer queue oldest)
    rcases credit oldest newer rfl with none | less
    · rw [none, ByteSource.advanceOffset_zero]
      exact moved
    · exact moved.advanceOffset less

theorem markSourceAsFailed_block (threadStats : TransferStats) (source : ByteSource)
    (checkpoint : Option Checkpoint) :
    (markSourceAsFailed threadStats source checkpoint).1.block =
      (source.advanceOffset (receivedBytes source checkpoint)).block := by
  unfold markSourceAsFailed
  split
  · rfl
  · rfl

theorem failSources_concat (checkpoint : Checkpoint) (threadStats : TransferStats)
    (newer : List ByteSource) (oldest : ByteSource) :
    (failSources checkpoint threadStats (newer ++ [oldest])).1.map
        ByteSource.block =
      (newer ++ [oldest.advanceOffset (receivedBytes oldest (some checkpoint))]).map
        ByteSource.block := by
  induction newer generalizing threadStats with
  | nil =>
    change [(markSourceAsFailed threadStats oldest (some checkpoint)).1.block] = _
    rw [markSourceAsFailed_block]
    rfl
  | cons source rest ih =>
    have marked : (markSourceAsFailed threadStats source none).1.block = source.block := by
      rw [markSourceAsFailed_block]
      unfold receivedBytes
      rw [ByteSource.advanceOffset_zero]
    obtain ⟨next, more, shape⟩ : ∃ next more, rest ++ [oldest] = next :: more := by
      cases rest with
      | nil => exact ⟨oldest, [], rfl⟩
      | cons next more => exact ⟨next, more ++ [oldest], rfl⟩
    have result : (failSources checkpoint threadStats
        (source :: (rest ++ [oldest]))).1 =
        (markSourceAsFailed threadStats source none).1 ::
          (failSources checkpoint
            (markSourceAsFailed threadStats source none).2 (rest ++ [oldest])).1 := by
      rw [shape]
      rfl
    rw [cons_append, result, map_cons, marked, ih]
    rfl

theorem not_rejects_of_code {thread cut : ThreadTransferHistory}
    {globalCheckpoint : Bool} {code : ErrorCode} {returned : List ByteSource}
    (result : thread.setCheckpointAndReturnToQueue checkpoint globalCheckpoint =
      (code, cut, returned)) (accepted : code ≠ .invalidCheckpoint) :
    thread.rejects checkpoint globalCheckpoint = false := by
  rw [← Bool.not_eq_true]
  intro rejected
  unfold setCheckpointAndReturnToQueue at result
  rw [if_pos rejected] at result
  exact accepted (congrArg Prod.fst result).symm

theorem setCheckpointAndReturnToQueue_accepts {thread : ThreadTransferHistory}
    {globalCheckpoint : Bool} (accepted : thread.rejects checkpoint globalCheckpoint = false) :
    ∃ threadStats returned, thread.setCheckpointAndReturnToQueue checkpoint globalCheckpoint =
        (thread.validateCheckpoint checkpoint globalCheckpoint,
          { thread with
            threadStats
            history := thread.history.take checkpoint.numBlocks
            globalCheckpoint := thread.globalCheckpoint || globalCheckpoint
            numAcknowledged := checkpoint.numBlocks
            lastCheckpoint := some checkpoint },
          returned) ∧
      returned.map ByteSource.block =
        (creditOldest checkpoint (thread.history.drop checkpoint.numBlocks)).map
          ByteSource.block := by
  unfold setCheckpointAndReturnToQueue
  rw [accepted, if_neg Bool.false_ne_true]
  refine ⟨_, _, rfl, ?_⟩
  cases unacknowledged : thread.history.drop checkpoint.numBlocks with
  | nil => rfl
  | cons oldest newer =>
    rw [reverse_cons]
    exact failSources_concat checkpoint thread.threadStats newer.reverse oldest

end Wdt
