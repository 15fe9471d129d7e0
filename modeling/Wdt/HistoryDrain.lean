/-
The end of a transfer drains each history with a checkpoint of the sender's own: the
acknowledged number of blocks, and no received bytes of the block (0, 0). It is
validated against the last checkpoint that a receiver sent.
-/

import Wdt.SenderReport

namespace Wdt.ThreadTransferHistory

variable {thread : ThreadTransferHistory}

/-- The drain is accepted, and the check of `popAckedSourceStats` passes behind it. -/
structure Drains (thread : ThreadTransferHistory) : Prop where
  accepted : thread.rejects { numBlocks := thread.numAcknowledged } false = false
  exact_history : thread.returnUnackedSourcesToQueue.1.history.length = thread.numAcknowledged
  popped : thread.returnUnackedSourcesToQueue.1.popAckedSourceStats.isSome

/-- Received bytes of the first block of seq-id 0, or of a block without a seq-id, by a
checkpoint that acknowledges all that is acknowledged. -/
def KeepsFirstBlock (thread : ThreadTransferHistory) : Prop :=
  ∃ last ∈ thread.lastCheckpoint, last.numBlocks = thread.numAcknowledged ∧
    last.lastBlockSeqId = 0 ∧ last.lastBlockOffset = 0 ∧ last.lastBlockReceivedBytes ≠ 0

structure Acknowledges (thread : ThreadTransferHistory) : Prop where
  few : thread.numAcknowledged ≤ thread.history.length
  last_le : ∀ last ∈ thread.lastCheckpoint, last.numBlocks ≤ thread.numAcknowledged

theorem Acknowledges.addSource (acknowledges : thread.Acknowledges) (source : ByteSource) :
    (thread.addSource source).2.1.Acknowledges := by
  unfold ThreadTransferHistory.addSource
  split
  · exact ⟨acknowledges.few, nofun⟩
  · refine ⟨acknowledges.few.trans ?_, acknowledges.last_le⟩
    rw [List.length_append]
    exact Nat.le_add_right _ _

theorem Acknowledges.setCheckpoint (acknowledges : thread.Acknowledges)
    (checkpoint : Checkpoint) (globalCheckpoint : Bool) :
    (thread.setCheckpointAndReturnToQueue checkpoint globalCheckpoint).2.1.Acknowledges := by
  unfold setCheckpointAndReturnToQueue
  split
  · exact acknowledges
  rename_i accepted
  simp only [rejects, Bool.or_eq_true, decide_eq_true_eq, not_or, not_lt] at accepted
  refine ⟨?_, ?_⟩
  · rw [List.length_take, Nat.min_eq_left accepted.1]
  · rintro last ⟨⟩
    exact le_refl _

theorem Acknowledges.markAll (acknowledges : thread.Acknowledges) :
    thread.markAllAcknowledged.Acknowledges :=
  ⟨le_refl _, fun last kept => (acknowledges.last_le last kept).trans acknowledges.few⟩

theorem Acknowledges.run (acknowledges : thread.Acknowledges) (ops : List HistoryOp) :
    (thread.run ops).Acknowledges := by
  induction ops generalizing thread with
  | nil => exact acknowledges
  | cons op rest ih =>
    refine @ih (thread.perform op).1 ?_
    cases op with
    | addSource source => exact acknowledges.addSource source
    | setLocalCheckpoint checkpoint => exact acknowledges.setCheckpoint checkpoint false
    | setGlobalCheckpoint checkpoint => exact acknowledges.setCheckpoint checkpoint true
    | markAllAcknowledged => exact acknowledges.markAll
    | returnUnackedSourcesToQueue => exact acknowledges.setCheckpoint _ false

/-! ### The drain -/

theorem Acknowledges.drain_rejected_iff (acknowledges : thread.Acknowledges) :
    thread.rejects { numBlocks := thread.numAcknowledged } false = true ↔
      thread.KeepsFirstBlock := by
  have few := acknowledges.few
  have invalid : thread.rejects { numBlocks := thread.numAcknowledged } false = true ↔
      thread.validateCheckpoint { numBlocks := thread.numAcknowledged } false =
        .invalidCheckpoint := by
    simp [rejects, few]
  rw [invalid]
  unfold validateCheckpoint KeepsFirstBlock
  cases kept : thread.lastCheckpoint with
  | none => simp
  | some last =>
    have last_le := acknowledges.last_le last kept
    by_cases same : last.numBlocks = thread.numAcknowledged
    · by_cases first : last.lastBlockSeqId = 0 ∧ last.lastBlockOffset = 0
      · by_cases nothing : last.lastBlockReceivedBytes = 0
        · simp [same, first, nothing]
        · simp [same, first, nothing, Ne.symm nothing]
      · have other : ¬ (0 = last.lastBlockSeqId ∧ 0 = last.lastBlockOffset) :=
          fun both => first ⟨both.1.symm, both.2.symm⟩
        simp only [same, lt_irrefl, if_false, if_neg other, if_true, Bool.false_eq_true,
          reduceCtorEq, Option.mem_some_iff, exists_eq_left', true_and, false_iff]
        exact fun named => first ⟨named.1, named.2.1⟩
    · have less : last.numBlocks < thread.numAcknowledged := by omega
      simp [same, less, Nat.not_lt_of_lt less]

theorem Acknowledges.drains (acknowledges : thread.Acknowledges)
    (accepted : thread.rejects { numBlocks := thread.numAcknowledged } false = false) :
    thread.Drains := by
  have length : thread.returnUnackedSourcesToQueue.1.history.length =
      thread.numAcknowledged := by
    unfold returnUnackedSourcesToQueue setCheckpointAndReturnToQueue
    rw [if_neg (Bool.eq_false_iff.mp accepted), List.length_take, Nat.min_eq_left acknowledges.few]
  have acknowledged : thread.returnUnackedSourcesToQueue.1.numAcknowledged =
      thread.numAcknowledged := by
    unfold returnUnackedSourcesToQueue setCheckpointAndReturnToQueue
    rw [if_neg (Bool.eq_false_iff.mp accepted)]
  refine ⟨accepted, length, ?_⟩
  unfold popAckedSourceStats
  rw [if_pos (acknowledged.trans length.symm)]
  rfl

/-- Behind every sequence of operations, whoever sent the checkpoints. -/
theorem drains_iff (ops : List HistoryOp) :
    (run {} ops).Drains ↔ ¬ (run {} ops).KeepsFirstBlock := by
  have initially : ({} : ThreadTransferHistory).Acknowledges := ⟨le_refl _, nofun⟩
  have acknowledges := initially.run ops
  rw [← acknowledges.drain_rejected_iff, Bool.not_eq_true]
  exact ⟨Drains.accepted, acknowledges.drains⟩

/-- The first five bytes of the first block of seq-id 0 are received, at a version with seq-ids
and at one without. The rest of the block is sent and not acknowledged: the drain leaves it in
the history, and the process ends. -/
theorem first_block_not_drained : (decodeCheckpoints 30 [1, 7, 0, 5, 0, 0]).1 =
        some [{ port := 7, lastBlockReceivedBytes := 5, hasSeqId := true }] ∧
      (decodeCheckpoints 20 [1, 7, 0, 5]).1 = some [{ port := 7, lastBlockReceivedBytes := 5 }] ∧
      ∀ hasSeqId, ∃ thread, run {}
          [.addSource { seqId := 0, offset := 0, size := 10 },
            .setLocalCheckpoint { port := 7, lastBlockReceivedBytes := 5, hasSeqId },
            .addSource { seqId := 0, offset := 5, size := 5 }] = thread ∧
        thread.returnUnackedSourcesToQueue.1.popAckedSourceStats = none ∧ ¬ thread.Drains := by
  refine ⟨by decide, by decide, fun hasSeqId => ⟨_, rfl, ?_, fun drains => ?_⟩⟩
  · cases hasSeqId <;> decide
  · have accepted := drains.accepted
    revert accepted
    cases hasSeqId <;> decide

end Wdt.ThreadTransferHistory
