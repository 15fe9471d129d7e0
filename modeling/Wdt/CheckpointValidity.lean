/-
Whether the sender finds the receiver's local checkpoints valid. Validation compares
each one with the last that was accepted. `Answerable` adds to `Synced` that the next
checkpoint will pass: it holds as long as a checkpoint without received bytes cannot
be mistaken for one about a block.
-/

import Wdt.LocalCheckpoints

namespace Wdt

open ThreadTransferHistory

namespace Checkpoint

/-- No received bytes go with the seq-id and the offset that stand for no block. -/
def Telling (checkpoint : Checkpoint) : Prop := checkpoint.lastBlockReceivedBytes = 0 ↔
    checkpoint.lastBlockSeqId = 0 ∧ checkpoint.lastBlockOffset = 0

/-- The later checkpoint counts more blocks, or it tells the same about the same block. -/
def Follows (last next : Checkpoint) : Prop := last.numBlocks < next.numBlocks ∨
    last.numBlocks = next.numBlocks ∧
      (next.lastBlockSeqId = last.lastBlockSeqId → next.lastBlockOffset = last.lastBlockOffset →
        next.lastBlockReceivedBytes = last.lastBlockReceivedBytes)

theorem telling_of_lastBlock_zero {checkpoint : Checkpoint}
    (lastBlock : checkpoint.lastBlock = (0, 0, 0)) : checkpoint.Telling := by
  obtain ⟨seqId, rest⟩ := Prod.mk.inj lastBlock
  obtain ⟨offset, received⟩ := Prod.mk.inj rest
  exact ⟨fun _ => ⟨seqId, offset⟩, fun _ => received⟩

theorem Telling.congr {checkpoint other : Checkpoint} (telling : checkpoint.Telling)
    (same : other.lastBlock = checkpoint.lastBlock) : other.Telling := by
  obtain ⟨seqId, rest⟩ := Prod.mk.inj same
  obtain ⟨offset, received⟩ := Prod.mk.inj rest
  unfold Telling
  rw [seqId, offset, received]
  exact telling

theorem Follows.congr {last next other : Checkpoint} (follows : last.Follows next)
    (numBlocks : other.numBlocks = next.numBlocks) (same : other.lastBlock = next.lastBlock) :
    last.Follows other := by
  obtain ⟨seqId, rest⟩ := Prod.mk.inj same
  obtain ⟨offset, received⟩ := Prod.mk.inj rest
  unfold Follows
  rw [numBlocks, seqId, offset, received]
  exact follows

end Checkpoint

theorem validateCheckpoint_of_follows {thread : ThreadTransferHistory} {checkpoint : Checkpoint}
    (follows : ∀ last, thread.lastCheckpoint = some last → last.Follows checkpoint)
    (globalCheckpoint : Bool) :
    thread.validateCheckpoint checkpoint globalCheckpoint ≠ .invalidCheckpoint := by
  unfold validateCheckpoint
  cases kept : thread.lastCheckpoint with
  | none => exact nofun
  | some last =>
    dsimp only
    rcases follows last kept with more | ⟨same, received⟩
    · rw [if_neg (by omega), if_pos more]
      exact nofun
    rw [if_neg (by omega), if_neg (by omega)]
    split
    · rename_i sameBlock
      rw [if_neg (not_not.mpr (received sameBlock.1 sameBlock.2))]
      cases globalCheckpoint with
      | false | true => exact nofun
    split
    · cases globalCheckpoint with
      | false => exact nofun
      | true => exact nofun
    · exact nofun

/-! ### The relation -/

/-- The blocks whose parts a checkpoint can tell from no block at all: without checksums, the
header is shorter than what READ_NEXT_CMD waits for, and the block is not the first one of the
file with seq-id 0. -/
def PairSetup.Resumable (setup : PairSetup) (source : ByteSource) : Prop :=
  setup.headerLength source ≤ kMinBufLength ∧ (setup.settings.enableChecksum = true ∨
      setup.headerLength source < kMinBufLength ∧ ¬ (source.seqId = 0 ∧ source.offset = 0))

instance (setup : PairSetup) (source : ByteSource) : Decidable (setup.Resumable source) :=
  inferInstanceAs (Decidable (_ ∧ (_ ∨ _)))

/-- The last accepted checkpoint, as far as the next ones depend on it. -/
structure Answered (last next : Checkpoint) (sources : List ByteSource) : Prop where
  telling : last.Telling
  gone : last.lastBlockReceivedBytes ≠ 0 → ∀ source ∈ sources,
    ¬ (last.lastBlockSeqId = source.seqId ∧ last.lastBlockOffset = source.offset)
  follows : last.Follows next

structure Answerable (setup : PairSetup) (history : ThreadTransferHistory)
    (queue : List ByteSource) (reception : Reception) (verified unverified : List ByteSource) :
    Prop where
  synced : Synced setup history queue reception verified unverified
  telling : reception.checkpoint.Telling
  answered : ∀ last, history.lastCheckpoint = some last →
    Answered last reception.checkpoint (history.history ++ queue)

namespace Answerable

variable {setup : PairSetup} {history : ThreadTransferHistory} {queue : List ByteSource}
  {reception after : Reception} {verified unverified : List ByteSource}

section

variable (answerable : Answerable setup history queue reception verified unverified)

include answerable

theorem accepted : history.rejects reception.checkpoint.decoded false = false := by
  have counted : reception.checkpoint.decoded.numBlocks ≤ history.history.length := by
    have numBlocks : reception.checkpoint.decoded.numBlocks = verified.length :=
      answerable.synced.numBlocks
    rw [numBlocks, answerable.synced.split, List.length_append]
    exact Nat.le_add_right _ _
  have valid := validateCheckpoint_of_follows
    (fun last kept => ((answerable.answered last kept).follows.congr rfl rfl :
      last.Follows reception.checkpoint.decoded)) false
  unfold rejects
  rw [Bool.or_eq_false_iff, decide_eq_false_iff_not, beq_eq_false_iff_ne]
  exact ⟨Nat.not_lt.mpr counted, valid⟩

theorem of_synced {history' : ThreadTransferHistory}
    {queue' verified' unverified' : List ByteSource}
    (synced : Synced setup history' queue' after verified' unverified')
    (sameLast : history'.lastCheckpoint = history.lastCheckpoint)
    (sources : ∀ source ∈ history'.history ++ queue', source ∈ history.history ++ queue)
    (numBlocks : after.checkpoint.numBlocks = reception.checkpoint.numBlocks)
    (lastBlock : after.checkpoint.lastBlock = reception.checkpoint.lastBlock) :
    Answerable setup history' queue' after verified' unverified' where
  synced := synced
  telling := answerable.telling.congr lastBlock
  answered := by
    intro last kept
    rw [sameLast] at kept
    obtain ⟨telling, gone, follows⟩ := answerable.answered last kept
    exact ⟨telling, fun received source member => gone received source (sources source member),
      follows.congr numBlocks lastBlock⟩

theorem accept {code : ErrorCode} {cut : ThreadTransferHistory} {returned : List ByteSource}
    (accepted : history.rejects reception.checkpoint.decoded false = false)
    (result : history.setLocalCheckpoint reception.checkpoint.decoded = (code, cut, returned)) :
    Answerable setup cut (queue ++ returned) reception verified [] := by
  have synced := answerable.synced.accept accepted result
  obtain ⟨threadStats, others, accepts, _⟩ := setCheckpointAndReturnToQueue_accepts accepted
  have same := result.symm.trans accepts
  cases same
  refine ⟨synced, answerable.telling, ?_⟩
  intro last kept
  cases kept
  refine ⟨answerable.telling, ?_, .inr ⟨rfl, fun _ _ => rfl⟩⟩
  intro received source member named
  cases synced.lastBlock with
  | nothing none => exact received none
  | fresh first => cases first
  | stale lastBlock gone =>
    obtain ⟨sameSeqId, rest⟩ := Prod.mk.inj lastBlock
    obtain ⟨sameOffset, _⟩ := Prod.mk.inj rest
    have seqId := Int.ofNat.inj (sameSeqId.symm.trans named.1)
    have offset := sameOffset.symm.trans named.2
    subst seqId
    subst offset
    exact gone source.range (List.mem_map_of_mem member) source.range.reserves_start

end

section Arrive

variable {front back : List ByteSource} {status : Byte} {last : List FileByte}
  (setupSound : setup.Sound)
  (answerable : Answerable setup history queue reception verified (front ++ back))
  (arrival : Arrival setup.version (reception.configure setup.settings) after
    (front.map (ByteSource.command setup.files status))
    (back.map (ByteSource.command setup.files status)) last)

include setupSound answerable arrival

/-- It is enough that the new checkpoint is telling, and that it does not tell something else
about a block that the last accepted checkpoint named. -/
theorem arrive_of (telling : after.checkpoint.Telling)
    (received : ∀ last, history.lastCheckpoint = some last →
      after.checkpoint.lastBlockSeqId = last.lastBlockSeqId →
      after.checkpoint.lastBlockOffset = last.lastBlockOffset →
      after.checkpoint.lastBlockReceivedBytes = last.lastBlockReceivedBytes) :
    Answerable setup history queue after (verified ++ front) back := by
  refine ⟨answerable.synced.arrive setupSound arrival, telling, ?_⟩
  intro last kept
  obtain ⟨lastTelling, gone, follows⟩ := answerable.answered last kept
  refine ⟨lastTelling, gone, ?_⟩
  have counted := arrival.numBlocks
  change after.checkpoint.numBlocks = reception.checkpoint.numBlocks + _ at counted
  have earlier : last.numBlocks ≤ reception.checkpoint.numBlocks := by
    rcases follows with more | ⟨same, _⟩
    · exact more.le
    · exact same.le
  rcases Nat.lt_or_ge last.numBlocks after.checkpoint.numBlocks with more | notMore
  · exact .inl more
  · exact .inr ⟨by omega, received last kept⟩

theorem arrive (resumable : ∀ source ∈ front ++ back, setup.Resumable source) :
    Answerable setup history queue after (verified ++ front) back := by
  have cleared : after.checkpoint.lastBlock = (0, 0, 0) →
      Answerable setup history queue after (verified ++ front) back := by
    intro lastBlock
    apply answerable.arrive_of setupSound arrival (Checkpoint.telling_of_lastBlock_zero lastBlock)
    intro last kept sameSeqId sameOffset
    obtain ⟨seqId, rest⟩ := Prod.mk.inj lastBlock
    obtain ⟨offset, none⟩ := Prod.mk.inj rest
    rw [none]
    exact ((answerable.answered last kept).telling.mpr
      ⟨sameSeqId.symm.trans seqId, sameOffset.symm.trans offset⟩).symm
  have sameFooters : after.footerType = setup.settings.footerType := arrival.sameFooters
  have numBlocks := arrival.numBlocks
  have synced := answerable.synced.arrive setupSound arrival
  have whole := arrival
  generalize shape : back.map (ByteSource.command setup.files status) = commands at arrival
  cases arrival.cut with
  | between lastBlock =>
    cases front with
    | cons source rest => exact cleared lastBlock
    | nil =>
      exact answerable.of_synced synced rfl (fun source member => member) numBlocks lastBlock
  | @within rest command received noFooter less arrived lastBlock =>
    cases back with
    | nil => cases shape
    | cons source more =>
      obtain ⟨rfl, _⟩ := List.cons.inj shape
      obtain ⟨_, checksum | ⟨short, named⟩⟩ := resumable source (by simp)
      · have footers : setup.settings.footerType = .checksumFooter := if_pos checksum
        rw [sameFooters, footers] at noFooter
        cases noFooter
      obtain ⟨seqId, lastRest⟩ := Prod.mk.inj lastBlock
      obtain ⟨offset, receivedBytes⟩ := Prod.mk.inj lastRest
      change after.checkpoint.lastBlockSeqId = (source.seqId : Int) at seqId
      change after.checkpoint.lastBlockOffset = source.offset at offset
      have some : received ≠ 0 := by
        rw [setup.header_length source status] at arrived
        omega
      apply answerable.arrive_of setupSound whole
      · refine ⟨fun none => absurd (receivedBytes.symm.trans none) some, fun zero => ?_⟩
        rw [seqId, offset] at zero
        exact absurd ⟨Int.ofNat.inj zero.1, zero.2⟩ named
      · intro last kept sameSeqId sameOffset
        obtain ⟨telling, gone, _⟩ := answerable.answered last kept
        have same : last.lastBlockSeqId = source.seqId ∧ last.lastBlockOffset = source.offset :=
          ⟨sameSeqId.symm.trans seqId, sameOffset.symm.trans offset⟩
        by_cases none : last.lastBlockReceivedBytes = 0
        · obtain ⟨zeroSeqId, zeroOffset⟩ := telling.mp none
          rw [zeroSeqId, zeroOffset] at same
          exact absurd ⟨(Int.ofNat.inj same.1).symm, same.2.symm⟩ named
        · refine absurd same (gone none source ?_)
          rw [answerable.synced.split]
          simp
  | unchecked footers lastBlock => exact cleared lastBlock

end Arrive

theorem closed (setupSound : setup.Sound) :
    PairRelation.Closed (Answerable setup) setup setup.Resumable where
  synced := fun answerable => answerable.synced
  untouched := fun answerable same =>
    answerable.of_synced (answerable.synced.untouched same) rfl (fun _ => id)
      (by rw [same.sameCheckpoint]) (by rw [same.sameCheckpoint])
  reset := fun answerable empty =>
    answerable.of_synced (answerable.synced.reset (congrArg Checkpoint.numBlocks empty)
      setupSound.port) rfl (fun _ => id) (by rw [empty]) (by rw [empty]; rfl)
  send := fun answerable took => by
    refine answerable.of_synced (answerable.synced.send took) ?_ ?_ rfl rfl
    · rw [addSources_local answerable.synced.onlyLocal]
    · intro source member
      rw [addSources_local answerable.synced.onlyLocal] at member
      rw [List.append_assoc] at member
      rcases List.mem_append.mp member with old | new
      · exact List.mem_append_left _ old
      · exact List.mem_append_right _ ((takeSources_perm took).mem_iff.mp new)
  accept := fun answerable accepted result => answerable.accept accepted result
  arrive := fun answerable resumable arrival => answerable.arrive setupSound arrival resumable
  fits := fun _ resumable => resumable.1

end Answerable

/-! ### Honest checkpoints are accepted -/

end Wdt
