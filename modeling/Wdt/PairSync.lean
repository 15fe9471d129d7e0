/-
How the two threads of a pair belong together. `Synced` relates the sender's history to
what the receiver has verified and to the block that its checkpoint tells about, and
every move of the pair keeps it: connections are accepted, sources are sent, blocks
arrive, the sender reads a checkpoint.
-/

import Wdt.PairConnections
import Wdt.SourceBlocks

namespace Wdt

open List

namespace ByteSource

def bytesOf (files : Nat → SourceFile) (source : ByteSource) (received : Nat) : List FileByte :=
  bytesAt (files source.seqId).fileName source.offset ((source.data files).take received)

theorem bytesOf_size (files : Nat → SourceFile) (status : Byte) (source : ByteSource) :
    source.bytesOf files source.size.toNat = (source.command files status).fileBytes := by
  unfold bytesOf data FileCommand.fileBytes
  rw [take_take, Nat.min_self]
  rfl

end ByteSource

/-- What the checkpoint says beside the number of blocks: nothing, how much of the first source
behind the verified ones is written, or something about a source that has changed since. -/
inductive PartialBlock (files : Nat → SourceFile) (reception : Reception)
    (sources unverified : List ByteSource) : Prop
  | nothing (none : reception.checkpoint.lastBlockReceivedBytes = 0)
  | fresh {source : ByteSource} {rest : List ByteSource} {received : Nat}
      (first : unverified = source :: rest)
      (lastBlock : reception.checkpoint.lastBlock = ((source.seqId : Int), source.offset, received))
      (less : received < source.size.toNat)
      (written : source.bytesOf files received <:+ reception.written)
  | stale {seqId offset received : Nat}
      (lastBlock : reception.checkpoint.lastBlock = ((seqId : Int), offset, received))
      (gone : ∀ range ∈ sources.map ByteSource.range, ¬ range.Reserves seqId offset)

structure Synced (setup : PairSetup) (history : ThreadTransferHistory) (queue : List ByteSource)
    (reception : Reception) (verified unverified : List ByteSource) : Prop where
  split : history.history = verified ++ unverified
  onlyLocal : history.globalCheckpoint = false
  separate : Separate setup.files (history.history ++ queue)
  sameVersion : reception.version = setup.version
  noneWaiting : reception.blocksWaitingVerification = []
  blocks : reception.verified = verified.map (ByteSource.details setup.files)
  written : ∀ source ∈ verified, source.bytesOf setup.files source.size.toNat ⊆ reception.written
  numBlocks : reception.checkpoint.numBlocks = verified.length
  honest : reception.checkpoint.Honest
  lastBlock : PartialBlock setup.files reception (history.history ++ queue) unverified

namespace Synced

variable {setup : PairSetup} {history : ThreadTransferHistory} {queue : List ByteSource}
  {reception after : Reception} {verified unverified : List ByteSource}

section

variable (synced : Synced setup history queue reception verified unverified)

include synced

theorem untouched (same : reception.Untouched after) :
    Synced setup history queue after verified unverified where
  __ := synced
  sameVersion := same.sameVersion.trans synced.sameVersion
  noneWaiting := same.noneWaiting
  blocks := same.sameVerified.trans synced.blocks
  written := by
    rw [same.sameWritten]
    exact synced.written
  numBlocks := by
    rw [same.sameCheckpoint]
    exact synced.numBlocks
  honest := by
    rw [same.sameCheckpoint]
    exact synced.honest
  lastBlock := by
    cases synced.lastBlock with
    | nothing none =>
      apply PartialBlock.nothing
      rw [same.sameCheckpoint]
      exact none
    | fresh first lastBlock less written =>
      rw [← same.sameCheckpoint] at lastBlock
      rw [← same.sameWritten] at written
      exact .fresh first lastBlock less written
    | stale lastBlock gone =>
      rw [← same.sameCheckpoint] at lastBlock
      exact .stale lastBlock gone

theorem reset (none : reception.checkpoint.numBlocks = 0) {port : Nat} (small : port ≤ int32Max) :
    Synced setup history queue { reception with checkpoint := { port := port } } verified
      unverified where
  __ := synced
  numBlocks := none.symm.trans synced.numBlocks
  honest := ⟨small, Nat.zero_le _, Nat.zero_le _, le_refl _, Int.natCast_nonneg _, Nat.zero_le _⟩
  lastBlock := .nothing rfl

theorem send {positions : List Nat} {taken left : List ByteSource}
    (took : takeSources positions queue = some (taken, left)) :
    Synced setup (history.addSources taken) left reception verified (unverified ++ taken) := by
  have added := ThreadTransferHistory.addSources_local synced.onlyLocal taken
  have permuted : (history.history ++ queue).Perm (history.history ++ taken ++ left) := by
    rw [append_assoc]
    exact (takeSources_perm took).symm.append_left _
  rw [added]
  constructor
  · rw [synced.split, append_assoc]
  · exact synced.onlyLocal
  · exact synced.separate.perm permuted
  · exact synced.sameVersion
  · exact synced.noneWaiting
  · exact synced.blocks
  · exact synced.written
  · exact synced.numBlocks
  · exact synced.honest
  · cases synced.lastBlock with
    | nothing none => exact .nothing none
    | fresh first lastBlock less written =>
      subst first
      exact .fresh rfl lastBlock less written
    | stale lastBlock gone =>
      apply PartialBlock.stale lastBlock
      intro range member
      exact gone range ((permuted.map _).mem_iff.mpr member)

end

/-! ### Blocks arrive -/

theorem honest_of_lastBlock {checkpoint : Checkpoint} {seqId offset received : Nat}
    (port : checkpoint.port ≤ int32Max) (numBlocks : checkpoint.numBlocks ≤ int64Max)
    (lastBlock : checkpoint.lastBlock = ((seqId : Int), offset, received))
    (seqIdSmall : seqId ≤ int64Max) (offsetSmall : offset ≤ int64Max)
    (receivedSmall : received ≤ int64Max) : checkpoint.Honest := by
  obtain ⟨sameSeqId, rest⟩ := Prod.mk.inj lastBlock
  obtain ⟨sameOffset, sameReceived⟩ := Prod.mk.inj rest
  refine ⟨port, numBlocks, ?_, ?_, ?_, ?_⟩
  · rw [sameReceived]
    exact receivedSmall
  · rw [sameSeqId]
    exact Int.natCast_nonneg _
  · rw [sameSeqId]
    exact Int.ofNat_le.mpr seqIdSmall
  · rw [sameOffset]
    exact offsetSmall

section Arrive

variable {front back : List ByteSource} {status : Byte} {last : List FileByte}
  (setupSound : setup.Sound)
  (synced : Synced setup history queue reception verified (front ++ back))
  (arrival : Arrival setup.version (reception.configure setup.settings) after
    (front.map (ByteSource.command setup.files status))
    (back.map (ByteSource.command setup.files status)) last)

include setupSound synced arrival

theorem arrive_lastBlock (counted : after.checkpoint.numBlocks ≤ int64Max) :
    after.checkpoint.Honest ∧
      PartialBlock setup.files after (history.history ++ queue) back := by
  have port : after.checkpoint.port ≤ int32Max := by
    rw [arrival.port]
    exact synced.honest.port
  have cleared : after.checkpoint.lastBlock = (0, 0, 0) → after.checkpoint.Honest ∧
      PartialBlock setup.files after (history.history ++ queue) back := by
    intro lastBlock
    exact ⟨honest_of_lastBlock port counted lastBlock (Nat.zero_le _) (Nat.zero_le _)
      (Nat.zero_le _), .nothing (congrArg (fun block => block.2.2) lastBlock)⟩
  have writtenAfter := arrival.written
  generalize shape : back.map (ByteSource.command setup.files status) = commands at arrival
  cases arrival.cut with
  | between lastBlock =>
    cases front with
    | cons source rest => exact cleared lastBlock
    | nil =>
      have same : after.checkpoint.lastBlock = reception.checkpoint.lastBlock := lastBlock
      obtain ⟨sameSeqId, sameRest⟩ := Prod.mk.inj same
      obtain ⟨sameOffset, sameReceived⟩ := Prod.mk.inj sameRest
      have honest := synced.honest
      refine ⟨⟨port, counted, sameReceived ▸ honest.receivedBytes,
        sameSeqId ▸ honest.seqIdNotNegative, sameSeqId ▸ honest.seqId,
        sameOffset ▸ honest.offset⟩, ?_⟩
      have sameWritten : after.written = reception.written := by
        rw [writtenAfter]
        simp [Reception.configure]
      cases synced.lastBlock with
      | nothing none => exact .nothing (sameReceived.trans none)
      | fresh first lastBlock less written =>
        rw [← sameWritten] at written
        exact .fresh first (same.trans lastBlock) less written
      | stale lastBlock gone => exact .stale (same.trans lastBlock) gone
  | @within rest command received noFooter less arrived lastBlock =>
    cases back with
    | nil => cases shape
    | cons source more =>
      obtain ⟨rfl, _⟩ := cons.inj shape
      have within := synced.separate.within source (by rw [synced.split]; simp)
      have inside := within.inside
      have small := (setupSound.sendable source.seqId).fileSize
      have size : received < source.size.toNat := less
      refine ⟨honest_of_lastBlock port counted lastBlock within.seqId ?_ (by omega), ?_⟩
      · change source.offset ≤ int64Max
        omega
      · refine .fresh rfl lastBlock size ?_
        rw [writtenAfter]
        exact suffix_append _ _
  | unchecked footers lastBlock => exact cleared lastBlock

theorem arrive : Synced setup history queue after (verified ++ front) back := by
  have split : history.history = verified ++ front ++ back := by
    rw [synced.split, append_assoc]
  have numBlocks : after.checkpoint.numBlocks = (verified ++ front).length := by
    have counted := arrival.numBlocks
    have before : (reception.configure setup.settings).checkpoint.numBlocks = verified.length :=
      synced.numBlocks
    rw [counted, before, length_map, length_append]
  have counted : after.checkpoint.numBlocks ≤ int64Max := by
    have bounded := synced.separate.length_le
    rw [split] at bounded
    simp only [length_append] at bounded numBlocks
    omega
  have details := arrive_lastBlock setupSound synced arrival counted
  constructor
  · exact split
  · exact synced.onlyLocal
  · exact synced.separate
  · exact arrival.sameVersion.trans synced.sameVersion
  · exact arrival.waiting.trans synced.noneWaiting
  · rw [arrival.blocks, map_append, map_map]
    have before : (reception.configure setup.settings).verified = _ := synced.blocks
    rw [before]
    rfl
  · have before : (reception.configure setup.settings).written = reception.written := rfl
    intro source member byte inSource
    rw [arrival.written, before]
    rcases mem_append.mp member with old | new
    · exact mem_append_left _ (mem_append_left _ (synced.written source old inSource))
    · rw [ByteSource.bytesOf_size setup.files status] at inSource
      apply mem_append_left _ (mem_append_right _ _)
      exact mem_flatten.mpr ⟨_, mem_map_of_mem (mem_map_of_mem new), inSource⟩
  · exact numBlocks
  · exact details.1
  · exact details.2

end Arrive

end Synced

/-! ### The sender reads the checkpoint -/

def Checkpoint.decoded (checkpoint : Checkpoint) : Checkpoint :=
  { checkpoint with hasSeqId := true }

section Credit

variable {files : Nat → SourceFile} {reception : Reception} {sources rest : List ByteSource}
  {source : ByteSource}

theorem receivedBytes_decoded {checkpoint : Checkpoint} {seqId offset received : Nat}
    (lastBlock : checkpoint.lastBlock = ((seqId : Int), offset, received)) :
    receivedBytes source (some checkpoint.decoded) =
      if source.seqId = seqId ∧ source.offset = offset then received else 0 := by
  obtain ⟨sameSeqId, sameRest⟩ := Prod.mk.inj lastBlock
  obtain ⟨sameOffset, sameReceived⟩ := Prod.mk.inj sameRest
  have named : checkpoint.decoded.validFor source =
      (checkpoint.lastBlockSeqId == source.seqId && checkpoint.lastBlockOffset == source.offset) :=
    rfl
  unfold receivedBytes
  dsimp only
  rw [named, sameSeqId, sameOffset]
  refine if_congr ?_ sameReceived rfl
  rw [Bool.and_eq_true, beq_iff_eq, beq_iff_eq, Int.natCast_inj, eq_comm, @eq_comm _ offset]

theorem PartialBlock.credit (lastBlock : PartialBlock files reception sources (source :: rest))
    (member : source ∈ sources) :
    (receivedBytes source (some reception.checkpoint.decoded) = 0 ∨
        receivedBytes source (some reception.checkpoint.decoded) < source.size.toNat) ∧
      source.bytesOf files (receivedBytes source (some reception.checkpoint.decoded)) <:+
        reception.written := by
  have without {credit : Nat} (none : credit = 0) : (credit = 0 ∨ credit < source.size.toNat) ∧
      source.bytesOf files credit <:+ reception.written := by
    rw [none]
    exact ⟨.inl rfl, nil_suffix⟩
  cases lastBlock with
  | nothing none =>
    apply without
    unfold receivedBytes
    dsimp only
    split
    · exact none
    · rfl
  | @fresh first more received same lastBlock less written =>
    obtain ⟨rfl, _⟩ := cons.inj same
    rw [receivedBytes_decoded lastBlock, if_pos ⟨rfl, rfl⟩]
    exact ⟨.inr less, written⟩
  | stale lastBlock gone =>
    apply without
    rw [receivedBytes_decoded lastBlock]
    apply if_neg
    rintro ⟨rfl, rfl⟩
    exact gone source.range (mem_map_of_mem member) source.range.reserves_start

end Credit

namespace Synced

variable {setup : PairSetup} {history : ThreadTransferHistory} {queue : List ByteSource}
  {reception : Reception} {verified unverified : List ByteSource}

theorem reads (setupSound : setup.Sound)
    (synced : Synced setup history queue reception verified unverified)
    (port : reception.checkpoint.port = setup.config.port) (rest : List Byte) :
    readLocalCheckPoint setup.version setup.config.port history
        (varU64 1 ++ checkpointFields reception.checkpoint ++ rest) =
      some (reception.checkpoint.decoded,
        history.setLocalCheckpoint reception.checkpoint.decoded) := by
  unfold readLocalCheckPoint
  rw [decodeCheckpoints_one setupSound.withSeqId synced.honest]
  exact if_neg (not_not.mpr port)

theorem lastBlock_credited (synced : Synced setup history queue reception verified unverified) :
    PartialBlock setup.files reception
      (verified ++ (queue ++ creditOldest reception.checkpoint.decoded unverified)) [] := by
  have separate := synced.separate
  have lastBlock := synced.lastBlock
  rw [synced.split] at separate lastBlock
  cases unverified with
  | nil =>
    rw [append_nil] at lastBlock
    rw [creditOldest, append_nil]
    exact lastBlock
  | cons oldest newer =>
    have front : (verified ++ oldest :: newer ++ queue).Perm
        (oldest :: (verified ++ newer ++ queue)) := by
      rw [append_assoc, cons_append, append_assoc]
      exact perm_middle
    have permuted := creditOldest_perm reception.checkpoint.decoded verified newer queue oldest
    cases lastBlock with
    | nothing none => exact .nothing none
    | @fresh first more received same lastBlock less written =>
      obtain ⟨rfl, _⟩ := cons.inj same
      by_cases none : received = 0
      · subst none
        exact .nothing (congrArg (fun block => block.2.2) lastBlock)
      have disjoint := (separate.perm front).disjoint
      apply PartialBlock.stale lastBlock
      intro range member reserves
      have before := (permuted.map ByteSource.range).mem_iff.mpr member
      rw [map_cons, mem_cons, ByteSource.range_advanceOffset,
        receivedBytes_decoded lastBlock, if_pos ⟨rfl, rfl⟩] at before
      rcases before with rfl | other
      · have behind : oldest.offset + received ≤ oldest.offset :=
          (Range.Reserves.of_advance less reserves).2
        omega
      · exact Range.Disjoint.not_reserves_of_head disjoint oldest.range.reserves_start range
          other reserves
    | stale lastBlock gone =>
      have other : receivedBytes oldest (some reception.checkpoint.decoded) = 0 := by
        rw [receivedBytes_decoded lastBlock]
        apply if_neg
        rintro ⟨rfl, rfl⟩
        exact gone oldest.range (mem_map_of_mem (by simp)) oldest.range.reserves_start
      rw [other, ByteSource.advanceOffset_zero] at permuted
      apply PartialBlock.stale lastBlock
      intro range member
      exact gone range (((front.trans permuted).map _).mem_iff.mpr member)

theorem accept (synced : Synced setup history queue reception verified unverified)
    {code : ErrorCode} {cut : ThreadTransferHistory} {returned : List ByteSource}
    (accepted : history.rejects reception.checkpoint.decoded false = false)
    (result : history.setLocalCheckpoint reception.checkpoint.decoded = (code, cut, returned)) :
    Synced setup cut (queue ++ returned) reception verified [] := by
  obtain ⟨threadStats, others, accepts, blocks⟩ := setCheckpointAndReturnToQueue_accepts accepted
  have same := result.symm.trans accepts
  cases same
  have numBlocks : reception.checkpoint.decoded.numBlocks = verified.length := synced.numBlocks
  have kept : history.history.take reception.checkpoint.decoded.numBlocks = verified := by
    rw [numBlocks, synced.split, take_left]
  rw [numBlocks, synced.split, drop_left] at blocks
  have sources : (verified ++
      (queue ++ creditOldest reception.checkpoint.decoded unverified)).map ByteSource.block =
        (verified ++ (queue ++ returned)).map ByteSource.block := by
    rw [map_append, map_append, map_append, map_append, blocks]
  have separate := synced.separate
  have lastBlock := synced.lastBlock
  rw [synced.split] at separate lastBlock
  constructor
  · rw [append_nil]
    exact kept
  · change (history.globalCheckpoint || false) = false
    rw [synced.onlyLocal]
    rfl
  · change Separate setup.files (history.history.take _ ++ _)
    rw [kept]
    refine Separate.of_blocks (separate.creditOldest ?_) sources
    rintro oldest newer rfl
    exact (lastBlock.credit (by simp)).1
  · exact synced.sameVersion
  · exact synced.noneWaiting
  · exact synced.blocks
  · exact synced.written
  · exact synced.numBlocks
  · exact synced.honest
  · change PartialBlock setup.files reception (history.history.take _ ++ _) []
    rw [kept]
    cases synced.lastBlock_credited with
    | nothing none => exact .nothing none
    | fresh first => cases first
    | stale lastBlock gone =>
      rw [ByteSource.map_range, sources, ← ByteSource.map_range] at gone
      exact .stale lastBlock gone

end Synced

end Wdt
