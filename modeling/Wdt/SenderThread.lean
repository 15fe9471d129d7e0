/-
The parts of a sender thread that local checkpoints are about: the FILE commands of
its sources, READ_LOCAL_CHECKPOINT, and how sources get from the shared queue into
the thread's history.
-/

import Wdt.StreamReception
import Wdt.ThreadTransferHistory
import Wdt.Lib.Ranges

namespace Wdt

open Encoder List

/-! ### Sources and their commands -/

structure SourceFile where
  fileName : List Byte
  content : List Byte
  allocationStatus : FileAllocationStatus := .notExists
  prevSeqId : Nat := 0

/-- What a sender can send at a version: see `BlockDetails.Honest`. -/
structure SourceFile.Sendable (version : Nat) (file : SourceFile) : Prop where
  safe : isSafeRelativePath file.fileName = true
  fileSize : file.content.length ≤ int64Max
  prevSeqId : file.prevSeqId ≤ int64Max
  named : file.allocationStatus.Named
  deleted : file.allocationStatus = .toBeDeleted → file.content = []
  unsentStatus : version < headerFlagAndPrevSeqIdVersion → file.allocationStatus = .notExists
  unsentPrevSeqId : file.allocationStatus.carriesPrevSeqId = false → file.prevSeqId = 0

namespace ByteSource

variable (files : Nat → SourceFile)

def details (source : ByteSource) : BlockDetails where
  fileName := (files source.seqId).fileName
  seqId := source.seqId
  fileSize := (files source.seqId).content.length
  offset := source.offset
  dataSize := source.size.toNat
  allocationStatus := (files source.seqId).allocationStatus
  prevSeqId := (files source.seqId).prevSeqId

def data (source : ByteSource) : List Byte :=
  ((files source.seqId).content.drop source.offset).take source.size.toNat

def command (status : Byte) (source : ByteSource) : FileCommand where
  status := status
  details := source.details files
  data := source.data files

structure Within (source : ByteSource) : Prop where
  seqId : source.seqId ≤ int64Max
  size : 0 ≤ source.size
  inside : source.offset + source.size.toNat ≤ (files source.seqId).content.length

def range (source : ByteSource) : Range Nat where
  key := source.seqId
  start := source.offset
  size := source.size.toNat

variable {files} {source : ByteSource} {version : Nat}

theorem command_honest (sendable : (files source.seqId).Sendable version)
    (within : source.Within files) (status : Byte)
    (small : ((source.command files status).header version).length ≤ kMinBufLength) :
    (source.command files status).Honest version := by
  have inside := within.inside
  have bounded := sendable.fileSize
  refine ⟨⟨sendable.safe, within.seqId, ?_, ?_, bounded, sendable.prevSeqId, sendable.named, ?_,
    sendable.unsentStatus, sendable.unsentPrevSeqId, ?_⟩, ?_⟩
  · change source.size.toNat ≤ int64Max
    omega
  · change source.offset ≤ int64Max
    omega
  · intro deleted
    have empty := sendable.deleted deleted
    rw [empty, length_nil] at inside
    refine ⟨?_, ?_⟩
    · change (files source.seqId).content.length = 0
      rw [empty, length_nil]
    · change source.size.toNat = 0
      omega
  · have length := headerBytes_length version status (source.details files)
    have least : kMinBufLength = 256 := rfl
    have longest : kMaxHeader = 4150 := rfl
    have header : ((source.command files status).header version).length =
        (headerBytes version status (source.details files)).length := rfl
    change 4 + (headerFields version (source.details files)).length ≤ kMaxHeader
    omega
  · change (source.data files).length = source.size.toNat
    unfold data
    rw [length_take, length_drop]
    omega

theorem range_advanceOffset (source : ByteSource) (received : Nat) :
    (source.advanceOffset received).range = source.range.advance received := by
  unfold range advanceOffset Range.advance
  have size : (source.size - received).toNat = source.size.toNat - received := by omega
  rw [size]

theorem Within.advanceOffset (within : source.Within files) {received : Nat}
    (less : (received : Int) ≤ source.size) : (source.advanceOffset received).Within files := by
  have inside := within.inside
  refine ⟨within.seqId, ?_, ?_⟩
  · change 0 ≤ source.size - received
    omega
  · change source.offset + received + (source.size - received).toNat ≤
      (files source.seqId).content.length
    omega

end ByteSource

/-! ### READ_LOCAL_CHECKPOINT -/

/-- The answer to the bytes of a checkpoint, unless it is illegal. A negative block count,
which would mean that the receiver failed on its DONE, cannot be decoded. -/
def readLocalCheckPoint (version port : Nat) (history : ThreadTransferHistory) (bytes : List Byte) :
    Option (Checkpoint × ErrorCode × ThreadTransferHistory × List ByteSource) :=
  match (decodeCheckpoints version bytes).1 with
  | some [checkpoint] =>
    if checkpoint.port ≠ port then none
    else some (checkpoint, history.setLocalCheckpoint checkpoint)
  | _ => none

structure Checkpoint.Honest (checkpoint : Checkpoint) : Prop where
  port : checkpoint.port ≤ int32Max
  numBlocks : checkpoint.numBlocks ≤ int64Max
  receivedBytes : checkpoint.lastBlockReceivedBytes ≤ int64Max
  seqIdNotNegative : 0 ≤ checkpoint.lastBlockSeqId
  seqId : checkpoint.lastBlockSeqId ≤ int64Max
  offset : checkpoint.lastBlockOffset ≤ int64Max

def checkpointFields (checkpoint : Checkpoint) : List Byte :=
  varU64 checkpoint.port ++ (varU64 checkpoint.numBlocks ++
    (varU64 checkpoint.lastBlockReceivedBytes ++ (varU64 checkpoint.lastBlockSeqId.toNat ++
      (varU64 checkpoint.lastBlockOffset ++ []))))

theorem checkpointFields_length_le (checkpoint : Checkpoint) :
    (checkpointFields checkpoint).length ≤ 50 := by
  have port := varU64_length_le checkpoint.port
  have numBlocks := varU64_length_le checkpoint.numBlocks
  have received := varU64_length_le checkpoint.lastBlockReceivedBytes
  have seqId := varU64_length_le checkpoint.lastBlockSeqId.toNat
  have offset := varU64_length_le checkpoint.lastBlockOffset
  unfold checkpointFields
  simp only [length_append, length_nil]
  omega

theorem decodeSeqId_reads {version : Nat} {checkpoint : Checkpoint} (honest : checkpoint.Honest) :
    (decodeSeqId version).Reads (varU64 checkpoint.lastBlockSeqId.toNat)
      checkpoint.lastBlockSeqId := by
  have seqId : (checkpoint.lastBlockSeqId.toNat : Int) = checkpoint.lastBlockSeqId :=
    Int.toNat_of_nonneg honest.seqIdNotNegative
  have small : checkpoint.lastBlockSeqId.toNat ≤ int64Max := by
    have bounded := honest.seqId
    omega
  intro rest
  have notOnes : ¬ (version < varintChange ∧ checkpoint.lastBlockSeqId.toNat = allOnes64) := by
    unfold int64Max at small
    unfold allOnes64
    omega
  unfold decodeSeqId Decoder.bind
  rw [decodeUInt64_reads (by unfold int64Max at small; omega)]
  dsimp only
  rw [if_neg notOnes]
  unfold toInt64
  rw [if_pos small, seqId]

def checkpointWord (version : Nat) (checkpoint : Checkpoint) : List Byte :=
  varU64 checkpoint.port ++ (varU64 checkpoint.numBlocks ++
    ((if checkpointOffsetVersion ≤ version then varU64 checkpoint.lastBlockReceivedBytes else []) ++
      if checkpointSeqIdVersion ≤ version then
        varU64 checkpoint.lastBlockSeqId.toNat ++ varU64 checkpoint.lastBlockOffset
      else []))

theorem encodeCheckpoint_eq_put (version max : Nat) (checkpoint : Checkpoint) :
    encodeCheckpoint version max checkpoint = put (checkpointWord version checkpoint) max := by
  funext written
  unfold encodeCheckpoint checkpointWord
  simp only [encodeVarI64C_eq_put, Option.bind_eq_bind]
  by_cases offset : checkpointOffsetVersion ≤ version
  · by_cases seqId : checkpointSeqIdVersion ≤ version
    · simp only [if_pos offset, if_pos seqId, put_bind_put]
    · simp only [if_pos offset, if_neg seqId, put_bind_some, put_bind_put]
      simp
  have older : ¬ checkpointSeqIdVersion ≤ version := by
    unfold checkpointOffsetVersion at offset
    unfold checkpointSeqIdVersion
    omega
  simp only [if_neg offset, if_neg older, Option.bind_some, put_bind_some, put_bind_put]
  simp

theorem encodeCheckpoints_eq_put (version : Nat) (checkpoints : List Checkpoint) :
    (fun max written => encodeCheckpoints version max checkpoints written) =
      put (varU64 checkpoints.length ++
        (checkpoints.map (checkpointWord version)).flatten) := by
  funext max written
  unfold encodeCheckpoints
  simp only [encodeCheckpoint_eq_put]
  exact foldl_put (checkpointWord version) checkpoints max _ written

/-- What a sender makes of a checkpoint: what the version does not carry has its default. -/
def Checkpoint.received (version : Nat) (checkpoint : Checkpoint) : Checkpoint where
  port := checkpoint.port
  numBlocks := checkpoint.numBlocks
  lastBlockReceivedBytes :=
    if checkpointOffsetVersion ≤ version then checkpoint.lastBlockReceivedBytes else 0
  lastBlockSeqId := if checkpointSeqIdVersion ≤ version then checkpoint.lastBlockSeqId else 0
  lastBlockOffset := if checkpointSeqIdVersion ≤ version then checkpoint.lastBlockOffset else 0
  hasSeqId := decide (checkpointSeqIdVersion ≤ version)

variable {checkpoint : Checkpoint}

theorem decodeCheckpoint_reads_seqId {version : Nat} {word : List Byte}
    (honest : ({ checkpoint with lastBlockSeqId := 0 } : Checkpoint).Honest)
    (readsSeqId : (decodeSeqId version).Reads word checkpoint.lastBlockSeqId) :
    (decodeCheckpoint version).Reads
      (varU64 checkpoint.port ++ (varU64 checkpoint.numBlocks ++
        ((if checkpointOffsetVersion ≤ version then varU64 checkpoint.lastBlockReceivedBytes
          else []) ++
          if checkpointSeqIdVersion ≤ version then word ++ varU64 checkpoint.lastBlockOffset
          else [])))
      (checkpoint.received version) := by
  have readsReceived : (decodeReceivedBytes version).Reads
      (if checkpointOffsetVersion ≤ version then varU64 checkpoint.lastBlockReceivedBytes else [])
      (checkpoint.received version).lastBlockReceivedBytes := by
    unfold decodeReceivedBytes Checkpoint.received
    by_cases offset : checkpointOffsetVersion ≤ version
    · simp only [if_pos offset]
      exact decodeInt64C_reads honest.receivedBytes
    · simp only [if_neg offset]
      exact Decoder.reads_pure 0
  apply Decoder.Reads.bind (decodeInt32C_reads honest.port)
  apply Decoder.Reads.bind (decodeInt64C_reads honest.numBlocks)
  apply Decoder.Reads.bind readsReceived
  unfold Checkpoint.received
  by_cases seqId : checkpointSeqIdVersion ≤ version
  · simp only [seqId, decide_true]
    apply Decoder.Reads.bind readsSeqId
    rw [← append_nil (varU64 checkpoint.lastBlockOffset)]
    apply Decoder.Reads.bind (decodeInt64C_reads honest.offset)
    exact Decoder.reads_pure _
  · simp only [seqId, decide_false]
    exact Decoder.reads_pure _

theorem decodeCheckpoint_reads_received {version : Nat} {checkpoint : Checkpoint}
    (honest : checkpoint.Honest) :
    (decodeCheckpoint version).Reads (checkpointWord version checkpoint)
      (checkpoint.received version) :=
  decodeCheckpoint_reads_seqId
    { honest with seqIdNotNegative := le_rfl, seqId := Int.natCast_nonneg int64Max }
    (decodeSeqId_reads honest)

section Checkpoints

variable {version : Nat} (withSeqId : checkpointSeqIdVersion ≤ version)

include withSeqId

theorem offset_of_seqId : checkpointOffsetVersion ≤ version := by
  unfold checkpointSeqIdVersion at withSeqId
  unfold checkpointOffsetVersion
  omega

theorem checkpointWord_withSeqId (checkpoint : Checkpoint) :
    checkpointWord version checkpoint = checkpointFields checkpoint := by
  unfold checkpointWord checkpointFields
  rw [if_pos (offset_of_seqId withSeqId), if_pos withSeqId, append_nil]

theorem getMaxLocalCheckpointLength_withSeqId : getMaxLocalCheckpointLength version = 60 := by
  unfold getMaxLocalCheckpointLength
  rw [if_pos (offset_of_seqId withSeqId), if_pos withSeqId]

theorem encodeCheckpoints_one (checkpoint : Checkpoint) :
    encodeCheckpoints version (getMaxLocalCheckpointLength version) [checkpoint] [] =
      some (varU64 1 ++ checkpointFields checkpoint) := by
  have space := getMaxLocalCheckpointLength_withSeqId withSeqId
  have count := varU64_length_le 1
  have short := checkpointFields_length_le checkpoint
  rw [congrFun₂ (encodeCheckpoints_eq_put version [checkpoint])
    (getMaxLocalCheckpointLength version)]
  simp only [length_singleton, map_cons, map_nil, flatten_cons,
    flatten_nil, append_nil, checkpointWord_withSeqId withSeqId]
  refine put_of_fits ?_
  rw [nil_append, length_append]
  omega

theorem decodeCheckpoint_reads (honest : checkpoint.Honest) :
    (decodeCheckpoint version).Reads (checkpointFields checkpoint)
      { checkpoint with hasSeqId := true } := by
  have read := @decodeCheckpoint_reads_received version checkpoint honest
  have later := offset_of_seqId withSeqId
  rw [checkpointWord_withSeqId withSeqId] at read
  unfold Checkpoint.received at read
  rw [if_pos later, if_pos withSeqId, if_pos withSeqId, decide_eq_true withSeqId] at read
  exact read

theorem decodeCheckpoints_one (honest : checkpoint.Honest) (rest : List Byte) :
    (decodeCheckpoints version (varU64 1 ++ checkpointFields checkpoint ++ rest)).1 =
      some [{ checkpoint with hasSeqId := true }] := by
  have readsOne : (decodeCheckpointList version 1).Reads (checkpointFields checkpoint)
      [{ checkpoint with hasSeqId := true }] := by
    intro more
    unfold decodeCheckpointList Decoder.bind
    rw [decodeCheckpoint_reads withSeqId honest]
    rfl
  have reads : (decodeCheckpoints version).Reads (varU64 1 ++ checkpointFields checkpoint)
      [{ checkpoint with hasSeqId := true }] :=
    Decoder.Reads.bind (decodeUInt64_reads (by decide)) readsOne
  rw [reads rest]

end Checkpoints

def takeSources : List Nat → List ByteSource → Option (List ByteSource × List ByteSource)
  | [], queue => some ([], queue)
  | position :: positions, queue =>
    match queue[position]? with
    | none => none
    | some source =>
      (takeSources positions (queue.eraseIdx position)).map fun (taken, left) =>
        (source :: taken, left)

def ThreadTransferHistory.addSources (history : ThreadTransferHistory)
    (sources : List ByteSource) : ThreadTransferHistory :=
  sources.foldl (fun history source => (history.addSource source).2.1) history

theorem takeSources_perm {positions : List Nat} {queue taken left : List ByteSource}
    (took : takeSources positions queue = some (taken, left)) : (taken ++ left).Perm queue := by
  induction positions generalizing queue taken left with
  | nil =>
    cases took
    exact List.Perm.refl _
  | cons position positions ih =>
    unfold takeSources at took
    cases found : queue[position]? with
    | none =>
      rw [found] at took
      cases took
    | some source =>
      rw [found] at took
      obtain ⟨⟨rest, other⟩, tookRest, same⟩ := Option.map_eq_some_iff.mp took
      cases same
      have permRest := ih tookRest
      obtain ⟨within, element⟩ := List.getElem?_eq_some_iff.mp found
      subst element
      exact (permRest.cons _).trans (getElem_cons_eraseIdx_perm within)

theorem ThreadTransferHistory.addSources_local {history : ThreadTransferHistory}
    (onlyLocal : history.globalCheckpoint = false) (sources : List ByteSource) :
    history.addSources sources = { history with history := history.history ++ sources } := by
  induction sources generalizing history with
  | nil =>
    unfold addSources
    rw [foldl_nil, append_nil]
  | cons source sources ih =>
    have added : (history.addSource source).2.1 =
        { history with history := history.history ++ [source] } := by
      unfold addSource
      rw [onlyLocal, if_neg Bool.false_ne_true]
    have rest := @ih { history with history := history.history ++ [source] } onlyLocal
    unfold addSources at rest ⊢
    rw [foldl_cons, added, rest]
    simp

end Wdt
