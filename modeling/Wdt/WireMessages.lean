/-
Every message of the protocol, at every version: what an encoder writes, its decoder
reads back, up to the fields that the version does not carry.
-/

import Wdt.EncryptionUtils
import Wdt.Frames
import Wdt.Lib.Encoder
import Wdt.SenderThread

namespace Wdt

open Encoder List

def kAbortLength : Nat := 4 + 1 + 8

def encodeInt64FixedLength (max value : Nat) (written : List Byte) : Option (List Byte) :=
  append max written (leBytes 8 value)

/-- A negative value is refused, after its bytes are consumed. -/
def decodeInt64FixedLength : Decoder Byte Nat :=
  (((Decoder.take 8).map loadSigned).filter (fun value => decide (0 ≤ value))).map Int.toNat

def encodeAbort (max protocolVersion : Nat) (errCode : ErrorCode) (checkpoint : Nat)
    (written : List Byte) : Option (List Byte) :=
  if max < written.length + kAbortLength then none
  else do
    let written ← encodeInt32FixedLength max protocolVersion written
    encodeInt64FixedLength max checkpoint (written ++ [errCode.toByte])

/-- A range that is too short is refused as it is; a version that does not decode leaves the
offset where it was. -/
def decodeAbort : Decoder Byte (Nat × ErrorCode × Nat) :=
  fun range =>
    if range.length < kAbortLength then (none, range)
    else
      match decodeInt32FixedLength range with
      | (none, _) => (none, range)
      | (some protocolVersion, rest) =>
        match rest with
        | [] => (none, range)
        | errCode :: rest =>
          decodeInt64FixedLength.map
            (fun checkpoint => (protocolVersion, ErrorCode.ofByte errCode, checkpoint)) rest

def encodeChunksCmd (max bufSize numFiles : Nat) (written : List Byte) : Option (List Byte) :=
  (encodeInt64FixedLength max bufSize written).bind
    (fun written => encodeInt64FixedLength max numFiles written)

def decodeChunksCmd : Decoder Byte (Nat × Nat) :=
  decodeInt64FixedLength.bind fun bufSize =>
    decodeInt64FixedLength.map fun numFiles => (bufSize, numFiles)

theorem encodeEncryptionSettings_eq_put (type : EncryptionType) (iv : List Byte)
    (tagInterval : Nat) :
    (fun max written => encodeEncryptionSettings max type iv tagInterval written) =
      put (varU64 type.toNat ++ ((varU64 iv.length ++ iv) ++ leBytes 4 tagInterval)) := by
  funext max written
  unfold encodeEncryptionSettings encodeInt32FixedLength
  simp only [encodeString_eq_put, encodeVarI64C_eq_put, append_eq_put, put_bind_put, append_assoc]

variable (protocolVersion : Nat) (errCode : ErrorCode) (checkpoint : Nat)

def abortWord : List Byte :=
  leBytes 4 protocolVersion ++ (errCode.toByte :: leBytes 8 checkpoint)

theorem abortWord_length :
    (abortWord protocolVersion errCode checkpoint).length = kAbortLength := by
  unfold abortWord
  rfl

/-- The room for the whole message is checked first, so no part of it can fail. -/
theorem encodeAbort_eq_put :
    (fun max written => encodeAbort max protocolVersion errCode checkpoint written) =
      put (abortWord protocolVersion errCode checkpoint) := by
  funext max written
  have length := abortWord_length protocolVersion errCode checkpoint
  have total : kAbortLength = 13 := rfl
  unfold encodeAbort
  by_cases short : max < written.length + kAbortLength
  · rw [if_pos short]
    unfold put
    rw [length, if_neg (by omega)]
  rw [if_neg short]
  have version : encodeInt32FixedLength max protocolVersion written =
      some (written ++ leBytes 4 protocolVersion) :=
    append_eq_some_iff.mpr ⟨by rw [leBytes_length]; omega, rfl⟩
  have number : encodeInt64FixedLength max checkpoint
      (written ++ leBytes 4 protocolVersion ++ [errCode.toByte]) =
      some (written ++ leBytes 4 protocolVersion ++ [errCode.toByte] ++ leBytes 8 checkpoint) :=
    append_eq_some_iff.mpr ⟨by
      simp only [length_append, length_cons, length_nil, leBytes_length]
      omega, rfl⟩
  simp only [version, Option.bind_eq_bind, Option.bind_some, number]
  unfold put
  rw [length, if_pos (by omega)]
  simp [abortWord]

theorem encodeChunksCmd_eq_put (bufSize numFiles : Nat) :
    (fun max written => encodeChunksCmd max bufSize numFiles written) =
      put (leBytes 8 bufSize ++ leBytes 8 numFiles) := by
  funext max written
  exact put_bind_put _ _ max written

theorem decodeInt64FixedLength_reads {value : Nat} (small : value ≤ int64Max) :
    decodeInt64FixedLength.Reads (leBytes 8 value) value := by
  have bounded : 2 * value < 256 ^ 8 := by
    unfold int64Max at small
    omega
  have taken := (Decoder.reads_take (leBytes 8 value)).map loadSigned
  rw [leBytes_length, loadSigned_leBytes bounded] at taken
  have kept : (((Decoder.take 8).map loadSigned).filter (fun value => decide (0 ≤ value))).Reads
      (leBytes 8 value) (value : Int) := taken.filter (decide_eq_true (by omega))
  have read := kept.map Int.toNat
  exact read

theorem ErrorCode.ofByte_toByte {code : ErrorCode} (isNamed : ∀ byte, code ≠ .unnamed byte) :
    ErrorCode.ofByte code.toByte = code := by
  cases code with
  | unnamed byte => exact absurd rfl (isNamed byte)
  | _ => decide

theorem decodeAbort_reads {protocolVersion checkpoint : Nat} {errCode : ErrorCode}
    (version : protocolVersion ≤ int32Max) (isNamed : ∀ byte, errCode ≠ .unnamed byte)
    (small : checkpoint ≤ int64Max) :
    decodeAbort.Reads (abortWord protocolVersion errCode checkpoint)
      (protocolVersion, errCode, checkpoint) := by
  intro rest
  have long : ¬ (abortWord protocolVersion errCode checkpoint ++ rest).length < kAbortLength := by
    rw [length_append, abortWord_length]
    omega
  unfold decodeAbort
  rw [if_neg long]
  unfold abortWord
  rw [append_assoc, decodeInt32FixedLength_reads version]
  dsimp only [cons_append]
  rw [ErrorCode.ofByte_toByte isNamed]
  exact (decodeInt64FixedLength_reads small).map _ rest

theorem decodeCheckpointList_reads {version : Nat} {word : Checkpoint → List Byte}
    {checkpoints : List Checkpoint}
    (reads : ∀ checkpoint ∈ checkpoints,
      (decodeCheckpoint version).Reads (word checkpoint) (checkpoint.received version)) :
    (decodeCheckpointList version checkpoints.length).Reads (checkpoints.map word).flatten
      (checkpoints.map (Checkpoint.received version)) := by
  induction checkpoints with
  | nil => exact Decoder.reads_pure []
  | cons checkpoint checkpoints ih =>
    have head := reads checkpoint mem_cons_self
    have tail := ih (forall_mem_cons.mp reads).2
    exact head.bind (tail.map _)

/-! ### Round trips -/

def decodeVersionAndSettings : Decoder Byte (Nat × Settings) :=
  decodeVersion.bind fun version => (decodeSettings version).map fun settings => (version, settings)

theorem checkpointWord_length_le (version : Nat) (checkpoint : Checkpoint) :
    (varU64 1 ++ checkpointWord version checkpoint).length ≤
      getMaxLocalCheckpointLength version := by
  have count := varU64_length_le 1
  have port := varU64_length_le checkpoint.port
  have numBlocks := varU64_length_le checkpoint.numBlocks
  have received := varU64_length_le checkpoint.lastBlockReceivedBytes
  have seqId := varU64_length_le checkpoint.lastBlockSeqId.toNat
  have offset := varU64_length_le checkpoint.lastBlockOffset
  unfold checkpointWord getMaxLocalCheckpointLength
  split <;> split <;> simp only [length_append, length_nil] <;> omega

/-- Every message value, at every version: the encoder writes it wherever it fits, and the
decoder reads back exactly those bytes, with the fields that the version carries and the
defaults of the others. A single checkpoint fits the length that is set aside for it. -/
theorem messages_round_trip (version : Nat) : (∀ details : BlockDetails, details.InRange →
      RoundTrips (fun max written => encodeHeader version max details written)
        (decodeHeader version) (details.received version)) ∧
    (∀ settings : Settings, version ≤ int32Max → settings.readTimeoutMillis ≤ int32Max →
      settings.writeTimeoutMillis ≤ int32Max → settings.transferId.length < 2 ^ 64 →
      RoundTrips (fun max written => encodeSettings version max settings written)
        decodeVersionAndSettings (version, settings.received version)) ∧
    (∀ checkpoints : List Checkpoint, (∀ checkpoint ∈ checkpoints, checkpoint.Honest) →
      checkpoints.length < 2 ^ 64 →
      RoundTrips (fun max written => encodeCheckpoints version max checkpoints written)
        (decodeCheckpoints version) (checkpoints.map (Checkpoint.received version))) ∧
    (∀ numBlocks bytesSent, numBlocks ≤ int64Max → bytesSent ≤ int64Max →
      RoundTrips (fun max written => encodeDone version max numBlocks bytesSent written)
        (decodeDone version)
        (numBlocks, if checkpointOffsetVersion ≤ version then (bytesSent : Int) else -1)) ∧
    (∀ totalNumBytes, totalNumBytes ≤ int64Max →
      RoundTrips (fun max written => encodeSize max totalNumBytes written) decodeSize
        totalNumBytes) ∧
    (∀ protocolVersion errCode checkpoint, protocolVersion ≤ int32Max →
      (∀ byte, errCode ≠ .unnamed byte) → checkpoint ≤ int64Max →
      RoundTrips (fun max written => encodeAbort max protocolVersion errCode checkpoint written)
        decodeAbort (protocolVersion, errCode, checkpoint)) ∧
    (∀ bufSize numFiles, bufSize ≤ int64Max → numFiles ≤ int64Max →
      RoundTrips (fun max written => encodeChunksCmd max bufSize numFiles written)
        decodeChunksCmd (bufSize, numFiles)) ∧
    (∀ (type : EncryptionType) (iv : List Byte) (tagInterval : Nat), iv.length < 2 ^ 64 →
      tagInterval ≤ int32Max →
      RoundTrips (fun max written => encodeEncryptionSettings max type iv tagInterval written)
        decodeEncryptionSettings (type.toNat, iv, tagInterval)) ∧
    (∀ checksum : Int, checksum ≤ int32Max → -(int32Max : Int) - 1 ≤ checksum →
      RoundTrips (fun max written => encodeFooter max checksum written) decodeFooter checksum) ∧
    (∀ checkpoint : Checkpoint,
      (encodeCheckpoints version (getMaxLocalCheckpointLength version) [checkpoint]
        []).isSome) := by
  refine ⟨?_, ?_, ?_, ?_, ?_, ?_, ?_, ?_, ?_, ?_⟩
  · intro details inRange
    exact ⟨_, encodeHeader_eq_put version details, decodeHeader_reads_received inRange⟩
  · intro settings small readTimeout writeTimeout short
    refine ⟨_, encodeSettings_eq_put version settings, ?_⟩
    exact (decodeInt32C_reads small).bind
      ((decodeSettings_reads_received readTimeout writeTimeout short).map _)
  · intro checkpoints honest few
    refine ⟨_, encodeCheckpoints_eq_put version checkpoints, ?_⟩
    exact (decodeUInt64_reads few).bind (decodeCheckpointList_reads
      (fun checkpoint member => decodeCheckpoint_reads_received (honest checkpoint member)))
  · intro numBlocks bytesSent small smallTotal
    exact ⟨_, encodeDone_eq_put version numBlocks bytesSent,
      decodeDone_reads_received small smallTotal⟩
  · intro totalNumBytes small
    exact ⟨varU64 totalNumBytes, rfl, decodeSize_reads small⟩
  · intro protocolVersion errCode checkpoint small isNamed smallCheckpoint
    exact ⟨_, encodeAbort_eq_put protocolVersion errCode checkpoint,
      decodeAbort_reads small isNamed smallCheckpoint⟩
  · intro bufSize numFiles smallSize smallCount
    refine ⟨_, encodeChunksCmd_eq_put bufSize numFiles, ?_⟩
    exact (decodeInt64FixedLength_reads smallSize).bind
      ((decodeInt64FixedLength_reads smallCount).map _)
  · intro type iv tagInterval short small
    have typeBound := type.toNat_le
    refine ⟨_, encodeEncryptionSettings_eq_put type iv tagInterval, ?_⟩
    apply Decoder.Reads.bind (decodeInt64C_reads (by unfold int64Max; omega))
    exact (decodeString_reads short).bind ((decodeInt32FixedLength_reads small).map _)
  · intro checksum upper lower
    exact ⟨_, rfl, decodeInt32_reads upper lower⟩
  · intro checkpoint
    have written := congrFun (congrFun (encodeCheckpoints_eq_put version [checkpoint])
      (getMaxLocalCheckpointLength version)) []
    have fits := checkpointWord_length_le version checkpoint
    rw [written]
    unfold put
    simp only [length_singleton, map_cons, map_nil, flatten_cons,
      flatten_nil, append_nil, length_nil, Nat.zero_add]
    rw [if_pos fits]
    rfl

/-- A header of a file that is too large on the receiver, and an abort, at version 30. -/
theorem messages_round_trip_thirty : RoundTrips (fun max written => encodeHeader 30 max
        { fileName := [97], seqId := 3, fileSize := 20, offset := 5, dataSize := 15,
          allocationStatus := .existsTooLarge, prevSeqId := 2 } written)
      (decodeHeader 30)
      { fileName := [97], seqId := 3, fileSize := 20, offset := 5, dataSize := 15,
        allocationStatus := .existsTooLarge, prevSeqId := 2 } ∧
    RoundTrips (fun max written => encodeAbort max 30 .protocolError 7 written) decodeAbort
      (30, .protocolError, 7) := by
  have all := messages_round_trip 30
  constructor
  · exact all.1 _ ⟨by decide, by decide, by decide, by decide, by decide, by decide, by decide⟩
  · exact all.2.2.2.2.2.1 30 .protocolError 7 (by decide) nofun (by decide)

/-! ### Checkpoints of versions before 27 -/

/-- Groups of seven bits only: ten of them for a negative number, which is cast to 64 bits. -/
def encodeLegacy (value : Int) : List Byte := VarInt.encode 9 (value % 2 ^ 64).toNat

def legacyCheckpoint (version : Nat) (checkpoint : Checkpoint) : List Byte :=
  encodeLegacy checkpoint.port ++ (encodeLegacy checkpoint.numBlocks ++
    ((if checkpointOffsetVersion ≤ version then encodeLegacy checkpoint.lastBlockReceivedBytes
      else []) ++
      if checkpointSeqIdVersion ≤ version then
        encodeLegacy checkpoint.lastBlockSeqId ++ encodeLegacy checkpoint.lastBlockOffset
      else []))

def legacyCheckpoints (version : Nat) (checkpoints : List Checkpoint) : List Byte :=
  encodeLegacy checkpoints.length ++ (checkpoints.map (legacyCheckpoint version)).flatten

def Checkpoint.OfOldPeer (checkpoint : Checkpoint) : Prop :=
  (checkpoint.lastBlockSeqId = -1 ∨
    0 ≤ checkpoint.lastBlockSeqId ∧ checkpoint.lastBlockSeqId ≤ int64Max) ∧
  ({ checkpoint with lastBlockSeqId := 0 } : Checkpoint).Honest

theorem encodeLegacy_of_le {value : Nat} (small : value ≤ int64Max) :
    encodeLegacy value = varU64 value := by
  unfold int64Max at small
  have same : ((value : Int) % 2 ^ 64).toNat = value := by omega
  unfold encodeLegacy
  rw [same]
  exact VarInt.encode_succ_groups (by norm_num; omega)

theorem encodeLegacy_neg_one : encodeLegacy (-1) = List.replicate 9 0xff ++ [0x01] := by
  decide +kernel

theorem decodeSeqId_reads_legacy {version : Nat} (old : version < varintChange)
    {checkpoint : Checkpoint} (ofOldPeer : checkpoint.OfOldPeer) :
    (decodeSeqId version).Reads (encodeLegacy checkpoint.lastBlockSeqId)
      checkpoint.lastBlockSeqId := by
  obtain ⟨none | ⟨notNegative, small⟩, honest⟩ := ofOldPeer
  · have nine : encodeLegacy (-1) = varU64 allOnes64 ++ [0x01] := by decide +kernel
    intro rest
    rw [none, nine, append_assoc]
    unfold decodeSeqId Decoder.bind
    rw [decodeUInt64_reads (by decide)]
    dsimp only
    rw [if_pos ⟨old, rfl⟩]
    rfl
  · have positive : checkpoint.lastBlockSeqId = (checkpoint.lastBlockSeqId.toNat : Int) :=
      (Int.toNat_of_nonneg notNegative).symm
    have read := @decodeSeqId_reads version checkpoint
      { honest with seqIdNotNegative := notNegative, seqId := small }
    rw [← encodeLegacy_of_le (by omega), ← positive] at read
    exact read

theorem decodeCheckpoint_reads_legacy {version : Nat} (old : version < varintChange)
    {checkpoint : Checkpoint} (ofOldPeer : checkpoint.OfOldPeer) :
    (decodeCheckpoint version).Reads (legacyCheckpoint version checkpoint)
      (checkpoint.received version) := by
  have honest := ofOldPeer.2
  have port : checkpoint.port ≤ int64Max := le_trans honest.port (by decide)
  unfold legacyCheckpoint
  rw [encodeLegacy_of_le port, encodeLegacy_of_le honest.numBlocks,
    encodeLegacy_of_le honest.receivedBytes, encodeLegacy_of_le honest.offset]
  exact decodeCheckpoint_reads_seqId honest (decodeSeqId_reads_legacy old ofOldPeer)

/-- A list from a peer of an older version is read to its end, wherever its entries have the ten
bytes of -1. -/
theorem legacy_checkpoints_aligned {version : Nat} (old : version < varintChange)
    {checkpoints : List Checkpoint} (few : checkpoints.length ≤ int64Max)
    (ofOldPeer : ∀ checkpoint ∈ checkpoints, checkpoint.OfOldPeer) :
    encodeLegacy (-1) = List.replicate 9 0xff ++ [0x01] ∧
    (decodeCheckpoints version).Reads (legacyCheckpoints version checkpoints)
      (checkpoints.map (Checkpoint.received version)) := by
  refine ⟨encodeLegacy_neg_one, ?_⟩
  unfold legacyCheckpoints
  rw [encodeLegacy_of_le few]
  apply (decodeUInt64_reads (by unfold int64Max at few; omega)).bind
  exact decodeCheckpointList_reads
    (fun checkpoint member => decodeCheckpoint_reads_legacy old (ofOldPeer checkpoint member))

theorem legacy_checkpoints_aligned_two :
    (decodeCheckpoints 26).Reads
      (legacyCheckpoints 26 [{ port := 1, lastBlockSeqId := -1 }, { port := 2, numBlocks := 3 }])
      [{ port := 1, lastBlockSeqId := -1, hasSeqId := true },
        { port := 2, numBlocks := 3, hasSeqId := true }] := by
  refine (legacy_checkpoints_aligned (by decide) (by decide) ?_).2
  intro checkpoint member
  rcases mem_pair.mp member with rfl | rfl
  · exact ⟨.inl rfl, by decide, by decide, by decide, by decide, by decide, by decide⟩
  · exact ⟨.inr (by decide), by decide, by decide, by decide, by decide, by decide, by decide⟩

end Wdt
