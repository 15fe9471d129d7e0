/-
PROCESS_FILE_CMD on the bytes of an honest FILE command, stage by stage: the thread
does what `Reception.receiveFile` says, on every plain connection.
-/

import Wdt.Reception

namespace Wdt

open List Outcome ReceiverEvent TransferStats Memory BlockInProgress

namespace ReceiverThread

variable {config : ReceiverConfig} {thread : ReceiverThread} {pending : List Byte}

theorem loadInt16_leBytes {buf : Memory Byte} {start value : Nat}
    (content : buf.read start 2 = leBytes 2 value) (small : value < 2 ^ 15) :
    loadInt16 buf start = value := by
  have bytes : [buf start, buf (start + 1)] =
      [UInt8.ofNat value, UInt8.ofNat (value / 256)] := content
  obtain ⟨low, high⟩ : buf start = UInt8.ofNat value ∧
      buf (start + 1) = UInt8.ofNat (value / 256) := by simpa using bytes
  have total : (buf start).toNat + 256 * (buf (start + 1)).toNat = value := by
    rw [low, high, UInt8.toNat_ofNat', UInt8.toNat_ofNat']
    omega
  unfold loadInt16
  rw [total]
  rw [if_pos small]

variable {details : BlockDetails} {status : Byte} {tail : List Byte}

/-- Behind the header, with `remaining` received bytes left. -/
structure AtData (config : ReceiverConfig) (thread : ReceiverThread) (remaining : Nat)
    (tail : List Byte) : Prop where
  window : Window config thread thread.off remaining tail
  remaining : thread.numRead + thread.oldOffset - thread.off = remaining

theorem readFileHeader_received (inCommand : InCommand config thread
      (headerBytes thread.threadProtocolVersion status details ++ tail))
    (small : (headerBytes thread.threadProtocolVersion status details).length ≤ kMinBufLength) :
    thread.readFileHeader config = .go ({ thread with off := thread.oldOffset + 4 },
        (headerBytes thread.threadProtocolVersion status details).length) := by
  have least : (kMinBufLength : Int) = 256 := rfl
  have enough := inCommand.enough
  have length := headerBytes_length thread.threadProtocolVersion status details
  have front := inCommand.window.front (by omega)
  have lengthBytes : thread.buf.read (thread.oldOffset + 2) 2 =
      leBytes 2 (headerBytes thread.threadProtocolVersion status details).length := by
    have dropped := congrArg (fun word => (drop 2 word).take 2) front
    rw [read_drop _ _ (by omega), read_take _ _ (by omega)] at dropped
    rw [dropped, length]
    rfl
  have loaded := loadInt16_leBytes lengthBytes (by omega)
  have shifted : thread.off + 1 = thread.oldOffset + 2 := by
    rw [inCommand.off]
  unfold readFileHeader
  dsimp only
  rw [shifted, loaded, if_neg (by omega)]
  unfold fetchHeader
  dsimp only
  rw [if_neg (by omega), go_bind]
  dsimp only
  rw [if_neg (by omega), Int.toNat_natCast]

theorem wellFormedBlock_honest {version : Nat} (honest : details.Honest version) :
    wellFormedBlock details = true := by
  unfold wellFormedBlock
  rw [honest.safe, Bool.and_true]
  by_cases deleted : details.allocationStatus = .toBeDeleted
  · obtain ⟨fileSize, dataSize⟩ := honest.deleted deleted
    rw [fileSize, dataSize]
    simp
  · simp [deleted]

theorem decodeFileHeader_honest (honest : details.Honest thread.threadProtocolVersion)
    (inCommand : InCommand config thread
      (headerBytes thread.threadProtocolVersion status details ++ tail))
    (small : (headerBytes thread.threadProtocolVersion status details).length ≤ kMinBufLength) :
    ∃ after remaining headerBytes, decodeFileHeader { thread with off := thread.oldOffset + 4 }
          (Wdt.headerBytes thread.threadProtocolVersion status details).length =
        .go (after, { details := details, headerBytes := headerBytes }) ∧
      AtData config after remaining tail ∧
      after.reception =
        { thread.reception with
          checkpointIndex := thread.pendingCheckpointIndex
          headers := thread.reception.headers ++ [details] } := by
  have enough := inCommand.enough
  have length := headerBytes_length thread.threadProtocolVersion status details
  have front := inCommand.window.front (by omega)
  have behind := inCommand.window.behind (by omega)
  have fields : thread.buf.read (thread.oldOffset + 4)
      (headerFields thread.threadProtocolVersion details).length =
      headerFields thread.threadProtocolVersion details := by
    have dropped := congrArg (drop 4) front
    exact dropped
  have decoded := decodeUpTo_reads (decodeHeader_reads honest)
    { thread with off := thread.oldOffset + 4 }
    (thread.numRead + thread.oldOffset).toNat fields (by dsimp only; omega)
  unfold decodeFileHeader
  rw [decoded]
  dsimp only
  rw [if_neg (by omega), if_pos (wellFormedBlock_honest honest)]
  refine ⟨_, thread.numRead.toNat -
    (Wdt.headerBytes thread.threadProtocolVersion status details).length, _, rfl, ⟨?_, ?_⟩, ?_⟩
  · have sameStart : thread.oldOffset +
        (Wdt.headerBytes thread.threadProtocolVersion status details).length =
        thread.oldOffset + 4 + (headerFields thread.threadProtocolVersion details).length := by
      omega
    rw [sameStart] at behind
    exact behind.congr rfl rfl rfl rfl
  · dsimp only [consume]
    omega
  · simp [reception, consume, header, writtenBytes,
      verified, addHeaderBytes, addEffectiveBytes]

/-! ### The data -/

structure SameWindow (thread after : ReceiverThread) : Prop where
  buf : after.buf = thread.buf
  segments : after.connection.segments = thread.connection.segments
  tagged : after.connection.tagged = thread.connection.tagged
  lastTag : after.connection.lastTagVerified = thread.connection.lastTagVerified
  off : after.off = thread.off
  oldOffset : after.oldOffset = thread.oldOffset
  numRead : after.numRead = thread.numRead

theorem Window.same {after : ReceiverThread} {start count : Nat}
    (window : Window config thread start count pending) (same : SameWindow thread after) :
    Window config after start count pending :=
  window.congr same.buf same.segments same.tagged same.lastTag

variable {answers : FileAnswers} {progress : BlockInProgress} {start : Reception}

theorem openBlock_succeeds (thread : ReceiverThread) (progress : BlockInProgress) {version : Nat}
    (honest : progress.details.Honest version) (succeed : answers.Succeed) :
    ∃ after isOpen, thread.openBlock config answers progress =
        .go (after, { progress with isOpen := isOpen }) ∧
      SameWindow thread after ∧ after.reception = thread.reception := by
  unfold openBlock
  split
  · obtain ⟨result, opened, ok, events⟩ := openWriter_succeeds config.options
      ReceiverAnswer honest succeed
    rw [opened, go_bind]
    rw [if_pos ok]
    refine ⟨_, _, rfl, ⟨rfl, rfl, rfl, rfl, rfl, rfl, rfl⟩, ?_⟩
    rcases events with none | deleted | opened
    · simp [reception, log, none]
    · simp [reception, log, deleted, header, writtenBytes,
        verified]
    · simp [reception, log, opened, header, writtenBytes,
        verified]
  · exact ⟨thread, progress.isOpen, rfl, ⟨rfl, rfl, rfl, rfl, rfl, rfl, rfl⟩, rfl⟩

theorem receiveData_writes (thread : ReceiverThread) (bytes : List Byte)
    (writes : bytes ≠ [] → config.options.skipWrites = false)
    (kept : bytes ≠ [] → progress.details.allocationStatus ≠ .toBeDeleted) :
    ∃ after, thread.receiveData config true progress bytes =
        .go (after, { progress.addChecksum thread.footerType bytes with
          totalWritten := progress.totalWritten + bytes.length }) ∧
      SameWindow thread after ∧
      after.reception = thread.reception.write progress.details.fileName
        (progress.details.offset + progress.totalWritten) bytes := by
  unfold receiveData
  by_cases nothing : bytes = []
  · subst nothing
    have same : { progress.addChecksum thread.footerType [] with
        totalWritten := progress.totalWritten + ([] : List Byte).length } =
        progress.addChecksum thread.footerType [] := by
      unfold addChecksum
      split <;> rfl
    rw [same, if_pos isEmpty_nil, Reception.write_nil]
    exact ⟨_, rfl, ⟨rfl, by simp [consume], rfl, rfl, rfl, rfl, rfl⟩, rfl⟩
  · rw [if_neg (by simpa using nothing)]
    unfold writeBlock
    dsimp only [consume]
    rw [addChecksum_details, addChecksum_totalWritten]
    have checked : (progress.details.allocationStatus != .toBeDeleted) = true := by
      simpa using kept nothing
    rw [checked, writes nothing]
    refine ⟨_, rfl, ⟨rfl, rfl, rfl, rfl, rfl, rfl, rfl⟩, ?_⟩
    simp [reception, log, Reception.write, header,
      writtenBytes, verified, addDataBytes]

/-- The first `totalWritten` bytes of `tail` have been written, on a thread that was `start`
before the data. -/
structure Taken (start : Reception) (details : BlockDetails) (tail : List Byte)
    (thread : ReceiverThread) (progress : BlockInProgress) : Prop where
  sameDetails : progress.details = details
  within : progress.totalWritten ≤ details.dataSize
  received : progress.totalWritten ≤ tail.length
  checksum : start.footerType = .checksumFooter →
    progress.checksum = crc32c 0 (tail.take progress.totalWritten)
  reception : thread.reception = start.write details.fileName details.offset
    (tail.take progress.totalWritten)

theorem Taken.footerType (taken : Taken start details tail thread progress) :
    thread.footerType = start.footerType :=
  congrArg Reception.footerType taken.reception

theorem Taken.receiveData {version : Nat} {bytes more : List Byte}
    (taken : Taken start details tail thread progress) (honest : details.Honest version)
    (writes : 0 < details.dataSize → config.options.skipWrites = false)
    (split : tail.drop progress.totalWritten = bytes ++ more)
    (fits : progress.totalWritten + bytes.length ≤ details.dataSize) :
    ∃ after advanced, thread.receiveData config true progress bytes = .go (after, advanced) ∧
      SameWindow thread after ∧ Taken start details tail after advanced ∧
      advanced.totalWritten = progress.totalWritten + bytes.length ∧
      tail.drop advanced.totalWritten = more := by
  have positive : bytes ≠ [] → 0 < details.dataSize := by
    intro some
    have counted := length_pos_iff.mpr some
    omega
  have kept : bytes ≠ [] → progress.details.allocationStatus ≠ .toBeDeleted := by
    intro some deleted
    rw [taken.sameDetails] at deleted
    exact (positive some).ne' (honest.deleted deleted).2
  have longer : tail.take (progress.totalWritten + bytes.length) =
      tail.take progress.totalWritten ++ bytes := by
    rw [take_add, split, take_left]
  have behind : tail.drop (progress.totalWritten + bytes.length) = more := by
    rw [← drop_drop, split, drop_left]
  have counted : bytes.length ≤ tail.length - progress.totalWritten := by
    rw [← length_drop, split, length_append]
    exact Nat.le_add_right _ _
  have received := taken.received
  obtain ⟨after, result, same, reception⟩ := receiveData_writes thread bytes
    (fun some => writes (positive some)) kept
  refine ⟨after, _, result, same, ⟨?_, fits, by dsimp only; omega, ?_, ?_⟩, rfl, behind⟩
  · exact (addChecksum_details _ _ _).trans taken.sameDetails
  · intro footers
    rw [longer, crc32c_append, ← taken.checksum footers, taken.footerType, footers]
    rfl
  · have length : (tail.take progress.totalWritten).length = progress.totalWritten := by
      rw [length_take]
      omega
    rw [reception, taken.reception, longer, Reception.write_append, length, taken.sameDetails]

section

variable {version : Nat} (honest : details.Honest version) (succeed : answers.Succeed)
  (writes : 0 < details.dataSize → config.options.skipWrites = false)

include honest succeed writes

theorem receiveRestLoop_takes (rounds round : Nat) {thread : ReceiverThread}
    {progress : BlockInProgress} (taken : Taken start details tail thread progress)
    (window : Window config thread thread.off 0 (tail.drop progress.totalWritten))
    (rounded : details.dataSize ≤ progress.totalWritten + rounds) :
    ∃ after advanced,
      receiveRestLoop config answers rounds round thread progress = .go (after, advanced) ∧
      Taken start details tail after advanced ∧
      Window config after after.off 0 (tail.drop advanced.totalWritten) ∧
      advanced.totalWritten = min details.dataSize tail.length := by
  have bufSize := config.bufSize_ge
  induction rounds generalizing round thread progress with
  | zero =>
    have within := taken.within
    have received := taken.received
    exact ⟨thread, progress, rfl, taken, window, by omega⟩
  | succ rounds ih =>
    have within := taken.within
    have received := taken.received
    unfold receiveRestLoop
    rw [taken.sameDetails, succeed.aborted, succeed.written]
    by_cases unfinished : progress.totalWritten < details.dataSize
    · rw [if_pos unfinished, if_neg (by simp)]
      unfold readAtMost
      obtain ⟨bytes, connection, read⟩ := socketRead_plain window.plain 0
        (min (details.dataSize - progress.totalWritten) config.bufSize)
      obtain ⟨count, result, counted, positive, _⟩ := read.result
      have fits := read.length_le
      have coming : thread.connection.coming = tail.drop progress.totalWritten := window.content
      rw [result]
      dsimp only
      by_cases nothing : bytes = []
      · have ended := read.ended (by omega) nothing
        have stopped : count ≤ 0 := not_lt.mp (fun some => positive.mp some nothing)
        have all : tail.length ≤ progress.totalWritten := by
          rw [coming] at ended
          exact drop_eq_nil_iff.mp ended
        rw [if_pos stopped]
        refine ⟨_, _, rfl, ⟨taken.sameDetails, within, received, taken.checksum, taken.reception⟩,
          ⟨read.plain, window.within, ?_⟩, by omega⟩
        have same := read.coming
        rw [nothing, nil_append, coming] at same
        exact same.symm
      · have some : 0 < count := positive.mpr nothing
        rw [if_neg (by omega), counted, read_store]
        have started : Taken start details tail
            (thread.withReads (thread.buf.store 0 bytes) connection) progress :=
          ⟨taken.sameDetails, within, received, taken.checksum, taken.reception⟩
        obtain ⟨after, advanced, received, same, takenMore, total, behind⟩ :=
          started.receiveData honest writes (by rw [← coming]; exact read.coming) (by omega)
        rw [received, go_bind]
        have windowMore : Window config after after.off 0 (tail.drop advanced.totalWritten) := by
          rw [behind, same.off]
          exact Window.same ⟨read.plain, window.within, rfl⟩ same
        have fewer : details.dataSize ≤ advanced.totalWritten + rounds := by omega
        exact ih (round + 1) takenMore windowMore fewer
    · rw [if_neg unfinished]
      exact ⟨thread, progress, rfl, taken, window, by omega⟩

theorem receiveFirstData_takes {remaining : Nat} (taken : Taken start details tail thread progress)
    (nothing : progress.totalWritten = 0) (atData : AtData config thread remaining tail) :
    ∃ (after : ReceiverThread) (advanced : BlockInProgress) (leftover : Nat),
      thread.receiveFirstData config answers progress = .go (after, advanced, leftover) ∧
      Taken start details tail after advanced ∧
      Window config after after.off leftover (tail.drop advanced.totalWritten) ∧
      (advanced.totalWritten < details.dataSize → leftover = 0) := by
  have content := atData.window.content
  have first : tail.drop progress.totalWritten =
      thread.buf.read thread.off (min remaining details.dataSize) ++
        tail.drop (min remaining details.dataSize) := by
    rw [nothing, drop_zero]
    have front : tail.take (min remaining details.dataSize) =
        thread.buf.read thread.off (min remaining details.dataSize) := by
      rw [← content, take_append_of_le_length (by rw [read_length]; omega),
        read_take _ _ (Nat.min_le_left _ _)]
    rw [← front, take_append_drop]
  obtain ⟨after, advanced, received, same, takenFirst, total, behind⟩ :=
    taken.receiveData honest writes first (by rw [read_length, nothing]; omega)
  rw [nothing, read_length, Nat.zero_add] at total
  unfold receiveFirstData
  rw [atData.remaining, succeed.written, taken.sameDetails]
  simp only [check, Int.natCast_nonneg, decide_true, if_true, Int.toNat_natCast]
  rw [received, go_bind]
  dsimp only
  have leftover : (remaining : Int) - (min remaining details.dataSize : Nat) =
      (remaining - min remaining details.dataSize : Nat) := by omega
  rw [leftover]
  refine ⟨_, _, _, rfl, { takenFirst with }, ?_, ?_⟩
  · rw [behind]
    rw [same.off]
    exact ((atData.window.drop (Nat.min_le_left _ _)).same same).congr rfl rfl rfl rfl
  · intro unfinished
    omega

theorem receiveRest_takes {leftover : Nat} (taken : Taken start details tail thread progress)
    (window : Window config thread thread.off leftover (tail.drop progress.totalWritten))
    (unfinished : progress.totalWritten < details.dataSize → leftover = 0) :
    ∃ after advanced, thread.receiveRest config answers progress = .go (after, advanced) ∧
      Taken start details tail after advanced ∧
      Window config after after.off leftover (tail.drop advanced.totalWritten) ∧
      advanced.totalWritten = min details.dataSize tail.length := by
  unfold receiveRest
  rw [taken.sameDetails]
  by_cases more : progress.totalWritten < details.dataSize
  · have none := unfinished more
    subst none
    exact receiveRestLoop_takes honest succeed writes _ _ taken window (by omega)
  have within := taken.within
  have received := taken.received
  have rounds : details.dataSize - progress.totalWritten = 0 := by omega
  rw [rounds]
  exact ⟨thread, progress, rfl, taken, window, by omega⟩

end

/-! ### Behind the data -/

theorem keepLeftover_receiving {leftover : Nat}
    (window : Window config thread thread.off leftover pending) :
    ∃ after, thread.keepLeftover config leftover = .go after ∧ Receiving config after pending ∧
      after.off + 4096 ≤ config.bufSize ∧ after.reception = thread.reception ∧
      after.connection = thread.connection := by
  have bufSize := config.bufSize_ge
  have longest : kMaxHeader = 4150 := rfl
  have within := window.within
  unfold keepLeftover
  simp only [check, Int.natCast_nonneg, decide_true, if_true, Int.natCast_pos]
  by_cases some : 0 < leftover
  · rw [if_pos some]
    split
    · refine ⟨_, rfl, ⟨⟨window.plain, ?_, ?_⟩, Int.natCast_nonneg _⟩, ?_, rfl, rfl⟩
      · dsimp only
        omega
      · rw [Int.toNat_natCast]
        have moved := read_store thread.buf 0 (thread.buf.read thread.off leftover)
        rw [read_length] at moved
        rw [moved]
        exact window.content
      · dsimp only
        omega
    · refine ⟨_, rfl, ⟨window.congr rfl rfl rfl rfl, Int.natCast_nonneg _⟩, ?_, rfl, rfl⟩
      dsimp only
      omega
  · have none : leftover = 0 := by omega
    subst none
    refine ⟨_, rfl, ⟨⟨window.plain, Nat.zero_le _, window.content⟩, le_refl _⟩, ?_, rfl, rfl⟩
    dsimp only
    omega

theorem markBlockVerified_reception (thread : ReceiverThread) (block : BlockDetails) :
    (thread.markBlockVerified block).reception = thread.reception.verify block := by
  simp [reception, markBlockVerified, Reception.verify, header,
    writtenBytes, verified, addEffectiveBytes,
    incrNumBlocks]

theorem checkFooter_short (progress : BlockInProgress) (receiving : Receiving config thread pending)
    (room : thread.off + kMinBufLength ≤ config.bufSize) (short : pending.length < kMinBufLength) :
    ∃ after, thread.checkFooter config progress = .leave (after, .acceptWithTimeout) ∧
      after.reception = thread.reception.fail .socketReadError := by
  obtain ⟨count, buf, connection, result, few, _⟩ := receiving.read room
  unfold checkFooter
  dsimp only at result ⊢
  rw [result, go_bind]
  rw [if_pos (few short)]
  exact ⟨_, rfl, rfl⟩

theorem checkFooter_verifies {data rest : List Byte}
    (receiving : Receiving config thread (footerMessage data ++ rest))
    (room : thread.off + kMinBufLength ≤ config.bufSize)
    (long : kMinBufLength ≤ (footerMessage data ++ rest).length)
    (checksum : progress.checksum = crc32c 0 data) :
    ∃ after, thread.checkFooter config progress = .go after ∧ Receiving config after rest ∧
      after.off ≤ thread.off + 10 ∧
      after.reception = thread.reception.verify progress.details := by
  obtain ⟨count, buf, connection, result, _, received⟩ := receiving.read room
  obtain ⟨enough, window⟩ := received long
  have least : (kMinBufLength : Int) = 256 := rfl
  have longest : kMaxFooter = 11 := rfl
  have number := varU64_length_le (encodeZigZag (toInt32 (crc32c 0 data)))
  have length : (footerMessage data).length =
      1 + (varU64 (encodeZigZag (toInt32 (crc32c 0 data)))).length := by
    rw [footerMessage_eq, length_cons, Nat.add_comm]
  have front := window.front (by omega)
  have behind := window.behind (by omega)
  have cmd : buf thread.off = footerCmd := by
    rw [footerMessage_eq] at front
    exact apply_eq_of_read front
  have content : buf.read (thread.off + 1)
      (varU64 (encodeZigZag (toInt32 (crc32c 0 data)))).length =
      varU64 (encodeZigZag (toInt32 (crc32c 0 data))) := by
    have dropped := congrArg (drop 1) front
    rw [read_drop _ _ (by omega), length, Nat.add_sub_cancel_left, footerMessage_eq]
      at dropped
    exact dropped
  have decoded := decodeUpTo_reads (decodeFooter_reads data)
    { thread.withReads buf connection with
      oldOffset := thread.off
      numRead := count
      off := thread.off + 1 } (thread.off + kMaxFooter) content (by dsimp only; omega)
  unfold checkFooter
  dsimp only at decoded ⊢
  rw [result, go_bind]
  dsimp only
  rw [if_neg (by omega), if_neg (by rw [cmd]; simp), decoded]
  dsimp only
  rw [if_neg (by rw [checksum]; simp)]
  have msgLen : thread.off + 1 + (varU64 (encodeZigZag (toInt32 (crc32c 0 data)))).length =
      thread.off + (footerMessage data).length := by omega
  refine ⟨_, rfl, ⟨?_, ?_⟩, ?_, ?_⟩
  · dsimp only [consume, markBlockVerified]
    rw [msgLen, Nat.add_sub_cancel_left]
    have left : (count - ((footerMessage data).length : Nat)).toNat =
        count.toNat - (footerMessage data).length := by omega
    rw [left]
    exact behind.congr rfl rfl rfl rfl
  · dsimp only [consume, markBlockVerified]
    omega
  · dsimp only [consume, markBlockVerified]
    omega
  · exact markBlockVerified_reception
      { thread.withReads buf connection with
        oldOffset := thread.off
        numRead := count
        off := thread.off + 1 + (varU64 (encodeZigZag (toInt32 (crc32c 0 data)))).length }
      progress.details

/-! ### The command -/

/-- The answer of a command is what the protocol's view of it says. -/
def Reaches (config : ReceiverConfig) (answer : Except WdtCheck ReceiverAnswer) :
    Reception × Option (List Byte) → Prop
  | (reception, none) =>
    ∃ after, answer = .ok (after, .acceptWithTimeout) ∧ after.reception = reception
  | (reception, some rest) =>
    ∃ after, answer = .ok (after, .readNextCmd) ∧ after.reception = reception ∧
      Receiving config after rest ∧ after.off + 4086 ≤ config.bufSize

/-- A footer follows the data when the connection uses them and did not break before. -/
def Footed (footerType : FooterType) (details : BlockDetails) (tail : List Byte) : Prop :=
  footerType = .checksumFooter → kMinBufLength ≤ (tail.drop details.dataSize).length →
    footerMessage (tail.take details.dataSize) <+: tail.drop details.dataSize

theorem closeBlock_complete (succeed : answers.Succeed)
    (complete : progress.totalWritten = progress.details.dataSize) :
    thread.closeBlock answers progress = .go thread := by
  unfold closeBlock
  rw [succeed.synced, succeed.closed, Bool.not_true, Bool.and_false, if_neg Bool.false_ne_true,
    if_neg Bool.false_ne_true, if_neg (not_not.mpr complete)]

theorem closeBlock_incomplete (succeed : answers.Succeed) (plain : thread.connection.Plain)
    (incomplete : progress.totalWritten ≠ progress.details.dataSize) :
    ∃ after, thread.closeBlock answers progress = .leave (after, .acceptWithTimeout) ∧
      after.reception = (thread.reception.record progress.details progress.totalWritten).fail
        .socketReadError := by
  unfold closeBlock
  rw [succeed.synced, succeed.closed, Bool.not_true, Bool.and_false, if_neg Bool.false_ne_true,
    if_neg Bool.false_ne_true, if_pos incomplete]
  refine ⟨_, rfl, ?_⟩
  unfold recordWritten Reception.record
  rw [plain.untagged]
  cases footerType : thread.footerType with
  | noFooter | checksumFooter =>
    simp [reception, footerType, Reception.fail, TransferStats.setLocalErrorCode,
      TransferStats.incrFailedAttempts]

theorem finishFile_reception (thread : ReceiverThread) :
    thread.finishFile.1.reception = thread.reception := by
  unfold finishFile
  split <;> rfl

theorem verifyBlock_reaches (progress : BlockInProgress) (data : List Byte)
    (receiving : Receiving config thread pending) (room : thread.off + 4096 ≤ config.bufSize)
    (checksum : thread.footerType = .checksumFooter → progress.checksum = crc32c 0 data)
    (footed : thread.footerType = .checksumFooter → kMinBufLength ≤ pending.length →
      footerMessage data <+: pending) :
    Reaches config
      ((thread.verifyBlock config progress).bind fun thread => .go thread.finishFile).settle
      (if thread.footerType = .noFooter then
        (thread.reception.verify progress.details, some pending)
      else if pending.length < kMinBufLength then
        (thread.reception.fail .socketReadError, none)
      else (thread.reception.verify progress.details,
        some (pending.drop (footerMessage data).length))) := by
  have least : kMinBufLength = 256 := rfl
  unfold verifyBlock
  cases footerType : thread.footerType with
  | noFooter =>
    rw [if_neg (by simp), receiving.window.plain.untagged, if_neg (by simp), if_pos rfl,
      go_bind]
    refine ⟨_, rfl, ?_, ⟨receiving.window.congr rfl rfl rfl rfl, receiving.notNegative⟩, ?_⟩
    · exact (finishFile_reception _).trans (markBlockVerified_reception _ _)
    · change thread.off + 4086 ≤ config.bufSize
      omega
  | checksumFooter =>
    rw [if_pos rfl, if_neg (by simp)]
    by_cases short : pending.length < kMinBufLength
    · rw [if_pos short]
      obtain ⟨after, result, reception⟩ := checkFooter_short progress receiving (by omega) short
      rw [result, leave_bind]
      exact ⟨after, rfl, reception⟩
    rw [if_neg short]
    obtain ⟨rest, split⟩ := footed footerType (not_lt.mp short)
    subst split
    obtain ⟨after, result, afterReceiving, near, reception⟩ :=
      checkFooter_verifies receiving (by omega) (not_lt.mp short) (checksum footerType)
    rw [result, go_bind, drop_left]
    refine ⟨_, rfl, ?_, ⟨afterReceiving.window.congr rfl rfl rfl rfl,
      afterReceiving.notNegative⟩, ?_⟩
    · exact (finishFile_reception after).trans reception
    · change after.off + 4086 ≤ config.bufSize
      omega

theorem receiveBlock_receives {version remaining : Nat} (honest : details.Honest version)
    (succeed : answers.Succeed) (writes : 0 < details.dataSize → config.options.skipWrites = false)
    (atData : AtData config thread remaining tail)
    (footed : Footed thread.footerType details tail) (headerBytes : Nat) :
    Reaches config (thread.receiveBlock config answers
        { details := details, headerBytes := headerBytes }).settle
      (thread.reception.receiveBlock details tail) := by
  unfold receiveBlock
  obtain ⟨opened, isOpen, openResult, same, openReception⟩ := openBlock_succeeds thread
    { details := details, headerBytes := headerBytes } honest succeed
  rw [openResult, go_bind]
  have atDataOpened : AtData config opened remaining tail := by
    refine ⟨?_, ?_⟩
    · rw [same.off]
      exact atData.window.same same
    · rw [same.off, same.oldOffset, same.numRead]
      exact atData.remaining
  have untouched : Taken thread.reception details tail opened
      { details := details, headerBytes := headerBytes, isOpen := isOpen } := by
    refine ⟨rfl, Nat.zero_le _, Nat.zero_le _, fun _ => rfl, ?_⟩
    rw [openReception, take_zero, Reception.write_nil]
  obtain ⟨filled, first, leftover, firstResult, firstTaken, firstWindow, unfinished⟩ :=
    receiveFirstData_takes honest succeed writes untouched rfl atDataOpened
  dsimp only
  rw [firstResult, go_bind]
  obtain ⟨received, advanced, restResult, taken, window, total⟩ :=
    receiveRest_takes honest succeed writes firstTaken firstWindow unfinished
  rw [restResult, go_bind]
  unfold Reception.receiveBlock
  by_cases broken : tail.length < details.dataSize
  · have all : advanced.totalWritten = tail.length := by omega
    have takenAll : tail.take details.dataSize = tail.take advanced.totalWritten := by
      rw [all, take_length, take_of_length_le broken.le]
    obtain ⟨after, closed, reception⟩ := closeBlock_incomplete succeed window.plain
      (by rw [taken.sameDetails]; omega)
    rw [closed, leave_bind, if_pos broken]
    refine ⟨after, rfl, ?_⟩
    rw [reception, taken.reception, taken.sameDetails, takenAll, all]
  · have all : advanced.totalWritten = details.dataSize := by omega
    rw [closeBlock_complete succeed (by rw [taken.sameDetails]; exact all), go_bind,
      if_neg broken]
    rw [all] at window
    obtain ⟨kept, keepResult, receiving, room, keptReception, _⟩ := keepLeftover_receiving window
    rw [keepResult, go_bind]
    have keptFooters : kept.footerType = thread.footerType :=
      (congrArg Reception.footerType keptReception).trans taken.footerType
    have reached := verifyBlock_reaches advanced (tail.take details.dataSize) receiving room
      (fun footers => by
        rw [← all]
        exact taken.checksum (keptFooters.symm.trans footers))
      (fun footers => footed (keptFooters.symm.trans footers))
    rw [keptReception, taken.reception, taken.sameDetails, all, keptFooters] at reached
    exact reached

theorem processFileCmd_receives (honest : details.Honest thread.threadProtocolVersion)
    (succeed : answers.Succeed) (writes : 0 < details.dataSize → config.options.skipWrites = false)
    (inCommand : InCommand config thread
      (headerBytes thread.threadProtocolVersion status details ++ tail))
    (small : (headerBytes thread.threadProtocolVersion status details).length ≤ kMinBufLength)
    (footed : Footed thread.footerType details tail) :
    Reaches config (thread.processFileCmd config answers).settle
      (thread.reception.receiveFile details tail) := by
  have started : InCommand config
      { thread with checkpoint := thread.checkpoint.resetLastBlockDetails }
      (headerBytes thread.threadProtocolVersion status details ++ tail) :=
    ⟨inCommand.window.congr rfl rfl rfl rfl, inCommand.enough, inCommand.off⟩
  have header := readFileHeader_received started small
  obtain ⟨after, remaining, headerBytes, decoded, atData, reception⟩ :=
    @decodeFileHeader_honest config
      { thread with checkpoint := thread.checkpoint.resetLastBlockDetails } details status tail
      honest started small
  unfold processFileCmd
  dsimp only at header decoded ⊢
  rw [header, go_bind]
  rw [decoded, go_bind]
  have sameFooters : after.footerType = thread.footerType := congrArg Reception.footerType reception
  have reached := receiveBlock_receives honest succeed writes atData (sameFooters.symm ▸ footed)
    headerBytes
  rw [reception] at reached
  exact reached

end ReceiverThread

end Wdt
