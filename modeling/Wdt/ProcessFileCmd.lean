/-
PROCESS_FILE_CMD: a FILE command from its status byte to the verified block. The
stages follow the source from top to bottom; heart-beats, throttling and the entries
of the transfer log are left out.
-/

import Wdt.ReceiverWindow

namespace Wdt

/-! ### The checksum of the footer -/

variable (checksum : UInt32)

def crc32cBit : UInt32 :=
  if checksum &&& 1 = 1 then (checksum >>> 1) ^^^ 0x82F63B78 else checksum >>> 1

def crc32cByte (byte : Byte) : UInt32 :=
  Nat.iterate crc32cBit 8 (checksum ^^^ byte.toUInt32)

/-- `folly::crc32c` with a starting value. -/
def crc32c (bytes : List Byte) : UInt32 := bytes.foldl crc32cByte checksum

theorem crc32c_append (checksum : UInt32) (first second : List Byte) :
    crc32c checksum (first ++ second) = crc32c (crc32c checksum first) second := by
  unfold crc32c
  rw [List.foldl_append]

def toInt32 (value : UInt32) : Int :=
  if value.toNat ≤ int32Max then value.toNat else (value.toNat : Int) - 2 ^ 32

def loadInt16 (buf : Memory Byte) (start : Nat) : Int :=
  let value := (buf start).toNat + 256 * (buf (start + 1)).toNat
  if value < 2 ^ 15 then value else (value : Int) - 2 ^ 16

/-- How the world outside the thread answers one FILE command: `aborted` and `written` are
asked once in each round of the data loop. -/
structure FileAnswers where
  opening : OpenAnswers := {}
  aborted : Nat → Bool := fun _ => false
  written : Nat → Bool := fun _ => true
  synced : Bool := true
  closed : Bool := true

/-- The block being received, with the state of its writer. -/
structure BlockInProgress where
  details : BlockDetails
  headerBytes : Nat
  totalWritten : Nat := 0
  checksum : UInt32 := 0
  isOpen : Bool := false

def BlockInProgress.addChecksum (progress : BlockInProgress) (footerType : FooterType)
    (bytes : List Byte) : BlockInProgress :=
  if footerType = .checksumFooter then
    { progress with checksum := crc32c progress.checksum bytes }
  else progress

@[simp] theorem BlockInProgress.addChecksum_details (progress : BlockInProgress)
    (footerType : FooterType) (bytes : List Byte) :
    (progress.addChecksum footerType bytes).details = progress.details := by
  unfold addChecksum
  split <;> rfl

@[simp] theorem BlockInProgress.addChecksum_totalWritten (progress : BlockInProgress)
    (footerType : FooterType) (bytes : List Byte) :
    (progress.addChecksum footerType bytes).totalWritten = progress.totalWritten := by
  unfold addChecksum
  split <;> rfl

namespace ReceiverThread

variable (config : ReceiverConfig) (answers : FileAnswers) (thread : ReceiverThread)

/-- Leave PROCESS_FILE_CMD with an error; the guard of the function counts the attempt. -/
def failFile (code : ErrorCode) (next : ReceiverState) : ReceiverAnswer :=
  ({ thread with threadStats := (thread.threadStats.setLocalErrorCode code).incrFailedAttempts },
    next)

variable (progress : BlockInProgress)

/-- Without tags and checksums the bytes received before a break count as received. -/
def recordWritten : ReceiverThread :=
  if !thread.connection.tagged && thread.footerType == .noFooter then
    { thread with
      checkpoint := thread.checkpoint.setLastBlockDetails progress.details.seqId
        progress.details.offset progress.totalWritten
      threadStats :=
        thread.threadStats.addEffectiveBytes progress.headerBytes progress.totalWritten }
  else thread

def failBlock (code : ErrorCode) (next : ReceiverState) : ReceiverAnswer :=
  (thread.recordWritten progress).failFile code next

/-- What the first read left out of the header is read to `oldOffset + 2 * numRead`: the call
passes the end of the received bytes as the buffer and their number as what the buffer
already holds. -/
def fetchHeader (headerLen : Int) : Handler ReceiverThread :=
  if thread.numRead < headerLen then
    let stop := thread.oldOffset + thread.numRead
    (thread.readAtLeast stop.toNat (config.bufSize - stop) headerLen thread.numRead).bind
      fun (numRead, thread) => .go { thread with numRead }
  else .go thread

/-- The status byte is skipped; the header length counts from the command byte. -/
def readFileHeader : Handler (ReceiverThread × Nat) :=
  let thread := { thread with off := thread.off + 1 }
  let headerLen := loadInt16 thread.buf thread.off
  if headerLen ≤ 0 then .leave (thread.failFile .protocolError .finishWithError)
  else
    (thread.fetchHeader config headerLen).bind fun thread =>
    if thread.numRead < headerLen then
      .leave (thread.failFile .socketReadError .acceptWithTimeout)
    else .go ({ thread with off := thread.off + 2 }, headerLen.toNat)

def wellFormedBlock (block : BlockDetails) : Bool :=
  !(block.allocationStatus == .toBeDeleted && (block.fileSize != 0 || block.dataSize != 0)) &&
    isSafeRelativePath block.fileName

def decodeFileHeader (headerLen : Nat) : Handler (ReceiverThread × BlockInProgress) :=
  let (details, thread) := thread.decodeUpTo (thread.numRead + thread.oldOffset).toNat
    (decodeHeader thread.threadProtocolVersion)
  let headerBytes := thread.off - thread.oldOffset
  if headerLen ≠ headerBytes then .leave (thread.failFile .protocolError .finishWithError)
  else
    let thread :=
      { thread with
        threadStats :=
          (thread.threadStats.addHeaderBytes headerBytes).addEffectiveBytes headerBytes 0 }
    match details with
    | none => .leave (thread.failFile .protocolError .finishWithError)
    | some details =>
      if wellFormedBlock details then
        let thread := thread.consume (thread.buf.read thread.oldOffset headerBytes)
        .go ({ thread with
            checkpointIndex := thread.pendingCheckpointIndex
            trace := thread.trace ++ [.acceptedFileCmd details] },
          { details, headerBytes })
      else .leave (thread.failFile .protocolError .finishWithError)

def openBlock : Handler (ReceiverThread × BlockInProgress) :=
  if config.options.deleteExtraFiles || progress.details.allocationStatus != .toBeDeleted then
    (openWriter config.options answers.opening progress.details).bind fun result =>
      let thread := thread.log (result.events.map .file)
      if result.ok then .go (thread, { progress with isOpen := result.isOpen })
      else .leave (thread.failBlock progress .fileWriteError .sendAbortCmd)
  else .go (thread, progress)

def writeBlock (written : Bool) (thread : ReceiverThread)
    (progress : BlockInProgress) (bytes : List Byte) : Handler (ReceiverThread × BlockInProgress) :=
  .check (progress.details.allocationStatus != .toBeDeleted) .deletedFileNotWritten <|
    let after := { progress with totalWritten := progress.totalWritten + bytes.length }
    if config.options.skipWrites then .go (thread, after)
    else if written then
      .go (thread.log [.file (.wrote progress.details.fileName
        (progress.details.offset + progress.totalWritten) bytes)], after)
    else .leave (thread.failBlock progress .fileWriteError .sendAbortCmd)

def receiveData (written : Bool) (thread : ReceiverThread)
    (progress : BlockInProgress) (bytes : List Byte) : Handler (ReceiverThread × BlockInProgress) :=
  let thread :=
    { thread.consume bytes with threadStats := thread.threadStats.addDataBytes bytes.length }
  let progress := progress.addChecksum thread.footerType bytes
  if bytes.isEmpty then .go (thread, progress)
  else thread.writeBlock config written progress bytes

def receiveFirstData : Handler (ReceiverThread × BlockInProgress × Int) :=
  let remainingData := thread.numRead + thread.oldOffset - thread.off
  .check (decide (0 ≤ remainingData)) .remainingDataNotNegative <|
    let toWrite := min remainingData.toNat progress.details.dataSize
    (thread.receiveData config (answers.written 0) progress
      (thread.buf.read thread.off toWrite)).bind
      fun (thread, progress) =>
        .go ({ thread with off := thread.off + toWrite }, progress, remainingData - toWrite)

/-- The rest of the block is read to the front of the buffer. -/
def receiveRestLoop (config : ReceiverConfig) (answers : FileAnswers) :
    (rounds round : Nat) → ReceiverThread → BlockInProgress →
      Handler (ReceiverThread × BlockInProgress)
  | 0, _, thread, progress => .go (thread, progress)
  | rounds + 1, round, thread, progress =>
    if progress.totalWritten < progress.details.dataSize then
      if answers.aborted round then
        .leave (thread.failBlock progress .abort .finishWithError)
      else
        let (count, thread) := thread.readAtMost 0 config.bufSize
          (progress.details.dataSize - progress.totalWritten)
        if count ≤ 0 then .go (thread, progress)
        else
          (thread.receiveData config (answers.written (round + 1)) progress
            (thread.buf.read 0 count.toNat)).bind fun (thread, progress) =>
              receiveRestLoop config answers rounds (round + 1) thread progress
    else .go (thread, progress)

/-- Every read before the last adds a byte. -/
def receiveRest : Handler (ReceiverThread × BlockInProgress) :=
  receiveRestLoop config answers (progress.details.dataSize - progress.totalWritten) 0 thread
    progress

/-- Sync and close the file, and see whether the block is complete. -/
def closeBlock : Handler ReceiverThread :=
  if progress.isOpen && !answers.synced then
    .leave (thread.failBlock progress .fileWriteError .sendAbortCmd)
  else if progress.isOpen && !answers.closed then
    .leave (thread.failBlock progress .fileWriteError .sendAbortCmd)
  else if progress.totalWritten ≠ progress.details.dataSize then
    .leave (thread.failBlock progress .socketReadError .acceptWithTimeout)
  else .go thread

/-- A short leftover in the upper half of the buffer is moved to the front. -/
def keepLeftover (remainingData : Int) : Handler ReceiverThread :=
  .check (decide (0 ≤ remainingData)) .remainingDataNotNegative <|
    if 0 < remainingData then
      if remainingData < kMaxHeader ∧ config.bufSize / 2 < thread.off then
        .go { thread with
          numRead := remainingData
          buf := thread.buf.store 0 (thread.buf.read thread.off remainingData.toNat)
          off := 0 }
      else .go { thread with numRead := remainingData }
    else .go { thread with numRead := 0, off := 0 }

def checkFooter : Handler ReceiverThread :=
  let thread := { thread with oldOffset := thread.off }
  (thread.readAtLeast thread.off (config.bufSize - thread.off) kMinBufLength thread.numRead).bind
    fun (numRead, thread) =>
  let thread := { thread with numRead }
  if thread.numRead < kMinBufLength then
    .leave (thread.failFile .socketReadError .acceptWithTimeout)
  else
    let cmd := thread.buf thread.off
    let thread := { thread with off := thread.off + 1 }
    if cmd ≠ footerCmd then .leave (thread.failFile .protocolError .finishWithError)
    else
      let (receivedChecksum, thread) :=
        thread.decodeUpTo (thread.oldOffset + kMaxFooter) decodeFooter
      match receivedChecksum with
      | none => .leave (thread.failFile .protocolError .finishWithError)
      | some receivedChecksum =>
        if toInt32 progress.checksum ≠ receivedChecksum then
          .leave (thread.failFile .checksumMismatch .acceptWithTimeout)
        else
          let msgLen := thread.off - thread.oldOffset
          let thread := (thread.markBlockVerified progress.details).consume
            (thread.buf.read thread.oldOffset msgLen)
          .go { thread with numRead := thread.numRead - msgLen }

/-- The block counts as received when its checksum matches, when the next tag is verified, or
at once. -/
def verifyBlock : Handler ReceiverThread :=
  if thread.footerType = .checksumFooter then thread.checkFooter config progress
  else if thread.connection.tagged then
    .go { thread with
      blocksWaitingVerification := thread.blocksWaitingVerification ++ [progress.details] }
  else .go (thread.markBlockVerified progress.details)

def finishFile : ReceiverAnswer :=
  ({ thread with
      threadStats :=
        if thread.threadStats.localErrCode ≠ .ok then thread.threadStats.incrFailedAttempts
        else thread.threadStats },
    .readNextCmd)

def receiveBlock : Handler ReceiverAnswer :=
  (thread.openBlock config answers progress).bind fun (thread, progress) =>
  (thread.receiveFirstData config answers progress).bind fun (thread, progress, remainingData) =>
  (thread.receiveRest config answers progress).bind fun (thread, progress) =>
  (thread.closeBlock answers progress).bind fun thread =>
  (thread.keepLeftover config remainingData).bind fun thread =>
  (thread.verifyBlock config progress).bind fun thread =>
  .go thread.finishFile

def processFileCmd : Handler ReceiverAnswer :=
  let thread := { thread with checkpoint := thread.checkpoint.resetLastBlockDetails }
  (thread.readFileHeader config).bind fun (thread, headerLen) =>
  (thread.decodeFileHeader headerLen).bind fun (thread, progress) =>
  thread.receiveBlock config answers progress

end ReceiverThread

end Wdt
