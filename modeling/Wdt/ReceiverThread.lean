/-
The command loop of a receiver thread: one function for each of its states, and the
loop that runs them. What other threads and the operating system do arrives through
`ReceiverAnswers`, one value for each run of a state function.
-/

import Wdt.ProcessFileCmd

namespace Wdt

inductive FunnelStatus
  | start
  | progress
  | finished

inductive FirstAccept
  | otherThreadStarted
  | gaveUp
  | aborted
  | connected (connection : Connection)
  deriving DecidableEq

theorem connError_ne_ok : ErrorCode.connError ≠ .ok := by
  decide

structure ReceiverAnswers where
  aborted : Bool := false
  listening : Bool := true
  firstAccept : FirstAccept := .gaveUp
  /-- the socket saw an error that no new connection can repair -/
  nonRetryable : Option ErrorCode.Failure := none
  /-- the next connection, or why there is none -/
  accepted : Except ErrorCode.Failure Connection := .error ⟨.connError, connError_ne_ok⟩
  /-- the socket write of the state function went through -/
  wrote : Bool := true
  file : FileAnswers := {}
  funnel : FunnelStatus := .finished
  /-- the list of received chunks went through -/
  chunksWrote : Bool := true
  /-- what encoding the list of received chunks leaves in the buffer -/
  chunkBytes : List Byte := []
  /-- how many bytes of the list went out -/
  chunkBytesWritten : Nat := 0
  /-- how the stream ended behind the peer's DONE -/
  endOfStream : ErrorCode := .ok
  closed : ErrorCode := .ok
  /-- the checkpoints published from the thread's index on -/
  published : List Checkpoint := []
  /-- some other thread is marked RUNNING -/
  existActiveThreads : Bool := false

/-- The list length, port and block count, and the fields that later versions added, at ten
bytes each. -/
def getMaxLocalCheckpointLength (version : Nat) : Nat :=
  10 + 2 * 10 + (if checkpointOffsetVersion ≤ version then 10 else 0) +
    if checkpointSeqIdVersion ≤ version then 2 * 10 else 0

/-- The length of the checkpoints goes out as a signed number of two bytes. Whether all of them
could be encoded is not looked at. -/
def globalCheckpointMessage (bufSize version : Nat) (checkpoints : List Checkpoint) : List Byte :=
  let encoded := encodedCheckpoints version (bufSize - 3) checkpoints
  errCmd :: leBytes 2 encoded.length ++ encoded

namespace ReceiverThread

variable (config : ReceiverConfig) (answers : ReceiverAnswers) (thread : ReceiverThread)

def listen : Handler ReceiverAnswer :=
  if answers.listening then .go (thread, .acceptFirstConnection)
  else .go (thread.fail .connError .finishWithError)

/-- The two sender totals of the statistics survive, as do the buffer and what the thread has
learned about the peer's version and footers. -/
def reset (thread : ReceiverThread) : ReceiverThread :=
  { thread with
    numRead := 0
    off := 0
    checkpointIndex := 0
    pendingCheckpointIndex := 0
    senderReadTimeout := -1
    senderWriteTimeout := -1
    curConnectionVerified := false
    threadStats := thread.threadStats.reset
    newCheckpoints := []
    checkpoint := { port := config.port } }

def connect (connection : Connection) : ReceiverThread :=
  { thread with
    connection := { connection with delivered := [], consumed := [] }
    trace := thread.trace ++ [.acceptedConnection] }

def acceptFirstConnection : Handler ReceiverAnswer :=
  let thread := thread.reset config
  match answers.firstAccept with
  | .otherThreadStarted => .go (thread, .acceptWithTimeout)
  | .gaveUp => .go (thread.fail .connError .finishWithError)
  | .aborted => .go (thread.fail .abort .finishWithError)
  | .connected connection => .go (thread.connect connection, .readNextCmd)

def kTimeoutBufferMillis : Int := 1000

/-- The timeouts have 64 bits, their sum is narrowed to an `int`. -/
def acceptTimeout : Int :=
  if 0 < thread.senderReadTimeout then
    (Int32.ofInt (max thread.senderReadTimeout thread.senderWriteTimeout +
      kTimeoutBufferMillis)).toInt
  else config.acceptWindowMillis

/-- A non-retryable socket error ends the thread here, without FINISH_WITH_ERROR. The check is
that of `acceptNextConnection`. -/
def acceptWithTimeout : Handler ReceiverAnswer :=
  match answers.nonRetryable with
  | some code => .go (thread.fail code .ended)
  | none =>
    .check (decide ((0 : Int) < thread.acceptTimeout config)) .timeoutPositive <|
      let thread :=
        { thread with
          blocksWaitingVerification := []
          curConnectionVerified := false }
      match answers.accepted with
      | .error code => .go (thread.fail code .finishWithError)
      | .ok connection =>
        let next : ReceiverState :=
          if thread.threadStats.localErrCode ≠ .ok then .sendLocalCheckpoint else .readNextCmd
        .go (({ thread.connect connection with
            numRead := 0
            off := 0
            pendingCheckpointIndex := thread.checkpointIndex }).setLocalErrorCode .ok, next)

def sendLocalCheckpoint : Handler ReceiverAnswer :=
  let checkpointLen := getMaxLocalCheckpointLength thread.threadProtocolVersion
  let bytes := (encodeCheckpoints thread.threadProtocolVersion checkpointLen
    [thread.checkpoint] []).getD []
  let thread := { thread with buf := thread.buf.store 0 bytes }
  if answers.wrote then
    .go ({ thread with
        threadStats := thread.threadStats.addHeaderBytes checkpointLen
        trace := thread.trace ++ [.sentLocalCheckpoint thread.checkpoint] }, .readNextCmd)
  else .go (thread.fail .socketWriteError .acceptWithTimeout)

/-! ### Commands -/

def readNextCmd : Handler ReceiverAnswer :=
  let thread := { thread with oldOffset := thread.off }
  (thread.readAtLeast thread.off (config.bufSize - thread.off) kMinBufLength thread.numRead).bind
    fun (numRead, thread) =>
  let thread := { thread with numRead }
  if thread.numRead < kMinBufLength then .go (thread.fail .socketReadError .acceptWithTimeout)
  else
    let cmd := thread.buf thread.off
    let thread := { thread with off := thread.off + 1 }
    if cmd = doneCmd then .go (thread, .processDoneCmd)
    else if cmd = fileCmd then .go (thread, .processFileCmd)
    else if cmd = settingsCmd then .go (thread, .processSettingsCmd)
    else if cmd = sizeCmd then .go (thread, .processSizeCmd)
    else .go (thread.fail .protocolError .finishWithError)

/-- The command is done with: what follows it in the buffer is the next one. -/
def consumeCmd : ReceiverAnswer :=
  let msgLen := thread.off - thread.oldOffset
  ({ thread.consume (thread.buf.read thread.oldOffset msgLen) with
      numRead := thread.numRead - msgLen }, .readNextCmd)

/-- The command takes all that was received: its sender waits for an answer behind it. -/
def consumeAll : ReceiverThread :=
  thread.consume (thread.buf.read thread.oldOffset
    (max (thread.off - thread.oldOffset) thread.numRead.toNat))

def negotiateVersion (senderProtocolVersion : Nat) : Handler ReceiverThread :=
  if senderProtocolVersion = thread.threadProtocolVersion then .go thread
  else
    let negotiated := negotiateProtocol senderProtocolVersion thread.threadProtocolVersion
    if negotiated = 0 then .leave (thread.fail .versionIncompatible .sendAbortCmd)
    else
      let thread := { thread with threadProtocolVersion := negotiated }
      if negotiated ≠ senderProtocolVersion then
        .leave (thread.fail .versionMismatch .sendAbortCmd)
      else .go thread

/-- Both decoders read up to a constant behind the command, not up to what was received. -/
def processSettingsCmd : Handler ReceiverAnswer :=
  let (version, thread) := thread.decodeUpTo (thread.oldOffset + kMaxVersion) decodeVersion
  match version with
  | none => .leave (thread.fail .protocolError .finishWithError)
  | some version =>
    (thread.negotiateVersion version).bind fun thread =>
    let (settings, thread) := thread.decodeUpTo
      (thread.oldOffset + kMaxVersion + kMaxSettings) (decodeSettings thread.threadProtocolVersion)
    match settings with
    | none => .leave (thread.fail .protocolError .finishWithError)
    | some settings =>
      if config.transferId ≠ settings.transferId then
        .leave (thread.fail .idMismatch .sendAbortCmd)
      else
        let thread :=
          { thread with
            senderReadTimeout := settings.readTimeoutMillis
            senderWriteTimeout := settings.writeTimeoutMillis
            curConnectionVerified := true
            footerType := if settings.enableChecksum then .checksumFooter else .noFooter
            trace := thread.trace ++ [ReceiverEvent.acceptedSettings version
              thread.threadProtocolVersion settings] }
        if settings.sendFileChunks then
          .go ({ thread.consumeAll with numRead := 0, off := 0 }, .sendFileChunks)
        else .go thread.consumeCmd

def processDoneCmd : Handler ReceiverAnswer :=
  if thread.numRead ≠ kMinBufLength then .leave (thread.fail .protocolError .finishWithError)
  else
    let senderStatus := ErrorCode.ofByte (thread.buf thread.off)
    let thread := { thread with off := thread.off + 1 }
    let (done, thread) := thread.decodeUpTo (thread.oldOffset + kMaxDone)
      (decodeDone thread.threadProtocolVersion)
    match done with
    | none => .leave (thread.fail .protocolError .finishWithError)
    | some (numBlocksSend, totalSenderBytes) =>
      .go ({ thread.consumeAll with
          threadStats :=
            { thread.threadStats with
              numBlocksSend := numBlocksSend
              totalSenderBytes := totalSenderBytes
              remoteErrCode := senderStatus }
          checkpointIndex := thread.pendingCheckpointIndex
          trace := thread.trace ++ [.acceptedDoneCmd] }, .waitForFinish)

def processSizeCmd : Handler ReceiverAnswer :=
  let (size, thread) := thread.decodeUpTo (thread.oldOffset + kMaxSize) decodeSize
  match size with
  | none => .leave (thread.fail .protocolError .finishWithError)
  | some totalSenderBytes =>
    .go ({ thread with
      threadStats := { thread.threadStats with totalSenderBytes := totalSenderBytes } }).consumeCmd

/-! ### Answers to the sender -/

/-- One round of the loop: the funnel lets one thread send the list of received chunks while
the others keep their senders waiting. -/
def sendFileChunks (thread : ReceiverThread) : Handler ReceiverAnswer :=
  .check (decide (0 < thread.senderReadTimeout)) .settingsReceived <|
    match answers.funnel with
    | .finished =>
      let thread := { thread with buf := thread.buf.store 0 [ackCmd] }
      if answers.wrote then
        .go ({ thread with threadStats := thread.threadStats.addHeaderBytes 1 }, .readNextCmd)
      else .go (thread.fail .socketWriteError .acceptWithTimeout)
    | .progress =>
      let thread := { thread with buf := thread.buf.store 0 [waitCmd] }
      if answers.wrote then
        .go ({ thread with threadStats := thread.threadStats.addHeaderBytes 1 }, .sendFileChunks)
      else .go (thread.fail .socketWriteError .acceptWithTimeout)
    | .start =>
      let thread :=
        { thread with
          buf := thread.buf.store 0 answers.chunkBytes
          threadStats := thread.threadStats.addHeaderBytes answers.chunkBytesWritten }
      if !answers.wrote then .go (thread.fail .socketReadError .acceptWithTimeout)
      else if !answers.chunksWrote then .go (thread.fail .socketWriteError .acceptWithTimeout)
      else
        let (count, thread) := thread.socketRead 0 1
        if count ≠ 1 then .go (thread.fail .socketReadError .acceptWithTimeout)
        else .go (thread.consume (thread.buf.read 0 1), .readNextCmd)

def sendGlobalCheckpoint : Handler ReceiverAnswer :=
  let message := globalCheckpointMessage config.bufSize thread.threadProtocolVersion
    thread.newCheckpoints
  let thread :=
    { thread with
      buf := thread.buf.store 0 message
      off := message.length }
  if answers.wrote then
    .go ({ thread with
        threadStats := thread.threadStats.addHeaderBytes message.length
        pendingCheckpointIndex := thread.checkpointIndex + thread.newCheckpoints.length
        numRead := 0
        off := 0
        trace := thread.trace ++
          [.sentGlobalCheckpoints thread.threadProtocolVersion message] }, .readNextCmd)
  else .go (thread.fail .socketWriteError .acceptWithTimeout)

def sendAbortCmd : Handler ReceiverAnswer :=
  let message := abortCmd :: leBytes 4 thread.threadProtocolVersion ++
    thread.threadStats.localErrCode.toByte :: leBytes 8 thread.threadStats.numFiles.toNat
  let thread :=
    { thread with
      buf := thread.buf.store 0 message
      threadStats := thread.threadStats.addHeaderBytes message.length }
  if thread.threadStats.localErrCode = .versionMismatch then .go (thread, .acceptWithTimeout)
  else .go (thread, .finishWithError)

def sendDoneCmd : Handler ReceiverAnswer :=
  let thread := { thread with buf := thread.buf.store 0 [doneCmd] }
  if !answers.wrote then .go (thread.fail .socketWriteError .acceptWithTimeout)
  else
    let thread := { thread with threadStats := thread.threadStats.addHeaderBytes 1 }
    let (count, thread) := thread.socketRead 0 1
    if count ≠ 1 ∨ thread.buf 0 ≠ doneCmd then
      .go (thread.fail .socketReadError .acceptWithTimeout)
    else if answers.endOfStream ≠ .ok then
      .go (thread.fail answers.endOfStream .acceptWithTimeout)
    else
      .go ((thread.consume (thread.buf.read 0 1)).markReceivedBlocksVerified.fail
        answers.closed .ended)

/-- The checkpoint itself is published by the caller, under the lock of the condition. -/
def finishWithError : Handler ReceiverAnswer :=
  .check (decide (thread.threadStats.localErrCode ≠ .ok)) .errorExpected <|
    .go ({ thread with status := .finished }, .ended)

def waitForFinish : Handler ReceiverAnswer :=
  .check (decide (thread.threadStats.localErrCode = .ok)) .noErrorExpected <|
    .go ({ thread with status := .waiting }, .checkForFinish)

/-- Under the lock: new checkpoints come first, then the test that nobody else is running. -/
def checkForFinishOrNewCheckpoints (stay : ReceiverState) : ReceiverAnswer :=
  if !answers.published.isEmpty then
    ({ thread with newCheckpoints := answers.published, status := .running },
      .sendGlobalCheckpoints)
  else if answers.existActiveThreads then (thread, stay)
  else (thread, .decidedToFinish)

def checkForFinish : Handler ReceiverAnswer :=
  .check (decide (0 < thread.senderReadTimeout)) .settingsReceived <|
    .go (thread.checkForFinishOrNewCheckpoints answers .recheckForFinish)

def recheckForFinish : Handler ReceiverAnswer :=
  .go (thread.checkForFinishOrNewCheckpoints answers .sendWait)

def decidedToFinish : Handler ReceiverAnswer :=
  .go ({ thread with status := .finished }, .sendDoneCmd)

/-- A failed write marks the thread RUNNING again without taking the lock. -/
def sendWait : Handler ReceiverAnswer :=
  let thread := { thread with buf := thread.buf.store 0 [waitCmd] }
  if answers.wrote then
    .go ({ thread with threadStats := thread.threadStats.addHeaderBytes 1 }, .checkForFinish)
  else .go (({ thread with status := .running }).fail .socketWriteError .acceptWithTimeout)

def stateFunction : ReceiverState → Handler ReceiverAnswer
  | .listen => thread.listen answers
  | .acceptFirstConnection => thread.acceptFirstConnection config answers
  | .acceptWithTimeout => thread.acceptWithTimeout config answers
  | .sendLocalCheckpoint => thread.sendLocalCheckpoint answers
  | .readNextCmd => thread.readNextCmd config
  | .processFileCmd => thread.processFileCmd config answers.file
  | .processSettingsCmd => thread.processSettingsCmd config
  | .processDoneCmd => thread.processDoneCmd
  | .processSizeCmd => thread.processSizeCmd
  | .sendFileChunks => thread.sendFileChunks answers
  | .sendGlobalCheckpoints => thread.sendGlobalCheckpoint config answers
  | .sendDoneCmd => thread.sendDoneCmd answers
  | .sendAbortCmd => thread.sendAbortCmd
  | .waitForFinish => thread.waitForFinish
  | .checkForFinish => thread.checkForFinish answers
  | .recheckForFinish => thread.recheckForFinish answers
  | .decidedToFinish => thread.decidedToFinish
  | .sendWait => thread.sendWait answers
  | .finishWithError => thread.finishWithError
  | .ended => .go (thread, .ended)

/-- One round of the loop in `start`; a thread that has ended is marked FINISHED. -/
def step (current : ReceiverAnswer) : Except WdtCheck ReceiverAnswer :=
  if current.2 = .ended then .ok ({ current.1 with status := .finished }, .ended)
  else if answers.aborted && current.2.isEntry then .ok (current.1.fail .abort .ended)
  else (current.1.stateFunction config answers current.2).settle

end ReceiverThread

end Wdt
