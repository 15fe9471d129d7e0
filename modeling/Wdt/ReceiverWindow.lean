/-
The state of one receiver thread and the ways it reads its socket into the receive
buffer. A connection is the list of what its successive reads deliver; what the peer
sends back to it is not part of the state.
-/

import Wdt.FileCreator
import Wdt.Reporting
import Wdt.Lib.Memory

namespace Wdt

/-! ### Receiver threads -/

inductive FooterType
  | noFooter
  | checksumFooter
  deriving DecidableEq

theorem FooterType.eq_checksumFooter {footerType : FooterType} (footers : footerType ≠ .noFooter) :
    footerType = .checksumFooter := by
  cases footerType with
  | noFooter => exact absurd rfl footers
  | checksumFooter => rfl

inductive ThreadStatus
  | init
  | running
  | waiting
  | finished
  deriving DecidableEq

/-- The states of the source. WAIT_FOR_FINISH_OR_NEW_CHECKPOINT is a loop that gives up its
lock in the middle, so its control points are states of their own: `waitForFinish` on entry,
`checkForFinish` and `recheckForFinish` before and after sleeping on the condition,
`decidedToFinish` between the test that nobody is running and the thread's own mark, and
`sendWait` before the loop starts over. -/
inductive ReceiverState
  | listen
  | acceptFirstConnection
  | acceptWithTimeout
  | sendLocalCheckpoint
  | readNextCmd
  | processFileCmd
  | processSettingsCmd
  | processDoneCmd
  | processSizeCmd
  | sendFileChunks
  | sendGlobalCheckpoints
  | sendDoneCmd
  | sendAbortCmd
  | waitForFinish
  | checkForFinish
  | recheckForFinish
  | decidedToFinish
  | sendWait
  | finishWithError
  | ended
  deriving DecidableEq

/-- The loop of the thread tests for abort before it enters a state, not at the control points
inside one. -/
def ReceiverState.isEntry : ReceiverState → Bool
  | .checkForFinish => false
  | .recheckForFinish => false
  | .decidedToFinish => false
  | .sendWait => false
  | _ => true

/-- One arrival of bytes. With tag encryption a tag may have been verified just before it. -/
structure Segment where
  tagVerified : Bool := false
  bytes : List Byte
  deriving DecidableEq

/-- A connection: the arrivals still to come, and how reading ends after them. The last two
fields keep account of the bytes: those that reads have put into the buffer, and those that
commands have taken from it. -/
structure Connection where
  segments : List Segment := []
  /-- a last tag is verified by the read that finds the end -/
  lastTagVerified : Bool := false
  /-- the peer closed, rather than the read failing -/
  endOfFile : Bool := false
  /-- the encryption type carries tags -/
  tagged : Bool := false
  delivered : List Byte := []
  consumed : List Byte := []
  deriving DecidableEq

inductive ReceiverEvent
  | acceptedConnection
  | acceptedSettings (requestedVersion agreedVersion : Nat) (settings : Settings)
  | acceptedFileCmd (block : BlockDetails)
  | file (event : FileEvent)
  | verifiedBlock (block : BlockDetails)
  | acceptedDoneCmd
  | sentLocalCheckpoint (checkpoint : Checkpoint)
  | sentGlobalCheckpoints (version : Nat) (message : List Byte)
  deriving DecidableEq

/-- What does not change while a thread runs. The buffer size is one that
`checkAndUpdateBufferSize` can set. -/
structure ReceiverConfig where
  bufSize : Nat
  transferId : List Byte
  port : Nat := 0
  options : WdtOptions := {}
  acceptWindowMillis : Nat := 2000
  large : kMaxHeader ≤ bufSize
  aligned : bufSize % 4096 = 0
  waits : 0 < acceptWindowMillis := by decide

def checkAndUpdateBufferSize (bufferSize : Nat) : Nat :=
  let bufSize := if bufferSize < kMaxHeader then kMaxHeader else bufferSize
  if bufSize % 4096 ≠ 0 then (bufSize + 4096 - 1) / 4096 * 4096 else bufSize

/-- The sizes that the option check leaves are those a configuration allows. -/
theorem checkAndUpdateBufferSize_allowed (bufferSize : Nat) :
    kMaxHeader ≤ checkAndUpdateBufferSize bufferSize ∧
      checkAndUpdateBufferSize bufferSize % 4096 = 0 := by
  unfold checkAndUpdateBufferSize kMaxHeader pathMax
  dsimp only
  constructor <;> split <;> split <;> omega

theorem ReceiverConfig.bufSize_ge (config : ReceiverConfig) : 8192 ≤ config.bufSize := by
  have large := config.large
  have aligned := config.aligned
  unfold kMaxHeader pathMax at large
  omega

structure ReceiverThread where
  buf : Memory Byte
  numRead : Int := 0
  off : Nat := 0
  oldOffset : Nat := 0
  connection : Connection := {}
  threadProtocolVersion : Nat
  footerType : FooterType := .noFooter
  senderReadTimeout : Int := -1
  senderWriteTimeout : Int := -1
  curConnectionVerified : Bool := false
  checkpointIndex : Nat := 0
  pendingCheckpointIndex : Nat := 0
  checkpoint : Checkpoint := {}
  newCheckpoints : List Checkpoint := []
  blocksWaitingVerification : List BlockDetails := []
  threadStats : TransferStats := {}
  /-- the thread's own entry in the controller -/
  status : ThreadStatus := .running
  trace : List ReceiverEvent := []

abbrev ReceiverAnswer := ReceiverThread × ReceiverState

abbrev Handler (α : Type) := Outcome WdtCheck ReceiverAnswer α

namespace ReceiverThread

variable (thread : ReceiverThread)

def log (events : List ReceiverEvent) : ReceiverThread :=
  { thread with trace := thread.trace ++ events }

def setLocalErrorCode (thread : ReceiverThread) (code : ErrorCode) : ReceiverThread :=
  { thread with threadStats := thread.threadStats.setLocalErrorCode code }

def fail (code : ErrorCode) (next : ReceiverState) : ReceiverAnswer :=
  (thread.setLocalErrorCode code, next)

def markBlockVerified (block : BlockDetails) : ReceiverThread :=
  { thread with
    threadStats := (thread.threadStats.addEffectiveBytes 0 block.dataSize).incrNumBlocks
    checkpoint := thread.checkpoint.incrNumBlocks
    trace := thread.trace ++ [.verifiedBlock block] }

def markReceivedBlocksVerified : ReceiverThread :=
  { thread.blocksWaitingVerification.foldl markBlockVerified thread with
    blocksWaitingVerification := [] }

/-- The callback of the socket, run by the read that gets past a verified tag. -/
def tagVerification (verified : Bool) : ReceiverThread :=
  if verified then thread.markReceivedBlocksVerified else thread

/-- One read of at most `nbyte` bytes to address `start`: the number of bytes, 0 at the end of
the stream and -1 on an error. -/
def socketRead (start nbyte : Nat) : Int × ReceiverThread :=
  match thread.connection.segments with
  | [] =>
    (if thread.connection.endOfFile then 0 else -1,
      { thread.tagVerification thread.connection.lastTagVerified with
        connection := { thread.connection with lastTagVerified := false } })
  | segment :: rest =>
    let bytes := segment.bytes.take nbyte
    let left := segment.bytes.drop nbyte
    (bytes.length,
      { thread.tagVerification segment.tagVerified with
        buf := thread.buf.store start bytes
        connection :=
          { thread.connection with
            segments := if left.isEmpty then rest else { bytes := left } :: rest
            delivered := thread.connection.delivered ++ bytes } })

/-- The loop of `readAtLeast`; every read before the last adds a byte, so `atLeast - len`
rounds are enough. -/
def readAtLeastLoop (start max atLeast : Nat) :
    (rounds : Nat) → ReceiverThread → (len : Nat) → Int × ReceiverThread
  | 0, thread, len => (len, thread)
  | rounds + 1, thread, len =>
    if len < atLeast then
      let (count, thread) := thread.socketRead (start + len) (max - len)
      if count < 0 then (if len = 0 then count else len, thread)
      else if count = 0 then (len, thread)
      else readAtLeastLoop start max atLeast rounds thread (len + count.toNat)
    else (len, thread)

/-- Read behind the `len` bytes that are already at `start`, until there are `atLeast`. -/
def readAtLeast (start : Nat) (max atLeast len : Int) : Handler (Int × ReceiverThread) :=
  .check (decide (0 ≤ len)) .lengthNotNegative <| .check (decide (0 < atLeast)) .atLeastPositive <|
      .check (decide (atLeast ≤ max)) .atLeastWithinMax <|
        .go (readAtLeastLoop start max.toNat atLeast.toNat (atLeast - len).toNat thread len.toNat)

def consume (bytes : List Byte) : ReceiverThread :=
  { thread with
    connection := { thread.connection with consumed := thread.connection.consumed ++ bytes } }

/-- Decode from the current offset, reading the buffer up to `stop`. -/
def decodeUpTo {α : Type} (thread : ReceiverThread) (stop : Nat) (decoder : Decoder Byte α) :
    Option α × ReceiverThread :=
  let range := thread.buf.read thread.off (stop - thread.off)
  let (value, rest) := decoder range
  (value, { thread with off := thread.off + (range.length - rest.length) })

def readAtMost (start max atMost : Nat) : Int × ReceiverThread :=
  thread.socketRead start (min atMost max)

end ReceiverThread

end Wdt
