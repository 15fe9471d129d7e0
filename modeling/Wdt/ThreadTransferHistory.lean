/-
The transfer history of one sender thread: the sources it has sent, in order, and
what a checkpoint, a late source or the end of the transfer does to them. Sources
that leave the history go back to the shared queue, which is the caller's.
-/

import Wdt.Protocol
import Wdt.Reporting

namespace Wdt

/-- A byte range of one file, with the statistics that travel with it. The size is signed: a
checkpoint can credit more bytes than the source has. -/
structure ByteSource where
  seqId : Nat
  offset : Nat
  size : Int
  stats : TransferStats := {}
  allocationStatus : FileAllocationStatus := .notExists
  deriving DecidableEq

def ByteSource.advanceOffset (source : ByteSource) (numBytes : Nat) : ByteSource :=
  { source with
    offset := source.offset + numBytes
    size := source.size - numBytes }

/-- A checkpoint with a seq-id must name the source; one without is trusted blindly. -/
def Checkpoint.validFor (checkpoint : Checkpoint) (source : ByteSource) : Bool :=
  if checkpoint.hasSeqId then
    checkpoint.lastBlockSeqId == source.seqId && checkpoint.lastBlockOffset == source.offset
  else true

/-- The bytes of the source that the checkpoint, if there is one, credits. -/
def receivedBytes (source : ByteSource) : Option Checkpoint → Nat
  | none => 0
  | some checkpoint =>
    if checkpoint.validFor source then checkpoint.lastBlockReceivedBytes else 0

/-- Returns the source as it goes back to the queue and the statistics of the thread. -/
def markSourceAsFailed (threadStats : TransferStats) (source : ByteSource)
    (checkpoint : Option Checkpoint) : ByteSource × TransferStats :=
  let received := receivedBytes source checkpoint
  if source.stats.localErrCode ≠ .ok then
    -- already marked as failed
    let failed := { source with stats := source.stats.addEffectiveBytes 0 received }
    (failed.advanceOffset received, threadStats.addEffectiveBytes 0 received)
  else
    let headerBytes := source.stats.effectiveHeaderBytes
    let wastedBytes := source.size - received
    let sourceStats := (((source.stats.subtractEffectiveBytes headerBytes wastedBytes).decrNumBlocks
      ).setLocalErrorCode .socketWriteError).incrFailedAttempts
    let failed := { source with stats := sourceStats }
    (failed.advanceOffset received,
      ((threadStats.subtractEffectiveBytes headerBytes wastedBytes).decrNumBlocks
        ).incrFailedAttempts)

structure ThreadTransferHistory where
  threadStats : TransferStats := {}
  history : List ByteSource := []
  globalCheckpoint : Bool := false
  numAcknowledged : Nat := 0
  lastCheckpoint : Option Checkpoint := none
  inUse : Bool := true

namespace ThreadTransferHistory

variable (thread : ThreadTransferHistory)

/-- Late sources, sent when a global checkpoint has already arrived, go straight back. -/
def addSource (source : ByteSource) : Bool × ThreadTransferHistory × List ByteSource :=
  if thread.globalCheckpoint then
    let (failed, threadStats) := markSourceAsFailed thread.threadStats source thread.lastCheckpoint
    (false, { thread with threadStats, lastCheckpoint := none }, [failed])
  else (true, { thread with history := thread.history ++ [source] }, [])

variable (checkpoint : Checkpoint) (globalCheckpoint : Bool)

def validateCheckpoint : ErrorCode :=
  match thread.lastCheckpoint with
  | none => .ok
  | some last =>
    if checkpoint.numBlocks < last.numBlocks then .invalidCheckpoint
    else if last.numBlocks < checkpoint.numBlocks then .ok
    else if checkpoint.lastBlockSeqId = last.lastBlockSeqId ∧
        checkpoint.lastBlockOffset = last.lastBlockOffset then
      if checkpoint.lastBlockReceivedBytes ≠ last.lastBlockReceivedBytes then
        .invalidCheckpoint
      else if globalCheckpoint then .ok else .noProgress
    else if checkpoint.lastBlockReceivedBytes = 0 then
      if globalCheckpoint then .ok else .noProgress
    else .ok

/-- The failed sources, the most recent first: the checkpoint is applied to the oldest of
them only. -/
def failSources (checkpoint : Checkpoint) :
    TransferStats → List ByteSource → List ByteSource × TransferStats
  | threadStats, [] => ([], threadStats)
  | threadStats, [oldest] =>
    let (failed, threadStats) := markSourceAsFailed threadStats oldest (some checkpoint)
    ([failed], threadStats)
  | threadStats, source :: older =>
    let (failed, threadStats) := markSourceAsFailed threadStats source none
    let (rest, threadStats) := failSources checkpoint threadStats older
    (failed :: rest, threadStats)

/-- The checkpoint leaves the history as it was. -/
def rejects : Bool :=
  decide (thread.history.length < checkpoint.numBlocks) ||
    thread.validateCheckpoint checkpoint globalCheckpoint == .invalidCheckpoint

def setCheckpointAndReturnToQueue : ErrorCode × ThreadTransferHistory × List ByteSource :=
  if thread.rejects checkpoint globalCheckpoint then (.invalidCheckpoint, thread, [])
  else
    let (returned, threadStats) := failSources checkpoint thread.threadStats
      (thread.history.drop checkpoint.numBlocks).reverse
    (thread.validateCheckpoint checkpoint globalCheckpoint,
      { thread with
        threadStats
        history := thread.history.take checkpoint.numBlocks
        globalCheckpoint := thread.globalCheckpoint || globalCheckpoint
        numAcknowledged := checkpoint.numBlocks
        lastCheckpoint := some checkpoint },
      returned)

def setLocalCheckpoint : ErrorCode × ThreadTransferHistory × List ByteSource :=
  thread.setCheckpointAndReturnToQueue checkpoint false

/-- The caller then waits until the owner of the history has stopped using it. -/
def setGlobalCheckpoint : ErrorCode × ThreadTransferHistory × List ByteSource :=
  thread.setCheckpointAndReturnToQueue checkpoint true

def markAllAcknowledged : ThreadTransferHistory :=
  { thread with numAcknowledged := thread.history.length }

def returnUnackedSourcesToQueue : ThreadTransferHistory × List ByteSource :=
  (thread.setCheckpointAndReturnToQueue { numBlocks := thread.numAcknowledged } false).2

def markNotInUse : ThreadTransferHistory :=
  { thread with inUse := false }

end ThreadTransferHistory

inductive HistoryOp
  | addSource (source : ByteSource)
  | setLocalCheckpoint (checkpoint : Checkpoint)
  | setGlobalCheckpoint (checkpoint : Checkpoint)
  | markAllAcknowledged
  | returnUnackedSourcesToQueue

namespace ThreadTransferHistory

/-- The history behind an operation, and the sources that it returns to the queue. -/
def perform (thread : ThreadTransferHistory) :
    HistoryOp → ThreadTransferHistory × List ByteSource
  | .addSource source => (thread.addSource source).2
  | .setLocalCheckpoint checkpoint => (thread.setLocalCheckpoint checkpoint).2
  | .setGlobalCheckpoint checkpoint => (thread.setGlobalCheckpoint checkpoint).2
  | .markAllAcknowledged => (thread.markAllAcknowledged, [])
  | .returnUnackedSourcesToQueue => thread.returnUnackedSourcesToQueue

def run (thread : ThreadTransferHistory) (ops : List HistoryOp) : ThreadTransferHistory :=
  ops.foldl (fun thread op => (thread.perform op).1) thread

end ThreadTransferHistory

end Wdt
