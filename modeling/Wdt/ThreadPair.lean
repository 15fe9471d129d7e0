/-
One sender thread and one receiver thread over any number of connections. A sender
reads nothing between a local checkpoint and its DONE, so a connection is one step of
the pair: the receiver accepts it, perhaps a checkpoint gets through, the sender sends
sources from the queue, and some part of what it sent arrives in some reads.
-/

import Wdt.SenderThread
import Wdt.Lib.Transition

namespace Wdt

open ReceiverThread

structure PairSetup where
  config : ReceiverConfig
  version : Nat
  settings : Settings
  files : Nat → SourceFile

/-- Both threads run at a version with seq-ids, and a SETTINGS command is received at once. -/
structure PairSetup.Sound (setup : PairSetup) : Prop where
  withSeqId : checkpointSeqIdVersion ≤ setup.version
  port : setup.config.port ≤ int32Max
  settings : (Frame.settings setup.settings).Receivable setup.config setup.version
  writes : setup.config.options.skipWrites = false
  sendable : ∀ seqId, (setup.files seqId).Sendable setup.version

structure DoneCmd where
  status : Byte := 0
  numBlocks : Nat
  totalNumBytes : Nat
  /-- the sender's buffer, which fills up the message -/
  buf : Memory Byte

structure Round where
  /-- the receiver gets to accept it -/
  reaches : Bool := true
  /-- the receiver's write of its checkpoint goes through -/
  wrote : Bool := true
  checkpointArrives : Bool := true
  /-- the sources that the sender takes, by their positions in the queue -/
  positions : List Nat := []
  status : Byte := 0
  /-- a SIZE command behind so many sources -/
  size : Option (Nat × Nat) := none
  done : Option DoneCmd := none
  /-- the reads of the receiver -/
  segments : List Segment := []
  endOfFile : Bool := false
  file : FileAnswers := {}
  /-- rounds of the receiver's loop, enough of them -/
  rounds : Nat

structure Round.Sound (round : Round) : Prop where
  untagged : ∀ segment ∈ round.segments, segment.tagVerified = false
  nonempty : ∀ segment ∈ round.segments, segment.bytes ≠ []
  size : ∀ after total, round.size = some (after, total) → total ≤ int64Max
  done : ∀ done, round.done = some done → done.numBlocks ≤ int64Max ∧ done.totalNumBytes ≤ int64Max
  file : round.file.Succeed

namespace Round

variable (setup : PairSetup) (round : Round)

def connection : Connection where
  segments := round.segments
  endOfFile := round.endOfFile

def answers : ReceiverAnswers where
  firstAccept := .connected round.connection
  accepted := .ok round.connection
  wrote := round.wrote
  file := round.file

variable (taken : List ByteSource)

def fileFrames : List Frame :=
  taken.map fun source => .file (source.command setup.files round.status)

def sizedFrames (files : List Frame) : List Frame :=
  match round.size with
  | none => files
  | some (after, total) => files.take after ++ .size total :: files.drop after

def doneFrames : List Frame :=
  match round.done with
  | none => []
  | some done => [.done done.status done.numBlocks done.totalNumBytes done.buf]

def frames : List Frame :=
  .settings setup.settings :: (round.sizedFrames (round.fileFrames setup taken) ++ round.doneFrames)

def stream : List Byte :=
  framesBytes setup.version .noFooter (round.frames setup taken)

def arrived : List Byte := (round.segments.map Segment.bytes).flatten

end Round

/-! ### Both threads -/

structure Pair where
  queue : List ByteSource
  history : ThreadTransferHistory := {}
  /-- the sender has failed on a connection, so it first reads a local checkpoint -/
  reconnecting : Bool := false
  /-- the sender has met END with an error -/
  ended : Bool := false
  receiver : ReceiverAnswer

/-- Accept a connection, and after an error send the local checkpoint on it. -/
def openConnection (config : ReceiverConfig) (answers : ReceiverAnswers)
    (receiver : ReceiverAnswer) : Except WdtCheck (ReceiverAnswer × Option (List Byte)) :=
  match step config answers receiver with
  | .error check => .error check
  | .ok (thread, .sendLocalCheckpoint) =>
    match step config answers (thread, .sendLocalCheckpoint) with
    | .error check => .error check
    | .ok next =>
      .ok (next, if answers.wrote then
        some (next.1.buf.read 0 (getMaxLocalCheckpointLength next.1.threadProtocolVersion))
        else none)
  | .ok next => .ok (next, none)

namespace Pair

variable (setup : PairSetup) (pair : Pair) (round : Round)

def accepts : Bool :=
  pair.receiver.2 == .acceptFirstConnection || pair.receiver.2 == .acceptWithTimeout

/-- The bytes of a local checkpoint that reach the sender. -/
def checkpointBytes : Option (List Byte) :=
  if !pair.ended && pair.reconnecting && round.reaches && round.checkpointArrives &&
      pair.accepts then
    match openConnection setup.config round.answers pair.receiver with
    | .ok (_, message) => message
    | .error _ => none
  else none

def exchange : Option (Checkpoint × ErrorCode × ThreadTransferHistory × List ByteSource) :=
  (pair.checkpointBytes setup round).bind
    (readLocalCheckPoint setup.version setup.config.port pair.history)

/-- SEND_SETTINGS and SEND_BLOCKS: the sources taken, and the pair after them. -/
def send : Option (List ByteSource × Pair) :=
  (takeSources round.positions pair.queue).map fun (taken, left) =>
    (taken, { pair with
      queue := left
      history := pair.history.addSources taken
      reconnecting := true })

def receive (opened : ReceiverAnswer) (stream : List Byte) : Option Pair :=
  if round.arrived.isPrefixOf stream then
    match serve setup.config round.answers round.rounds opened with
    | .ok final => if final.2.serves then none else some { pair with receiver := final }
    | .error _ => none
  else none

/-- The sender as it starts to send, or stops: behind the checkpoint, if it waits for one. -/
def resume : Option Pair :=
  if pair.reconnecting then
    match pair.checkpointBytes setup round with
    | none => none
    | some bytes =>
      match readLocalCheckPoint setup.version setup.config.port pair.history bytes with
      | none => none
      | some (_, code, history, returned) =>
        if code = .invalidCheckpoint then none
        else some { pair with history, queue := pair.queue ++ returned }
  else some pair

def stops : Bool := (pair.checkpointBytes setup round).isSome && (pair.resume setup round).isNone

def connection : Option Pair :=
  if pair.ended then none
  else if round.reaches then
    if pair.accepts then
      match openConnection setup.config round.answers pair.receiver with
      | .error _ => none
      | .ok (opened, _) =>
        match pair.resume setup round with
        | none =>
          { pair with ended := pair.stops setup round }.receive setup round opened []
        | some resumed =>
          (resumed.send round).bind fun (taken, sent) =>
            sent.receive setup round opened (round.stream setup taken)
    else none
  -- the connection is lost before the receiver sees it
  else if pair.reconnecting then some pair
  else (pair.send round).map Prod.snd

def sent : List ByteSource :=
  match (pair.resume setup round).bind fun resumed => resumed.send round with
  | none => []
  | some (taken, _) => taken

end Pair

/-- The control points of the receiver at which it waits for the other threads. -/
def ReceiverState.waits : ReceiverState → Bool
  | .waitForFinish => true
  | .checkForFinish => true
  | .recheckForFinish => true
  | .sendWait => true
  | .decidedToFinish => true
  | .sendDoneCmd => true
  | _ => false

/-- The peer's answer to DONE, if there is one, comes behind the rest of the connection. -/
def ReceiverThread.answered (thread : ReceiverThread) (answer : List Byte) : ReceiverThread :=
  { thread with
    connection := { thread.connection with
      segments := thread.connection.segments ++ [{ bytes := answer }] } }

inductive PairEvent
  | connection (round : Round)
  | receiver (answers : ReceiverAnswers)

/-- A connection, or the receiver goes on behind a DONE, or it learns that another thread has
accepted the first connection. No other thread publishes a checkpoint. -/
inductive Pair.Step (setup : PairSetup) : Pair → PairEvent → Pair → Prop
  | connection {pair after round} (sound : round.Sound)
      (connected : pair.connection setup round = some after) :
      Pair.Step setup pair (.connection round) after
  | waiting {pair answers answer next} (waits : pair.receiver.2.waits = true)
      (running : answers.aborted = false) (unpublished : answers.published = [])
      (stepped : step setup.config answers
        (pair.receiver.1.answered answer, pair.receiver.2) = .ok next) :
      Pair.Step setup pair (.receiver answers) { pair with receiver := next }
  | otherThreadStarted {pair answers next}
      (first : pair.receiver.2 = .acceptFirstConnection) (running : answers.aborted = false)
      (started : answers.firstAccept = .otherThreadStarted)
      (stepped : step setup.config answers pair.receiver = .ok next) :
      Pair.Step setup pair (.receiver answers) { pair with receiver := next }

structure Pair.Initial (setup : PairSetup) (pair : Pair) : Prop where
  history : pair.history = {}
  notReconnecting : pair.reconnecting = false
  running : pair.ended = false
  receiver : ∃ buf, pair.receiver =
    ({ buf := buf, threadProtocolVersion := setup.version }, .acceptFirstConnection)
  within : ∀ source ∈ pair.queue, source.Within setup.files
  disjoint : Range.Disjoint (pair.queue.map ByteSource.range)
  bounded : Range.total (pair.queue.map ByteSource.range) ≤ int64Max

end Wdt
