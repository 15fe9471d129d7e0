/-
A receiver that runs forever. The same threads, sockets and receiver object serve one
session after the other. Between two sessions `Receiver::start` resets the threads and
their controller; what the sessions have left elsewhere is there in the next one.
-/

import Wdt.GlobalCheckpoints
import Wdt.FileReception
import Wdt.WdtSocket

namespace Wdt

open Function List Option Outcome ReceiverThread ReceiverGroup

def periodicEncryptionIvChangeVersion : Nat := 30

structure SocketParams where
  encryptionParams : Option EncryptionParams
  ivChangeInterval : Nat
  deriving DecidableEq

def SocketParams.tagged (params : SocketParams) (encrypts : Bool) : Bool :=
  match params.encryptionParams with
  | some encryption => encrypts && decide (encryptionTypeToTagLen encryption.type ≠ 0)
  | none => false

structure Peer where
  /-- the first byte that it sends is ENCRYPTION_CMD -/
  encrypts : Bool := true
  /-- what reading from it brings, for a socket with these parameters -/
  delivers : SocketParams → Connection

def Peer.connection (peer : Peer) (params : SocketParams) : Connection :=
  { peer.delivers params with tagged := params.tagged peer.encrypts }

def ReceiverAnswers.onConnection (answers : ReceiverAnswers) (connection : Connection) :
    ReceiverAnswers :=
  { answers with
    firstAccept :=
      match answers.firstAccept with
      | .connected _ => .connected connection
      | other => other
    accepted := answers.accepted.map fun _ => connection }

/-- PROCESS_SETTINGS_CMD gets past the negotiation with a version that has no periodic change
of the IV. -/
def ReceiverThread.disablesIvChange (thread : ReceiverThread) : Bool :=
  let (version, thread) := thread.decodeUpTo (thread.oldOffset + kMaxVersion) decodeVersion
  match version with
  | none => false
  | some version =>
    match thread.negotiateVersion version with
    | .go thread => decide (thread.threadProtocolVersion < periodicEncryptionIvChangeVersion)
    | _ => false

structure ThreadSocket where
  params : SocketParams
  /-- of the peer of the open connection -/
  peerEncrypts : Bool := true

namespace ThreadSocket

variable (socket : ThreadSocket)

def accept (accepted : Bool) (peer : Peer) : ThreadSocket :=
  if accepted then { socket with peerEncrypts := peer.encrypts } else socket

def disableIvChange (disabled : Bool) : ThreadSocket :=
  if disabled then { socket with params := { socket.params with ivChangeInterval := 0 } }
  else socket

/-- The first byte of a peer that does not encrypt turns the encryption off. -/
def read (connection : Connection) : ThreadSocket :=
  if !socket.peerEncrypts && !connection.delivered.isEmpty then
    { socket with params := { socket.params with encryptionParams := none } }
  else socket

end ThreadSocket

/-! ### Sessions -/

structure ReceiverSetup (n : Nat) where
  config : Fin n → ReceiverConfig
  protocolVersion : Nat
  socket : SocketParams

/-- One thread takes a round of its loop. What its environment answers may depend on the files
that this session has already asked the file creator for. -/
structure SessionRound (n : Nat) where
  thread : Fin n
  peer : Peer
  answers : List Nat → ReceiverAnswers

structure RunningReceiver (n : Nat) where
  group : ReceiverGroup n
  sockets : Fin n → ThreadSocket
  hasNewTransferStarted : Bool := false
  /-- the seq-ids in the allocation map of the file creator -/
  allocated : List Nat := []

namespace RunningReceiver

variable {n : Nat}

def create (setup : ReceiverSetup n) (buffers : Fin n → Memory Byte) : RunningReceiver n where
  group :=
    { threads := fun i =>
        ({ buf := buffers i
           threadProtocolVersion := setup.protocolVersion
           checkpoint := { port := (setup.config i).port } }, .listen) }
  sockets := fun _ => { params := setup.socket }

variable (receiver : RunningReceiver n) (round : SessionRound n)

def answersFor : ReceiverAnswers :=
  (round.answers receiver.allocated).onConnection
    (round.peer.connection (receiver.sockets round.thread).params)

/-- The loop of ACCEPT_FIRST_CONNECTION ends by another thread's connection only when there is
one. -/
def possible : Bool :=
  receiver.group.state round.thread != .acceptFirstConnection || receiver.hasNewTransferStarted ||
    (receiver.answersFor round).firstAccept != .otherThreadStarted

/-- What the round of a thread does outside of it. The first connection of a thread starts the
session, if no other has. -/
def advance (group : ReceiverGroup n) : RunningReceiver n :=
  let before := receiver.group.thread round.thread
  let after := group.thread round.thread
  let state := receiver.group.state round.thread
  let accepted := decide (after.trace = before.trace ++ [.acceptedConnection])
  let socket := (receiver.sockets round.thread).accept accepted round.peer
  let socket := socket.disableIvChange (decide (state = .processSettingsCmd) &&
    !(round.answers receiver.allocated).aborted && before.disablesIvChange)
  { group
    sockets := Function.update receiver.sockets round.thread (socket.read after.connection)
    hasNewTransferStarted := receiver.hasNewTransferStarted ||
      (decide (state = .acceptFirstConnection) && accepted)
    allocated := receiver.allocated ++
      ((after.trace.drop before.trace.length).flatMap ReceiverEvent.header).map
        BlockDetails.seqId }

def step (setup : ReceiverSetup n) (receiver : RunningReceiver n) (round : SessionRound n) :
    Option (RunningReceiver n) :=
  if receiver.possible round then
    (receiver.group.step setup.config (round.thread, receiver.answersFor round)).map
      (receiver.advance round)
  else none

def run (setup : ReceiverSetup n) :
    RunningReceiver n → List (SessionRound n) → Option (RunningReceiver n)
  | receiver, [] => some receiver
  | receiver, round :: rest =>
    (receiver.step setup round).bind fun after => run setup after rest

/-- The last thread that ends runs this. Nothing is cleared when no connection was accepted. -/
def endCurGlobalSession : RunningReceiver n :=
  if receiver.hasNewTransferStarted then
    { receiver with
      group := { receiver.group with published := [] }
      hasNewTransferStarted := false
      allocated := [] }
  else receiver

def Over : Prop :=
  ∀ i, receiver.group.state i = .ended ∧ (receiver.group.thread i).status = .finished

instance (receiver : RunningReceiver n) : Decidable receiver.Over :=
  inferInstanceAs (Decidable (∀ _, _))

/-- A connection that the last session has left open is closed before the next one is
accepted, and not read before that. -/
def resetThread (config : ReceiverConfig) (thread : ReceiverThread) : ReceiverThread :=
  { thread.reset config with
    connection := {}
    status := .running
    trace := [] }

def nextSession (setup : ReceiverSetup n) (receiver : RunningReceiver n) :
    Option (RunningReceiver n) :=
  if receiver.Over then
    let receiver := receiver.endCurGlobalSession
    some { receiver with
      group :=
        { receiver.group with
          threads := fun i =>
            (resetThread (setup.config i) (receiver.group.thread i), .listen) }
      sockets := fun i => { params := (receiver.sockets i).params } }
  else none

end RunningReceiver

inductive RunningEvent (n : Nat)
  | round (round : SessionRound n)
  | nextSession

namespace RunningReceiver

variable {n : Nat} (setup : ReceiverSetup n) (receiver : RunningReceiver n)

def next : RunningEvent n → Option (RunningReceiver n)
  | .round round => receiver.step setup round
  | .nextSession => receiver.nextSession setup

def Step (event : RunningEvent n) (after : RunningReceiver n) : Prop :=
  receiver.next setup event = some after

/-- Any sessions, each ended in any way, and a part of another one. -/
abbrev Runs : RunningReceiver n → RunningReceiver n → Prop :=
  Transition.Path (Step setup) (fun _ _ => True)

structure ThreadView where
  state : ReceiverState
  /-- the connections, commands and blocks of this session, and the checkpoints sent in it -/
  trace : List ReceiverEvent
  threadStats : TransferStats
  threadProtocolVersion : Nat
  socket : SocketParams
  /-- the checkpoints that are still to be sent to the thread's sender -/
  newCheckpoints : List Checkpoint

def view (i : Fin n) : ThreadView where
  state := receiver.group.state i
  trace := (receiver.group.thread i).trace
  threadStats := (receiver.group.thread i).threadStats
  threadProtocolVersion := (receiver.group.thread i).threadProtocolVersion
  socket := (receiver.sockets i).params
  newCheckpoints := receiver.group.published.drop (receiver.group.thread i).checkpointIndex

/-- Whatever happens in the session that starts here, it looks as it would in a receiver that
was created for it. -/
def Isolated : Prop :=
  ∀ rounds, (receiver.run setup rounds).map view =
    ((create setup fun i => (receiver.group.thread i).buf).run setup rounds).map view

/-- What the earlier sessions may have changed for good is as it was at first. -/
@[mk_iff]
structure Clean (setup : ReceiverSetup n) (receiver : RunningReceiver n) : Prop where
  version : ∀ i, (receiver.group.thread i).threadProtocolVersion = setup.protocolVersion
  socket : ∀ i, (receiver.sockets i).params = setup.socket
  footerType : ∀ i, (receiver.group.thread i).footerType = .noFooter
  waiting : ∀ i, (receiver.group.thread i).blocksWaitingVerification = []
  numBlocksSend : ∀ i, (receiver.group.thread i).threadStats.numBlocksSend = -1
  totalSenderBytes : ∀ i, (receiver.group.thread i).threadStats.totalSenderBytes = -1
  published : receiver.group.published = []

end RunningReceiver

/-- The states of a thread that has not read a command since it was started. -/
def ReceiverState.beforeCommands : List ReceiverState :=
  [.listen, .acceptFirstConnection, .acceptWithTimeout, .sendLocalCheckpoint, .readNextCmd,
    .finishWithError, .ended]

/-- READ_NEXT_CMD sets the offset, and nothing uses it before. -/
def SameThread (state : ReceiverState) (thread other : ReceiverThread) : Prop := other = thread ∨
    state ∈ ReceiverState.beforeCommands ∧ ∃ oldOffset, other = { thread with oldOffset }

inductive SameAnswer : Except WdtCheck ReceiverAnswer → Except WdtCheck ReceiverAnswer → Prop
  | error (check : WdtCheck) : SameAnswer (.error check) (.error check)
  | ok {thread other : ReceiverThread} {state : ReceiverState}
      (same : SameThread state thread other) : SameAnswer (.ok (thread, state)) (.ok (other, state))

variable {state : ReceiverState}

namespace SameAnswer

theorem refl (answer : Except WdtCheck ReceiverAnswer) : SameAnswer answer answer := by
  cases answer with
  | error check => exact .error check
  | ok answer => exact .ok (.inl rfl)

theorem early {thread : ReceiverThread}
    (member : state ∈ ReceiverState.beforeCommands) (oldOffset : Nat) :
    SameAnswer (.ok (thread, state)) (.ok ({ thread with oldOffset }, state)) :=
  .ok (.inr ⟨member, oldOffset, rfl⟩)

end SameAnswer

namespace ReceiverThread

variable (config : ReceiverConfig) (answers : ReceiverAnswers) {thread : ReceiverThread}

theorem acceptWithTimeout_same (oldOffset : Nat) :
    SameAnswer (thread.acceptWithTimeout config answers).settle
      ({ thread with oldOffset }.acceptWithTimeout config answers).settle := by
  have timeout : ({ thread with oldOffset }).acceptTimeout config = thread.acceptTimeout config :=
    rfl
  unfold acceptWithTimeout check
  rw [timeout]
  split
  · exact .early (by decide) oldOffset
  dsimp only
  split
  · split
    · exact .early (by decide) oldOffset
    · split <;> exact .early (by decide) oldOffset
  · exact .error _

theorem step_same {other : ReceiverThread} (same : SameThread state thread other) :
    SameAnswer (step config answers (thread, state)) (step config answers (other, state)) := by
  rcases same with rfl | ⟨member, oldOffset, rfl⟩
  · exact SameAnswer.refl _
  unfold step
  split
  · exact .early (by decide) oldOffset
  split
  · exact .early (by decide) oldOffset
  rename_i running _
  cases state with
  | listen =>
    dsimp only [stateFunction, listen]
    split <;> exact .early (by decide) oldOffset
  | acceptFirstConnection =>
    dsimp only [stateFunction, acceptFirstConnection]
    split <;> exact .early (by decide) oldOffset
  | acceptWithTimeout => exact acceptWithTimeout_same config answers oldOffset
  | sendLocalCheckpoint =>
    dsimp only [stateFunction, sendLocalCheckpoint]
    split <;> exact .early (by decide) oldOffset
  | readNextCmd => exact SameAnswer.refl _
  | finishWithError =>
    dsimp only [stateFunction, finishWithError, check]
    split
    · exact .early (by decide) oldOffset
    · exact .error _
  | ended => exact absurd rfl running
  | _ => exact absurd member (by decide)

end ReceiverThread

/-! ### Receivers whose sessions look alike -/

theorem SameThread.fields {thread other : ReceiverThread} (same : SameThread state thread other) :
    { other with oldOffset := thread.oldOffset } = thread := by
  rcases same with rfl | ⟨_, oldOffset, rfl⟩ <;> rfl

variable {answers : ReceiverAnswers}

namespace ReceiverGroup

variable {n : Nat}

theorem step_thread {config : Fin n → ReceiverConfig} {group after : ReceiverGroup n}
    {i : Fin n} (moves : group.step config (i, answers) = some after) :
    ReceiverThread.step (config i) (group.sees i answers) (group.thread i, group.state i) =
        .ok (after.thread i, after.state i) ∧
      ∀ j, j ≠ i → after.threads j = group.threads j := by
  unfold step at moves
  split at moves
  · cases moves
  split at moves
  · cases moves
  rename_i next moved
  cases moves
  unfold thread state
  dsimp only
  rw [update_self]
  exact ⟨moved, fun j other => update_of_ne other _ _⟩

structure Alike (group other : ReceiverGroup n) : Prop where
  state : ∀ i, other.state i = group.state i
  thread : ∀ i, SameThread (group.state i) (group.thread i) (other.thread i)
  published : other.published = group.published

variable {group other : ReceiverGroup n}

section

variable (alike : Alike group other) (i : Fin n)

include alike i

theorem Alike.field {α : Type} (field : ReceiverThread → α)
    (unaffected : ∀ thread oldOffset, field { thread with oldOffset } = field thread) :
    field (other.thread i) = field (group.thread i) := by
  have same := congrArg field (alike.thread i).fields
  rw [unaffected] at same
  exact same

theorem Alike.sees (answers : ReceiverAnswers) : other.sees i answers = group.sees i answers := by
  have status : ∀ j, (other.thread j).status = (group.thread j).status :=
    fun j => alike.field j ReceiverThread.status (fun _ _ => rfl)
  have index := alike.field i checkpointIndex (fun _ _ => rfl)
  unfold ReceiverGroup.sees
  rw [alike.published, index]
  simp only [status]

theorem Alike.lockedByOther : other.lockedByOther i = group.lockedByOther i := by
  unfold ReceiverGroup.lockedByOther
  simp only [alike.state]

theorem Alike.addCheckpoint (answers : ReceiverAnswers) :
    other.addCheckpoint i answers = group.addCheckpoint i answers := by
  have checkpoint := alike.field i ReceiverThread.checkpoint (fun _ _ => rfl)
  unfold ReceiverGroup.addCheckpoint
  rw [alike.state, alike.published, checkpoint]

theorem Alike.update {thread otherThread : ReceiverThread}
    (same : SameThread state thread otherThread) (published : List Checkpoint) :
    Alike { threads := Function.update group.threads i (thread, state), published }
      { threads := Function.update other.threads i (otherThread, state), published } := by
  refine ⟨fun j => ?_, fun j => ?_, rfl⟩ <;>
    simp only [ReceiverGroup.state, ReceiverGroup.thread, update_apply] <;> split
  · rfl
  · exact alike.state j
  · exact same
  · exact alike.thread j

end

theorem Alike.step (alike : Alike group other) (config : Fin n → ReceiverConfig)
    (label : Fin n × ReceiverAnswers) :
    Rel Alike (group.step config label) (other.step config label) := by
  unfold ReceiverGroup.step
  rw [alike.state, alike.lockedByOther, alike.sees, alike.addCheckpoint]
  split
  · exact .none
  have pair : other.threads label.1 = (other.thread label.1, group.state label.1) := by
    rw [← alike.state]
  have answer := ReceiverThread.step_same (config label.1) (group.sees label.1 label.2)
    (alike.thread label.1)
  rw [← pair] at answer
  generalize ReceiverThread.step (config label.1) (group.sees label.1 label.2)
    (group.threads label.1) = result at answer ⊢
  generalize ReceiverThread.step (config label.1) (group.sees label.1 label.2)
    (other.threads label.1) = otherResult at answer ⊢
  cases answer with
  | error check => exact .none
  | ok same => exact .some (alike.update label.1 same _)

end ReceiverGroup

namespace RunningReceiver

variable {n : Nat} {setup : ReceiverSetup n}

structure Alike (receiver other : RunningReceiver n) : Prop where
  group : receiver.group.Alike other.group
  sockets : other.sockets = receiver.sockets
  started : other.hasNewTransferStarted = receiver.hasNewTransferStarted
  allocated : other.allocated = receiver.allocated

variable {receiver other : RunningReceiver n} {buffers : Fin n → Memory Byte}

section

variable (alike : Alike receiver other)

include alike

theorem Alike.answersFor (round : SessionRound n) :
    other.answersFor round = receiver.answersFor round := by
  unfold RunningReceiver.answersFor
  rw [alike.allocated, alike.sockets]

theorem Alike.disablesIvChange (i : Fin n) (aborted : Bool) :
    (decide (receiver.group.state i = .processSettingsCmd) && !aborted &&
        (other.group.thread i).disablesIvChange) =
      (decide (receiver.group.state i = .processSettingsCmd) && !aborted &&
        (receiver.group.thread i).disablesIvChange) := by
  by_cases settings : receiver.group.state i = .processSettingsCmd
  · rcases alike.group.thread i with same | ⟨member, _⟩
    · rw [same]
    · rw [settings] at member
      exact absurd member (by decide)
  · rw [decide_eq_false settings, Bool.false_and, Bool.false_and, Bool.false_and]

theorem Alike.advance (round : SessionRound n)
    {group otherGroup : ReceiverGroup n} (after : group.Alike otherGroup) :
    Alike (receiver.advance round group) (other.advance round otherGroup) := by
  have before := alike.group.field round.thread ReceiverThread.trace (fun _ _ => rfl)
  have trace := after.field round.thread ReceiverThread.trace (fun _ _ => rfl)
  have connection := after.field round.thread ReceiverThread.connection (fun _ _ => rfl)
  have state := alike.group.state round.thread
  have disabled := alike.disablesIvChange round.thread (round.answers receiver.allocated).aborted
  constructor
  · exact after
  · unfold RunningReceiver.advance
    dsimp only
    rw [before, trace, connection, state, alike.sockets, alike.allocated, disabled]
  · unfold RunningReceiver.advance
    dsimp only
    rw [before, trace, state, alike.started]
  · unfold RunningReceiver.advance
    dsimp only
    rw [before, trace, alike.allocated]

theorem Alike.step (round : SessionRound n) :
    Rel Alike (receiver.step setup round) (other.step setup round) := by
  have possible : other.possible round = receiver.possible round := by
    unfold RunningReceiver.possible
    rw [alike.group.state, alike.started, alike.answersFor]
  have moved := alike.group.step setup.config (round.thread, receiver.answersFor round)
  unfold RunningReceiver.step
  rw [possible, alike.answersFor]
  split
  · generalize receiver.group.step setup.config _ = group, other.group.step setup.config _ =
      otherGroup at moved
    cases moved with
    | none => exact .none
    | some after => exact .some (alike.advance round after)
  · exact .none

theorem Alike.view : other.view = receiver.view := by
  funext i
  have trace := alike.group.field i ReceiverThread.trace (fun _ _ => rfl)
  have stats := alike.group.field i threadStats (fun _ _ => rfl)
  have version := alike.group.field i threadProtocolVersion (fun _ _ => rfl)
  have index := alike.group.field i checkpointIndex (fun _ _ => rfl)
  unfold RunningReceiver.view
  rw [alike.group.state, trace, stats, version, alike.sockets, alike.group.published, index]

theorem Alike.run (rounds : List (SessionRound n)) :
    (receiver.run setup rounds).map RunningReceiver.view =
      (other.run setup rounds).map RunningReceiver.view := by
  induction rounds generalizing receiver other with
  | nil =>
    change some receiver.view = some other.view
    rw [alike.view]
  | cons round rest ih =>
    have moved := @Alike.step n setup _ _ alike round
    unfold RunningReceiver.run
    generalize receiver.step setup round = first, other.step setup round = second at moved
    cases moved with
    | none => rfl
    | some after => exact ih after

end

/-! ### Before the first connection of a session -/

/-- The states of a thread in a session that no thread has a connection in. -/
def unconnectedStates : List ReceiverState :=
  [.listen, .acceptFirstConnection, .finishWithError, .ended]

theorem step_unconnected {config : ReceiverConfig} {thread : ReceiverThread} {next : ReceiverAnswer}
    (moved : ReceiverThread.step config answers (thread, state) = .ok next)
    (unconnected : state ∈ unconnectedStates)
    (possible : state = .acceptFirstConnection → answers.firstAccept ≠ .otherThreadStarted) :
    (next.2 ∈ unconnectedStates ∧ next.1.trace = thread.trace) ∨ (state = .acceptFirstConnection ∧
        next.1.trace = thread.trace ++ [.acceptedConnection]) := by
  have ended : ReceiverState.ended ∈ unconnectedStates := by decide
  have failed : ReceiverState.finishWithError ∈ unconnectedStates := by decide
  have accepting : ReceiverState.acceptFirstConnection ∈ unconnectedStates := by decide
  unfold ReceiverThread.step at moved
  split at moved
  · cases moved
    exact .inl ⟨ended, rfl⟩
  split at moved
  · cases moved
    exact .inl ⟨ended, rfl⟩
  rename_i running _
  cases state with
  | listen =>
    dsimp only [ReceiverThread.stateFunction, ReceiverThread.listen] at moved
    split at moved <;> cases moved
    · exact .inl ⟨accepting, rfl⟩
    · exact .inl ⟨failed, rfl⟩
  | acceptFirstConnection =>
    dsimp only [ReceiverThread.stateFunction, ReceiverThread.acceptFirstConnection] at moved
    split at moved <;> cases moved
    · rename_i other
      exact absurd other (possible rfl)
    · exact .inl ⟨failed, rfl⟩
    · exact .inl ⟨failed, rfl⟩
    · exact .inr ⟨rfl, rfl⟩
  | finishWithError =>
    dsimp only [ReceiverThread.stateFunction, ReceiverThread.finishWithError,
      check] at moved
    split at moved <;> cases moved
    exact .inl ⟨ended, rfl⟩
  | ended => exact absurd rfl running
  | _ => exact absurd unconnected (by decide)

variable {after : RunningReceiver n}

/-- As long as the session has not started, no thread has a connection and no file is asked
for. -/
def NotStartedIdle (receiver : RunningReceiver n) : Prop := receiver.hasNewTransferStarted = false →
    (∀ i, receiver.group.state i ∈ unconnectedStates) ∧ receiver.allocated = []

theorem NotStartedIdle.step {round : SessionRound n}
    (idle : receiver.NotStartedIdle) (moves : receiver.step setup round = some after) :
    after.NotStartedIdle := by
  intro notStarted
  obtain ⟨possible, taken⟩ := ite_none_right_eq_some.mp moves
  obtain ⟨group, moved, rfl⟩ := map_eq_some_iff.mp taken
  obtain ⟨before, notFirst⟩ := Bool.or_eq_false_iff.mp notStarted
  obtain ⟨states, nothing⟩ := idle before
  obtain ⟨threadMoved, others⟩ := step_thread moved
  have elsewhere : receiver.group.state round.thread = .acceptFirstConnection →
      (receiver.group.sees round.thread (receiver.answersFor round)).firstAccept ≠
        .otherThreadStarted := by
    intro accepting same
    unfold RunningReceiver.possible at possible
    rw [accepting, before] at possible
    change (receiver.answersFor round).firstAccept = .otherThreadStarted at same
    rw [same] at possible
    cases possible
  rcases step_unconnected threadMoved (states round.thread) elsewhere with
    ⟨unconnected, same⟩ | ⟨accepting, accepted⟩
  · constructor
    · intro i
      by_cases acts : i = round.thread
      · rw [acts]
        exact unconnected
      · change (group.threads i).2 ∈ unconnectedStates
        rw [others i acts]
        exact states i
    · change receiver.allocated ++ _ = []
      rw [same, nothing, drop_length]
      rfl
  · rw [decide_eq_true accepting, decide_eq_true accepted] at notFirst
    cases notFirst

theorem nextSession_cases (moves : receiver.nextSession setup = some after) :
    after.hasNewTransferStarted = false ∧ (∀ i, after.group.threads i =
        (resetThread (setup.config i) (receiver.group.thread i), .listen)) ∧
      (∀ i, after.sockets i = { params := (receiver.sockets i).params }) ∧
      (after.allocated = [] ∨
        receiver.hasNewTransferStarted = false ∧ after.allocated = receiver.allocated) := by
  obtain ⟨_, moved⟩ := ite_none_right_eq_some.mp moves
  cases moved
  unfold endCurGlobalSession
  cases started : receiver.hasNewTransferStarted with
  | true => exact ⟨rfl, fun _ => rfl, fun _ => rfl, .inl rfl⟩
  | false => exact ⟨started, fun _ => rfl, fun _ => rfl, .inr ⟨rfl, rfl⟩⟩

theorem published_of_nextSession (nothing : receiver.group.published = [])
    (moves : receiver.nextSession setup = some after) :
    after.group.published = [] := by
  obtain ⟨_, moved⟩ := ite_none_right_eq_some.mp moves
  cases moved
  unfold endCurGlobalSession
  split
  · rfl
  · exact nothing

theorem NotStartedIdle.nextSession (idle : receiver.NotStartedIdle)
    (moves : receiver.nextSession setup = some after) : after.allocated = [] := by
  obtain ⟨_, _, _, cleared | ⟨notStarted, same⟩⟩ := nextSession_cases moves
  · exact cleared
  · rw [same]
    exact (idle notStarted).2

theorem notStartedIdle_create (setup : ReceiverSetup n) (buffers : Fin n → Memory Byte) :
    (create setup buffers).NotStartedIdle := by
  intro _
  have listening : ReceiverState.listen ∈ unconnectedStates := by decide
  exact ⟨fun _ => listening, rfl⟩

theorem Runs.notStartedIdle
    (runs : Runs setup (create setup buffers) receiver) : receiver.NotStartedIdle := by
  apply runs.invariant NotStartedIdle (notStartedIdle_create setup buffers)
  intro before event after idle _ moves
  cases event with
  | round round => exact idle.step moves
  | nextSession =>
    have allocated := idle.nextSession moves
    obtain ⟨_, threads, _, _⟩ := nextSession_cases moves
    have listening : ReceiverState.listen ∈ unconnectedStates := by decide
    intro _
    refine ⟨fun i => ?_, allocated⟩
    unfold state
    rw [threads]
    exact listening

theorem resetThread_new {config : ReceiverConfig} {thread : ReceiverThread} {version : Nat}
    (sameVersion : thread.threadProtocolVersion = version)
    (footerType : thread.footerType = .noFooter) (waiting : thread.blocksWaitingVerification = [])
    (numBlocksSend : thread.threadStats.numBlocksSend = -1)
    (totalSenderBytes : thread.threadStats.totalSenderBytes = -1) :
    { resetThread config thread with oldOffset := 0 } =
      { buf := (resetThread config thread).buf
        threadProtocolVersion := version
        checkpoint := { port := config.port } } := by
  simp only [resetThread, reset, TransferStats.reset, sameVersion, footerType,
    waiting, numBlocksSend, totalSenderBytes]

theorem Clean.alike (clean : after.Clean setup)
    (runs : Runs setup (create setup buffers) receiver)
    (starts : receiver.nextSession setup = some after) :
    after.Alike (create setup fun i => (after.group.thread i).buf) := by
  obtain ⟨notStarted, threads, sockets, _⟩ := nextSession_cases starts
  constructor
  · constructor
    · intro i
      unfold ReceiverGroup.state
      rw [threads]
      rfl
    · intro i
      have reset : after.group.thread i =
          resetThread (setup.config i) (receiver.group.thread i) := congrArg Prod.fst (threads i)
      have state : after.group.state i = .listen := congrArg Prod.snd (threads i)
      have version := clean.version i
      have footerType := clean.footerType i
      have waiting := clean.waiting i
      have numBlocksSend := clean.numBlocksSend i
      have totalSenderBytes := clean.totalSenderBytes i
      rw [reset] at version footerType waiting numBlocksSend totalSenderBytes
      refine .inr ⟨by rw [state]; decide, 0, ?_⟩
      have new := @resetThread_new (setup.config i) (receiver.group.thread i) _ version footerType
        waiting numBlocksSend totalSenderBytes
      rw [← reset] at new
      exact new.symm
    · exact clean.published.symm
  · funext i
    have same := clean.socket i
    rw [sockets] at same ⊢
    rw [same]
    rfl
  · exact notStarted.symm
  · exact (runs.notStartedIdle.nextSession starts).symm

end RunningReceiver

theorem ReceiverThread.processFileCmd_empty {config : ReceiverConfig} {thread : ReceiverThread}
    {details : BlockDetails} {status : Byte} {tail : List Byte}
    (honest : details.Honest thread.threadProtocolVersion) (empty : details.dataSize = 0)
    (inCommand : InCommand config thread
      (headerBytes thread.threadProtocolVersion status details ++ tail))
    (small : (headerBytes thread.threadProtocolVersion status details).length ≤ kMinBufLength)
    (short : tail.length < kMinBufLength) :
    ∃ answer, (thread.processFileCmd config {}).settle = .ok answer ∧
      answer.1.reception.verified = thread.reception.verified ++
        if thread.footerType = .noFooter then [details] else [] := by
  have reached := processFileCmd_receives honest FileAnswers.default_succeed
    (fun data => absurd data (by omega)) inCommand small
    (fun _ long => absurd long (by rw [empty]; exact short.not_ge))
  have received : thread.reception.receiveFile details tail =
      if thread.footerType = .noFooter then
        ((thread.reception.accept details).verify details, some tail)
      else ((thread.reception.accept details).fail .socketReadError, none) := by
    unfold Reception.receiveFile Reception.receiveBlock
    rw [empty, if_neg (Nat.not_lt_zero _), take_zero, drop_zero, if_pos short, Reception.write_nil]
    rfl
  rw [received] at reached
  split at reached
  · rename_i noFooter
    obtain ⟨after, result, shown, _⟩ := reached
    refine ⟨_, result, ?_⟩
    rw [if_pos noFooter, shown]
    rfl
  · rename_i footer
    obtain ⟨after, result, shown⟩ := reached
    refine ⟨_, result, ?_⟩
    rw [if_neg footer, shown, append_nil]
    rfl

def emptyFile : BlockDetails := { fileName := [0x61] }

variable (version : Nat)

theorem emptyFile_header : (headerFields version emptyFile).length ≤ 7 := by
  unfold headerFields
  split <;> decide

theorem emptyFile_honest : emptyFile.Honest version where
  safe := by decide
  seqId := by decide
  dataSize := by decide
  offset := by decide
  fileSize := by decide
  prevSeqId := by decide
  named := nofun
  deleted := nofun
  unsentStatus := fun _ => rfl
  unsentPrevSeqId := fun _ => rfl
  fits := by
    have length := emptyFile_header version
    have longest : kMaxHeader = 4150 := rfl
    omega

/-! ### Sessions that show what is left -/

/-- A FILE command for it and the end of the connection, where a footer would stand. -/
def fileOnly : Connection :=
  { segments := [{ bytes := headerBytes version 0 emptyFile ++ List.replicate 252 0 }]
    endOfFile := true }

theorem Peer.connection_plain (params : SocketParams) :
    (Peer.connection { encrypts := false, delivers := fun _ => fileOnly version } params).Plain
    := by
  have untagged : params.tagged false = false := by
    unfold SocketParams.tagged
    split
    · exact Bool.false_and _
    · rfl
  constructor
  · exact untagged
  · intro segment member
    rw [mem_singleton.mp member]
  · intro segment member
    rw [mem_singleton.mp member]
    exact nofun
  · rfl

theorem ReceiverThread.markReceivedBlocksVerified_trace (thread : ReceiverThread) :
    thread.markReceivedBlocksVerified.trace =
      thread.trace ++ thread.blocksWaitingVerification.map .verifiedBlock := by
  have folded : ∀ (blocks : List BlockDetails) (thread : ReceiverThread),
      (blocks.foldl markBlockVerified thread).trace =
        thread.trace ++ blocks.map .verifiedBlock := by
    intro blocks
    induction blocks with
    | nil =>
      intro thread
      rw [foldl_nil, map_nil, append_nil]
    | cons block rest ih =>
      intro thread
      rw [foldl_cons, ih, map_cons, ← singleton_append, ← append_assoc]
      rfl
  exact folded _ thread

/-- The end of a connection that brings a verified tag and nothing else. -/
def tagOnly : Connection := { lastTagVerified := true, endOfFile := true }

namespace ReceiverThread

variable {config : ReceiverConfig} {thread : ReceiverThread}

theorem readAtLeast_tagOnly (segments : thread.connection.segments = [])
    (lastTag : thread.connection.lastTagVerified = true)
    (endOfFile : thread.connection.endOfFile = true) {start : Nat} {max len : Int}
    (room : (kMinBufLength : Int) ≤ max) (nothing : len = 0) :
    ∃ connection, thread.readAtLeast start max kMinBufLength len =
      .go (0, { thread.markReceivedBlocksVerified with connection }) := by
  have read : ∀ nbyte, thread.socketRead start nbyte =
      (0, { thread.markReceivedBlocksVerified with
        connection := { thread.connection with lastTagVerified := false } }) := by
    intro nbyte
    unfold socketRead
    rw [segments]
    rw [endOfFile, lastTag]
    rfl
  have loop : readAtLeastLoop start max.toNat kMinBufLength kMinBufLength thread 0 =
      (0, { thread.markReceivedBlocksVerified with
        connection := { thread.connection with lastTagVerified := false } }) := by
    change (if 0 < kMinBufLength then _ else _) = _
    rw [if_pos (by decide), Nat.add_zero, read]
    rfl
  refine ⟨{ thread.connection with lastTagVerified := false }, ?_⟩
  unfold readAtLeast check
  rw [nothing, decide_eq_true room]
  exact congrArg go loop

theorem readNextCmd_tagOnly (off : thread.off = 0) (numRead : thread.numRead = 0)
    (segments : thread.connection.segments = [])
    (lastTag : thread.connection.lastTagVerified = true)
    (endOfFile : thread.connection.endOfFile = true) :
    ∃ after, thread.readNextCmd config = .go (after, .acceptWithTimeout) ∧
      after.trace = thread.trace ++ thread.blocksWaitingVerification.map .verifiedBlock := by
  have bufSize := config.bufSize_ge
  have least : (kMinBufLength : Int) = 256 := rfl
  have room : (kMinBufLength : Int) ≤ config.bufSize - thread.off := by omega
  obtain ⟨connection, read⟩ := @readAtLeast_tagOnly { thread with oldOffset := thread.off }
    segments lastTag endOfFile thread.off _ _ room numRead
  unfold readNextCmd
  dsimp only at read ⊢
  rw [read, go_bind]
  exact ⟨_, rfl, markReceivedBlocksVerified_trace { thread with oldOffset := thread.off }⟩

theorem receives_fileOnly {version : Nat} {params : SocketParams}
    (sameVersion : thread.threadProtocolVersion = version)
    (connection : thread.connection =
      Peer.connection { encrypts := false, delivers := fun _ => fileOnly version } params)
    (off : thread.off = 0) (numRead : thread.numRead = 0) :
    ∃ inFile answer, thread.readNextCmd config = .go (inFile, .processFileCmd) ∧
      (inFile.processFileCmd config {}).settle = .ok answer ∧
      answer.1.reception.verified = thread.reception.verified ++
        if thread.footerType = .noFooter then [emptyFile] else [] := by
  have length := headerBytes_length version 0 emptyFile
  have fields := emptyFile_header version
  have least : kMinBufLength = 256 := rfl
  have bufSize := config.bufSize_ge
  have receiving : Receiving config thread
      (headerBytes version 0 emptyFile ++ replicate 252 0) := by
    refine ⟨⟨?_, ?_, ?_⟩, by rw [numRead]⟩
    · rw [connection]
      exact Peer.connection_plain version params
    · rw [off, numRead]
      exact Nat.zero_le _
    · rw [off, numRead, connection]
      change [] ++ ([_] : List (List Byte)).flatten = _
      rw [flatten_singleton, nil_append]
  have long : kMinBufLength ≤ (headerBytes version 0 emptyFile ++
      replicate 252 (0 : Byte)).length := by
    rw [length_append, length_replicate]
    omega
  obtain ⟨inFile, read, inCommand, reception, _⟩ := readNextCmd_dispatches receiving
    (by omega) long rfl
  have inFileVersion : inFile.threadProtocolVersion = version :=
    (congrArg Reception.version reception).trans sameVersion
  have inFileFooter : inFile.footerType = thread.footerType :=
    congrArg Reception.footerType reception
  obtain ⟨answer, received, verified⟩ := @processFileCmd_empty config inFile emptyFile 0
    (replicate 252 0) (emptyFile_honest _) rfl (by rw [inFileVersion]; exact inCommand)
    (by rw [inFileVersion]; omega) (by rw [length_replicate]; decide)
  rw [reception, inFileFooter] at verified
  exact ⟨inFile, answer, read, received, verified⟩

end ReceiverThread

namespace RunningReceiver

variable {n : Nat} {setup : ReceiverSetup n} {receiver : RunningReceiver n}

theorem run_append (receiver : RunningReceiver n) (first second : List (SessionRound n)) :
    receiver.run setup (first ++ second) =
      (receiver.run setup first).bind fun after => after.run setup second := by
  induction first generalizing receiver with
  | nil => rfl
  | cons round rest ih =>
    change ((receiver.step setup round).bind fun after => after.run setup (rest ++ second)) =
      ((receiver.step setup round).bind fun after => after.run setup rest).bind _
    cases receiver.step setup round with
    | none => rfl
    | some after => exact ih after

/-- A round of a thread that gets a connection from this peer when it asks for one. -/
def probe (i : Fin n) (peer : Peer) : SessionRound n :=
  { thread := i
    peer
    answers := fun _ => { firstAccept := .connected {} } }

theorem step_probe {i : Fin n} {peer : Peer} {next : ReceiverAnswer}
    (free : (receiver.group.state i).needsLock = false)
    (moved : ReceiverThread.step (setup.config i)
      (receiver.group.sees i (receiver.answersFor (probe i peer)))
      (receiver.group.thread i, receiver.group.state i) = .ok next) :
    ∃ after, receiver.step setup (probe i peer) = some after ∧
      after.group.thread i = next.1 ∧ after.group.state i = next.2 := by
  have possible : receiver.possible (probe i peer) = true := Bool.or_true _
  obtain ⟨group, moves, threads⟩ : ∃ group, group.threads i = next ∧
      receiver.group.step setup.config (i, receiver.answersFor (probe i peer)) = some group := by
    have stepped : ReceiverThread.step _ _ (receiver.group.threads i) = .ok next := moved
    simp only [ReceiverGroup.step, free, Bool.false_and, Bool.false_eq_true, if_false]
    rw [stepped]
    exact ⟨_, update_self .., rfl⟩
  refine ⟨receiver.advance (probe i peer) group, ?_, congrArg Prod.fst moves,
    congrArg Prod.snd moves⟩
  unfold step
  rw [possible, if_pos rfl]
  exact congrArg (Option.map _) threads

theorem run_snoc {middle after : RunningReceiver n} {rounds : List (SessionRound n)}
    {round : SessionRound n} (ran : receiver.run setup rounds = some middle)
    (moves : middle.step setup round = some after) :
    receiver.run setup (rounds ++ [round]) = some after := by
  rw [run_append, ran]
  change (middle.step setup round).bind _ = _
  rw [moves]
  rfl

theorem run_connects {i : Fin n} (listening : receiver.group.state i = .listen) (peer : Peer) :
    ∃ after params, receiver.run setup [probe i peer, probe i peer] = some after ∧
      after.group.thread i = ((receiver.group.thread i).reset (setup.config i)).connect
        (peer.connection params) ∧
      after.group.state i = .readNextCmd := by
  have listens : ReceiverThread.step (setup.config i)
      (receiver.group.sees i (receiver.answersFor (probe i peer)))
      (receiver.group.thread i, receiver.group.state i) =
        .ok (receiver.group.thread i, .acceptFirstConnection) := by
    rw [listening]
    rfl
  obtain ⟨opened, first, thread, state⟩ := step_probe (by rw [listening]; rfl) listens
  have accepts : ReceiverThread.step (setup.config i)
      (opened.group.sees i (opened.answersFor (probe i peer)))
      (opened.group.thread i, opened.group.state i) =
        .ok (((receiver.group.thread i).reset (setup.config i)).connect
          (peer.connection (opened.sockets i).params), .readNextCmd) := by
    rw [thread, state]
    rfl
  obtain ⟨connected, second, threadAfter, stateAfter⟩ := step_probe (by rw [state]; rfl) accepts
  have once : receiver.run setup [probe i peer] = some opened := by
    unfold run
    rw [first]
    rfl
  exact ⟨connected, (opened.sockets i).params, run_snoc once second, threadAfter, stateAfter⟩

theorem step_serves {i : Fin n} {peer : Peer} {state : ReceiverState} {next : ReceiverAnswer}
    (serving : state = .readNextCmd ∨ state = .processFileCmd)
    (atState : receiver.group.state i = state)
    (served : (stateFunction (setup.config i)
      (receiver.group.sees i (receiver.answersFor (probe i peer))) (receiver.group.thread i)
      state).settle = .ok next) :
    ∃ after, receiver.step setup (probe i peer) = some after ∧
      after.group.thread i = next.1 ∧ after.group.state i = next.2 := by
  apply step_probe
  · rw [atState]
    rcases serving with rfl | rfl <;> rfl
  · rw [atState, ← served]
    rcases serving with rfl | rfl <;> rfl

theorem run_tagOnly {i : Fin n} (listening : receiver.group.state i = .listen) :
    ∃ after, receiver.run setup (List.replicate 3 (probe i { delivers := fun _ => tagOnly })) =
        some after ∧
      (after.view i).trace = (receiver.group.thread i).trace ++ [.acceptedConnection] ++
        (receiver.group.thread i).blocksWaitingVerification.map .verifiedBlock := by
  obtain ⟨connected, params, ran, thread, state⟩ :=
    @run_connects n setup receiver i listening { delivers := fun _ => tagOnly }
  obtain ⟨final, read, trace⟩ := @readNextCmd_tagOnly (setup.config i)
    (connected.group.thread i) (by rw [thread]; rfl) (by rw [thread]; rfl) (by rw [thread]; rfl)
    (by rw [thread]; rfl) (by rw [thread]; rfl)
  obtain ⟨after, third, threadAfter, _⟩ := @step_serves n setup connected i
    { delivers := fun _ => tagOnly } _ _ (.inl rfl) state (congrArg settle read)
  refine ⟨after, run_snoc ran third, ?_⟩
  change (after.group.thread i).trace = _
  rw [threadAfter]
  rw [trace, thread]
  rfl

theorem run_fileOnly {i : Fin n} {version : Nat} (listening : receiver.group.state i = .listen)
    (sameVersion : (receiver.group.thread i).threadProtocolVersion = version)
    (fresh : (receiver.group.thread i).trace = []) :
    ∃ after, receiver.run setup (List.replicate 4
        (probe i { encrypts := false, delivers := fun _ => fileOnly version })) = some after ∧
      (after.view i).trace.flatMap ReceiverEvent.verified =
        if (receiver.group.thread i).footerType = .noFooter then [emptyFile] else [] := by
  obtain ⟨connected, params, ran, thread, state⟩ := @run_connects n setup receiver i listening
    { encrypts := false, delivers := fun _ => fileOnly version }
  obtain ⟨inFile, answer, read, received, verified⟩ := @receives_fileOnly
    (setup.config i) (connected.group.thread i) version params (by rw [thread]; exact sameVersion)
    (by rw [thread]; rfl) (by rw [thread]; rfl) (by rw [thread]; rfl)
  obtain ⟨served, third, threadServed, stateServed⟩ := @step_serves n setup connected i
    { encrypts := false, delivers := fun _ => fileOnly version } _ _ (.inl rfl) state
    (congrArg settle read)
  have receives : (stateFunction (setup.config i)
      (served.group.sees i (served.answersFor
        (probe i { encrypts := false, delivers := fun _ => fileOnly version })))
      (served.group.thread i) .processFileCmd).settle = .ok answer := by
    rw [threadServed]
    exact received
  obtain ⟨after, fourth, threadAfter, _⟩ := step_serves (.inr rfl) stateServed receives
  refine ⟨after, run_snoc (run_snoc ran third) fourth, ?_⟩
  change (after.group.thread i).trace.flatMap _ = _
  rw [threadAfter]
  change answer.1.reception.verified = _
  rw [verified, thread]
  change ((receiver.group.thread i).trace ++ [ReceiverEvent.acceptedConnection]).flatMap _ ++ _ =
    _
  rw [fresh]
  rfl

theorem Isolated.view_eq (isolated : receiver.Isolated setup) (rounds : List (SessionRound n))
    {after fresh : RunningReceiver n} (ran : receiver.run setup rounds = some after)
    (freshRan : (create setup fun i => (receiver.group.thread i).buf).run setup rounds =
      some fresh) (i : Fin n) : after.view i = fresh.view i := by
  have same := isolated rounds
  rw [ran, freshRan] at same
  exact congrFun (some.inj same) i

theorem Runs.published_of_no_threads {setup : ReceiverSetup 0} {buffers : Fin 0 → Memory Byte}
    {receiver : RunningReceiver 0} (runs : Runs setup (create setup buffers) receiver) :
    receiver.group.published = [] := by
  apply runs.invariant (fun receiver => receiver.group.published = []) rfl
  intro before event after nothing _ moves
  cases event with
  | round round => exact round.thread.elim0
  | nextSession => exact published_of_nextSession nothing moves

theorem Isolated.clean {buffers : Fin n → Memory Byte} {before : RunningReceiver n}
    (isolated : receiver.Isolated setup) (runs : Runs setup (create setup buffers) before)
    (starts : before.nextSession setup = some receiver) : receiver.Clean setup := by
  obtain ⟨_, threads, _, _⟩ := nextSession_cases starts
  have reset : ∀ i, receiver.group.thread i =
      resetThread (setup.config i) (before.group.thread i) :=
    fun i => congrArg Prod.fst (threads i)
  have listening : ∀ i, receiver.group.state i = .listen := fun i => congrArg Prod.snd (threads i)
  have atStart : ∀ i, receiver.view i =
      (create setup fun i => (receiver.group.thread i).buf).view i :=
    isolated.view_eq [] rfl rfl
  have version : ∀ i, (receiver.group.thread i).threadProtocolVersion = setup.protocolVersion :=
    fun i => congrArg ThreadView.threadProtocolVersion (atStart i)
  have stats : ∀ i, (receiver.group.thread i).threadStats = {} :=
    fun i => congrArg ThreadView.threadStats (atStart i)
  constructor
  · exact version
  · exact fun i => congrArg ThreadView.socket (atStart i)
  · intro i
    have empty : (receiver.group.thread i).trace = [] := by
      rw [reset]
      rfl
    obtain ⟨after, ran, trace⟩ := @run_fileOnly n setup receiver i _ (listening i) (version i) empty
    obtain ⟨fresh, freshRan, freshTrace⟩ := @run_fileOnly n setup
      (create setup fun i => (receiver.group.thread i).buf) i setup.protocolVersion rfl rfl rfl
    rw [isolated.view_eq _ ran freshRan i, freshTrace] at trace
    by_contra footer
    rw [if_neg footer] at trace
    cases trace
  · intro i
    obtain ⟨after, ran, trace⟩ := @run_tagOnly n setup receiver i (listening i)
    obtain ⟨fresh, freshRan, freshTrace⟩ := @run_tagOnly n setup
      (create setup fun i => (receiver.group.thread i).buf) i rfl
    have empty : (receiver.group.thread i).trace = [] := by
      rw [reset]
      rfl
    rw [isolated.view_eq _ ran freshRan i, freshTrace, empty] at trace
    exact map_eq_nil_iff.mp (append_cancel_left trace).symm
  · intro i
    rw [stats]
  · intro i
    rw [stats]
  · cases n with
    | zero => exact published_of_nextSession runs.published_of_no_threads starts
    | succ n =>
      have index : (receiver.group.thread 0).checkpointIndex = 0 := by
        rw [reset]
        rfl
      have owed : receiver.group.published.drop (receiver.group.thread 0).checkpointIndex = [] :=
        congrArg ThreadView.newCheckpoints (atStart 0)
      rw [index, drop_zero] at owed
      exact owed

/-- The session that starts behind any earlier sessions is isolated from them exactly when
they have left nothing. -/
theorem isolated_iff {buffers : Fin n → Memory Byte} {before : RunningReceiver n}
    (runs : Runs setup (create setup buffers) before)
    (starts : before.nextSession setup = some receiver) :
    receiver.Isolated setup ↔ receiver.Clean setup :=
  ⟨fun isolated => isolated.clean runs starts, fun clean => (clean.alike runs starts).run⟩

/-! ### Sessions that leave nothing, and sessions that do -/

instance (setup : ReceiverSetup n) (receiver : RunningReceiver n) :
    Decidable (receiver.Clean setup) :=
  decidable_of_iff' _ (clean_iff setup receiver)

def sampleSetup : ReceiverSetup 1 where
  config := fun _ => sampleConfig
  protocolVersion := 32
  socket :=
    { encryptionParams := some { type := .aes128Gcm, secret := ⟨List.replicate 16 0, rfl⟩ }
      ivChangeInterval := 0 }

def sampleReceiver : RunningReceiver 1 := create sampleSetup fun _ _ => 0

def sampleSession (i : Fin n) (encrypts : Bool) (rounds : Nat) (segments : List Segment) :
    List (RunningEvent n) :=
  List.replicate rounds (.round (probe i { encrypts, delivers := fun _ => { segments } }))

def sampleHistory (events : List (RunningEvent 1)) : Option (RunningReceiver 1) :=
  Transition.runsUnder (next sampleSetup) (fun _ _ => true) sampleReceiver events

variable {events : List (RunningEvent 1)}

theorem runs_of_sampleHistory {test : RunningReceiver 1 → Bool}
    (computed : ((sampleHistory events).bind (nextSession sampleSetup)).map test = some true) :
    ∃ before receiver, Runs sampleSetup sampleReceiver before ∧
      before.nextSession sampleSetup = some receiver ∧ test receiver = true := by
  obtain ⟨receiver, found, passes⟩ := map_eq_some_iff.mp computed
  obtain ⟨before, ran, starts⟩ := bind_eq_some_iff.mp found
  exact ⟨before, receiver, Transition.path_of_run ran, starts, passes⟩

/-- A session that receives a block, verifies it by a tag and ends with an error. -/
theorem isolated_behind_verified_block : ∃ before receiver, Runs sampleSetup sampleReceiver before ∧
      before.nextSession sampleSetup = some receiver ∧ receiver.Isolated sampleSetup := by
  have computed : ((sampleHistory (sampleSession 0 true 8
      [{ bytes := sampleFile ++ replicate 244 0 },
        { tagVerified := true, bytes := replicate 12 0 }])).bind (nextSession sampleSetup)).map
        (fun receiver => decide (receiver.Clean sampleSetup)) = some true := by
    decide +kernel
  obtain ⟨before, receiver, runs, starts, clean⟩ := runs_of_sampleHistory computed
  exact ⟨before, receiver, runs, starts, (isolated_iff runs starts).mpr (of_decide_eq_true clean)⟩

/-- An old sender that does not encrypt lowers the version and turns the encryption off for
the next session. A block that was not verified when its session ended waits for the first tag
of the next one. -/
theorem sessions_not_isolated : (∃ before receiver, Runs sampleSetup sampleReceiver before ∧
      before.nextSession sampleSetup = some receiver ∧
      (receiver.view 0).threadProtocolVersion = 20 ∧
      (receiver.view 0).socket.encryptionParams = none ∧ ¬ receiver.Isolated sampleSetup) ∧
    ∃ before receiver block, Runs sampleSetup sampleReceiver before ∧
      before.nextSession sampleSetup = some receiver ∧
      (receiver.run sampleSetup (List.replicate 3 (probe 0 { delivers := fun _ => tagOnly }))).map
        (fun after => (after.view 0).trace) = some [.acceptedConnection, .verifiedBlock block] ∧
      ¬ receiver.Isolated sampleSetup := by
  constructor
  · have computed : ((sampleHistory (sampleSession 0 false 8
        [{ bytes := [settingsCmd, 20] ++ replicate 254 0 }])).bind
          (nextSession sampleSetup)).map
        (fun receiver => decide ((receiver.view 0).threadProtocolVersion = 20 ∧
          (receiver.view 0).socket.encryptionParams = none)) = some true := by
      decide +kernel
    obtain ⟨before, receiver, runs, starts, passes⟩ := runs_of_sampleHistory computed
    obtain ⟨version, encryption⟩ := of_decide_eq_true passes
    refine ⟨before, receiver, runs, starts, version, encryption, fun isolated => ?_⟩
    have same := (isolated.clean runs starts).version 0
    change (receiver.view 0).threadProtocolVersion = 32 at same
    rw [version] at same
    cases same
  · have computed : ((sampleHistory (sampleSession 0 true 8
        [{ bytes := sampleFile ++ replicate 256 0 }])).bind (nextSession sampleSetup)).map
        (fun receiver => decide ((receiver.group.thread 0).blocksWaitingVerification =
            [{ fileName := [0x61], seqId := 1, fileSize := 1, dataSize := 1 }] ∧
          (receiver.group.state 0, (receiver.group.thread 0).trace) = (.listen, []))) =
      some true := by
      decide +kernel
    obtain ⟨before, receiver, runs, starts, passes⟩ := runs_of_sampleHistory computed
    obtain ⟨waiting, start⟩ := of_decide_eq_true passes
    obtain ⟨state, trace⟩ := Prod.mk.inj start
    obtain ⟨after, ran, shown⟩ := @run_tagOnly 1 sampleSetup receiver 0 state
    rw [waiting, trace] at shown
    refine ⟨before, receiver, { fileName := [0x61], seqId := 1, fileSize := 1, dataSize := 1 },
      runs, starts, ?_, fun isolated => ?_⟩
    · rw [ran]
      exact congrArg some shown
    · have nothing := (isolated.clean runs starts).waiting 0
      rw [waiting] at nothing
      cases nothing

end RunningReceiver

end Wdt
