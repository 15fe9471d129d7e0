/-
The receiver threads of one transfer together. They share the list of published
checkpoints, the map of thread states and the lock of the condition on which they
wait for each other; a thread marks its own state outside that lock as well.
-/

import Wdt.ReceiverSkeleton
import Mathlib.Data.Fintype.Defs
import Mathlib.Data.Fin.Basic
import Mathlib.Data.List.Infix

namespace Wdt

open ReceiverEvent ReceiverThread Transition

/-- An event that shows that the peer has read what was sent to it before. -/
def ReceiverEvent.Confirms : ReceiverEvent → Prop
  | .acceptedFileCmd _ => True
  | .acceptedDoneCmd => True
  | _ => False

/-- A message of a thread that has these checkpoints to send; it holds them all, and their
length, unless they are too long for the buffer or for the two bytes of the length. -/
def SendsCheckpoints (bufSize : Nat) (sent : List Checkpoint) (event : ReceiverEvent) : Prop :=
  ∃ version message, event = .sentGlobalCheckpoints version message ∧
    ∀ encoded, encodeCheckpoints version (bufSize - 3) sent [] = some encoded →
      encoded.length < 2 ^ 15 →
      message = errCmd :: leBytes 2 encoded.length ++ encoded

theorem sendsCheckpoints (bufSize version : Nat) (sent : List Checkpoint) :
    SendsCheckpoints bufSize sent
      (.sentGlobalCheckpoints version (globalCheckpointMessage bufSize version sent)) := by
  refine ⟨_, _, rfl, fun encoded whole _ => ?_⟩
  unfold globalCheckpointMessage encodedCheckpoints
  rw [whole]
  rfl

/-- A run of published checkpoints, the one at `index` among them, was sent and then confirmed
on the same connection. -/
def ConfirmedCheckpoint (bufSize : Nat) (published : List Checkpoint)
    (trace : List ReceiverEvent) (index : Nat) : Prop :=
  ∃ before sending sent middle confirmation after start,
    trace = before ++ sending :: (middle ++ confirmation :: after) ∧
      SendsCheckpoints bufSize sent sending ∧
      confirmation.Confirms ∧ ReceiverEvent.acceptedConnection ∉ middle ∧
      sent <+: published.drop start ∧ start ≤ index ∧ index < start + sent.length

/-- The checkpoints between the two indices were sent on the current connection. -/
def PendingSent (bufSize : Nat) (published : List Checkpoint) (ties : ReceiverTies)
    (trace : List ReceiverEvent) : Prop :=
  ∃ before sending sent middle, trace = before ++ sending :: middle ∧
      SendsCheckpoints bufSize sent sending ∧ ReceiverEvent.acceptedConnection ∉ middle ∧
      sent <+: published.drop ties.checkpointIndex ∧
      ties.pendingCheckpointIndex = ties.checkpointIndex + sent.length

/-- The states between an accepted DONE and the next command, where nothing is pending. -/
def settledStates : List ReceiverState :=
  [.waitForFinish, .checkForFinish, .recheckForFinish, .decidedToFinish, .sendWait,
    .sendGlobalCheckpoints]

structure Delivery (bufSize : Nat) (published : List Checkpoint) (state : ReceiverState)
    (ties : ReceiverTies) (trace : List ReceiverEvent) : Prop where
  index_le : ties.checkpointIndex ≤ ties.pendingCheckpointIndex
  pending_le : ties.pendingCheckpointIndex ≤ published.length
  confirmed : ∀ index < ties.checkpointIndex, ConfirmedCheckpoint bufSize published trace index
  sent : ties.checkpointIndex < ties.pendingCheckpointIndex →
    PendingSent bufSize published ties trace
  settled : state ∈ settledStates → ties.pendingCheckpointIndex = ties.checkpointIndex
  fresh : state = .sendGlobalCheckpoints →
    ties.newCheckpoints <+: published.drop ties.checkpointIndex
  registered : ties.status ≠ .init

variable {confirmation : ReceiverEvent} {early late : List ReceiverEvent}

section Trace

variable {published more : List Checkpoint} {trace events : List ReceiverEvent}
  {index bufSize : Nat}

theorem ConfirmedCheckpoint.publish
    (confirmed : ConfirmedCheckpoint bufSize published trace index) :
    ConfirmedCheckpoint bufSize (published ++ more) trace index := by
  obtain ⟨before, sending, sent, middle, confirmation, after, start, shape, sends, confirms,
    sameConnection, found, lower, upper⟩ := confirmed
  exact ⟨before, sending, sent, middle, confirmation, after, start, shape, sends, confirms,
    sameConnection, found.trans ((List.prefix_append published more).drop start), lower, upper⟩

theorem ConfirmedCheckpoint.append (confirmed : ConfirmedCheckpoint bufSize published trace index) :
    ConfirmedCheckpoint bufSize published (trace ++ events) index := by
  obtain ⟨before, sending, sent, middle, confirmation, after, start, shape, rest⟩ := confirmed
  refine ⟨before, sending, sent, middle, confirmation, after ++ events, start, ?_, rest⟩
  rw [shape]
  simp

theorem PendingSent.confirm {ties : ReceiverTies}
    (pending : PendingSent bufSize published ties trace) (confirms : confirmation.Confirms)
    (sameConnection : acceptedConnection ∉ early) (lower : ties.checkpointIndex ≤ index)
    (upper : index < ties.pendingCheckpointIndex) :
    ConfirmedCheckpoint bufSize published (trace ++ (early ++ confirmation :: late)) index := by
  obtain ⟨before, sending, sent, middle, shape, sends, noConnection, found, counted⟩ := pending
  refine ⟨before, sending, sent, middle ++ early, confirmation, late, ties.checkpointIndex, ?_,
    sends, confirms, ?_, found, lower, by omega⟩
  · rw [shape]
    simp
  · simp [noConnection, sameConnection]

theorem PendingSent.append {ties : ReceiverTies}
    (pending : PendingSent bufSize published ties trace)
    (sameConnection : acceptedConnection ∉ events) :
    PendingSent bufSize published ties (trace ++ events) := by
  obtain ⟨before, sending, sent, middle, shape, sends, noConnection, rest⟩ := pending
  refine ⟨before, sending, sent, middle ++ events, ?_, sends, ?_, rest⟩
  · rw [shape]
    simp
  · simp [noConnection, sameConnection]

theorem Delivery.publish {state : ReceiverState} {ties : ReceiverTies}
    (delivery : Delivery bufSize published state ties trace) :
    Delivery bufSize (published ++ more) state ties trace where
  __ := delivery
  pending_le := by
    have bound := delivery.pending_le
    rw [List.length_append]
    omega
  confirmed := fun index below => (delivery.confirmed index below).publish
  sent := fun pending => by
    obtain ⟨before, sending, sent, middle, shape, sends, noConnection, found, counted⟩ :=
      delivery.sent pending
    exact ⟨before, sending, sent, middle, shape, sends, noConnection,
      found.trans ((List.prefix_append published more).drop _), counted⟩
  fresh := fun sending =>
    (delivery.fresh sending).trans ((List.prefix_append published more).drop _)

end Trace

/-! ### One step of a thread -/

section Steps

variable {config : ReceiverConfig} {answers : ReceiverAnswers} {state next : ReceiverState}
  {ties after : ReceiverTies} {published : List Checkpoint} {trace events : List ReceiverEvent}
  {bufSize : Nat}

section

variable (delivery : Delivery bufSize published state ties trace)

include delivery

theorem Delivery.keep (sameIndex : after.checkpointIndex = ties.checkpointIndex)
    (samePending : after.pendingCheckpointIndex = ties.pendingCheckpointIndex)
    (sameConnection : acceptedConnection ∉ events)
    (settled : next ∈ settledStates → state ∈ settledStates)
    (fresh : next = .sendGlobalCheckpoints →
      after.newCheckpoints <+: published.drop ties.checkpointIndex)
    (registered : after.status ≠ .init) :
    Delivery bufSize published next after (trace ++ events) where
  index_le := by
    rw [sameIndex, samePending]
    exact delivery.index_le
  pending_le := by
    rw [samePending]
    exact delivery.pending_le
  confirmed := fun index below => (delivery.confirmed index (sameIndex ▸ below)).append
  sent := fun pending => by
    rw [sameIndex, samePending] at pending
    obtain ⟨before, sending, sent, middle, shape, sends, noConnection, found, counted⟩ :=
      (delivery.sent pending).append sameConnection
    exact ⟨before, sending, sent, middle, shape, sends, noConnection, sameIndex ▸ found,
      by rw [samePending, counted, sameIndex]⟩
  settled := fun member => by
    rw [sameIndex, samePending]
    exact delivery.settled (settled member)
  fresh := fun sending => by
    rw [sameIndex]
    exact fresh sending
  registered := registered

theorem Delivery.drop_pending (lowered : after.checkpointIndex ≤ ties.checkpointIndex)
    (nothing : after.pendingCheckpointIndex = after.checkpointIndex)
    (elsewhere : next ≠ .sendGlobalCheckpoints) (registered : after.status ≠ .init) :
    Delivery bufSize published next after (trace ++ events) where
  index_le := nothing.ge
  pending_le := by
    have index := delivery.index_le
    have pending := delivery.pending_le
    omega
  confirmed := fun index below => (delivery.confirmed index (below.trans_le lowered)).append
  sent := fun pending => by omega
  settled := fun _ => nothing
  fresh := fun sending => (elsewhere sending).elim
  registered := registered

theorem Delivery.confirm
    (confirms : confirmation.Confirms) (sameConnection : acceptedConnection ∉ early)
    (confirmedIndex : after.checkpointIndex = ties.pendingCheckpointIndex)
    (samePending : after.pendingCheckpointIndex = ties.pendingCheckpointIndex)
    (elsewhere : next ≠ .sendGlobalCheckpoints) (registered : after.status ≠ .init) :
    Delivery bufSize published next after (trace ++ (early ++ confirmation :: late)) where
  index_le := by omega
  pending_le := by
    rw [samePending]
    exact delivery.pending_le
  confirmed := fun index below => by
    rcases Nat.lt_or_ge index ties.checkpointIndex with old | new
    · exact (delivery.confirmed index old).append
    · have upper : index < ties.pendingCheckpointIndex := confirmedIndex ▸ below
      exact (delivery.sent (by omega)).confirm confirms sameConnection new upper
  sent := fun pending => by omega
  settled := fun _ => by omega
  fresh := fun sending => (elsewhere sending).elim
  registered := registered

end

theorem Delivery.send (delivery : Delivery bufSize published .sendGlobalCheckpoints ties trace)
    (version : Nat) :
    Delivery bufSize published .readNextCmd
      { ties with
        pendingCheckpointIndex := ties.checkpointIndex + ties.newCheckpoints.length }
      (trace ++ [.sentGlobalCheckpoints version
        (globalCheckpointMessage bufSize version ties.newCheckpoints)]) where
  index_le := Nat.le_add_right _ _
  pending_le := by
    have index := delivery.index_le
    have pending := delivery.pending_le
    have found := (delivery.fresh rfl).length_le
    rw [List.length_drop] at found
    dsimp only
    omega
  confirmed := fun index below => (delivery.confirmed index below).append
  sent := fun _ => ⟨trace, _, ties.newCheckpoints, [], rfl, sendsCheckpoints _ _ _, by simp,
    delivery.fresh rfl, rfl⟩
  settled := fun member => by simp [settledStates] at member
  fresh := fun sending => by cases sending
  registered := delivery.registered

private theorem settled_of_quiet (successor : next ∈ quietSuccessors state)
    (member : next ∈ settledStates) : state ∈ settledStates := by
  revert successor member
  cases state <;> cases next <;> decide

private theorem not_settled_of_failure (failure : next ∈ failureStates) :
    next ∉ settledStates ∧ next ≠ .sendGlobalCheckpoints := by
  revert failure
  cases next <;> decide

theorem SkeletonStep.delivery (moves : SkeletonStep config answers state ties events next after)
    (delivery : Delivery config.bufSize published state ties trace)
    (sees : answers.published = published.drop ties.checkpointIndex) :
    Delivery config.bufSize published next after (trace ++ events) := by
  have registered := delivery.registered
  cases moves with
  | quiet successor ofTags =>
    refine delivery.keep rfl rfl (ofTags_sameConnection ofTags) (settled_of_quiet successor)
      ?_ registered
    intro sending
    rw [sending] at successor
    revert successor
    cases state <;> simp [quietSuccessors]
  | fails fallible isError failure ofBlocks _ =>
    obtain ⟨unsettled, elsewhere⟩ := not_settled_of_failure failure
    exact delivery.keep rfl rfl (ofBlocks_sameConnection ofBlocks)
      (fun member => (unsettled member).elim) (fun sending => (elsewhere sending).elim) registered
  | aborts | nonRetryable _ | acceptFails _ | sentLocalCheckpoint =>
    exact delivery.keep rfl rfl (by simp) (by simp [settledStates]) (by simp) registered
  | firstConnection | otherThreadStarted | noFirstConnection _ =>
    exact delivery.drop_pending (Nat.zero_le _) rfl (by simp) registered
  | accepted successor =>
    refine delivery.drop_pending (le_refl _) rfl ?_ registered
    rcases successor with rfl | rfl <;> simp
  | settings _ successor =>
    refine delivery.keep rfl rfl (by simp) ?_ ?_ registered
    · rcases successor with rfl | rfl <;> simp [settledStates]
    · rcases successor with rfl | rfl <;> simp
  | givenUpFile _ failure earlyEvents _ =>
    exact delivery.confirm trivial (ofBlocks_sameConnection earlyEvents) rfl rfl
      (not_settled_of_failure failure).2 registered
  | receivedFile earlyEvents _ =>
    exact delivery.confirm trivial (ofBlocks_sameConnection earlyEvents) rfl rfl
      (by simp) registered
  | done =>
    have confirms : acceptedDoneCmd.Confirms := trivial
    have noConnection : acceptedConnection ∉ ([] : List ReceiverEvent) := by simp
    exact (delivery.confirm confirms noConnection rfl rfl (by simp) registered :
      Delivery config.bufSize published .waitForFinish ties.confirmed
        (trace ++ ([] ++ [.acceptedDoneCmd])))
  | sentGlobalCheckpoints => exact delivery.send _
  | waits | finishes | finishedWithError | deRegistered =>
    exact delivery.keep rfl rfl (by simp) (by simp [settledStates]) (by simp) (by simp)
  | newCheckpoints checks _ =>
    refine delivery.keep rfl rfl (by simp) ?_ (fun _ => sees ▸ List.prefix_refl _) (by simp)
    rcases checks with rfl | rfl <;> simp [settledStates]
  | decides checks _ _ =>
    refine delivery.keep rfl rfl (by simp) ?_ (by simp) registered
    rcases checks with rfl | rfl <;> simp [settledStates]
  | ends ofTags =>
    exact delivery.keep rfl rfl (ofTags_sameConnection ofTags) (by simp [settledStates])
      (by simp) registered
  | waitFails _ =>
    exact delivery.keep rfl rfl (by simp) (by simp [settledStates]) (by simp)
      (by simp [ReceiverTies.failed])

theorem SkeletonStep.decided
    (moves : SkeletonStep config answers state ties events .decidedToFinish after) :
    (state = .checkForFinish ∨ state = .recheckForFinish) ∧ answers.published = [] ∧
      answers.existActiveThreads = false ∧ after = ties := by
  cases moves with
  | quiet successor _ =>
    revert successor
    cases state <;> simp [quietSuccessors]
  | fails _ _ failure _ _ | givenUpFile _ failure _ _ =>
    simp [failureStates] at failure
  | accepted successor | settings _ successor => simp at successor
  | decides checks none alone => exact ⟨checks, none, alone, rfl⟩

end Steps

/-! ### The threads of one transfer -/

structure ReceiverGroup (n : Nat) where
  threads : Fin n → ReceiverAnswer
  /-- `checkpoints_` of the receiver -/
  published : List Checkpoint := []

/-- The states whose function takes the lock of the condition. -/
def ReceiverState.needsLock : ReceiverState → Bool
  | .checkForFinish => true
  | .recheckForFinish => true
  | .finishWithError => true
  | _ => false

namespace ReceiverGroup

variable {n : Nat}

abbrev thread (group : ReceiverGroup n) (i : Fin n) : ReceiverThread := (group.threads i).1

abbrev state (group : ReceiverGroup n) (i : Fin n) : ReceiverState := (group.threads i).2

/-- Some other thread holds the lock: it has seen that nobody is running and is about to mark
itself. -/
def lockedByOther (group : ReceiverGroup n) (i : Fin n) : Bool :=
  decide (∃ j, j ≠ i ∧ group.state j = .decidedToFinish)

def sees (group : ReceiverGroup n) (i : Fin n) (answers : ReceiverAnswers) : ReceiverAnswers :=
  { answers with
    published := group.published.drop (group.thread i).checkpointIndex
    existActiveThreads := decide (∃ j, j ≠ i ∧ (group.thread j).status = .running) }

def addCheckpoint (group : ReceiverGroup n) (i : Fin n) (answers : ReceiverAnswers) :
    List Checkpoint :=
  if group.state i = .finishWithError ∧ answers.aborted = false then
    group.published ++ [(group.thread i).checkpoint]
  else group.published

/-- One thread takes a round of its loop; a failed check ends all of them. -/
def step (config : Fin n → ReceiverConfig) (group : ReceiverGroup n)
    (label : Fin n × ReceiverAnswers) : Option (ReceiverGroup n) :=
  if (group.state label.1).needsLock && group.lockedByOther label.1 then none
  else
    match ReceiverThread.step (config label.1) (group.sees label.1 label.2)
        (group.threads label.1) with
    | .error _ => none
    | .ok next =>
      some
        { threads := Function.update group.threads label.1 next
          published := group.addCheckpoint label.1 label.2 }

def Step (config : Fin n → ReceiverConfig) (group : ReceiverGroup n)
    (label : Fin n × ReceiverAnswers) (after : ReceiverGroup n) : Prop :=
  group.step config label = some after

structure Initial (group : ReceiverGroup n) : Prop where
  listening : ∀ i, group.state i = .listen
  registered : ∀ i, (group.thread i).status = .running
  index : ∀ i, (group.thread i).checkpointIndex = 0
  pending : ∀ i, (group.thread i).pendingCheckpointIndex = 0
  trace : ∀ i, (group.thread i).trace = []
  published : group.published = []

variable {config : Fin n → ReceiverConfig} {group after : ReceiverGroup n}
  {label : Fin n × ReceiverAnswers}

theorem step_cases (moves : Step config group label after) :
    ∃ next events, after.threads = Function.update group.threads label.1 next ∧
      after.published = group.addCheckpoint label.1 label.2 ∧
      next.1.trace = (group.thread label.1).trace ++ events ∧
      SkeletonStep (config label.1) (group.sees label.1 label.2) (group.state label.1)
        (group.thread label.1).ties events next.2 next.1.ties ∧
      ((group.state label.1).needsLock = true →
        ∀ j, j ≠ label.1 → group.state j ≠ .decidedToFinish) := by
  unfold Step step at moves
  split at moves
  · cases moves
  rename_i free
  split at moves
  · cases moves
  rename_i next moved
  cases moves
  obtain ⟨events, extended, simulated⟩ := step_simulates moved
  refine ⟨next, events, rfl, rfl, extended, simulated, fun needs j other decided => free ?_⟩
  rw [needs, Bool.true_and]
  exact decide_eq_true ⟨j, other, decided⟩

theorem addCheckpoint_extends (group : ReceiverGroup n) (i : Fin n) (answers : ReceiverAnswers) :
    ∃ more, group.addCheckpoint i answers = group.published ++ more := by
  unfold addCheckpoint
  split
  · exact ⟨_, rfl⟩
  · exact ⟨[], by simp⟩

def Delivers (config : Fin n → ReceiverConfig) (group : ReceiverGroup n) : Prop :=
  ∀ i, Delivery (config i).bufSize group.published (group.state i) (group.thread i).ties
    (group.thread i).trace

theorem Delivers.step (delivers : group.Delivers config) (moves : Step config group label after) :
    after.Delivers config := by
  obtain ⟨next, events, threads, published, extended, simulated, _⟩ := step_cases moves
  obtain ⟨more, grown⟩ := group.addCheckpoint_extends label.1 label.2
  intro i
  unfold state thread
  rw [published, grown, threads]
  by_cases own : i = label.1
  · rw [own, Function.update_self, extended]
    exact (simulated.delivery (delivers label.1) rfl).publish
  · rw [Function.update_of_ne own]
    exact (delivers i).publish

theorem Initial.delivers (initial : group.Initial) : group.Delivers config := by
  intro i
  have index : (group.thread i).ties.checkpointIndex = 0 := initial.index i
  have pending : (group.thread i).ties.pendingCheckpointIndex = 0 := initial.pending i
  have registered : (group.thread i).ties.status = .running := initial.registered i
  constructor
  · omega
  · omega
  · intro earlier below
    omega
  · intro sent
    omega
  · intro _
    omega
  · intro sending
    rw [initial.listening i] at sending
    cases sending
  · rw [registered]
    decide

/-! ### Entering SEND_DONE_CMD -/

abbrev Runs (config : Fin n → ReceiverConfig) : ReceiverGroup n → ReceiverGroup n → Prop :=
  Path (Step config) (fun _ _ => True)

variable {start : ReceiverGroup n}

end ReceiverGroup

end Wdt
