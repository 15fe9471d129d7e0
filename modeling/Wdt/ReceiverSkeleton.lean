/-
The receiver thread without its bytes: which state follows which, what happens to the
ties of the thread on the way, and which events are recorded. Every round of the
thread's loop is a step of this skeleton.
-/

import Wdt.ReceiverFrame
import Wdt.Lib.Transition

namespace Wdt

open Outcome ReceiverEvent

/-! ### The skeleton -/

variable (ties : ReceiverTies)

def ReceiverTies.confirmed : ReceiverTies :=
  { ties with checkpointIndex := ties.pendingCheckpointIndex }

def ReceiverTies.failed (code : ErrorCode) : ReceiverTies :=
  { ties with localErrCode := code }

def ReceiverTies.reset : ReceiverTies :=
  { ties with
    checkpointIndex := 0
    pendingCheckpointIndex := 0
    senderReadTimeout := -1
    curConnectionVerified := false
    newCheckpoints := []
    localErrCode := .ok }

/-- Successors that are reached without touching a tie. -/
def quietSuccessors : ReceiverState → List ReceiverState
  | .listen => [.acceptFirstConnection]
  | .readNextCmd =>
    [.processDoneCmd, .processFileCmd, .processSettingsCmd, .processSizeCmd]
  | .processSizeCmd => [.readNextCmd]
  | .sendFileChunks => [.readNextCmd, .sendFileChunks]
  | .sendAbortCmd => [.acceptWithTimeout, .finishWithError]
  | .checkForFinish => [.recheckForFinish]
  | .recheckForFinish => [.sendWait]
  | .sendWait => [.checkForFinish]
  | _ => []

/-- States that an error can end before anything else happens. -/
def fallibleStates : List ReceiverState :=
  [.listen, .sendLocalCheckpoint, .readNextCmd, .processSettingsCmd, .processDoneCmd,
    .processSizeCmd, .sendFileChunks, .sendGlobalCheckpoints, .sendDoneCmd, .processFileCmd]

def connectionlessStates : List ReceiverState :=
  [.listen, .acceptFirstConnection, .acceptWithTimeout, .sendAbortCmd, .finishWithError, .ended]

theorem quiet_connectionless {state next : ReceiverState}
    (successor : next ∈ quietSuccessors state) (connectionless : state ∈ connectionlessStates) :
    next ∈ connectionlessStates := by
  revert successor connectionless
  cases state <;> cases next <;> decide

theorem failure_connectionless {next : ReceiverState}
    (failure : next ∈ [.acceptWithTimeout, .finishWithError, .sendAbortCmd]) :
    next ∈ connectionlessStates := by
  revert failure
  cases next <;> decide

inductive SkeletonStep (config : ReceiverConfig) (answers : ReceiverAnswers) :
    ReceiverState → ReceiverTies → List ReceiverEvent → ReceiverState → ReceiverTies → Prop
  | quiet {state next ties events} (successor : next ∈ quietSuccessors state)
      (ofTags : ∀ event ∈ events, event.OfTag) :
      SkeletonStep config answers state ties events next ties
  | fails {state next ties events code} (fallible : state ∈ fallibleStates) (isError : code ≠ .ok)
      (failure : next ∈ ReceiverThread.failureStates)
      (ofBlocks : ∀ event ∈ events, event.OfBlock)
      (ofTags : state ≠ .processFileCmd → ∀ event ∈ events, event.OfTag) :
      SkeletonStep config answers state ties events next (ties.failed code)
  | aborts {state ties} :
      SkeletonStep config answers state ties [] .ended (ties.failed .abort)
  | firstConnection {ties : ReceiverTies} :
      SkeletonStep config answers .acceptFirstConnection ties [.acceptedConnection]
        .readNextCmd ties.reset
  | otherThreadStarted {ties : ReceiverTies} :
      SkeletonStep config answers .acceptFirstConnection ties [] .acceptWithTimeout ties.reset
  | noFirstConnection {ties code} (isError : code ≠ .ok) :
      SkeletonStep config answers .acceptFirstConnection ties [] .finishWithError
        (ties.reset.failed code)
  | nonRetryable {ties code} (isError : code ≠ .ok) :
      SkeletonStep config answers .acceptWithTimeout ties [] .ended (ties.failed code)
  | acceptFails {ties code} (isError : code ≠ .ok) :
      SkeletonStep config answers .acceptWithTimeout ties [] .finishWithError
        ({ ties with curConnectionVerified := false }.failed code)
  | accepted {next ties} (successor : next = .sendLocalCheckpoint ∨ next = .readNextCmd) :
      SkeletonStep config answers .acceptWithTimeout ties [.acceptedConnection] next
        { ties with
          curConnectionVerified := false
          pendingCheckpointIndex := ties.checkpointIndex
          localErrCode := .ok }
  | sentLocalCheckpoint {ties checkpoint} :
      SkeletonStep config answers .sendLocalCheckpoint ties [.sentLocalCheckpoint checkpoint]
        .readNextCmd ties
  | settings {next ties version settings} (identified : settings.transferId = config.transferId)
      (successor : next = .sendFileChunks ∨ next = .readNextCmd) :
      SkeletonStep config answers .processSettingsCmd ties
        [.acceptedSettings version version settings] next
        { ties with
          curConnectionVerified := true
          senderReadTimeout := settings.readTimeoutMillis
          footerType := if settings.enableChecksum then .checksumFooter else .noFooter }
  | givenUpFile {next ties early late block code} (isError : code ≠ .ok)
      (failure : next ∈ ReceiverThread.failureStates)
      (earlyEvents : ∀ event ∈ early, event.OfBlock) (lateEvents : ∀ event ∈ late, event.OfBlock) :
      SkeletonStep config answers .processFileCmd ties (early ++ .acceptedFileCmd block :: late)
        next (ties.confirmed.failed code)
  | receivedFile {ties early late block} (earlyEvents : ∀ event ∈ early, event.OfBlock)
      (lateEvents : ∀ event ∈ late, event.OfBlock) :
      SkeletonStep config answers .processFileCmd ties (early ++ .acceptedFileCmd block :: late)
        .readNextCmd ties.confirmed
  | done {ties : ReceiverTies} :
      SkeletonStep config answers .processDoneCmd ties [.acceptedDoneCmd] .waitForFinish
        ties.confirmed
  | sentGlobalCheckpoints {ties version} :
      SkeletonStep config answers .sendGlobalCheckpoints ties
        [.sentGlobalCheckpoints version
          (globalCheckpointMessage config.bufSize version ties.newCheckpoints)] .readNextCmd
        { ties with
          pendingCheckpointIndex := ties.checkpointIndex + ties.newCheckpoints.length }
  | waits {ties : ReceiverTies} :
      SkeletonStep config answers .waitForFinish ties [] .checkForFinish
        { ties with status := .waiting }
  | newCheckpoints {state ties} (checks : state = .checkForFinish ∨ state = .recheckForFinish)
      (some : answers.published ≠ []) :
      SkeletonStep config answers state ties [] .sendGlobalCheckpoints
        { ties with newCheckpoints := answers.published, status := .running }
  | decides {state ties} (checks : state = .checkForFinish ∨ state = .recheckForFinish)
      (none : answers.published = []) (alone : answers.existActiveThreads = false) :
      SkeletonStep config answers state ties [] .decidedToFinish ties
  | finishes {ties : ReceiverTies} :
      SkeletonStep config answers .decidedToFinish ties [] .sendDoneCmd
        { ties with status := .finished }
  | ends {ties events code} (ofTags : ∀ event ∈ events, event.OfTag) :
      SkeletonStep config answers .sendDoneCmd ties events .ended (ties.failed code)
  | waitFails {ties code} (isError : code ≠ .ok) :
      SkeletonStep config answers .sendWait ties [] .acceptWithTimeout
        ({ ties with status := .running }.failed code)
  | finishedWithError {ties : ReceiverTies} :
      SkeletonStep config answers .finishWithError ties [] .ended { ties with status := .finished }
  | deRegistered {ties : ReceiverTies} :
      SkeletonStep config answers .ended ties [] .ended { ties with status := .finished }

namespace ReceiverThread

variable {config : ReceiverConfig} {answers : ReceiverAnswers} {thread : ReceiverThread}

def Simulates (config : ReceiverConfig) (answers : ReceiverAnswers) (state : ReceiverState)
    (thread : ReceiverThread) (answer : ReceiverAnswer) : Prop :=
  ∃ events, answer.1.trace = thread.trace ++ events ∧
    SkeletonStep config answers state thread.ties events answer.2 answer.1.ties

/-! ### One lemma for each state function -/

variable {state : ReceiverState} {answer : ReceiverAnswer}

theorem Simulates.of_same (sameTrace : answer.1.trace = thread.trace)
    (step : SkeletonStep config answers state thread.ties [] answer.2 answer.1.ties) :
    Simulates config answers state thread answer :=
  ⟨[], by rw [sameTrace, List.append_nil], step⟩

variable {next : ReceiverState} {after : ReceiverThread}

theorem Keeps.quiet (keeps : Keeps OfTag thread after) (successor : next ∈ quietSuccessors state) :
    Simulates config answers state thread (after, next) := by
  obtain ⟨events, extended, ofTags⟩ := keeps.trace
  refine ⟨events, extended, ?_⟩
  rw [keeps.ties]
  exact .quiet successor ofTags

theorem Abandons.simulates (abandons : Abandons OfTag thread answer)
    (fallible : state ∈ fallibleStates) : Simulates config answers state thread answer := by
  obtain ⟨code, isError, sameTies⟩ := abandons.failed
  obtain ⟨events, extended, ofTags⟩ := abandons.trace
  refine ⟨events, extended, ?_⟩
  rw [sameTies]
  exact .fails fallible isError abandons.next (fun event member => (ofTags event member).ofBlock)
    (fun _ => ofTags)

def Follows (config : ReceiverConfig) (answers : ReceiverAnswers) (state : ReceiverState)
    (thread : ReceiverThread) (outcome : Handler ReceiverAnswer) : Prop :=
  outcome.Ensures (fun _ => True) (Simulates config answers state thread)
    (Simulates config answers state thread)

theorem listen_simulates : Follows config answers .listen thread (thread.listen answers) := by
  unfold listen
  split
  · exact (Keeps.refl _ thread).quiet (by decide)
  · refine ensures_go (Abandons.simulates ?_ (by decide))
    exact fail_abandons thread (by decide) (by decide)

theorem acceptFirstConnection_simulates :
    Follows config answers .acceptFirstConnection thread
      (thread.acceptFirstConnection config answers) := by
  unfold acceptFirstConnection
  split
  · exact .of_same rfl .otherThreadStarted
  · have isError : ErrorCode.connError ≠ .ok := by decide
    exact .of_same rfl (.noFirstConnection isError)
  · have isError : ErrorCode.abort ≠ .ok := by decide
    exact .of_same rfl (.noFirstConnection isError)
  · exact ⟨_, rfl, .firstConnection⟩

theorem acceptWithTimeout_simulates :
    Follows config answers .acceptWithTimeout thread (thread.acceptWithTimeout config answers) := by
  unfold acceptWithTimeout
  split
  · rename_i code _failed
    exact .of_same rfl (.nonRetryable code.2)
  refine ensures_check (fun _ => trivial) (fun _ => ?_)
  split
  · rename_i code _refused
    exact .of_same rfl (.acceptFails code.2)
  refine ⟨[.acceptedConnection], rfl, ?_⟩
  split
  · exact .accepted (.inl rfl)
  · exact .accepted (.inr rfl)

theorem sendLocalCheckpoint_simulates :
    Follows config answers .sendLocalCheckpoint thread (thread.sendLocalCheckpoint answers) := by
  unfold sendLocalCheckpoint
  split
  · exact ⟨_, rfl, .sentLocalCheckpoint⟩
  · refine ensures_go (Abandons.simulates ?_ (by decide))
    exact Keeps.fail (keeps_of_same rfl rfl) (by decide) (by decide)

theorem readNextCmd_simulates :
    Follows config answers .readNextCmd thread (thread.readNextCmd config) := by
  unfold readNextCmd
  dsimp only
  refine (readAtLeast_keeps _ _ _ _ _).bind_quiet (fun _ _ => trivial) (fun value kept => ?_)
  have started : Keeps OfTag thread { thread with oldOffset := thread.off } :=
    keeps_of_same rfl rfl
  have filled := started.trans kept
  split
  · refine ensures_go (Abandons.simulates (filled.abandons ?_) (by decide))
    exact Keeps.fail (keeps_of_same rfl rfl) (by decide) (by decide)
  have advanced : Keeps OfTag thread
      { value.2 with numRead := value.1, off := value.2.off + 1 } :=
    filled.trans (keeps_of_same rfl rfl)
  split
  · exact advanced.quiet (by decide)
  split
  · exact advanced.quiet (by decide)
  split
  · exact advanced.quiet (by decide)
  split
  · exact advanced.quiet (by decide)
  · refine ensures_go (Abandons.simulates (filled.abandons ?_) (by decide))
    exact Keeps.fail (keeps_of_same rfl rfl) (by decide) (by decide)

def Silent (_event : ReceiverEvent) : Prop := False

theorem Keeps.same_trace (keeps : Keeps Silent thread after) : after.trace = thread.trace := by
  obtain ⟨events, extended, silent⟩ := keeps.trace
  cases events with
  | nil => rw [extended, List.append_nil]
  | cons event rest => exact (silent event List.mem_cons_self).elim

theorem Abandons.of_silent (abandons : Abandons Silent thread answer) :
    Abandons OfTag thread answer := by
  obtain ⟨events, extended, silent⟩ := abandons.trace
  exact ⟨abandons.failed, abandons.next, events, extended,
    fun event member => (silent event member).elim⟩

theorem negotiateVersion_keeps (version : Nat) :
    (thread.negotiateVersion version).Ensures (fun _ => True) (Abandons Silent thread)
      (fun value => Keeps Silent thread value ∧ value.threadProtocolVersion = version) := by
  unfold negotiateVersion
  dsimp only
  split
  · rename_i sameVersion
    exact ⟨Keeps.refl _ thread, sameVersion.symm⟩
  split
  · exact fail_abandons thread (by decide) (by decide)
  split
  · refine ensures_leave ?_
    exact Keeps.fail (keeps_of_same rfl rfl) (by decide) (by decide)
  · rename_i agreed
    exact ⟨keeps_of_same rfl rfl, not_not.mp agreed⟩

theorem Keeps.decodeUpTo {α : Type} (keeps : Keeps Silent thread after) (stop : Nat)
    (decoder : Decoder Byte α) : Keeps Silent thread (after.decodeUpTo stop decoder).2 :=
  keeps.trans (keeps_decodeUpTo after stop decoder)

theorem Keeps.gives_up {code : ErrorCode} (keeps : Keeps Silent thread after)
    (fallible : state ∈ fallibleStates) (isError : code ≠ .ok) (failure : next ∈ failureStates) :
    Simulates config answers state thread (after.fail code next) :=
  (keeps.fail isError failure).of_silent.simulates fallible

theorem follows_quiet (sameTies : after.ties = thread.ties) (sameTrace : after.trace = thread.trace)
    (successor : next ∈ quietSuccessors state) :
    Follows config answers state thread (.go (after, next)) :=
  Keeps.quiet (keeps_of_same sameTies sameTrace) successor

theorem follows_fail {code : ErrorCode} (sameTies : after.ties = thread.ties)
    (sameTrace : after.trace = thread.trace) (fallible : state ∈ fallibleStates)
    (isError : code ≠ .ok) (failure : next ∈ failureStates) :
    Follows config answers state thread (.go (after.fail code next)) :=
  Keeps.gives_up (keeps_of_same sameTies sameTrace) fallible isError failure

theorem acceptSettings_simulates {settled : ReceiverThread} {settings : Settings} {version : Nat}
    (keeps : Keeps Silent thread settled) (identified : settings.transferId = config.transferId)
    (successor : next = .sendFileChunks ∨ next = .readNextCmd) (sameTies : after.ties =
      { settled.ties with
        curConnectionVerified := true
        senderReadTimeout := settings.readTimeoutMillis
        footerType := if settings.enableChecksum then .checksumFooter else .noFooter })
    (extended : after.trace =
      settled.trace ++ [.acceptedSettings version settled.threadProtocolVersion settings])
    (agreed : settled.threadProtocolVersion = version) :
    Simulates config answers .processSettingsCmd thread (after, next) := by
  refine ⟨[.acceptedSettings version version settings], ?_, ?_⟩
  · rw [extended, agreed, keeps.same_trace]
  · rw [sameTies, keeps.ties]
    exact .settings identified successor

theorem processSettingsCmd_simulates :
    Follows config answers .processSettingsCmd thread (thread.processSettingsCmd config) := by
  unfold processSettingsCmd
  dsimp only
  have decoded := (Keeps.refl Silent thread).decodeUpTo
    (thread.oldOffset + kMaxVersion) decodeVersion
  split
  · exact decoded.gives_up (by decide) (by decide) (by decide)
  refine Outcome.Ensures.bind ((negotiateVersion_keeps _).mono (fun _ _ => trivial)
    (fun _ late => (decoded.abandons late).of_silent.simulates (by decide))
    (fun _ => id)) (fun value ⟨kept, sameVersion⟩ => ?_)
  have agreed := (decoded.trans kept).decodeUpTo
    (value.oldOffset + kMaxVersion + kMaxSettings) (decodeSettings value.threadProtocolVersion)
  split
  · exact agreed.gives_up (by decide) (by decide) (by decide)
  rename_i settings _decoded
  split
  · exact agreed.gives_up (by decide) (by decide) (by decide)
  rename_i sameId
  have identified : settings.transferId = config.transferId := (not_not.mp sameId).symm
  split
  · exact acceptSettings_simulates agreed identified (.inl rfl) rfl rfl sameVersion
  · exact acceptSettings_simulates agreed identified (.inr rfl) rfl rfl sameVersion

theorem processDoneCmd_simulates :
    Follows config answers .processDoneCmd thread thread.processDoneCmd := by
  unfold processDoneCmd
  dsimp only
  split
  · exact (Keeps.refl Silent thread).gives_up (by decide) (by decide) (by decide)
  split
  · refine ensures_leave ?_
    exact Keeps.gives_up (keeps_of_same rfl rfl) (by decide) (by decide) (by decide)
  · exact ⟨[.acceptedDoneCmd], rfl, .done⟩

theorem processSizeCmd_simulates :
    Follows config answers .processSizeCmd thread thread.processSizeCmd := by
  unfold processSizeCmd
  dsimp only
  split
  · exact ((Keeps.refl Silent thread).decodeUpTo _ _).gives_up (by decide) (by decide) (by decide)
  · exact follows_quiet rfl rfl (by decide)

theorem sendFileChunks_simulates :
    Follows config answers .sendFileChunks thread (thread.sendFileChunks answers) := by
  unfold sendFileChunks
  dsimp only
  refine ensures_check (fun _ => trivial) (fun _ => ?_)
  split
  · split
    · exact follows_quiet rfl rfl (by decide)
    · exact follows_fail rfl rfl (by decide) (by decide) (by decide)
  · split
    · exact follows_quiet rfl rfl (by decide)
    · exact follows_fail rfl rfl (by decide) (by decide) (by decide)
  · split
    · exact follows_fail rfl rfl (by decide) (by decide) (by decide)
    · split
      · exact follows_fail rfl rfl (by decide) (by decide) (by decide)
      · have sent : Keeps OfTag thread
            { thread with
              buf := thread.buf.store 0 answers.chunkBytes
              threadStats := thread.threadStats.addHeaderBytes answers.chunkBytesWritten } :=
          keeps_of_same rfl rfl
        have answered := sent.trans (keeps_socketRead _ 0 1)
        split
        · refine ensures_go (Abandons.simulates (answered.abandons ?_) (by decide))
          exact fail_abandons _ (by decide) (by decide)
        · refine ensures_go ?_
          exact Keeps.quiet (answered.trans (keeps_of_same rfl rfl)) (by decide)

theorem sendGlobalCheckpoint_simulates :
    Follows config answers .sendGlobalCheckpoints thread
      (thread.sendGlobalCheckpoint config answers) := by
  unfold sendGlobalCheckpoint
  split
  · exact ⟨_, rfl, .sentGlobalCheckpoints⟩
  · exact follows_fail rfl rfl (by decide) (by decide) (by decide)

theorem sendAbortCmd_simulates :
    Follows config answers .sendAbortCmd thread thread.sendAbortCmd := by
  unfold sendAbortCmd
  dsimp only
  split
  · exact follows_quiet rfl rfl (by decide)
  · exact follows_quiet rfl rfl (by decide)

theorem Keeps.closes {code : ErrorCode} (keeps : Keeps OfTag thread after) :
    Simulates config answers .sendDoneCmd thread (after.fail code .ended) := by
  obtain ⟨events, extended, ofTags⟩ := keeps.trace
  have sameTies : (after.fail code .ended).1.ties = thread.ties.failed code := by
    rw [← keeps.ties]
    rfl
  refine ⟨events, extended, ?_⟩
  rw [sameTies]
  exact .ends ofTags

theorem sendDoneCmd_simulates :
    Follows config answers .sendDoneCmd thread (thread.sendDoneCmd answers) := by
  unfold sendDoneCmd
  dsimp only
  split
  · exact follows_fail rfl rfl (by decide) (by decide) (by decide)
  have sent : Keeps OfTag thread
      { thread with
        buf := thread.buf.store 0 [doneCmd]
        threadStats := thread.threadStats.addHeaderBytes 1 } :=
    keeps_of_same rfl rfl
  have answered := sent.trans (keeps_socketRead _ 0 1)
  split
  · refine ensures_go (Abandons.simulates (answered.abandons ?_) (by decide))
    exact fail_abandons _ (by decide) (by decide)
  split
  · rename_i isError
    refine ensures_go (Abandons.simulates (answered.abandons ?_) (by decide))
    exact fail_abandons _ isError (by decide)
  · refine ensures_go ?_
    exact Keeps.closes ((answered.trans (keeps_consume _ _)).trans
      (keeps_markReceivedBlocksVerified _))

theorem finishWithError_simulates :
    Follows config answers .finishWithError thread thread.finishWithError := by
  refine ensures_check (fun _ => trivial) (fun _ => ?_)
  exact .of_same rfl .finishedWithError

theorem waitForFinish_simulates :
    Follows config answers .waitForFinish thread thread.waitForFinish := by
  refine ensures_check (fun _ => trivial) (fun _ => ?_)
  exact .of_same rfl .waits

theorem checkForFinishOrNewCheckpoints_simulates {stay : ReceiverState}
    (checks : state = .checkForFinish ∨ state = .recheckForFinish)
    (successor : stay ∈ quietSuccessors state) :
    Simulates config answers state thread
      (thread.checkForFinishOrNewCheckpoints answers stay) := by
  unfold checkForFinishOrNewCheckpoints
  split
  · rename_i nonempty
    refine .of_same rfl (.newCheckpoints checks ?_)
    intro empty
    rw [empty] at nonempty
    cases nonempty
  rename_i notNonempty
  have none : answers.published = [] := by
    simpa using notNonempty
  split
  · exact (Keeps.refl _ thread).quiet successor
  · rename_i notActive
    exact .of_same rfl (.decides checks none (Bool.eq_false_iff.mpr notActive))

theorem checkForFinish_simulates :
    Follows config answers .checkForFinish thread (thread.checkForFinish answers) := by
  refine ensures_check (fun _ => trivial) (fun _ => ?_)
  exact checkForFinishOrNewCheckpoints_simulates (.inl rfl) (by decide)

theorem sendWait_simulates : Follows config answers .sendWait thread (thread.sendWait answers) := by
  unfold sendWait
  split
  · exact follows_quiet rfl rfl (by decide)
  · have isError : ErrorCode.socketWriteError ≠ .ok := by decide
    exact .of_same rfl (.waitFails isError)

theorem FileStep.simulates (fileStep : FileStep thread answer) :
    Simulates config answers .processFileCmd thread answer := by
  cases fileStep with
  | refused abandons =>
    obtain ⟨code, isError, sameTies⟩ := abandons.failed
    obtain ⟨events, extended, ofBlocks⟩ := abandons.trace
    refine ⟨events, extended, ?_⟩
    rw [sameTies]
    exact .fails (by decide) isError abandons.next ofBlocks (fun other => (other rfl).elim)
  | givenUp offered accepted offers accepts abandons =>
    obtain ⟨early, offeredTrace, earlyEvents⟩ := offers.trace
    obtain ⟨acceptedTies, block, acceptedTrace⟩ := accepts
    obtain ⟨code, isError, sameTies⟩ := abandons.failed
    obtain ⟨late, finalTrace, lateEvents⟩ := abandons.trace
    refine ⟨early ++ .acceptedFileCmd block :: late, ?_, ?_⟩
    · rw [finalTrace, acceptedTrace, offeredTrace]
      simp
    · have confirmed : accepted.ties = thread.ties.confirmed := by
        rw [acceptedTies, ← offers.ties]
        rfl
      rw [sameTies, confirmed]
      exact .givenUpFile isError abandons.next earlyEvents lateEvents
  | received offered accepted offers accepts keeps next =>
    obtain ⟨early, offeredTrace, earlyEvents⟩ := offers.trace
    obtain ⟨acceptedTies, block, acceptedTrace⟩ := accepts
    obtain ⟨late, finalTrace, lateEvents⟩ := keeps.trace
    refine ⟨early ++ .acceptedFileCmd block :: late, ?_, ?_⟩
    · rw [finalTrace, acceptedTrace, offeredTrace]
      simp
    · have confirmed : accepted.ties = thread.ties.confirmed := by
        rw [acceptedTies, ← offers.ties]
        rfl
      rw [next, keeps.ties, confirmed]
      exact .receivedFile earlyEvents lateEvents

/-! ### The loop -/

theorem stateFunction_simulates (working : state ≠ .ended) :
    Follows config answers state thread (thread.stateFunction config answers state) := by
  cases state with
  | listen => exact listen_simulates
  | acceptFirstConnection => exact acceptFirstConnection_simulates
  | acceptWithTimeout => exact acceptWithTimeout_simulates
  | sendLocalCheckpoint => exact sendLocalCheckpoint_simulates
  | readNextCmd => exact readNextCmd_simulates
  | processFileCmd =>
    exact (processFileCmd_steps config answers.file thread).mono (fun _ _ => trivial)
      (fun _ fileStep => fileStep.simulates) (fun _ fileStep => fileStep.simulates)
  | processSettingsCmd => exact processSettingsCmd_simulates
  | processDoneCmd => exact processDoneCmd_simulates
  | processSizeCmd => exact processSizeCmd_simulates
  | sendFileChunks => exact sendFileChunks_simulates
  | sendGlobalCheckpoints => exact sendGlobalCheckpoint_simulates
  | sendDoneCmd => exact sendDoneCmd_simulates
  | sendAbortCmd => exact sendAbortCmd_simulates
  | waitForFinish => exact waitForFinish_simulates
  | checkForFinish => exact checkForFinish_simulates
  | recheckForFinish =>
    exact checkForFinishOrNewCheckpoints_simulates (.inr rfl) (by decide)
  | decidedToFinish => exact .of_same rfl .finishes
  | sendWait => exact sendWait_simulates
  | finishWithError => exact finishWithError_simulates
  | ended => exact (working rfl).elim

theorem step_simulates {current next : ReceiverAnswer}
    (moves : step config answers current = .ok next) :
    Simulates config answers current.2 current.1 next := by
  unfold step at moves
  split at moves
  · rename_i ended
    cases moves
    rw [ended]
    exact .of_same rfl .deRegistered
  rename_i working
  split at moves
  · cases moves
    exact .of_same rfl .aborts
  · exact (stateFunction_simulates working).of_settle_ok moves

end ReceiverThread

def ReceiverRound (config : ReceiverConfig) (current : ReceiverAnswer)
    (answers : ReceiverAnswers) (next : ReceiverAnswer) : Prop :=
  ReceiverThread.step config answers current = .ok next

/-- The run that a list of answers leads to, if no check fails and every round is allowed. -/
def receiverRun (config : ReceiverConfig) (test : ReceiverAnswer → ReceiverAnswers → Bool) :
    ReceiverAnswer → List ReceiverAnswers → Option ReceiverAnswer :=
  Transition.runsUnder
    (fun current answers => (ReceiverThread.step config answers current).toOption) test

theorem path_of_receiverRun {config : ReceiverConfig}
    {test : ReceiverAnswer → ReceiverAnswers → Bool}
    {allowed : ReceiverAnswer → ReceiverAnswers → Prop} {start reached : ReceiverAnswer}
    {answers : List ReceiverAnswers}
    (meets : ∀ current answer, test current answer = true → allowed current answer)
    (ran : receiverRun config test start answers = some reached) :
    Transition.Path (ReceiverRound config) allowed start reached := by
  apply Transition.path_of_runsUnder _ meets .refl ran
  intro current answer next moved
  unfold ReceiverRound
  cases result : ReceiverThread.step config answer current with
  | error reason =>
    rw [result] at moved
    cases moved
  | ok after =>
    rw [result] at moved
    cases moved
    rfl

def sampleConfig : ReceiverConfig :=
  { bufSize := checkAndUpdateBufferSize 8192
    transferId := [0x69]
    large := (checkAndUpdateBufferSize_allowed 8192).1
    aligned := (checkAndUpdateBufferSize_allowed 8192).2 }

/-- No name in it is longer than 200 bytes. -/
def samplePath (length : Nat) : List Byte := (List.replicate length 0x61).set 200 slash

def sampleThread : ReceiverThread := { buf := fun _ => 0, threadProtocolVersion := 32 }

def settingsBytes (settings : Settings) : List Byte :=
  settingsCmd :: (encodeSettings 32 1066 settings []).getD []

def sampleSettings : List Byte := settingsBytes
  { readTimeoutMillis := 5000, writeTimeoutMillis := 5000, transferId := [0x69] }

def sampleFile : List Byte := [fileCmd, 0, 11, 0] ++
    headerFields 32 { fileName := [0x61], seqId := 1, fileSize := 1, dataSize := 1 } ++ [0x78]

def sampleDone : List Byte := doneCmd :: List.replicate 255 0

def sampleAnswer (stream : List Byte) : ReceiverAnswers :=
  { firstAccept := .connected { segments := [{ bytes := stream }] } }

def sampleAnswers (rounds : Nat) (stream : List Byte) : List ReceiverAnswers :=
  List.replicate rounds (sampleAnswer stream)

end Wdt
