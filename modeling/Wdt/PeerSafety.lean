/-
What a peer can do to a receiver thread with the bytes it sends. Five places trust
the peer: the room for the next command is not renewed by SIZE and SETTINGS, SETTINGS
is decoded up to a constant, a header longer than what was received is read to the
wrong place, DONE relies on the timeout of an earlier SETTINGS, and the next connection
is accepted under that timeout. Elsewhere the window stays with the stream and no check
fails.
-/

import Wdt.BlockWindow
import Wdt.ReceiverSkeleton

namespace Wdt

open ReceiveWindow Outcome

/-- The byte on which READ_NEXT_CMD goes to a state. -/
def ReceiverState.command : ReceiverState → Option Byte
  | .processFileCmd => some fileCmd
  | .processSettingsCmd => some settingsCmd
  | .processDoneCmd => some doneCmd
  | .processSizeCmd => some sizeCmd
  | _ => none

namespace ReceiverThread

def Settled (thread : ReceiverThread) : Prop :=
  thread.connection.consumed = thread.connection.delivered

/-- And the window is empty, at the front of the buffer. -/
structure Cleared (thread : ReceiverThread) : Prop where
  numRead : thread.numRead = 0
  off : thread.off = 0
  settled : thread.Settled

theorem Settled.within {thread : ReceiverThread} (settled : thread.Settled) :
    thread.window.Within :=
  ⟨[], (List.append_nil _).trans settled⟩

variable {thread : ReceiverThread}

theorem Cleared.ready (config : ReceiverConfig) (cleared : thread.Cleared) :
    Ready config thread := by
  have numRead := cleared.numRead
  have off := cleared.off
  refine ⟨by omega, by omega, ?_⟩
  rw [numRead]
  simpa [Holds, window, Settled] using cleared.settled

/-- The window as the state function of a state finds it. -/
def WindowSound (config : ReceiverConfig) (current : ReceiverAnswer) : Prop :=
  match current.2 with
  | .readNextCmd => Ready config current.1
  | .processFileCmd | .processSettingsCmd | .processDoneCmd | .processSizeCmd =>
    Dispatched config current.1 ∧
      current.2.command = some (current.1.buf current.1.oldOffset)
  | .sendLocalCheckpoint | .sendFileChunks => current.1.Cleared
  | .sendGlobalCheckpoints | .sendDoneCmd | .waitForFinish | .checkForFinish | .recheckForFinish
  | .decidedToFinish | .sendWait => current.1.Settled
  | _ => current.1.window.Within

theorem WindowSound.within {config : ReceiverConfig} {thread : ReceiverThread}
    {state : ReceiverState} (sound : WindowSound config (thread, state)) :
    thread.window.Within := by
  cases state with
  | readNextCmd => exact (show Ready config thread from sound).holds.within
  | processFileCmd | processSettingsCmd | processDoneCmd | processSizeCmd =>
    exact (show Dispatched config thread from sound.1).holds.within
  | sendLocalCheckpoint | sendFileChunks => exact (show thread.Cleared from sound).settled.within
  | listen | acceptFirstConnection | acceptWithTimeout | sendAbortCmd | finishWithError | ended =>
    exact sound
  | _ => exact (show thread.Settled from sound).within

variable {config : ReceiverConfig}

theorem WindowSound.dispatched {state : ReceiverState} {command : Byte}
    (sound : WindowSound config (thread, state)) (commands : state.command = some command) :
    Dispatched config thread ∧ thread.buf thread.oldOffset = command := by
  cases state with
  | processFileCmd | processSettingsCmd | processDoneCmd | processSizeCmd =>
    exact ⟨sound.1, Option.some.inj (sound.2.symm.trans commands)⟩
  | _ => cases commands

theorem windowSound_of_failure {next : ReceiverState} (within : thread.window.Within)
    (failure : next ∈ failureStates) : WindowSound config (thread, next) := by
  simp only [failureStates, List.mem_cons, List.not_mem_nil, or_false] at failure
  rcases failure with rfl | rfl | rfl
  · exact within
  · exact within
  · exact within

/-- The SETTINGS command in the buffer, as it will be decoded, with its length. -/
def settingsAt (thread : ReceiverThread) : Option (Settings × Nat) :=
  let (version, behindVersion) := thread.decodeUpTo (thread.oldOffset + kMaxVersion) decodeVersion
  match version with
  | none => none
  | some version =>
    let (settings, behindSettings) := behindVersion.decodeUpTo
      (thread.oldOffset + kMaxVersion + kMaxSettings) (decodeSettings version)
    settings.map (fun settings => (settings, behindSettings.off - thread.oldOffset))

/-- SETTINGS lies within the received bytes, and comes with a timeout if it asks for the list of
received chunks. -/
def SettingsReceived (thread : ReceiverThread) : Prop :=
  ∀ settings length, thread.settingsAt = some (settings, length) → (length : Int) ≤ thread.numRead ∧
      (settings.sendFileChunks = true → 0 < settings.readTimeoutMillis)

instance (thread : ReceiverThread) : Decidable thread.SettingsReceived := decidable_of_iff
    ((thread.settingsAt.all fun found => decide ((found.2 : Int) ≤ thread.numRead ∧
      (found.1.sendFileChunks = true → 0 < found.1.readTimeoutMillis))) = true)
    (by simp only [SettingsReceived, Option.all_eq_true, decide_eq_true_eq, Prod.forall])

def Guarded (config : ReceiverConfig) (current : ReceiverAnswer) : Prop :=
  match current.2 with
  | .acceptWithTimeout => 0 < current.1.senderReadTimeout →
    max current.1.senderReadTimeout current.1.senderWriteTimeout + kTimeoutBufferMillis ≤ int32Max
  | .readNextCmd => current.1.off + kMinBufLength ≤ config.bufSize
  | .processFileCmd => current.1.HeaderReceived ∧ current.1.StatusNamed config
  | .processSettingsCmd => current.1.SettingsReceived
  | .processDoneCmd => 0 < current.1.senderReadTimeout
  | _ => True

instance (config : ReceiverConfig) (current : ReceiverAnswer) :
    Decidable (Guarded config current) := by
  unfold Guarded
  split <;> infer_instance

/-! ### Connections and commands -/

/-- No check fails, and the next state finds a sound window. -/
def KeepsWindow (config : ReceiverConfig) (outcome : Handler ReceiverAnswer) : Prop :=
  outcome.Ensures (fun _ => False) (WindowSound config) (WindowSound config)

variable {answers : ReceiverAnswers}

theorem listen_sound (within : thread.window.Within) :
    KeepsWindow config (thread.listen answers) := by
  unfold listen
  split
  · exact within
  · exact within

theorem acceptFirstConnection_sound (within : thread.window.Within) :
    KeepsWindow config (thread.acceptFirstConnection config answers) := by
  unfold acceptFirstConnection
  split
  · exact within
  · exact within
  · exact within
  · rename_i connection _connected
    have cleared : ((thread.reset config).connect connection).Cleared := ⟨rfl, rfl, rfl⟩
    exact cleared.ready config

theorem acceptTimeout_pos (narrow : Guarded config (thread, .acceptWithTimeout)) :
    0 < thread.acceptTimeout config := by
  have bound : int32Max = 2 ^ 31 - 1 := rfl
  have buffer : kTimeoutBufferMillis = 1000 := rfl
  unfold acceptTimeout
  split
  · rename_i received
    have fits := narrow received
    rw [Int32.toInt_ofInt_of_le (by omega) (by dsimp only at fits; omega)]
    omega
  · exact Int.natCast_pos.mpr config.waits

theorem acceptWithTimeout_sound (within : thread.window.Within)
    (narrow : Guarded config (thread, .acceptWithTimeout)) :
    KeepsWindow config (thread.acceptWithTimeout config answers) := by
  unfold acceptWithTimeout
  split
  · exact within
  refine ensures_check (fun fails => of_decide_eq_false fails (acceptTimeout_pos narrow))
    (fun _ => ?_)
  dsimp only
  split
  · exact within
  · split
    · exact ⟨rfl, rfl, rfl⟩
    · exact Cleared.ready config ⟨rfl, rfl, rfl⟩

theorem sendLocalCheckpoint_sound (cleared : thread.Cleared) :
    KeepsWindow config (thread.sendLocalCheckpoint answers) := by
  unfold sendLocalCheckpoint
  split
  · exact Cleared.ready config { cleared with }
  · exact cleared.settled.within

theorem readNextCmd_sound (ready : Ready config thread)
    (room : thread.off + kMinBufLength ≤ config.bufSize) :
    KeepsWindow config (thread.readNextCmd config) := by
  have inBuffer := ready.inBuffer
  have positive : (0 : Int) < kMinBufLength := by decide
  have started : ({ thread with oldOffset := thread.off }).window.Holds thread.off
      thread.numRead.toNat := ready.holds
  unfold readNextCmd
  dsimp only
  refine (readAtLeast_extends _ _ ready.notNegative positive (by omega) (by omega)
    started).bind_quiet (fun _ => id) (fun value extended => ?_)
  have bounded := extended.count_le
  split
  · exact extended.holds.within
  rename_i enough
  have dispatched : Dispatched config
      { value.2 with numRead := value.1, off := value.2.off + 1 } := by
    have sameOff : value.2.off = thread.off := extended.off
    have sameOldOffset : value.2.oldOffset = thread.off := extended.oldOffset
    refine ⟨not_lt.mp enough, ?_, ?_, ?_⟩
    · rw [sameOff, sameOldOffset]
    · dsimp only
      omega
    · rw [sameOldOffset]
      exact extended.holds
  have commands {cmd : Byte} (read : value.2.buf value.2.off = cmd) :
      some cmd = some (value.2.buf value.2.oldOffset) := by
    rw [← read, show value.2.off = value.2.oldOffset from
      extended.off.trans extended.oldOffset.symm]
  split
  · exact ⟨dispatched, commands ‹_›⟩
  split
  · exact ⟨dispatched, commands ‹_›⟩
  split
  · exact ⟨dispatched, commands ‹_›⟩
  · split
    · exact ⟨dispatched, commands ‹_›⟩
    · exact extended.holds.within

theorem negotiateVersion_same (thread : ReceiverThread) (version : Nat) :
    (thread.negotiateVersion version).Ensures (fun _ => False)
      (fun answer => answer.1.window = thread.window ∧ answer.2 = .sendAbortCmd)
      (fun agreed => agreed = { thread with threadProtocolVersion := version }) := by
  unfold negotiateVersion
  dsimp only
  split
  · rename_i same
    rw [same]
    rfl
  split
  · exact ⟨rfl, rfl⟩
  split
  · exact ⟨rfl, rfl⟩
  · rename_i agreed
    rw [not_not.mp agreed]
    rfl

theorem decodeUpTo_version {α : Type} (thread : ReceiverThread) (version stop : Nat)
    (decoder : Decoder Byte α) :
    ({ thread with threadProtocolVersion := version }).decodeUpTo stop decoder =
      ((thread.decodeUpTo stop decoder).1,
        { (thread.decodeUpTo stop decoder).2 with threadProtocolVersion := version }) :=
  rfl

theorem consumeCmd_ready (holds : thread.window.Holds thread.oldOffset thread.numRead.toNat)
    (inBuffer : thread.oldOffset + thread.numRead ≤ config.bufSize)
    (behind : thread.oldOffset ≤ thread.off)
    (received : thread.off ≤ thread.oldOffset + thread.numRead) :
    WindowSound config thread.consumeCmd :=
  ready_of_takes holds behind received inBuffer rfl

theorem consumeAll_settled (holds : thread.window.Holds thread.oldOffset thread.numRead.toNat)
    (received : thread.off ≤ thread.oldOffset + thread.numRead) : thread.consumeAll.Settled := by
  have all : max (thread.off - thread.oldOffset) thread.numRead.toNat = thread.numRead.toNat := by
    omega
  unfold consumeAll
  rw [all]
  exact holds

/-- The list of received chunks is sent only under a timeout. -/
structure SettingsSound (config : ReceiverConfig) (answer : ReceiverAnswer) : Prop where
  window : WindowSound config answer
  timed : answer.2 = .sendFileChunks → 0 < answer.1.senderReadTimeout

section

variable (dispatched : Dispatched config thread)

include dispatched

theorem processSettingsCmd_sound (received : thread.SettingsReceived) :
    (thread.processSettingsCmd config).Ensures (fun _ => False) (SettingsSound config)
      (SettingsSound config) := by
  have started := dispatched.started
  have inBuffer := dispatched.inBuffer
  unfold processSettingsCmd
  unfold SettingsReceived settingsAt at received
  cases decoded : thread.decodeUpTo (thread.oldOffset + kMaxVersion) decodeVersion with
  | mk version behindVersion =>
    obtain ⟨versionOldOffset, versionNumRead, versionHolds, versionOff⟩ :=
      decodeUpTo_holds decoded dispatched.holds
    rw [decoded] at received
    cases version with
    | none => exact ⟨versionHolds.within, nofun⟩
    | some version =>
      refine Ensures.bind ((negotiateVersion_same behindVersion version).mono
        (fun _ => id) (fun answer left => ?_) (fun _ => id))
        (fun agreedThread agreed => ?_)
      · obtain ⟨sameWindow, aborts⟩ := left
        obtain ⟨left, next⟩ := answer
        rw [show next = .sendAbortCmd from aborts]
        refine ⟨?_, nofun⟩
        change left.window.Within
        rw [show left.window = behindVersion.window from sameWindow]
        exact versionHolds.within
      · rw [← versionOldOffset] at received
        rw [agreed]
        dsimp only at received ⊢
        rw [decodeUpTo_version]
        cases decodedSettings : behindVersion.decodeUpTo
            (behindVersion.oldOffset + kMaxVersion + kMaxSettings) (decodeSettings version) with
        | mk settings behindSettings =>
          obtain ⟨sameOldOffset, sameNumRead, holds, settingsOff⟩ :=
            decodeUpTo_holds decodedSettings versionHolds
          rw [decodedSettings] at received
          dsimp only at received ⊢
          cases settings with
          | none => exact ⟨holds.within, nofun⟩
          | some settings =>
            dsimp only
            split
            · exact ⟨holds.within, nofun⟩
            obtain ⟨inReceived, timeout⟩ := received settings _ rfl
            split
            · rename_i sendsChunks
              have settled := consumeAll_settled holds (by omega)
              refine ⟨⟨rfl, rfl, settled⟩, fun _ => ?_⟩
              exact Int.natCast_pos.mpr (timeout sendsChunks)
            · refine ⟨consumeCmd_ready holds ?_ ?_ ?_, nofun⟩
              all_goals dsimp only
              all_goals omega

theorem processDoneCmd_sound :
    KeepsWindow config thread.processDoneCmd := by
  have started := dispatched.started
  unfold processDoneCmd
  split
  · exact dispatched.holds.within
  rename_i exact256
  have numRead : thread.numRead = 256 := not_not.mp exact256
  dsimp only
  cases decoded : decodeUpTo { thread with off := thread.off + 1 }
      (thread.oldOffset + kMaxDone) (decodeDone thread.threadProtocolVersion) with
  | mk done after =>
    obtain ⟨sameOldOffset, sameNumRead, holds, bounds⟩ := decodeUpTo_holds decoded dispatched.holds
    cases done with
    | none => exact holds.within
    | some done =>
      have longest : kMaxDone = 22 := rfl
      dsimp only at sameOldOffset sameNumRead bounds ⊢
      have received : (after.off : Int) ≤ after.oldOffset + after.numRead := by omega
      exact consumeAll_settled holds received

theorem processSizeCmd_sound :
    KeepsWindow config thread.processSizeCmd := by
  have started := dispatched.started
  have enough := dispatched.enough
  have inBuffer := dispatched.inBuffer
  unfold processSizeCmd
  cases decoded : thread.decodeUpTo (thread.oldOffset + kMaxSize) decodeSize with
  | mk size after =>
    obtain ⟨sameOldOffset, sameNumRead, holds, bounds⟩ := decodeUpTo_holds decoded dispatched.holds
    cases size with
    | none => exact holds.within
    | some totalSenderBytes =>
      have longest : kMaxSize = 11 := rfl
      have least : kMinBufLength = 256 := rfl
      refine ensures_go (consumeCmd_ready holds ?_ ?_ ?_)
      all_goals dsimp only
      all_goals omega

end

/-! ### Answers -/

theorem socketRead_settled (settled : thread.Settled) (one : (thread.socketRead 0 1).1 = 1) :
    ((thread.socketRead 0 1).2.consume ((thread.socketRead 0 1).2.buf.read 0 1)).Settled := by
  obtain ⟨bytes, arrives⟩ := thread.socketRead_arrives 0 1
  have stored := arrives.stored
  rw [one, Int.toNat_one] at stored
  unfold Settled consume
  rw [stored, arrives.consumed, arrives.delivered]
  exact congrArg (· ++ bytes) settled

theorem socketRead_cleared (cleared : thread.Cleared) (one : (thread.socketRead 0 1).1 = 1) :
    ((thread.socketRead 0 1).2.consume ((thread.socketRead 0 1).2.buf.read 0 1)).Cleared := by
  obtain ⟨bytes, arrives⟩ := thread.socketRead_arrives 0 1
  exact ⟨arrives.numRead.trans cleared.numRead, arrives.off.trans cleared.off,
    socketRead_settled cleared.settled one⟩

theorem socketRead_within (within : thread.window.Within) (start nbyte : Nat) :
    (thread.socketRead start nbyte).2.window.Within := by
  obtain ⟨bytes, arrives⟩ := thread.socketRead_arrives start nbyte
  rw [arrives.window]
  exact within.trans (List.prefix_append _ _)

theorem sendFileChunks_sound (cleared : thread.Cleared) (timeout : 0 < thread.senderReadTimeout) :
    KeepsWindow config (thread.sendFileChunks answers) := by
  have within := cleared.settled.within
  refine ensures_check (fun fails => of_decide_eq_false fails timeout) (fun _ => ?_)
  split
  · split
    · exact Cleared.ready config { cleared with }
    · exact within
  · split
    · exact { cleared with }
    · exact within
  · dsimp only
    split
    · exact within
    split
    · exact within
    have sent : ({ thread with
        buf := thread.buf.store 0 answers.chunkBytes
        threadStats := thread.threadStats.addHeaderBytes answers.chunkBytesWritten }).Cleared :=
      { cleared with }
    split
    · exact socketRead_within sent.settled.within 0 1
    · rename_i one
      exact (socketRead_cleared sent (not_not.mp one)).ready config

theorem sendGlobalCheckpoint_sound (settled : thread.Settled) :
    KeepsWindow config (thread.sendGlobalCheckpoint config answers) := by
  unfold sendGlobalCheckpoint
  split
  · exact Cleared.ready config ⟨rfl, rfl, settled⟩
  · exact settled.within

theorem sendAbortCmd_sound (within : thread.window.Within) :
    KeepsWindow config thread.sendAbortCmd := by
  unfold sendAbortCmd
  dsimp only
  split
  · exact within
  · exact within

theorem markReceivedBlocksVerified_window (thread : ReceiverThread) :
    thread.markReceivedBlocksVerified.window = thread.window :=
  foldl_markBlockVerified_window thread.blocksWaitingVerification thread

theorem sendDoneCmd_sound (settled : thread.Settled) :
    KeepsWindow config (thread.sendDoneCmd answers) := by
  unfold sendDoneCmd
  dsimp only
  split
  · exact settled.within
  have sent : ({ thread with
      buf := thread.buf.store 0 [doneCmd]
      threadStats := thread.threadStats.addHeaderBytes 1 }).Settled := settled
  split
  · exact socketRead_within sent.within 0 1
  rename_i answered
  split
  · exact socketRead_within sent.within 0 1
  have one := not_not.mp (not_or.mp answered).1
  have taken := socketRead_settled sent one
  change Within _
  rw [show ∀ (final : ReceiverThread) (code : ErrorCode),
    (final.fail code .ended).1.window = final.window from fun _ _ => rfl]
  rw [markReceivedBlocksVerified_window]
  exact taken.within

theorem finishWithError_sound (within : thread.window.Within)
    (failed : thread.threadStats.localErrCode ≠ .ok) :
    KeepsWindow config thread.finishWithError := by
  refine ensures_check (fun fails => of_decide_eq_false fails failed) (fun _ => ?_)
  exact within

theorem waitForFinish_sound (settled : thread.Settled)
    (noError : thread.threadStats.localErrCode = .ok) :
    KeepsWindow config thread.waitForFinish := by
  refine ensures_check (fun fails => of_decide_eq_false fails noError) (fun _ => ?_)
  exact settled

theorem checkForFinishOrNewCheckpoints_sound (settled : thread.Settled) {stay : ReceiverState}
    (stays : stay = .recheckForFinish ∨ stay = .sendWait) :
    WindowSound config (thread.checkForFinishOrNewCheckpoints answers stay) := by
  unfold checkForFinishOrNewCheckpoints
  split
  · exact settled
  split
  · rcases stays with rfl | rfl
    · exact settled
    · exact settled
  · exact settled

theorem sendWait_sound (settled : thread.Settled) :
    KeepsWindow config (thread.sendWait answers) := by
  unfold sendWait
  split
  · exact settled
  · exact settled.within

end ReceiverThread

/-- The states that need the timeout of a SETTINGS command. -/
def timedStates : List ReceiverState :=
  [.sendFileChunks, .waitForFinish, .checkForFinish, .recheckForFinish, .sendWait]

structure TiesSound (state : ReceiverState) (ties : ReceiverTies) : Prop where
  failed : state = .finishWithError ∨ state = .sendAbortCmd → ties.localErrCode ≠ .ok
  working : state ∉ connectionlessStates → ties.localErrCode = .ok
  timed : state ∈ timedStates → 0 < ties.senderReadTimeout

section Ties

variable {config : ReceiverConfig} {answers : ReceiverAnswers} {state next : ReceiverState}
  {ties after : ReceiverTies} {events : List ReceiverEvent}

private theorem quiet_timed (successor : next ∈ quietSuccessors state)
    (timed : next ∈ timedStates) : state ∈ timedStates := by
  revert successor timed
  cases state <;> cases next <;> decide

private theorem quiet_working (successor : next ∈ quietSuccessors state)
    (serving : next ∉ connectionlessStates) : state ∉ connectionlessStates :=
  fun connectionless => serving (quiet_connectionless successor connectionless)

private theorem quiet_failed (successor : next ∈ quietSuccessors state)
    (fails : next = .finishWithError ∨ next = .sendAbortCmd) : state = .sendAbortCmd := by
  revert successor fails
  cases state <;> cases next <;> decide

theorem tiesSound_of_failed (isError : after.localErrCode ≠ .ok)
    (connectionless : next ∈ connectionlessStates) : TiesSound next after := by
  refine ⟨fun _ => isError, fun serving => (serving connectionless).elim, fun timed => ?_⟩
  exfalso
  revert connectionless timed
  cases next <;> decide

theorem TiesSound.serve (sound : TiesSound state ties) (serving : state ∉ connectionlessStates)
    (servingNext : next ∉ connectionlessStates) (sameError : after.localErrCode = ties.localErrCode)
    (timed : next ∈ timedStates → 0 < after.senderReadTimeout) : TiesSound next after := by
  refine ⟨fun fails => ?_, fun _ => sameError.trans (sound.working serving), timed⟩
  rcases fails with rfl | rfl
  · exact (servingNext (by decide)).elim
  · exact (servingNext (by decide)).elim

theorem SkeletonStep.tiesSound (moves : SkeletonStep config answers state ties events next after)
    (sound : TiesSound state ties) (done : state = .processDoneCmd → 0 < ties.senderReadTimeout)
    (chunks : state = .processSettingsCmd → next = .sendFileChunks → 0 < after.senderReadTimeout) :
    TiesSound next after := by
  cases moves with
  | quiet successor _ =>
    exact ⟨fun fails => sound.failed (.inr (quiet_failed successor fails)),
      fun serving => sound.working (quiet_working successor serving),
      fun timed => sound.timed (quiet_timed successor timed)⟩
  | fails _ isError failure _ _ | givenUpFile isError failure _ _ =>
    exact tiesSound_of_failed isError (failure_connectionless failure)
  | aborts => exact tiesSound_of_failed (by simp [ReceiverTies.failed]) (by decide)
  | firstConnection =>
    exact ⟨by simp, fun _ => rfl, by simp [timedStates]⟩
  | otherThreadStarted | ends _ | finishedWithError | deRegistered =>
    exact ⟨by simp, by simp [connectionlessStates], by simp [timedStates]⟩
  | noFirstConnection isError | nonRetryable isError | acceptFails isError | waitFails isError =>
    exact tiesSound_of_failed isError (by decide)
  | accepted successor =>
    rcases successor with rfl | rfl
    · exact ⟨by simp, fun _ => rfl, by simp [timedStates]⟩
    · exact ⟨by simp, fun _ => rfl, by simp [timedStates]⟩
  | sentLocalCheckpoint | receivedFile _ _ | sentGlobalCheckpoints | finishes =>
    exact sound.serve (by decide) (by decide) rfl (by simp [timedStates])
  | settings _ successor =>
    rcases successor with rfl | rfl
    · exact sound.serve (by decide) (by decide) rfl (fun _ => chunks rfl rfl)
    · exact sound.serve (by decide) (by decide) rfl (by simp [timedStates])
  | done => exact sound.serve (by decide) (by decide) rfl (fun _ => done rfl)
  | waits =>
    exact sound.serve (by decide) (by decide) rfl (fun _ => sound.timed (by decide))
  | newCheckpoints checks _ | decides checks _ _ =>
    rcases checks with rfl | rfl
    · exact sound.serve (by decide) (by decide) rfl (by simp [timedStates])
    · exact sound.serve (by decide) (by decide) rfl (by simp [timedStates])

end Ties

/-! ### Runs -/

namespace ReceiverThread

variable {config : ReceiverConfig} {answers : ReceiverAnswers} {thread : ReceiverThread}
  {state : ReceiverState}

theorem stateFunction_sound (windowSound : WindowSound config (thread, state))
    (tiesSound : TiesSound state thread.ties) (guarded : Guarded config (thread, state)) :
    KeepsWindow config (thread.stateFunction config answers state) := by
  cases state with
  | listen => exact listen_sound windowSound
  | acceptFirstConnection => exact acceptFirstConnection_sound windowSound
  | acceptWithTimeout => exact acceptWithTimeout_sound windowSound guarded
  | sendLocalCheckpoint => exact sendLocalCheckpoint_sound windowSound
  | readNextCmd => exact readNextCmd_sound windowSound guarded
  | processFileCmd =>
    refine (processFileCmd_safely answers.file windowSound.1 guarded.1 guarded.2).mono
      (fun _ => id) (fun answer left => ?_) (fun answer went => ?_)
    · exact windowSound_of_failure left.1 left.2
    · obtain ⟨ready, next⟩ := went
      obtain ⟨after, state⟩ := answer
      rw [show state = .readNextCmd from next]
      exact ready
  | processSettingsCmd =>
    exact (processSettingsCmd_sound windowSound.1 guarded).mono (fun _ => id)
      (fun _ sound => sound.window) (fun _ sound => sound.window)
  | processDoneCmd => exact processDoneCmd_sound windowSound.1
  | processSizeCmd => exact processSizeCmd_sound windowSound.1
  | sendFileChunks => exact sendFileChunks_sound windowSound (tiesSound.timed (by decide))
  | sendGlobalCheckpoints => exact sendGlobalCheckpoint_sound windowSound
  | sendDoneCmd => exact sendDoneCmd_sound windowSound
  | sendAbortCmd => exact sendAbortCmd_sound windowSound
  | waitForFinish => exact waitForFinish_sound windowSound (tiesSound.working (by decide))
  | checkForFinish =>
    have timeout : 0 < thread.senderReadTimeout := tiesSound.timed (by decide)
    refine ensures_check (fun fails => of_decide_eq_false fails timeout) (fun _ => ?_)
    exact checkForFinishOrNewCheckpoints_sound windowSound (.inl rfl)
  | recheckForFinish =>
    exact checkForFinishOrNewCheckpoints_sound windowSound (.inr rfl)
  | decidedToFinish | ended => exact windowSound
  | sendWait => exact sendWait_sound windowSound
  | finishWithError =>
    exact finishWithError_sound windowSound (tiesSound.failed (.inl rfl))

structure Sound (config : ReceiverConfig) (current : ReceiverAnswer) : Prop where
  window : WindowSound config current
  ties : TiesSound current.2 current.1.ties

variable {current : ReceiverAnswer}

section

variable (sound : Sound config current) (guarded : Guarded config current)

include sound guarded

theorem step_windowSound {next : ReceiverAnswer} (moves : step config answers current = .ok next) :
    WindowSound config next := by
  have within := WindowSound.within sound.window
  unfold step at moves
  split at moves
  · cases moves
    exact within
  split at moves
  · cases moves
    exact within
  · exact (stateFunction_sound sound.window sound.ties guarded).of_settle_ok moves

theorem step_chunks {next : ReceiverAnswer} (moves : step config answers current = .ok next)
    (settings : current.2 = .processSettingsCmd) (chunks : next.2 = .sendFileChunks) :
    0 < next.1.senderReadTimeout := by
  obtain ⟨thread, state⟩ := current
  rw [show state = .processSettingsCmd from settings] at sound guarded moves
  unfold step at moves
  split at moves
  · rename_i ended
    cases ended
  split at moves
  · cases moves
    cases chunks
  · exact ((processSettingsCmd_sound sound.window.1 guarded).of_settle_ok moves).timed chunks

end

theorem Sound.step {current next : ReceiverAnswer} (sound : Sound config current)
    (guarded : Guarded config current)
    (moves : ReceiverThread.step config answers current = .ok next) : Sound config next := by
  refine ⟨step_windowSound sound guarded moves, ?_⟩
  obtain ⟨events, _, simulated⟩ := step_simulates moves
  refine simulated.tiesSound sound.ties (fun done => ?_) (step_chunks sound guarded moves)
  obtain ⟨thread, state⟩ := current
  rw [show state = .processDoneCmd from done] at guarded
  exact guarded

theorem sound_listen (fresh : thread.connection = {}) : Sound config (thread, .listen) := by
  refine ⟨?_, ⟨by simp, by simp [connectionlessStates], by simp [timedStates]⟩⟩
  change Within _
  unfold window
  rw [fresh]
  exact List.prefix_refl _

def failedCheck (answer : Except WdtCheck ReceiverAnswer) : Option WdtCheck :=
  match answer with
  | .error reason => some reason
  | .ok _ => none

end ReceiverThread

end Wdt
