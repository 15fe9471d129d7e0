/-
One connection of a pair of threads, as its invariants see it: what accepting does to
the receiver, the message that the sender may get, and the cases of
`Pair.connection`.
-/

import Wdt.PairRounds

namespace Wdt

open ReceiverThread

/-! ### The receiver accepts -/

structure Reception.Untouched (before after : Reception) : Prop where
  sameVersion : after.version = before.version
  sameFooters : after.footerType = before.footerType
  sameCheckpoint : after.checkpoint = before.checkpoint
  sameWritten : after.written = before.written
  sameVerified : after.verified = before.verified
  noneWaiting : after.blocksWaitingVerification = []

theorem Reception.Untouched.trans {before middle after : Reception}
    (first : before.Untouched middle) (second : middle.Untouched after) :
    before.Untouched after where
  sameVersion := second.sameVersion.trans first.sameVersion
  sameFooters := second.sameFooters.trans first.sameFooters
  sameCheckpoint := second.sameCheckpoint.trans first.sameCheckpoint
  sameWritten := second.sameWritten.trans first.sameWritten
  sameVerified := second.sameVerified.trans first.sameVerified
  noneWaiting := second.noneWaiting

theorem Reception.Untouched.fail {before after : Reception} (untouched : before.Untouched after)
    (code : ErrorCode) : before.Untouched (after.fail code) :=
  { untouched with }

structure ReceiverThread.Connected (round : Round) (thread : ReceiverThread) : Prop where
  segments : thread.connection.segments = round.segments
  untagged : thread.connection.tagged = false
  noLastTag : thread.connection.lastTagVerified = false
  off : thread.off = 0
  numRead : thread.numRead = 0

structure Opened (round : Round) (before : Reception) (opened : ReceiverAnswer) : Prop where
  untouched : before.Untouched opened.1.reception
  stage : opened.2 = .acceptWithTimeout ∨ opened.2 = .readNextCmd ∧ opened.1.Connected round

section Opening

variable {setup : PairSetup} {round : Round} {thread : ReceiverThread} {opened : ReceiverAnswer}
  {message : Option (List Byte)}

theorem ReceiverThread.Connected.receiving (sound : round.Sound)
    (connected : thread.Connected round) (config : ReceiverConfig) :
    thread.Receiving config round.arrived := by
  refine ⟨⟨⟨connected.untagged, ?_, ?_, connected.noLastTag⟩, ?_, ?_⟩, ?_⟩
  · rw [connected.segments]
    exact sound.untagged
  · rw [connected.segments]
    exact sound.nonempty
  · rw [connected.off, connected.numRead]
    exact Nat.zero_le _
  · rw [connected.numRead]
    simp [Connection.coming, connected.segments, Round.arrived]
  · rw [connected.numRead]

theorem openConnection_first (noneWaiting : thread.blocksWaitingVerification = [])
    (accepted : openConnection setup.config round.answers (thread, .acceptFirstConnection) =
      .ok (opened, message)) :
    message = none ∧ Opened round
      { thread.reception with checkpoint := { port := setup.config.port } } opened := by
  have stepped : step setup.config round.answers (thread, .acceptFirstConnection) =
      .ok ((thread.reset setup.config).connect round.connection, .readNextCmd) := rfl
  unfold openConnection at accepted
  cases accepted
  refine ⟨rfl, ⟨⟨rfl, rfl, rfl, ?_, ?_, noneWaiting⟩, .inr ⟨rfl, ⟨rfl, rfl, rfl, rfl, rfl⟩⟩⟩⟩
  · simp [reception, connect, reset,
      ReceiverEvent.writtenBytes]
  · simp [reception, connect, reset,
      ReceiverEvent.verified]

theorem sendLocalCheckpoint_opens
    (withSeqId : checkpointSeqIdVersion ≤ thread.threadProtocolVersion)
    (connected : thread.Connected round) (noneWaiting : thread.blocksWaitingVerification = [])
    (sent : (thread.sendLocalCheckpoint round.answers).settle = .ok opened) :
    Opened round thread.reception opened ∧
      ∃ rest, opened.1.buf.read 0 (getMaxLocalCheckpointLength opened.1.threadProtocolVersion) =
        varU64 1 ++ checkpointFields thread.checkpoint ++ rest := by
  have encoded := encodeCheckpoints_one withSeqId thread.checkpoint
  have fits : (varU64 1 ++ checkpointFields thread.checkpoint).length ≤
      getMaxLocalCheckpointLength thread.threadProtocolVersion := by
    have count := varU64_length_le 1
    have fields := checkpointFields_length_le thread.checkpoint
    rw [getMaxLocalCheckpointLength_withSeqId withSeqId, List.length_append]
    omega
  unfold sendLocalCheckpoint at sent
  dsimp only at sent
  rw [encoded, Option.getD_some] at sent
  have message : ∃ rest, (thread.buf.store 0 (varU64 1 ++ checkpointFields thread.checkpoint)).read
      0 (getMaxLocalCheckpointLength thread.threadProtocolVersion) =
      varU64 1 ++ checkpointFields thread.checkpoint ++ rest :=
    ⟨_, Memory.read_store_longer _ _ _ fits⟩
  have same : ∀ after : ReceiverThread,
      after.connection = thread.connection → after.off = thread.off →
      after.numRead = thread.numRead → after.Connected round := by
    intro after sameConnection sameOff sameNumRead
    exact ⟨by rw [sameConnection, connected.segments], by rw [sameConnection, connected.untagged],
      by rw [sameConnection, connected.noLastTag], by rw [sameOff, connected.off],
      by rw [sameNumRead, connected.numRead]⟩
  split at sent
  · cases sent
    refine ⟨⟨⟨rfl, rfl, rfl, ?_, ?_, noneWaiting⟩, .inr ⟨rfl, same _ rfl rfl rfl⟩⟩, message⟩
    · simp [reception, ReceiverEvent.writtenBytes]
    · simp [reception, ReceiverEvent.verified]
  · cases sent
    exact ⟨⟨⟨rfl, rfl, rfl, rfl, rfl, noneWaiting⟩, .inl rfl⟩, message⟩

theorem openConnection_again (withSeqId : checkpointSeqIdVersion ≤ thread.threadProtocolVersion)
    (accepted : openConnection setup.config round.answers (thread, .acceptWithTimeout) =
      .ok (opened, message)) :
    Opened round thread.reception opened ∧
      ∀ bytes, message = some bytes →
        ∃ rest, bytes = varU64 1 ++ checkpointFields thread.checkpoint ++ rest := by
  -- behind ACCEPT_WITH_TIMEOUT
  obtain ⟨waiting, isWaiting⟩ : ∃ waiting : ReceiverThread, waiting =
      (({ ({ thread with
            blocksWaitingVerification := []
            curConnectionVerified := false }).connect round.connection with
          numRead := 0
          off := 0
          pendingCheckpointIndex := thread.checkpointIndex }).setLocalErrorCode .ok) := ⟨_, rfl⟩
  have connected : waiting.Connected round := by
    rw [isWaiting]
    exact ⟨rfl, rfl, rfl, rfl, rfl⟩
  have untouched : thread.reception.Untouched waiting.reception := by
    rw [isWaiting]
    refine ⟨rfl, rfl, rfl, ?_, ?_, rfl⟩
    · simp [reception, connect, setLocalErrorCode,
        ReceiverEvent.writtenBytes]
    · simp [reception, connect, setLocalErrorCode,
        ReceiverEvent.verified]
  have stepped : step setup.config round.answers (thread, .acceptWithTimeout) =
      if decide ((0 : Int) < thread.acceptTimeout setup.config) = true then
        .ok (waiting, if thread.threadStats.localErrCode ≠ .ok then .sendLocalCheckpoint
          else .readNextCmd)
      else .error .timeoutPositive := by
    rw [isWaiting]
    exact apply_ite Outcome.settle _ _ _
  unfold openConnection at accepted
  rw [stepped] at accepted
  by_cases timely : decide ((0 : Int) < thread.acceptTimeout setup.config) = true
  swap
  · rw [if_neg timely] at accepted
    cases accepted
  rw [if_pos timely] at accepted
  by_cases failed : thread.threadStats.localErrCode ≠ .ok
  · rw [if_pos failed] at accepted
    dsimp only at accepted
    cases sending : step setup.config round.answers
        (waiting, .sendLocalCheckpoint) <;> rw [sending] at accepted <;> cases accepted
    obtain ⟨opens, rest, bytes⟩ := sendLocalCheckpoint_opens
      (withSeqId.trans_eq untouched.sameVersion.symm) connected untouched.noneWaiting sending
    have sameCheckpoint : waiting.checkpoint = thread.checkpoint := untouched.sameCheckpoint
    rw [sameCheckpoint] at bytes
    refine ⟨⟨untouched.trans opens.untouched, opens.stage⟩, fun message isSent => ?_⟩
    split at isSent <;> cases isSent
    exact ⟨rest, bytes⟩
  · rw [if_neg failed] at accepted
    cases accepted
    exact ⟨⟨untouched, .inr ⟨rfl, connected⟩⟩, fun bytes none => by cases none⟩

end Opening

/-! ### The receiver serves -/

section Serving

variable {setup : PairSetup} {round : Round} {opened final : ReceiverAnswer} {before : Reception}

/-- Where a connection leaves the receiver. -/
structure Round.Left (setup : PairSetup) (round : Round) (before : Reception)
    (taken : List ByteSource) (final : ReceiverAnswer) : Prop where
  state : final.2 = .acceptWithTimeout ∨ final.2 = .waitForFinish
  received : before.Untouched final.1.reception ∨
    kMinBufLength ≤ round.arrived.length ∧ ∃ verified unverified last,
      taken = verified ++ unverified ∧
      Arrival setup.version (before.configure setup.settings) final.1.reception
        (verified.map (ByteSource.command setup.files round.status))
        (unverified.map (ByteSource.command setup.files round.status)) last

theorem serves_round (setupSound : setup.Sound) (sound : round.Sound) {taken : List ByteSource}
    (within : ∀ source ∈ taken, source.Within setup.files)
    (fit : ∀ source ∈ taken, setup.headerLength source ≤ kMinBufLength)
    (opens : Opened round before opened) (sameVersion : before.version = setup.version)
    (isPrefix : round.arrived <+: round.stream setup taken)
    (serves : ReceiverThread.Serves setup.config round.answers opened final) :
    Round.Left setup round opened.1.reception taken final := by
  obtain ⟨thread, state⟩ := opened
  have unchanged : thread.reception.Untouched thread.reception :=
    ⟨rfl, rfl, rfl, rfl, rfl, opens.untouched.noneWaiting⟩
  rcases opens.stage with failed | ⟨ready, connected⟩
  · change state = _ at failed
    subst failed
    have same := serves.eq_of_stopped rfl
    subst same
    exact ⟨.inl rfl, .inl unchanged⟩
  change state = _ at ready
  subst ready
  have stream := round.frames_stream setupSound sound within fit
  have small := stream.small
  have large := setup.config.bufSize_ge
  have least : kMinBufLength = 256 := rfl
  have version : thread.threadProtocolVersion = setup.version :=
    opens.untouched.sameVersion.trans sameVersion
  have off : thread.off = 0 := connected.off
  have succeed : round.answers.file.Succeed := sound.file
  obtain ⟨after, served, reception⟩ := receiveFrames_serves rfl succeed
    setupSound.writes (round.frames setup taken) stream version
    (connected.receiving sound setup.config) (by rw [off]; omega) isPrefix
  have same := serves.unique served
  subst same
  refine ⟨Reception.receiveFrames_state _ _ _ _, ?_⟩
  rcases round.arrives thread.reception stream isPrefix with nothing | arrival
  · rw [← reception] at nothing
    left
    change thread.reception.Untouched after.reception
    rw [nothing]
    exact unchanged.fail _
  · rw [← reception] at arrival
    exact .inr arrival

section

variable {thread : ReceiverThread} (noneWaiting : thread.blocksWaitingVerification = [])

include noneWaiting

theorem markReceivedBlocksVerified_none : thread.markReceivedBlocksVerified = thread := by
  unfold markReceivedBlocksVerified
  rw [noneWaiting, List.foldl_nil, ← noneWaiting]

theorem socketRead_untouched (start nbyte : Nat) :
    thread.reception.Untouched (thread.socketRead start nbyte).2.reception := by
  have verified : ∀ tag, thread.tagVerification tag = thread := by
    intro tag
    unfold tagVerification
    rw [markReceivedBlocksVerified_none noneWaiting, ite_self]
  unfold socketRead
  split
  · rw [verified]
    exact ⟨rfl, rfl, rfl, rfl, rfl, noneWaiting⟩
  · rw [verified]
    exact ⟨rfl, rfl, rfl, rfl, rfl, noneWaiting⟩

theorem sendDoneCmd_untouched {answers : ReceiverAnswers} {next : ReceiverAnswer}
    (sent : (thread.sendDoneCmd answers).settle = .ok next) :
    thread.reception.Untouched next.1.reception ∧
      (next.2 = .acceptWithTimeout ∨ next.2 = .ended) := by
  unfold sendDoneCmd at sent
  dsimp only at sent
  split at sent
  · cases sent
    exact ⟨⟨rfl, rfl, rfl, rfl, rfl, noneWaiting⟩, .inl rfl⟩
  have read := socketRead_untouched
    (show ({ thread with
      buf := thread.buf.store 0 [doneCmd]
      threadStats := thread.threadStats.addHeaderBytes 1 }).blocksWaitingVerification = []
      from noneWaiting) 0 1
  cases result : ({ thread with
      buf := thread.buf.store 0 [doneCmd]
      threadStats := thread.threadStats.addHeaderBytes 1 }).socketRead 0 1 with
  | mk count after =>
    rw [result] at sent read
    have untouched : thread.reception.Untouched after.reception := { read with }
    have noBlocks : (after.consume (after.buf.read 0 1)).blocksWaitingVerification = [] :=
      read.noneWaiting
    rw [markReceivedBlocksVerified_none noBlocks] at sent
    split at sent
    · cases sent
      exact ⟨untouched.fail _, .inl rfl⟩
    · split at sent <;> cases sent
      · exact ⟨untouched.fail _, .inl rfl⟩
      · exact ⟨untouched.fail _, .inr rfl⟩

theorem waiting_untouched {config : ReceiverConfig} {answers : ReceiverAnswers}
    {state : ReceiverState} {next : ReceiverAnswer} (waits : state.waits = true)
    (running : answers.aborted = false) (unpublished : answers.published = [])
    (stepped : step config answers (thread, state) = .ok next) :
    thread.reception.Untouched next.1.reception ∧
      (next.2.waits = true ∨ next.2 = .acceptWithTimeout ∨ next.2 = .ended) := by
  have unchanged : thread.reception.Untouched thread.reception :=
    ⟨rfl, rfl, rfl, rfl, rfl, noneWaiting⟩
  have checks : ∀ stay : ReceiverState, stay.waits = true → thread.reception.Untouched
          (thread.checkForFinishOrNewCheckpoints answers stay).1.reception ∧
        (thread.checkForFinishOrNewCheckpoints answers stay).2.waits = true := by
    intro stay stayWaits
    unfold checkForFinishOrNewCheckpoints
    rw [unpublished, if_neg (by simp)]
    split
    · exact ⟨unchanged, stayWaits⟩
    · exact ⟨unchanged, rfl⟩
  have ran : (thread.stateFunction config answers state).settle = .ok next := by
    unfold step at stepped
    rw [running] at stepped
    cases state with
    | ended => cases waits
    | _ => exact stepped
  cases state with
  | waitForFinish =>
    change (Outcome.check _ _ _ : Handler ReceiverAnswer).settle = _ at ran
    unfold Outcome.check at ran
    split at ran <;> cases ran
    exact ⟨unchanged, .inl rfl⟩
  | checkForFinish =>
    change (Outcome.check _ _ _ : Handler ReceiverAnswer).settle = _ at ran
    unfold Outcome.check at ran
    split at ran <;> cases ran
    exact ⟨(checks _ rfl).1, .inl (checks _ rfl).2⟩
  | recheckForFinish =>
    cases ran
    exact ⟨(checks _ rfl).1, .inl (checks _ rfl).2⟩
  | decidedToFinish =>
    cases ran
    exact ⟨unchanged, .inl rfl⟩
  | sendWait =>
    change (thread.sendWait answers).settle = _ at ran
    unfold ReceiverThread.sendWait at ran
    split at ran <;> cases ran
    · exact ⟨unchanged, .inl rfl⟩
    · exact ⟨unchanged.fail _, .inr (.inl rfl)⟩
  | sendDoneCmd =>
    obtain ⟨untouched, left⟩ := sendDoneCmd_untouched noneWaiting ran
    exact ⟨untouched, .inr left⟩
  | _ => cases waits

end

end Serving

namespace Pair

inductive Connects (setup : PairSetup) (round : Round) (pair : Pair) : Pair → Prop
  | lost (waits : pair.reconnecting = true) : Connects setup round pair pair
  | unseen {taken sent} (first : pair.reconnecting = false)
      (sends : pair.send round = some (taken, sent)) : Connects setup round pair sent
  | idle {opened final message ended} (accepts : pair.accepts = true)
      (opens : openConnection setup.config round.answers pair.receiver = .ok (opened, message))
      (waits : pair.resume setup round = none) (nothing : round.arrived = [])
      (serves : ReceiverThread.Serves setup.config round.answers opened final) :
      Connects setup round pair { pair with ended := ended, receiver := final }
  | sending {opened final message resumed sent taken} (accepts : pair.accepts = true)
      (opens : openConnection setup.config round.answers pair.receiver = .ok (opened, message))
      (resumes : pair.resume setup round = some resumed)
      (sends : resumed.send round = some (taken, sent))
      (isPrefix : round.arrived <+: round.stream setup taken)
      (serves : ReceiverThread.Serves setup.config round.answers opened final) :
      Connects setup round pair { sent with receiver := final }

variable {setup : PairSetup} {round : Round} {pair after : Pair}

theorem receive_serves {opened : ReceiverAnswer} {stream : List Byte}
    (received : pair.receive setup round opened stream = some after) :
    round.arrived <+: stream ∧ ∃ final,
      ReceiverThread.Serves setup.config round.answers opened final ∧
      after = { pair with receiver := final } := by
  obtain ⟨isPrefix, received⟩ := Option.ite_none_right_eq_some.mp received
  split at received
  · rename_i final served
    obtain ⟨stopped, received⟩ := Option.ite_none_left_eq_some.mp received
    cases received
    exact ⟨List.isPrefixOf_iff_prefix.mp isPrefix, final,
      ⟨round.rounds, served, Bool.eq_false_iff.mpr stopped⟩, rfl⟩
  · cases received

theorem connection_connects (connected : pair.connection setup round = some after) :
    Connects setup round pair after := by
  obtain ⟨-, connected⟩ := Option.ite_none_left_eq_some.mp connected
  split at connected
  · obtain ⟨accepts, connected⟩ := Option.ite_none_right_eq_some.mp connected
    split at connected
    · cases connected
    rename_i opened message opens
    cases resumes : pair.resume setup round <;> rw [resumes] at connected
    · obtain ⟨isPrefix, final, serves, rfl⟩ := receive_serves connected
      exact .idle accepts opens resumes (List.prefix_nil.mp isPrefix) serves
    · obtain ⟨⟨taken, sent⟩, sends, received⟩ := Option.bind_eq_some_iff.mp connected
      obtain ⟨isPrefix, final, serves, rfl⟩ := receive_serves received
      exact .sending accepts opens resumes sends isPrefix serves
  · split at connected
    · rename_i waits
      cases connected
      exact .lost waits
    · rename_i first
      obtain ⟨⟨taken, sent⟩, sends, rfl⟩ := Option.map_eq_some_iff.mp connected
      exact .unseen (Bool.eq_false_iff.mpr first) sends

theorem send_eq {taken : List ByteSource} (sends : pair.send round = some (taken, after)) :
    ∃ left, takeSources round.positions pair.queue = some (taken, left) ∧
      after = { pair with
        queue := left
        history := pair.history.addSources taken
        reconnecting := true } := by
  obtain ⟨⟨first, left⟩, took, same⟩ := Option.map_eq_some_iff.mp sends
  cases same
  exact ⟨left, took, rfl⟩

theorem resume_reconnecting (waits : pair.reconnecting = true)
    (resumes : pair.resume setup round = some after) :
    ∃ checkpoint code history returned,
      pair.exchange setup round = some (checkpoint, code, history, returned) ∧
      code ≠ .invalidCheckpoint ∧
      after = { pair with history := history, queue := pair.queue ++ returned } := by
  unfold resume at resumes
  rw [if_pos waits] at resumes
  unfold exchange
  cases message : pair.checkpointBytes setup round <;> rw [message] at resumes
  · cases resumes
  dsimp only at resumes
  split at resumes
  · cases resumes
  rename_i checkpoint code history returned read
  obtain ⟨accepted, resumes⟩ := Option.ite_none_left_eq_some.mp resumes
  cases resumes
  exact ⟨checkpoint, code, history, returned, read, accepted, rfl⟩

theorem checkpointBytes_opens {bytes : List Byte}
    (message : pair.checkpointBytes setup round = some bytes) :
    pair.accepts = true ∧ ∃ opened,
      openConnection setup.config round.answers pair.receiver = .ok (opened, some bytes) := by
  obtain ⟨gates, message⟩ := Option.ite_none_right_eq_some.mp message
  simp only [Bool.and_eq_true] at gates
  split at message
  · rename_i opened sent opens
    exact ⟨gates.2, opened, message ▸ opens⟩
  · cases message

end Pair

end Wdt
