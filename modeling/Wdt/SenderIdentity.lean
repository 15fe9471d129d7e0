/-
Which commands a receiver thread acts on. A FILE command that touches the directory
and a DONE command that is accepted should come from a sender that has shown the
transfer id on the same connection. The thread keeps a flag for this and does not look
at it when it dispatches a command.
-/

import Wdt.ReceiverSkeleton

namespace Wdt

open ReceiverEvent

/-- What only an identified sender may cause. -/
def ReceiverEvent.ActsForSender : ReceiverEvent → Prop
  | .file _ => True
  | .acceptedDoneCmd => True
  | _ => False

theorem ReceiverEvent.OfTag.not_actsForSender {event : ReceiverEvent} (ofTag : event.OfTag) :
    ¬ event.ActsForSender := by
  cases event <;> simp_all [OfTag, ActsForSender]

/-- A SETTINGS command with an agreed version and the transfer id was accepted, and no new
connection since. -/
def SenderIdentified (config : ReceiverConfig) (earlier : List ReceiverEvent) : Prop :=
  ∃ before version settings after,
    earlier = before ++ .acceptedSettings version version settings :: after ∧
      settings.transferId = config.transferId ∧ ReceiverEvent.acceptedConnection ∉ after

/-- Whatever acts for a sender comes behind its SETTINGS on the same connection. -/
def OnlyIdentifiedActs (config : ReceiverConfig) (trace : List ReceiverEvent) : Prop :=
  ∀ earlier event later, trace = earlier ++ event :: later → event.ActsForSender →
    SenderIdentified config earlier

section Traces

variable {config : ReceiverConfig} {trace events : List ReceiverEvent}

theorem SenderIdentified.append (identified : SenderIdentified config trace)
    (sameConnection : acceptedConnection ∉ events) : SenderIdentified config (trace ++ events) := by
  obtain ⟨before, version, settings, after, shape, sameId, noConnection⟩ := identified
  refine ⟨before, version, settings, after ++ events, ?_, sameId, ?_⟩
  · rw [shape]
    simp
  · simp [noConnection, sameConnection]

theorem onlyIdentifiedActs_nil : OnlyIdentifiedActs config [] := by
  intro earlier event later shape
  simp at shape

section

variable (acts : OnlyIdentifiedActs config trace)

include acts

theorem OnlyIdentifiedActs.snoc {event : ReceiverEvent}
    (identified : event.ActsForSender → SenderIdentified config trace) :
    OnlyIdentifiedActs config (trace ++ [event]) := by
  intro earlier found later shape actsFound
  rcases List.eq_nil_or_concat later with rfl | ⟨front, last, rfl⟩
  · have same := List.append_inj' shape rfl
    rw [← same.1]
    have sameEvent : event = found := by simpa using same.2
    exact identified (sameEvent ▸ actsFound)
  have longer : trace ++ [event] = (earlier ++ found :: front) ++ [last] := by
    rw [shape]
    simp
  have same := List.append_inj' longer rfl
  exact acts earlier found front same.1 actsFound

theorem OnlyIdentifiedActs.append (sameConnection : acceptedConnection ∉ events)
    (identified : ∀ event ∈ events, event.ActsForSender → SenderIdentified config trace) :
    OnlyIdentifiedActs config (trace ++ events) := by
  induction events generalizing trace with
  | nil => simpa using acts
  | cons event rest ih =>
    have first := acts.snoc (identified event List.mem_cons_self)
    have noConnection : acceptedConnection ∉ [event] ∧
        acceptedConnection ∉ rest := by
      simpa [not_or] using sameConnection
    have others := ih first noConnection.2 (fun other member actsOther =>
      (identified other (List.mem_cons_of_mem _ member) actsOther).append noConnection.1)
    simpa using others

theorem OnlyIdentifiedActs.append_idle (idle : ∀ event ∈ events, ¬ event.ActsForSender) :
    OnlyIdentifiedActs config (trace ++ events) := by
  induction events generalizing trace with
  | nil => simpa using acts
  | cons event rest ih =>
    have first := acts.snoc (fun actsEvent => absurd actsEvent (idle event List.mem_cons_self))
    have others := ih first (List.forall_mem_cons.mp idle).2
    simpa using others

end

end Traces

/-! ### The flag -/

/-- While a connection is served, the flag tells that its sender is identified. -/
structure FlagIdentifies (config : ReceiverConfig) (state : ReceiverState) (ties : ReceiverTies)
    (trace : List ReceiverEvent) : Prop where
  acts : OnlyIdentifiedActs config trace
  verified : ties.curConnectionVerified = true → state ∉ connectionlessStates →
    SenderIdentified config trace

/-- The condition that the source does not test: the flag is set when a FILE or DONE command is
dispatched. -/
def FlagTested (state : ReceiverState) (ties : ReceiverTies) : Prop :=
  state = .processFileCmd ∨ state = .processDoneCmd → ties.curConnectionVerified = true

section Steps

variable {config : ReceiverConfig} {answers : ReceiverAnswers} {state next : ReceiverState}
  {ties after : ReceiverTies} {trace events : List ReceiverEvent}

private theorem fileEvents_sameConnection {early late : List ReceiverEvent} {block : BlockDetails}
    (earlyEvents : ∀ event ∈ early, event.OfBlock)
    (lateEvents : ∀ event ∈ late, event.OfBlock) :
    ReceiverEvent.acceptedConnection ∉ early ++ .acceptedFileCmd block :: late := by
  have noneEarly := ofBlocks_sameConnection earlyEvents
  have noneLate := ofBlocks_sameConnection lateEvents
  simp [noneEarly, noneLate]

section

variable (holds : FlagIdentifies config state ties trace)

include holds

theorem FlagIdentifies.identified (tested : FlagTested state ties)
    (dispatched : state = .processFileCmd ∨ state = .processDoneCmd) :
    SenderIdentified config trace := by
  refine holds.verified (tested dispatched) ?_
  rcases dispatched with rfl | rfl
  · decide
  · decide

theorem FlagIdentifies.idle (idle : ∀ event ∈ events, ¬ event.ActsForSender)
    (flag : after.curConnectionVerified = true → next ∉ connectionlessStates →
      ties.curConnectionVerified = true ∧ state ∉ connectionlessStates ∧
        acceptedConnection ∉ events) :
    FlagIdentifies config next after (trace ++ events) := by
  refine ⟨holds.acts.append_idle idle, fun verified serving => ?_⟩
  obtain ⟨before, served, sameConnection⟩ := flag verified serving
  exact (holds.verified before served).append sameConnection

theorem FlagIdentifies.dispatch (tested : FlagTested state ties)
    (dispatched : state = .processFileCmd ∨ state = .processDoneCmd)
    (sameConnection : acceptedConnection ∉ events) :
    FlagIdentifies config next after (trace ++ events) := by
  have identified := holds.identified tested dispatched
  exact ⟨holds.acts.append sameConnection (fun _ _ _ => identified),
    fun _ _ => identified.append sameConnection⟩

end

theorem SkeletonStep.flagIdentifies
    (moves : SkeletonStep config answers state ties events next after)
    (holds : FlagIdentifies config state ties trace) (tested : FlagTested state ties) :
    FlagIdentifies config next after (trace ++ events) := by
  have nothing : ∀ event ∈ ([] : List ReceiverEvent), ¬ event.ActsForSender := by simp
  cases moves with
  | quiet successor ofTags =>
    refine holds.idle (fun event member => (ofTags event member).not_actsForSender) ?_
    intro verified serving
    exact ⟨verified, fun connectionless => serving (quiet_connectionless successor connectionless),
      ofTags_sameConnection ofTags⟩
  | fails fallible isError failure ofBlocks ofTags =>
    by_cases file : state = .processFileCmd
    · exact holds.dispatch tested (.inl file) (ofBlocks_sameConnection ofBlocks)
    refine holds.idle (fun event member => (ofTags file event member).not_actsForSender) ?_
    intro _ serving
    refine (serving ?_).elim
    revert failure
    cases next <;> decide
  | aborts | otherThreadStarted | noFirstConnection isError | nonRetryable _ | acceptFails _
    | waitFails isError | finishedWithError | deRegistered =>
    exact holds.idle nothing (fun _ serving => (serving (by decide)).elim)
  | firstConnection | accepted successor =>
    refine holds.idle (by simp [ReceiverEvent.ActsForSender]) ?_
    intro verified _
    cases verified
  | sentLocalCheckpoint | sentGlobalCheckpoints =>
    exact holds.idle (by simp [ReceiverEvent.ActsForSender])
      (fun verified _ => ⟨verified, by decide, by simp⟩)
  | settings identified successor =>
    refine ⟨holds.acts.append_idle (by simp [ReceiverEvent.ActsForSender]), fun _ _ => ?_⟩
    exact ⟨trace, _, _, [], rfl, identified, by simp⟩
  | givenUpFile isError failure earlyEvents lateEvents | receivedFile earlyEvents lateEvents =>
    exact holds.dispatch tested (.inl rfl) (fileEvents_sameConnection earlyEvents lateEvents)
  | done => exact holds.dispatch tested (.inr rfl) (by simp)
  | waits | finishes => exact holds.idle nothing (fun verified _ => ⟨verified, by decide, by simp⟩)
  | newCheckpoints checks _ | decides checks _ _ =>
    refine holds.idle nothing (fun verified _ => ⟨verified, ?_, by simp⟩)
    rcases checks with rfl | rfl <;> decide
  | ends ofTags =>
    exact holds.idle (fun event member => (ofTags event member).not_actsForSender)
      (fun _ serving => (serving (by decide)).elim)

end Steps

/-- In every run from LISTEN on in which the flag is set whenever a FILE or DONE command is
dispatched, only an identified sender writes or finishes. -/
theorem only_identified_sender_acts (config : ReceiverConfig) (thread : ReceiverThread)
    (fresh : thread.trace = []) {reached : ReceiverAnswer}
    (run : Transition.Path (ReceiverRound config)
      (fun current _ => FlagTested current.2 current.1.ties) (thread, .listen) reached) :
    OnlyIdentifiedActs config reached.1.trace := by
  have invariant : FlagIdentifies config reached.2 reached.1.ties reached.1.trace := by
    apply run.invariant
      (fun current => FlagIdentifies config current.2 current.1.ties current.1.trace)
    · have listening : ReceiverState.listen ∈ connectionlessStates := by decide
      refine ⟨?_, fun _ serving => (serving listening).elim⟩
      rw [fresh]
      exact onlyIdentifiedActs_nil
    · intro current answers next holds tested moves
      obtain ⟨events, extended, simulated⟩ := ReceiverThread.step_simulates moves
      rw [extended]
      exact simulated.flagIdentifies holds tested
  exact invariant.acts

instance (state : ReceiverState) (ties : ReceiverTies) : Decidable (FlagTested state ties) :=
  inferInstanceAs (Decidable (_ ∨ _ → _))

theorem only_identified_sender_acts_settings :
    ∃ reached, Transition.Path (ReceiverRound sampleConfig)
        (fun current _ => FlagTested current.2 current.1.ties) (sampleThread, .listen) reached ∧
      ReceiverEvent.file (.wrote [0x61] 0 [0x78]) ∈ reached.1.trace ∧
      OnlyIdentifiedActs sampleConfig reached.1.trace := by
  have computed : (receiverRun sampleConfig
      (fun current _ => decide (FlagTested current.2 current.1.ties))
      (sampleThread, .listen) (sampleAnswers 6 (sampleSettings ++ sampleFile ++ sampleDone))).map
        (fun reached => decide (ReceiverEvent.file (.wrote [0x61] 0 [0x78]) ∈ reached.1.trace)) =
      some true := by
    decide +kernel
  obtain ⟨reached, ran, wrote⟩ := Option.map_eq_some_iff.mp computed
  have path := path_of_receiverRun (fun _ _ passes => of_decide_eq_true passes) ran
  exact ⟨reached, path, of_decide_eq_true wrote,
    only_identified_sender_acts sampleConfig sampleThread rfl path⟩

/-- A first connection that starts with the FILE command: the file is opened and written. -/
theorem unidentified_sender_writes :
    ∃ reached, Transition.Path (ReceiverRound sampleConfig) (fun _ _ => True)
        (sampleThread, .listen) reached ∧
      ¬ OnlyIdentifiedActs sampleConfig reached.1.trace := by
  have computed : (receiverRun sampleConfig (fun _ _ => true)
      (sampleThread, .listen) (sampleAnswers 4 (sampleFile ++ sampleDone))).map
        (fun reached => reached.1.trace.take 3) =
      some [.acceptedConnection,
        .acceptedFileCmd { fileName := [0x61], seqId := 1, fileSize := 1, dataSize := 1 },
        .file (.opened [0x61])] := by
    decide +kernel
  obtain ⟨reached, ran, trace⟩ := Option.map_eq_some_iff.mp computed
  refine ⟨reached, path_of_receiverRun (fun _ _ _ => trivial) ran, fun acts => ?_⟩
  have shape := (List.take_append_drop 3 reached.1.trace).symm
  rw [trace] at shape
  obtain ⟨before, version, settings, after, split, _, _⟩ :=
    acts [.acceptedConnection, .acceptedFileCmd _] (.file (.opened [0x61])) _ shape trivial
  have member : ReceiverEvent.acceptedSettings version version settings ∈
      before ++ .acceptedSettings version version settings :: after := by simp
  rw [← split] at member
  simp at member

end Wdt
