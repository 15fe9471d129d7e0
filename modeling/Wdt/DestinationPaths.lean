/-
Which names reach the file system. The receiver acts on a FILE command only after the
scanner has accepted its name; every file event of every run, and every system call
made for it, therefore stays below the destination directory.
-/

import Wdt.DestinationFiles
import Wdt.ReceiverSkeleton

namespace Wdt

open Outcome RootedFileCreator

/-- Every file event so far was under a name that the scanner accepts. -/
def SafelyNamed (trace : List ReceiverEvent) : Prop :=
  ∀ event, .file event ∈ trace → isSafeRelativePath event.fileName = true

variable {trace events : List ReceiverEvent}

theorem SafelyNamed.append (named : SafelyNamed trace) (added : SafelyNamed events) :
    SafelyNamed (trace ++ events) := by
  intro event member
  rcases List.mem_append.mp member with early | late
  · exact named event early
  · exact added event late

theorem safelyNamed_tags (ofTags : ∀ event ∈ events, event.OfTag) : SafelyNamed events :=
  fun _ member => (ofTags _ member).elim

/-- A file event is under a name that the scanner accepts. -/
def ReceiverEvent.Safe (event : ReceiverEvent) : Prop :=
  ∀ file, event = .file file → isSafeRelativePath file.fileName = true

theorem ReceiverEvent.OfTag.safe {event : ReceiverEvent} (ofTag : event.OfTag) : event.Safe := by
  rintro file rfl
  cases ofTag

namespace ReceiverThread

variable {before after thread : ReceiverThread} {config : ReceiverConfig} {answers : FileAnswers}
  {progress : BlockInProgress}

theorem safelyNamed_extended
    (grows : ∃ events, after.trace = before.trace ++ events ∧ ∀ event ∈ events, event.Safe)
    (named : SafelyNamed before.trace) : SafelyNamed after.trace := by
  obtain ⟨events, extended, safe⟩ := grows
  rw [extended]
  exact named.append (fun event member => safe _ member event rfl)

def acceptFileCmd (config : ReceiverConfig) (thread : ReceiverThread) :
    Handler (ReceiverThread × BlockInProgress) :=
  let thread := { thread with checkpoint := thread.checkpoint.resetLastBlockDetails }
  (thread.readFileHeader config).bind fun (thread, headerLen) => thread.decodeFileHeader headerLen

/-- Whatever `processFileCmd` does to files, it does to the block of the accepted header. -/
theorem processFileCmd_eq (config : ReceiverConfig) (answers : FileAnswers)
    (thread : ReceiverThread) :
    thread.processFileCmd config answers =
      (thread.acceptFileCmd config).bind fun (thread, progress) =>
        thread.receiveBlock config answers progress := by
  unfold processFileCmd acceptFileCmd
  dsimp only
  cases readFileHeader config _ with
  | crash reason => rfl
  | leave answer => rfl
  | go value => rfl

theorem acceptFileCmd_names :
    (thread.acceptFileCmd config).Ensures (fun _ => True)
      (fun answer => SafelyNamed thread.trace → SafelyNamed answer.1.trace)
      (fun block => (SafelyNamed thread.trace → SafelyNamed block.1.trace) ∧
        isSafeRelativePath block.2.details.fileName = true) := by
  unfold acceptFileCmd
  refine .bind ((readFileHeader_keeps _ config (fun _ => ReceiverEvent.OfTag.safe)).mono
    (fun _ _ => trivial) (fun _ late named => safelyNamed_extended late.trace named)
    (fun _ => id)) (fun header kept => ?_)
  have offered (named : SafelyNamed thread.trace) := safelyNamed_extended kept.1.trace named
  refine (decodeFileHeader_steps header.1 header.2).mono (fun _ _ => trivial)
    (fun _ late named => safelyNamed_extended late.trace (offered named)) ?_
  rintro block ⟨⟨_, details, extended⟩, safe⟩
  refine ⟨fun named => ?_, safe⟩
  rw [extended]
  exact (offered named).append (fun event member => by simp at member)

theorem acceptFileCmd_safe {accepted : ReceiverThread}
    (accepts : thread.acceptFileCmd config = .go (accepted, progress)) :
    isSafeRelativePath progress.details.fileName = true := by
  have names := @acceptFileCmd_names thread config
  rw [accepts] at names
  exact names.2

theorem processFileCmd_names (named : SafelyNamed thread.trace) :
    (thread.processFileCmd config answers).Ensures (fun _ => True)
      (fun answer => SafelyNamed answer.1.trace) (fun answer => SafelyNamed answer.1.trace) := by
  rw [processFileCmd_eq]
  refine .bind (acceptFileCmd_names.mono (fun _ _ => trivial) (fun _ names => names named)
    (fun _ => id)) (fun block accepts => ?_)
  have accepted := accepts.1 named
  have allows : Allows ReceiverEvent.Safe block.2.details.fileName := by
    refine ⟨fun _ => ReceiverEvent.OfTag.safe, ?_⟩
    intro event sameName _ same
    cases same
    rw [sameName]
    exact accepts.2
  exact (receiveBlock_keeps block.1 config answers allows rfl).mono (fun _ _ => trivial)
    (fun _ late => safelyNamed_extended late.trace accepted)
    (fun _ late => safelyNamed_extended late.1.trace accepted)

theorem SkeletonStep.names {config : ReceiverConfig} {answers : ReceiverAnswers}
    {state next : ReceiverState} {ties nextTies : ReceiverTies}
    (moves : SkeletonStep config answers state ties events next nextTies)
    (notFile : state ≠ .processFileCmd) : SafelyNamed events := by
  cases moves with
  | quiet _ ofTags | ends ofTags => exact safelyNamed_tags ofTags
  | fails _ _ _ _ ofTags => exact safelyNamed_tags (ofTags notFile)
  | givenUpFile | receivedFile => exact absurd rfl notFile
  | _ => exact fun event member => by simp at member

theorem step_names {answers : ReceiverAnswers} {current next : ReceiverAnswer}
    (moves : step config answers current = .ok next) (named : SafelyNamed current.1.trace) :
    SafelyNamed next.1.trace := by
  by_cases file : current.2 = .processFileCmd
  · unfold step at moves
    rw [file, if_neg (by decide)] at moves
    split at moves
    · cases moves
      exact named
    · exact (@processFileCmd_names current.1 config answers.file named).of_settle_ok moves
  · obtain ⟨events, extended, skeleton⟩ := step_simulates moves
    rw [extended]
    exact named.append (SkeletonStep.names skeleton file)

end ReceiverThread

/-! ### The destination directory -/

/-- Whatever name a peer sends: once its FILE command is accepted, the calls that open, create
or delete the file stay strictly below the root, also those that make its directories, and no
check on the name fails. In every run, a file is only touched under such a name. -/
theorem received_paths_stay_below_root (config : ReceiverConfig) (creator : RootedFileCreator) :
    (∀ (thread accepted : ReceiverThread) (progress : BlockInProgress),
      thread.acceptFileCmd config = .go (accepted, progress) →
      ∀ (system : FileSystem) (options : WdtOptions) (answers : OpenAnswers),
        creator.StaysBelow progress.details.fileName
          (creator.openForBlocks system options answers progress.details {})) ∧
    (∀ start reached : ReceiverAnswer,
      Transition.Path (ReceiverRound config) (fun _ _ => True) start reached →
      start.1.trace = [] →
      ∀ event, .file event ∈ reached.1.trace → creator.Below (creator.getFullPath event.fileName) ∧
          (∀ component ∈ event.fileName.splitOn slash, Place.Plain dot component) ∧
          (0 : Byte) ∉ event.fileName ∧ pathValidated event.fileName = true) := by
  constructor
  · intro thread accepted progress accepts system options answers
    exact openForBlocks_stays (ReceiverThread.acceptFileCmd_safe accepts)
      nofun
  · intro start reached run fresh event member
    have named : SafelyNamed reached.1.trace := by
      apply run.invariant (fun current => SafelyNamed current.1.trace)
      · rw [fresh]
        exact nofun
      · exact fun _ _ _ safe _ moves => ReceiverThread.step_names moves safe
    have safe := named event member
    exact ⟨below_file safe, plain_of_safe safe,
      noNul_of_safe safe, isSafeRelativePath_pathValidated safe⟩

theorem received_paths_stay_below_root_sample :
    ∃ reached, Transition.Path (ReceiverRound sampleConfig) (fun _ _ => True)
        (sampleThread, .listen) reached ∧
      .file (.opened [0x61]) ∈ reached.1.trace ∧
      (ofRoot [slash, 0x64] false false).Below
        ((ofRoot [slash, 0x64] false false).getFullPath [0x61]) := by
  have computed : (receiverRun sampleConfig (fun _ _ => true) (sampleThread, .listen)
      (sampleAnswers 6 (sampleSettings ++ sampleFile ++ sampleDone))).map
        (fun reached => decide (ReceiverEvent.file (.opened [0x61]) ∈ reached.1.trace)) =
      some true := by
    decide +kernel
  obtain ⟨reached, ran, opened⟩ := Option.map_eq_some_iff.mp computed
  have path := path_of_receiverRun (fun _ _ _ => trivial) ran
  have member := of_decide_eq_true opened
  exact ⟨reached, path, member, ((received_paths_stay_below_root sampleConfig
    (ofRoot [slash, 0x64] false false)).2 _ _ path rfl _ member).1⟩

end Wdt
