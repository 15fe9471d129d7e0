/-
What the state functions leave alone. Reading the socket, decoding and writing a
block touch the window, the statistics and the checkpoint of the thread; the fields
that tie the thread to its peer and to the other threads change in few places, which
are singled out here.
-/

import Wdt.ReceiverThread

namespace Wdt

open Outcome ReceiverEvent

structure ReceiverTies where
  curConnectionVerified : Bool
  checkpointIndex : Nat
  pendingCheckpointIndex : Nat
  newCheckpoints : List Checkpoint
  status : ThreadStatus
  senderReadTimeout : Int
  footerType : FooterType
  localErrCode : ErrorCode

def ReceiverEvent.OfBlock : ReceiverEvent → Prop
  | .file _ => True
  | .verifiedBlock _ => True
  | _ => False

def ReceiverEvent.OfTag : ReceiverEvent → Prop
  | .verifiedBlock _ => True
  | _ => False

theorem ReceiverEvent.OfTag.ofBlock {event : ReceiverEvent} (ofTag : event.OfTag) :
    event.OfBlock := by
  cases event with
  | verifiedBlock block => trivial
  | _ => cases ofTag

theorem ofBlocks_sameConnection {events : List ReceiverEvent}
    (ofBlocks : ∀ event ∈ events, event.OfBlock) : acceptedConnection ∉ events :=
  fun member => ofBlocks _ member

theorem ofTags_sameConnection {events : List ReceiverEvent}
    (ofTags : ∀ event ∈ events, event.OfTag) : acceptedConnection ∉ events :=
  fun member => ofTags _ member

namespace ReceiverThread

def ties (thread : ReceiverThread) : ReceiverTies :=
  { thread with localErrCode := thread.threadStats.localErrCode }

/-- The thread went on with its ties, and its trace grew by allowed events only. -/
structure Keeps (allowed : ReceiverEvent → Prop) (before after : ReceiverThread) : Prop where
  ties : after.ties = before.ties
  trace : ∃ events, after.trace = before.trace ++ events ∧ ∀ event ∈ events, allowed event

variable {allowed : ReceiverEvent → Prop} {before middle after : ReceiverThread}

theorem keeps_of_same (sameTies : after.ties = before.ties)
    (sameTrace : after.trace = before.trace) : Keeps allowed before after :=
  ⟨sameTies, [], by rw [sameTrace, List.append_nil], nofun⟩

theorem Keeps.refl (allowed : ReceiverEvent → Prop) (thread : ReceiverThread) :
    Keeps allowed thread thread :=
  keeps_of_same rfl rfl

theorem Keeps.trans (first : Keeps allowed before middle) (second : Keeps allowed middle after) :
    Keeps allowed before after := by
  obtain ⟨firstEvents, firstTrace, firstAllowed⟩ := first.trace
  obtain ⟨secondEvents, secondTrace, secondAllowed⟩ := second.trace
  refine ⟨second.ties.trans first.ties, firstEvents ++ secondEvents, ?_, ?_⟩
  · rw [secondTrace, firstTrace, List.append_assoc]
  · exact List.forall_mem_append.mpr ⟨firstAllowed, secondAllowed⟩

theorem Keeps.mono {wider : ReceiverEvent → Prop} (keeps : Keeps allowed before after)
    (implies : ∀ event, allowed event → wider event) : Keeps wider before after := by
  obtain ⟨events, extended, holds⟩ := keeps.trace
  exact ⟨keeps.ties, events, extended, fun event member => implies event (holds event member)⟩

def failureStates : List ReceiverState := [.acceptWithTimeout, .finishWithError, .sendAbortCmd]

/-- The thread left its state with an error, and kept its other ties. -/
structure Abandons (allowed : ReceiverEvent → Prop) (before : ReceiverThread)
    (answer : ReceiverAnswer) : Prop where
  failed : ∃ code, code ≠ ErrorCode.ok ∧ answer.1.ties = { before.ties with localErrCode := code }
  next : answer.2 ∈ failureStates
  trace : ∃ events, answer.1.trace = before.trace ++ events ∧ ∀ event ∈ events, allowed event

theorem Keeps.abandons {answer : ReceiverAnswer} (first : Keeps allowed before middle)
    (second : Abandons allowed middle answer) : Abandons allowed before answer := by
  obtain ⟨code, isError, sameTies⟩ := second.failed
  obtain ⟨firstEvents, firstTrace, firstAllowed⟩ := first.trace
  obtain ⟨secondEvents, secondTrace, secondAllowed⟩ := second.trace
  refine ⟨⟨code, isError, ?_⟩, second.next, firstEvents ++ secondEvents, ?_, ?_⟩
  · rw [sameTies, first.ties]
  · rw [secondTrace, firstTrace, List.append_assoc]
  · exact List.forall_mem_append.mpr ⟨firstAllowed, secondAllowed⟩

/-! ### Reading -/

variable (thread : ReceiverThread)

theorem keeps_markBlockVerified (block : BlockDetails) :
    Keeps OfTag thread (thread.markBlockVerified block) := by
  refine ⟨rfl, [.verifiedBlock block], rfl, ?_⟩
  intro event member
  rw [List.mem_singleton.mp member]
  trivial

theorem keeps_foldl_markBlockVerified (blocks : List BlockDetails) (thread : ReceiverThread) :
    Keeps OfTag thread (blocks.foldl markBlockVerified thread) := by
  induction blocks generalizing thread with
  | nil => exact Keeps.refl _ thread
  | cons block rest ih => exact (keeps_markBlockVerified thread block).trans (ih _)

theorem keeps_markReceivedBlocksVerified : Keeps OfTag thread thread.markReceivedBlocksVerified :=
  (keeps_foldl_markBlockVerified thread.blocksWaitingVerification thread).trans
    (keeps_of_same rfl rfl)

theorem keeps_tagVerification (verified : Bool) :
    Keeps OfTag thread (thread.tagVerification verified) := by
  cases verified with
  | true => exact keeps_markReceivedBlocksVerified thread
  | false => exact Keeps.refl _ thread

theorem keeps_socketRead (start nbyte : Nat) :
    Keeps OfTag thread (thread.socketRead start nbyte).2 := by
  unfold socketRead
  cases thread.connection.segments with
  | nil | cons segment rest => exact (keeps_tagVerification thread _).trans (keeps_of_same rfl rfl)

theorem keeps_readAtLeastLoop (start max atLeast rounds : Nat) (thread : ReceiverThread)
    (len : Nat) : Keeps OfTag thread (readAtLeastLoop start max atLeast rounds thread len).2 := by
  induction rounds generalizing thread len with
  | zero => exact Keeps.refl _ thread
  | succ rounds ih =>
    have read := keeps_socketRead thread (start + len) (max - len)
    unfold readAtLeastLoop
    split
    · dsimp only
      split
      · exact read
      · split
        · exact read
        · exact read.trans (ih _ _)
    · exact Keeps.refl _ thread

theorem readAtLeast_keeps (start : Nat) (max atLeast len : Int) :
    (thread.readAtLeast start max atLeast len).Ensures (fun _ => True) (fun _ => False)
      (fun result => Keeps OfTag thread result.2) := by
  refine ensures_check (fun _ => trivial) (fun _ => ?_)
  refine ensures_check (fun _ => trivial) (fun _ => ?_)
  refine ensures_check (fun _ => trivial) (fun _ => ?_)
  exact keeps_readAtLeastLoop _ _ _ _ thread _

theorem keeps_decodeUpTo {α : Type} (stop : Nat)
    (decoder : Decoder Byte α) : Keeps allowed thread (thread.decodeUpTo stop decoder).2 :=
  keeps_of_same rfl rfl

theorem keeps_consume (bytes : List Byte) : Keeps allowed thread (thread.consume bytes) :=
  keeps_of_same rfl rfl

variable {code : ErrorCode} {next : ReceiverState}

theorem fail_abandons (isError : code ≠ .ok) (failure : next ∈ failureStates) :
    Abandons allowed thread (thread.fail code next) :=
  ⟨⟨code, isError, rfl⟩, failure, [], (List.append_nil _).symm, nofun⟩

theorem failFile_abandons (isError : code ≠ .ok) (failure : next ∈ failureStates) :
    Abandons allowed thread (thread.failFile code next) :=
  ⟨⟨code, isError, rfl⟩, failure, [], (List.append_nil _).symm, nofun⟩

section

variable (kept : Keeps allowed before middle) (isError : code ≠ .ok)
  (failure : next ∈ failureStates)

include kept isError failure

theorem Keeps.fail : Abandons allowed before (middle.fail code next) :=
  kept.abandons (fail_abandons middle isError failure)

theorem Keeps.failFile : Abandons allowed before (middle.failFile code next) :=
  kept.abandons (failFile_abandons middle isError failure)

end

theorem failBlock_abandons (progress : BlockInProgress)
    (isError : code ≠ .ok) (failure : next ∈ failureStates) :
    Abandons allowed thread (thread.failBlock progress code next) := by
  have recorded : Keeps allowed thread (thread.recordWritten progress) := by
    unfold recordWritten
    split
    · exact keeps_of_same rfl rfl
    · exact Keeps.refl allowed thread
  exact recorded.abandons (failFile_abandons _ isError failure)

/-! ### Receiving a block -/

/-- Every way out of a stage keeps the ties, and going on also establishes a fact. -/
def StageKeeps {α : Type} (allowed : ReceiverEvent → Prop) (thread : ReceiverThread)
    (project : α → ReceiverThread) (fact : α → Prop) (outcome : Handler α) : Prop :=
  outcome.Ensures (fun _ => True) (Abandons allowed thread)
    (fun value => Keeps allowed thread (project value) ∧ fact value)

section

variable {α β : Type} {project : α → ReceiverThread} {fact : α → Prop} {outcome : Handler α}

theorem Keeps.stage (kept : Keeps allowed before middle)
    (stage : StageKeeps allowed middle project fact outcome) :
    StageKeeps allowed before project fact outcome :=
  stage.mono (fun _ _ => trivial) (fun _ late => kept.abandons late)
    (fun _ late => ⟨kept.trans late.1, late.2⟩)

theorem StageKeeps.bind {thread : ReceiverThread} {projectNext : β → ReceiverThread}
    {factNext : β → Prop} {next : α → Handler β}
    (first : StageKeeps allowed thread project fact outcome)
    (second : ∀ value, fact value →
      StageKeeps allowed (project value) projectNext factNext (next value)) :
    StageKeeps allowed thread projectNext factNext (outcome.bind next) :=
  Outcome.Ensures.bind first (fun value kept => kept.1.stage (second value kept.2))

end

section

variable (config : ReceiverConfig) (tags : ∀ event, OfTag event → allowed event)
  (progress : BlockInProgress)

include tags

theorem fetchHeader_keeps (headerLen : Int) :
    StageKeeps allowed thread id (fun _ => True) (thread.fetchHeader config headerLen) := by
  unfold fetchHeader
  split
  · refine Outcome.Ensures.bind_quiet (readAtLeast_keeps _ _ _ _ _) (fun _ _ => trivial)
      (fun value kept => ?_)
    exact ⟨(kept.mono tags).trans (keeps_of_same rfl rfl), trivial⟩
  · exact ⟨Keeps.refl _ thread, trivial⟩

theorem readFileHeader_keeps :
    StageKeeps allowed thread Prod.fst (fun _ => True) (thread.readFileHeader config) := by
  unfold readFileHeader
  dsimp only
  have started : Keeps allowed thread { thread with off := thread.off + 1 } :=
    keeps_of_same rfl rfl
  split
  · exact started.abandons (failFile_abandons _ (by decide) (by decide))
  refine started.stage ((fetchHeader_keeps _ config tags _).bind (fun value _ => ?_))
  split
  · exact failFile_abandons _ (by decide) (by decide)
  · exact ⟨keeps_of_same rfl rfl, trivial⟩

theorem checkFooter_keeps :
    StageKeeps allowed thread id (fun _ => True) (thread.checkFooter config progress) := by
  unfold checkFooter
  dsimp only
  have started : Keeps allowed thread { thread with oldOffset := thread.off } :=
    keeps_of_same rfl rfl
  refine Outcome.Ensures.bind_quiet (readAtLeast_keeps _ _ _ _ _) (fun _ _ => trivial)
    (fun value kept => ?_)
  have filled := started.trans (kept.mono tags)
  split
  · refine ensures_leave (filled.abandons ?_)
    exact Keeps.failFile (keeps_of_same rfl rfl) (by decide) (by decide)
  split
  · refine ensures_leave (filled.abandons ?_)
    exact Keeps.failFile (keeps_of_same rfl rfl) (by decide) (by decide)
  split
  · refine ensures_leave (filled.abandons ?_)
    exact Keeps.failFile (keeps_of_same rfl rfl) (by decide) (by decide)
  split
  · refine ensures_leave (filled.abandons ?_)
    exact Keeps.failFile (keeps_of_same rfl rfl) (by decide) (by decide)
  · exact ⟨filled.trans (((keeps_of_same rfl rfl).trans
      ((keeps_markBlockVerified _ progress.details).mono tags)).trans (keeps_of_same rfl rfl)),
      trivial⟩

theorem verifyBlock_keeps :
    StageKeeps allowed thread id (fun _ => True) (thread.verifyBlock config progress) := by
  unfold verifyBlock
  split
  · exact checkFooter_keeps thread config tags progress
  · split
    · exact ⟨keeps_of_same rfl rfl, trivial⟩
    · exact ⟨(keeps_markBlockVerified thread progress.details).mono tags, trivial⟩

end

theorem closeBlock_keeps (answers : FileAnswers) (progress : BlockInProgress) :
    StageKeeps allowed thread id (fun _ => True) (thread.closeBlock answers progress) := by
  unfold closeBlock
  split
  · exact failBlock_abandons _ _ (by decide) (by decide)
  split
  · exact failBlock_abandons _ _ (by decide) (by decide)
  · split
    · exact failBlock_abandons _ _ (by decide) (by decide)
    · exact ⟨Keeps.refl _ thread, trivial⟩

theorem keepLeftover_keeps (config : ReceiverConfig) (remainingData : Int) :
    StageKeeps allowed thread id (fun _ => True) (thread.keepLeftover config remainingData) := by
  refine ensures_check (fun _ => trivial) (fun _ => ?_)
  split
  · split
    · exact ⟨keeps_of_same rfl rfl, trivial⟩
    · exact ⟨keeps_of_same rfl rfl, trivial⟩
  · exact ⟨keeps_of_same rfl rfl, trivial⟩

theorem finishFile_keeps : Keeps allowed thread thread.finishFile.1 := by
  refine keeps_of_same ?_ rfl
  unfold finishFile ties
  split <;> rfl

/-- Blocks are verified at any time, and files are touched under one name. -/
structure Allows (allowed : ReceiverEvent → Prop) (name : List Byte) : Prop where
  tags : ∀ event, OfTag event → allowed event
  files : ∀ event : FileEvent, event.fileName = name → allowed (.file event)

section

variable (config : ReceiverConfig) (answers : FileAnswers) {name : List Byte}
  (allows : Allows allowed name) {progress : BlockInProgress}

def UnderName (name : List Byte) (value : ReceiverThread × BlockInProgress) : Prop :=
  value.2.details.fileName = name

include allows

theorem keeps_log_file {events : List FileEvent}
    (ofName : ∀ event ∈ events, event.fileName = name) :
    Keeps allowed thread (thread.log (events.map .file)) := by
  refine ⟨rfl, events.map .file, rfl, ?_⟩
  intro event member
  obtain ⟨fileEvent, present, same⟩ := List.mem_map.mp member
  rw [← same]
  exact allows.files _ (ofName _ present)

variable (named : progress.details.fileName = name)

include named

theorem openBlock_keeps : StageKeeps allowed thread Prod.fst (UnderName name)
    (thread.openBlock config answers progress) := by
  unfold openBlock
  split
  · refine Outcome.Ensures.bind_quiet (openWriter_checks _ _ _) (fun _ _ => trivial)
      (fun result ofName => ?_)
    rw [named] at ofName
    have logged := keeps_log_file thread allows ofName
    split
    · exact ⟨logged, named⟩
    · exact logged.abandons (failBlock_abandons _ _ (by decide) (by decide))
  · exact ⟨Keeps.refl _ thread, named⟩

theorem writeBlock_keeps (written : Bool) (bytes : List Byte) :
    StageKeeps allowed thread Prod.fst (UnderName name)
      (thread.writeBlock config written progress bytes) := by
  refine ensures_check (fun _ => trivial) (fun _ => ?_)
  split
  · exact ⟨Keeps.refl _ thread, named⟩
  · split
    · exact ⟨@keeps_log_file _ thread _ allows [_]
        (by simpa [FileEvent.fileName] using named), named⟩
    · exact failBlock_abandons _ _ (by decide) (by decide)

theorem receiveData_keeps (written : Bool) (bytes : List Byte) :
    StageKeeps allowed thread Prod.fst (UnderName name)
      (thread.receiveData config written progress bytes) := by
  unfold receiveData
  have counted : Keeps allowed thread
      { thread.consume bytes with
        threadStats := thread.threadStats.addDataBytes bytes.length } :=
    keeps_of_same rfl rfl
  have sameName : (progress.addChecksum thread.footerType bytes).details.fileName = name := by
    rw [BlockInProgress.addChecksum_details]
    exact named
  split
  · exact ⟨counted, sameName⟩
  · exact counted.stage (writeBlock_keeps _ config allows sameName written bytes)

theorem receiveRestLoop_keeps (rounds round : Nat) :
    StageKeeps allowed thread Prod.fst (UnderName name)
      (receiveRestLoop config answers rounds round thread progress) := by
  induction rounds generalizing round thread progress with
  | zero => exact ⟨Keeps.refl _ thread, named⟩
  | succ rounds ih =>
    have read := (keeps_socketRead thread 0
      (min (progress.details.dataSize - progress.totalWritten) config.bufSize)).mono allows.tags
    unfold receiveRestLoop
    split
    · split
      · exact failBlock_abandons _ _ (by decide) (by decide)
      · dsimp only [readAtMost]
        split
        · exact ⟨read, named⟩
        · exact read.stage ((receiveData_keeps _ config allows named _ _).bind
            (fun value sameName => ih value.1 sameName (round + 1)))
    · exact ⟨Keeps.refl _ thread, named⟩

theorem receiveBlock_keeps : StageKeeps allowed thread Prod.fst (fun _ => True)
    (thread.receiveBlock config answers progress) := by
  refine (openBlock_keeps thread config answers allows named).bind fun opened isOpened => ?_
  have first : StageKeeps allowed opened.1 Prod.fst (fun value => value.2.1.details.fileName = name)
      (opened.1.receiveFirstData config answers opened.2) := by
    refine ensures_check (fun _ => trivial) (fun _ => ?_)
    exact (receiveData_keeps opened.1 config allows isOpened _ _).bind
      (fun value sameName => ⟨keeps_of_same rfl rfl, sameName⟩)
  refine first.bind fun first isFirst => ?_
  refine (receiveRestLoop_keeps first.1 config answers allows isFirst _ 0).bind fun rest _ => ?_
  refine (closeBlock_keeps rest.1 answers rest.2).bind fun closed _ => ?_
  refine (keepLeftover_keeps closed config first.2.2).bind fun kept _ => ?_
  refine (verifyBlock_keeps kept config allows.tags rest.2).bind fun verified _ => ?_
  exact ⟨finishFile_keeps verified, trivial⟩

end

/-- A well formed header applies the pending checkpoint update. -/
def Accepts (before after : ReceiverThread) : Prop :=
  after.ties = { before.ties with checkpointIndex := before.pendingCheckpointIndex } ∧
    ∃ block, after.trace = before.trace ++ [.acceptedFileCmd block]

theorem decodeFileHeader_steps (headerLen : Nat) :
    (thread.decodeFileHeader headerLen).Ensures (fun _ => True) (Abandons allowed thread)
      (fun value => Accepts thread value.1 ∧
        isSafeRelativePath value.2.details.fileName = true) := by
  unfold decodeFileHeader
  dsimp only
  split
  · refine ensures_leave ?_
    exact Keeps.failFile (keeps_of_same rfl rfl) (by decide) (by decide)
  split
  · refine ensures_leave ?_
    exact Keeps.failFile (keeps_of_same rfl rfl) (by decide) (by decide)
  rename_i details _decoded
  split
  · rename_i wellFormed
    exact ⟨⟨rfl, details, rfl⟩, (Bool.and_eq_true_iff.mp wellFormed).2⟩
  · refine ensures_leave ?_
    exact Keeps.failFile (keeps_of_same rfl rfl) (by decide) (by decide)

variable (config : ReceiverConfig) (answers : FileAnswers)

/-- How a FILE command can go: refused, or its header accepted and then given up or received. -/
inductive FileStep (before : ReceiverThread) (answer : ReceiverAnswer) : Prop
  | refused (abandons : Abandons OfBlock before answer)
  | givenUp (offered accepted : ReceiverThread)
      (offers : Keeps OfBlock before offered) (accepts : Accepts offered accepted)
      (abandons : Abandons OfBlock accepted answer)
  | received (offered accepted : ReceiverThread)
      (offers : Keeps OfBlock before offered) (accepts : Accepts offered accepted)
      (keeps : Keeps OfBlock accepted answer.1) (next : answer.2 = .readNextCmd)

theorem receiveBlock_next (thread : ReceiverThread) (progress : BlockInProgress) :
    (thread.receiveBlock config answers progress).Ensures (fun _ => True) (fun _ => True)
      (fun answer => answer.2 = .readNextCmd) := by
  have anything {α : Type} (outcome : Handler α) :
      outcome.Ensures (fun _ => True) (fun _ => True) (fun _ => True) := by
    cases outcome <;> trivial
  refine (anything _).bind fun opened _ => ?_
  refine (anything _).bind fun first _ => ?_
  refine (anything _).bind fun rest _ => ?_
  refine (anything _).bind fun closed _ => ?_
  refine (anything _).bind fun kept _ => ?_
  refine (anything _).bind fun verified _ => ?_
  rfl

theorem processFileCmd_steps (thread : ReceiverThread) :
    (thread.processFileCmd config answers).Ensures (fun _ => True) (FileStep thread)
      (FileStep thread) := by
  unfold processFileCmd
  dsimp only
  have started : Keeps OfBlock thread
      { thread with checkpoint := thread.checkpoint.resetLastBlockDetails } :=
    keeps_of_same rfl rfl
  refine Outcome.Ensures.bind ((readFileHeader_keeps _ config (fun _ => OfTag.ofBlock)).mono
    (fun _ _ => trivial) (fun _ late => .refused (started.abandons late))
    (fun _ => id)) (fun header kept => ?_)
  have offers := started.trans kept.1
  refine Outcome.Ensures.bind ((decodeFileHeader_steps header.1 header.2).mono
    (fun _ _ => trivial) (fun _ late => .refused (offers.abandons late))
    (fun _ => id)) (fun block accepts => ?_)
  have keeps := receiveBlock_keeps block.1 config answers
    ⟨fun _ => OfTag.ofBlock, fun _ _ => trivial⟩ (rfl : block.2.details.fileName = _)
  have next := receiveBlock_next config answers block.1 block.2
  cases result : block.1.receiveBlock config answers block.2 with
  | crash reason => trivial
  | leave answer =>
    rw [result] at keeps
    exact .givenUp header.1 block.1 offers accepts.1 keeps
  | go answer =>
    rw [result] at keeps next
    exact .received header.1 block.1 offers accepts.1 keeps.1 next

end ReceiverThread

end Wdt
