/-
PROCESS_FILE_CMD and the receive window: under what is known when a FILE command is
dispatched, no check fails, and the window that is left belongs to the next command.
-/

import Wdt.ReceiverFrame
import Wdt.WindowSync

namespace Wdt

open ReceiveWindow Outcome

namespace ReceiverThread

/-- Between commands: the window starts at the offset and lies in the buffer. -/
structure Ready (config : ReceiverConfig) (thread : ReceiverThread) : Prop where
  notNegative : 0 ≤ thread.numRead
  inBuffer : thread.off + thread.numRead ≤ config.bufSize
  holds : thread.window.Holds thread.off thread.numRead.toNat

/-- In a command: its first byte has been read, and 256 bytes have been received. -/
structure Dispatched (config : ReceiverConfig) (thread : ReceiverThread) : Prop where
  enough : (kMinBufLength : Int) ≤ thread.numRead
  started : thread.off = thread.oldOffset + 1
  inBuffer : thread.oldOffset + thread.numRead ≤ config.bufSize
  holds : thread.window.Holds thread.oldOffset thread.numRead.toNat

/-- No check fails, an early exit reports a failure and has taken delivered bytes only, and a
value meets its condition. -/
def Safely {α : Type} (outcome : Handler α) (went : α → Prop) : Prop :=
  outcome.Ensures (fun _ => False)
    (fun answer => answer.1.window.Within ∧ answer.2 ∈ failureStates) went

theorem Safely.bind {α β : Type} {outcome : Handler α} {next : α → Handler β}
    {went : α → Prop} {ends : β → Prop} (first : Safely outcome went)
    (second : ∀ value, went value → Safely (next value) ends) : Safely (outcome.bind next) ends :=
  Ensures.bind first second

variable {thread : ReceiverThread}

variable {α : Type}

theorem safely_failFile {went : α → Prop} {code : ErrorCode} {next : ReceiverState}
    (within : thread.window.Within) (failure : next ∈ failureStates) :
    Safely (.leave (thread.failFile code next) : Handler α) went :=
  ⟨within, failure⟩

theorem failBlock_window (thread : ReceiverThread) (progress : BlockInProgress)
    (code : ErrorCode) (next : ReceiverState) :
    (thread.failBlock progress code next).1.window = thread.window := by
  unfold failBlock recordWritten
  split <;> rfl

variable {progress : BlockInProgress}

theorem safely_failBlock {went : α → Prop} {code : ErrorCode} {next : ReceiverState}
    (within : thread.window.Within) (failure : next ∈ failureStates) :
    Safely (.leave (thread.failBlock progress code next) : Handler α) went := by
  refine ⟨?_, failure⟩
  rw [failBlock_window]
  exact within

variable {config : ReceiverConfig}

theorem decodeUpTo_off (thread : ReceiverThread) (stop : Nat) (decoder : Decoder Byte α) :
    thread.off ≤ (thread.decodeUpTo stop decoder).2.off ∧
      (thread.decodeUpTo stop decoder).2.off ≤ max thread.off stop := by
  unfold decodeUpTo
  simp only [Memory.read_length]
  omega

theorem decodeUpTo_window (thread : ReceiverThread) (stop : Nat) (decoder : Decoder Byte α) :
    (thread.decodeUpTo stop decoder).2.window =
      { thread.window with off := (thread.decodeUpTo stop decoder).2.off } :=
  rfl

theorem decodeUpTo_holds {stop : Nat} {decoder : Decoder Byte α} {result : Option α}
    {after : ReceiverThread} (decoded : thread.decodeUpTo stop decoder = (result, after))
    (holds : thread.window.Holds thread.oldOffset thread.numRead.toNat) :
    after.oldOffset = thread.oldOffset ∧ after.numRead = thread.numRead ∧
      after.window.Holds after.oldOffset after.numRead.toNat ∧
      thread.off ≤ after.off ∧ after.off ≤ max thread.off stop := by
  have moved := thread.decodeUpTo_window stop decoder
  have bounds := thread.decodeUpTo_off stop decoder
  rw [decoded] at moved bounds
  have sameOldOffset : after.oldOffset = thread.oldOffset :=
    congrArg ReceiveWindow.oldOffset moved
  have sameNumRead : after.numRead = thread.numRead := congrArg ReceiveWindow.numRead moved
  refine ⟨sameOldOffset, sameNumRead, ?_, bounds⟩
  rw [moved, sameOldOffset, sameNumRead]
  exact holds

theorem holds_behind (holds : thread.window.Holds thread.oldOffset thread.numRead.toNat)
    (behind : thread.oldOffset ≤ thread.off)
    (received : thread.off ≤ thread.oldOffset + thread.numRead) :
    (thread.window.take (thread.buf.read thread.oldOffset (thread.off - thread.oldOffset))).Holds
      thread.off (thread.oldOffset + thread.numRead - thread.off).toNat := by
  have some : thread.off - thread.oldOffset ≤ thread.numRead.toNat := by omega
  have taken := holds.take some
  have start : thread.oldOffset + (thread.off - thread.oldOffset) = thread.off := by omega
  have count : thread.numRead.toNat - (thread.off - thread.oldOffset) =
      (thread.oldOffset + thread.numRead - thread.off).toNat := by omega
  rw [start, count] at taken
  exact taken

theorem ready_of_takes {before after : ReceiverThread}
    (holds : before.window.Holds before.oldOffset before.numRead.toNat)
    (behind : before.oldOffset ≤ before.off)
    (received : before.off ≤ before.oldOffset + before.numRead)
    (inBuffer : before.oldOffset + before.numRead ≤ config.bufSize) (moved : after.window =
      { before.window.take (before.buf.read before.oldOffset (before.off - before.oldOffset)) with
        numRead := before.numRead - (before.off - before.oldOffset : Nat) }) :
    Ready config after := by
  have sameOff : after.off = before.off := congrArg ReceiveWindow.off moved
  have left : after.numRead = before.numRead - (before.off - before.oldOffset : Nat) :=
    congrArg ReceiveWindow.numRead moved
  have count : before.oldOffset + before.numRead - before.off = after.numRead := by omega
  have taken := holds_behind holds behind received
  rw [count] at taken
  refine ⟨by omega, by omega, ?_⟩
  rw [moved, sameOff]
  exact taken

/-- The header, whose length follows the status byte, has been received. -/
def HeaderReceived (thread : ReceiverThread) : Prop :=
  loadInt16 thread.buf (thread.off + 1) ≤ thread.numRead

theorem readFileHeader_safely (dispatched : Dispatched config thread)
    (received : thread.HeaderReceived) :
    Safely (thread.readFileHeader config) (fun header =>
      header.1 = { thread with off := thread.off + 3 }) := by
  unfold readFileHeader
  dsimp only
  split
  · exact safely_failFile dispatched.holds.within (by decide)
  have complete : ¬ thread.numRead < loadInt16 thread.buf (thread.off + 1) := by
    unfold HeaderReceived at received
    omega
  unfold fetchHeader
  rw [if_neg complete]
  dsimp only [go_bind]
  rw [if_neg complete]
  rfl

def headerAt (thread : ReceiverThread) : Option BlockDetails :=
  (thread.decodeUpTo (thread.numRead + thread.oldOffset).toNat
    (decodeHeader thread.threadProtocolVersion)).1

/-- Behind an accepted header the window holds what is left of the received bytes. -/
structure HeaderTaken (config : ReceiverConfig) (thread : ReceiverThread)
    (after : ReceiverThread) (progress : BlockInProgress) : Prop where
  behind : after.oldOffset ≤ after.off
  received : after.off ≤ after.oldOffset + after.numRead
  inBuffer : after.oldOffset + after.numRead ≤ config.bufSize
  holds : after.window.Holds after.off (after.oldOffset + after.numRead - after.off).toNat
  wellFormed : wellFormedBlock progress.details = true
  decoded : thread.headerAt = some progress.details
  unwritten : progress.totalWritten = 0

theorem decodeFileHeader_safely (notNegative : 0 ≤ thread.numRead)
    (behind : thread.oldOffset ≤ thread.off)
    (received : thread.off ≤ thread.oldOffset + thread.numRead)
    (inBuffer : thread.oldOffset + thread.numRead ≤ config.bufSize)
    (holds : thread.window.Holds thread.oldOffset thread.numRead.toNat) (headerLen : Nat) :
    Safely (thread.decodeFileHeader headerLen) (fun block =>
      HeaderTaken config thread block.1 block.2) := by
  unfold decodeFileHeader
  cases result : thread.decodeUpTo (thread.numRead + thread.oldOffset).toNat
      (decodeHeader thread.threadProtocolVersion) with
  | mk details after =>
    obtain ⟨sameOldOffset, sameNumRead, holdsAfter, bounds⟩ := decodeUpTo_holds result holds
    dsimp only
    split
    · exact safely_failFile holdsAfter.within (by decide)
    cases details with
    | none => exact safely_failFile holdsAfter.within (by decide)
    | some details =>
      dsimp only
      split
      · rename_i wellFormed
        have behindHeader : after.oldOffset ≤ after.off := by omega
        have inReceived : (after.off : Int) ≤ after.oldOffset + after.numRead := by omega
        have taken := holds_behind holdsAfter behindHeader inReceived
        have decoded : thread.headerAt = some details := congrArg Prod.fst result
        refine ⟨behindHeader, inReceived, ?_, taken, wellFormed, decoded, rfl⟩
        change (after.oldOffset : Int) + after.numRead ≤ config.bufSize
        omega
      · exact safely_failFile holdsAfter.within (by decide)

/-! ### The data -/

def OpenedSafely (config : ReceiverConfig) (block : BlockDetails) : Prop :=
  wellFormedBlock block = true ∧
    (config.options.isLogBasedResumption = true → block.allocationStatus.Named)

variable {block : BlockDetails}

theorem OpenedSafely.opensSafely (safely : OpenedSafely config block) :
    OpensSafely config.options block := by
  have wellFormed := safely.1
  unfold wellFormedBlock at wellFormed
  simp only [Bool.and_eq_true] at wellFormed
  exact ⟨isSafeRelativePath_pathValidated wellFormed.2, safely.2⟩

variable (answers : FileAnswers)

theorem openBlock_safely (within : thread.window.Within)
    (safely : OpenedSafely config progress.details) :
    Safely (thread.openBlock config answers progress) (fun opened =>
      opened.1.window = thread.window ∧ opened.2.details = progress.details ∧
        opened.2.totalWritten = progress.totalWritten) := by
  unfold openBlock
  split
  · refine (openWriter_checks _ _ _).bind_quiet
      (fun _ unsafely => unsafely safely.opensSafely) (fun result _ => ?_)
    split
    · exact ⟨rfl, rfl, rfl⟩
    · exact safely_failBlock within (by decide)
  · exact ⟨rfl, rfl, rfl⟩

theorem not_deleted_of_data (wellFormed : wellFormedBlock block = true)
    (data : 0 < block.dataSize) : block.allocationStatus ≠ .toBeDeleted := by
  intro deleted
  unfold wellFormedBlock at wellFormed
  rw [deleted] at wellFormed
  simp only [Bool.and_eq_true, beq_self_eq_true, Bool.true_and, Bool.not_eq_true',
    Bool.or_eq_false_iff, bne_eq_false_iff_eq] at wellFormed
  omega

theorem receiveData_safely (written : Bool) {bytes : List Byte}
    (within : (thread.window.take bytes).Within)
    (kept : bytes ≠ [] → progress.details.allocationStatus ≠ .toBeDeleted) :
    Safely (thread.receiveData config written progress bytes) (fun received =>
      received.1.window = thread.window.take bytes ∧ received.2.details = progress.details ∧
        received.2.totalWritten = progress.totalWritten + bytes.length) := by
  unfold receiveData
  split
  · rename_i empty
    have none : bytes = [] := by simpa using empty
    refine ⟨rfl, by simp, ?_⟩
    rw [none]
    simp
  rename_i nonempty
  have some : bytes ≠ [] := by simpa using nonempty
  refine ensures_check (fun deleted => ?_) (fun _ => ?_)
  · simp only [BlockInProgress.addChecksum_details, bne_eq_false_iff_eq] at deleted
    exact kept some deleted
  · split
    · exact ⟨rfl, by simp, by simp⟩
    · split
      · exact ⟨rfl, by simp, by simp⟩
      · exact safely_failBlock within (by decide)

/-- Where a block stands between its first bytes and its end: the received bytes that are not
its own wait behind the offset, and there are none while it is incomplete. -/
structure DataTaken (config : ReceiverConfig) (block : BlockDetails) (remainingData : Int)
    (thread : ReceiverThread) (progress : BlockInProgress) : Prop where
  notNegative : 0 ≤ remainingData
  inBuffer : thread.off + remainingData ≤ config.bufSize
  holds : thread.window.Holds thread.off remainingData.toNat
  details : progress.details = block
  incomplete : progress.totalWritten < block.dataSize → remainingData = 0

theorem receiveFirstData_safely (received : thread.off ≤ thread.oldOffset + thread.numRead)
    (inBuffer : thread.oldOffset + thread.numRead ≤ config.bufSize)
    (holds : thread.window.Holds thread.off (thread.oldOffset + thread.numRead - thread.off).toNat)
    (wellFormed : wellFormedBlock progress.details = true) (unwritten : progress.totalWritten = 0) :
    Safely (thread.receiveFirstData config answers progress) (fun first =>
      DataTaken config progress.details first.2.2 first.1 first.2.1) := by
  refine ensures_check (fun fails => of_decide_eq_false fails (by omega)) (fun _ => ?_)
  have swap : thread.numRead + (thread.oldOffset : Int) - thread.off =
      thread.oldOffset + thread.numRead - thread.off := by omega
  rw [swap]
  have some : min (thread.oldOffset + thread.numRead - thread.off).toNat
      progress.details.dataSize ≤ (thread.oldOffset + thread.numRead - thread.off).toNat :=
    Nat.min_le_left _ _
  have taken := holds.take some
  have kept : thread.buf.read thread.off (min (thread.oldOffset + thread.numRead -
      thread.off).toNat progress.details.dataSize) ≠ [] →
      progress.details.allocationStatus ≠ .toBeDeleted := by
    intro nonempty
    apply not_deleted_of_data wellFormed
    have positive := List.length_pos_iff.mpr nonempty
    rw [Memory.read_length] at positive
    omega
  refine (receiveData_safely _ taken.within kept).bind (fun value stored => ?_)
  obtain ⟨window, details, counted⟩ := stored
  have sameOff : value.1.off = thread.off := congrArg ReceiveWindow.off window
  rw [Memory.read_length, unwritten] at counted
  refine ⟨?_, ?_, ?_, details, ?_⟩
  · dsimp only
    omega
  · dsimp only
    omega
  · have sameCount : (thread.oldOffset + thread.numRead - thread.off).toNat -
        min (thread.oldOffset + thread.numRead - thread.off).toNat progress.details.dataSize =
        (thread.oldOffset + thread.numRead - thread.off -
          (min (thread.oldOffset + thread.numRead - thread.off).toNat
            progress.details.dataSize : Nat)).toNat := by
      omega
    have sameStart (count : Nat) : thread.off + count = value.1.off + count := by rw [sameOff]
    rw [← window, sameCount, sameStart] at taken
    exact taken
  · dsimp only
    omega

theorem receiveRestLoop_safely (wellFormed : wellFormedBlock block = true)
    {remainingData : Int} (rounds round : Nat)
    (data : DataTaken config block remainingData thread progress) :
    Safely (receiveRestLoop config answers rounds round thread progress) (fun rest =>
      DataTaken config block remainingData rest.1 rest.2) := by
  induction rounds generalizing round thread progress with
  | zero => exact data
  | succ rounds ih =>
    unfold receiveRestLoop
    split
    · rename_i unfinished
      rw [data.details] at unfinished
      have none := data.incomplete unfinished
      have settled : thread.connection.consumed = thread.connection.delivered := by
        have holds := data.holds
        rw [none] at holds
        simpa [Holds, window] using holds
      split
      · exact safely_failBlock data.holds.within (by decide)
      dsimp only [readAtMost]
      obtain ⟨bytes, arrives⟩ := thread.socketRead_arrives 0
        (min (progress.details.dataSize - progress.totalWritten) config.bufSize)
      cases result : thread.socketRead 0
          (min (progress.details.dataSize - progress.totalWritten) config.bufSize) with
      | mk count after =>
        rw [result] at arrives
        dsimp only at arrives
        have sameOff := arrives.off
        have sameConsumed := arrives.consumed
        have grown := arrives.delivered
        have inBuffer := data.inBuffer
        split
        · have counted := arrives.count
          have empty : bytes = [] := List.eq_nil_of_length_eq_zero (by omega)
          refine ⟨data.notNegative, ?_, ?_, data.details, data.incomplete⟩
          · dsimp only
            omega
          · rw [none]
            simp [Holds, window, sameConsumed, grown, settled, empty]
        · have taken : (after.window.take bytes).Holds after.off 0 := by
            simp [Holds, take, window, sameConsumed, grown, settled]
          rw [arrives.stored]
          have kept : bytes ≠ [] → progress.details.allocationStatus ≠ .toBeDeleted := by
            intro _
            rw [data.details]
            exact not_deleted_of_data wellFormed (by omega)
          refine (receiveData_safely _ taken.within kept).bind (fun value received => ?_)
          obtain ⟨window, details, _⟩ := received
          have valueOff : value.1.off = thread.off :=
            (congrArg ReceiveWindow.off window).trans sameOff
          refine ih (round + 1) ⟨data.notNegative, ?_, ?_, details.trans data.details,
            fun _ => none⟩
          · omega
          · rw [none, window, valueOff, ← sameOff]
            exact taken
    · exact data

theorem closeBlock_safely (within : thread.window.Within) (progress : BlockInProgress) :
    Safely (thread.closeBlock answers progress) (fun closed => closed = thread) := by
  unfold closeBlock
  split
  · exact safely_failBlock within (by decide)
  split
  · exact safely_failBlock within (by decide)
  · split
    · exact safely_failBlock within (by decide)
    · rfl

/-! ### What is left in the buffer -/

theorem keepLeftover_safely {remainingData : Int} (notNegative : 0 ≤ remainingData)
    (inBuffer : thread.off + remainingData ≤ config.bufSize)
    (holds : thread.window.Holds thread.off remainingData.toNat) :
    Safely (thread.keepLeftover config remainingData) (fun kept =>
      Ready config kept ∧ kept.off + kMinBufLength + kMaxFooter ≤ config.bufSize) := by
  have large := config.bufSize_ge
  refine ensures_check (fun fails => of_decide_eq_false fails notNegative) (fun _ => ?_)
  split
  · split
    · refine ⟨⟨notNegative, ?_, ?_⟩, ?_⟩
      · dsimp only
        omega
      · have moved : (thread.buf.store 0 (thread.buf.read thread.off remainingData.toNat)).read 0
            remainingData.toNat = thread.buf.read thread.off remainingData.toNat := by
          have whole := Memory.read_store thread.buf 0
            (thread.buf.read thread.off remainingData.toNat)
          rw [Memory.read_length] at whole
          exact whole
        exact (congrArg (thread.connection.consumed ++ ·) moved).trans holds
      · unfold kMinBufLength kMaxFooter
        dsimp only
        omega
    · have header : kMaxHeader = 4150 := rfl
      refine ⟨⟨notNegative, inBuffer, holds⟩, ?_⟩
      unfold kMinBufLength kMaxFooter
      dsimp only
      omega
  · have none : remainingData = 0 := by omega
    rw [none] at holds
    refine ⟨⟨le_refl _, ?_, ?_⟩, ?_⟩
    · dsimp only
      omega
    · simpa [Holds, window] using holds
    · unfold kMinBufLength kMaxFooter
      dsimp only
      omega

theorem checkFooter_safely (ready : Ready config thread)
    (room : thread.off + kMinBufLength + kMaxFooter ≤ config.bufSize) (progress : BlockInProgress) :
    Safely (thread.checkFooter config progress) (Ready config) := by
  have inBuffer := ready.inBuffer
  have positive : (0 : Int) < kMinBufLength := by decide
  unfold checkFooter
  dsimp only
  have started : ({ thread with oldOffset := thread.off }).window.Holds thread.off
      thread.numRead.toNat := ready.holds
  refine (readAtLeast_extends _ _ ready.notNegative positive (by omega) (by omega)
    started).bind_quiet (fun _ => id) (fun value extended => ?_)
  have within : value.2.window.Within := extended.holds.within
  have sameOff : value.2.off = thread.off := extended.off
  have sameOldOffset : value.2.oldOffset = thread.off := extended.oldOffset
  have bounded := extended.count_le
  split
  · exact safely_failFile within (by decide)
  split
  · exact safely_failFile within (by decide)
  cases result : decodeUpTo { value.2 with numRead := value.1, off := value.2.off + 1 }
      (value.2.oldOffset + kMaxFooter) decodeFooter with
  | mk checksum after =>
    obtain ⟨afterOldOffset, afterNumRead, holds, bounds⟩ :=
      decodeUpTo_holds result (sameOldOffset ▸ extended.holds)
    have footer : kMaxFooter = 11 := rfl
    have least : kMinBufLength = 256 := rfl
    dsimp only at afterOldOffset afterNumRead bounds ⊢
    cases checksum with
    | none => exact safely_failFile holds.within (by decide)
    | some checksum =>
      dsimp only
      split
      · exact safely_failFile holds.within (by decide)
      · exact ready_of_takes holds (by omega) (by omega) (by omega) rfl

theorem verifyBlock_safely (ready : Ready config thread)
    (room : thread.off + kMinBufLength + kMaxFooter ≤ config.bufSize) (progress : BlockInProgress) :
    Safely (thread.verifyBlock config progress) (Ready config) := by
  unfold verifyBlock
  split
  · exact checkFooter_safely ready room progress
  · split
    · exact { ready with }
    · exact { ready with }

theorem receiveBlock_safely {before : ReceiverThread}
    (taken : HeaderTaken config before thread progress)
    (named : config.options.isLogBasedResumption = true →
      progress.details.allocationStatus.Named) :
    Safely (thread.receiveBlock config answers progress) (fun answer =>
      Ready config answer.1 ∧ answer.2 = .readNextCmd) := by
  refine (openBlock_safely answers taken.holds.within ⟨taken.wellFormed, named⟩).bind
    fun opened ⟨window, details, written⟩ => ?_
  have wellFormed : wellFormedBlock opened.2.details = true := details ▸ taken.wellFormed
  have sameOff : opened.1.off = thread.off := congrArg ReceiveWindow.off window
  have sameOldOffset : opened.1.oldOffset = thread.oldOffset :=
    congrArg ReceiveWindow.oldOffset window
  have sameNumRead : opened.1.numRead = thread.numRead := congrArg ReceiveWindow.numRead window
  have received := taken.received
  have inBuffer := taken.inBuffer
  have holds : opened.1.window.Holds opened.1.off
      (opened.1.oldOffset + opened.1.numRead - opened.1.off).toNat := by
    rw [window, sameOff, sameOldOffset, sameNumRead]
    exact taken.holds
  refine (receiveFirstData_safely answers (by omega) (by omega) holds wellFormed
    (written.trans taken.unwritten)).bind fun first data => ?_
  refine (receiveRestLoop_safely answers wellFormed _ 0 data).bind fun rest complete => ?_
  refine (closeBlock_safely answers complete.holds.within rest.2).bind fun closed same => ?_
  rw [same]
  refine (keepLeftover_safely complete.notNegative complete.inBuffer complete.holds).bind
    fun kept ⟨ready, room⟩ => ?_
  refine (verifyBlock_safely ready room rest.2).bind fun verified after => ?_
  exact ⟨{ after with }, rfl⟩

/-- The header that will be decoded has a named status, if there is a transfer log. -/
def StatusNamed (config : ReceiverConfig) (thread : ReceiverThread) : Prop :=
  config.options.isLogBasedResumption = true →
    ∀ block, ({ thread with off := thread.off + 3 }).headerAt = some block →
      block.allocationStatus.Named

instance (thread : ReceiverThread) : Decidable thread.HeaderReceived :=
  inferInstanceAs (Decidable (_ ≤ _))

instance (config : ReceiverConfig) (thread : ReceiverThread) :
    Decidable (thread.StatusNamed config) :=
  decidable_of_iff (config.options.isLogBasedResumption = true →
      (({ thread with off := thread.off + 3 }).headerAt.all
        fun block : BlockDetails => decide block.allocationStatus.Named) = true)
    (by simp [StatusNamed, Option.all_eq_true])

theorem processFileCmd_safely (dispatched : Dispatched config thread)
    (received : thread.HeaderReceived) (named : thread.StatusNamed config) :
    Safely (thread.processFileCmd config answers) (fun answer =>
      Ready config answer.1 ∧ answer.2 = .readNextCmd) := by
  have enough := dispatched.enough
  have started := dispatched.started
  have least : kMinBufLength = 256 := rfl
  have reset : Dispatched config
      { thread with checkpoint := thread.checkpoint.resetLastBlockDetails } :=
    { dispatched with }
  refine (readFileHeader_safely reset received).bind fun header same => ?_
  have taken : Safely (header.1.decodeFileHeader header.2) (fun block =>
      HeaderTaken config header.1 block.1 block.2) := by
    rw [same]
    apply decodeFileHeader_safely
    · dsimp only
      omega
    · dsimp only
      omega
    · dsimp only
      omega
    · exact dispatched.inBuffer
    · exact dispatched.holds
  refine taken.bind fun block headerTaken => ?_
  refine receiveBlock_safely answers headerTaken fun logBased => ?_
  apply named logBased block.2.details
  have decoded := headerTaken.decoded
  rw [same] at decoded
  exact decoded

end ReceiverThread

end Wdt
