/-
The protocol's view of a receiver thread, without windows and reads: `Reception` is
the part of the thread's state that the protocol is about, `Reception.receiveFile`
is PROCESS_FILE_CMD as a function of the bytes behind the header, and READ_NEXT_CMD
finds the next command of a plain connection however its bytes arrive.
-/

import Wdt.Frames
import Wdt.PlainReads

namespace Wdt

abbrev FileByte := List Byte × Nat × Byte

def bytesAt (fileName : List Byte) : (position : Nat) → List Byte → List FileByte
  | _, [] => []
  | position, byte :: rest => (fileName, position, byte) :: bytesAt fileName (position + 1) rest

theorem bytesAt_append (fileName : List Byte) (position : Nat) (first second : List Byte) :
    bytesAt fileName position (first ++ second) =
      bytesAt fileName position first ++ bytesAt fileName (position + first.length) second := by
  induction first generalizing position with
  | nil => rfl
  | cons byte rest ih =>
    have shifted : position + 1 + rest.length = position + (rest.length + 1) := by omega
    rw [List.cons_append, bytesAt, bytesAt, ih, List.cons_append, List.length_cons, shifted]

namespace ReceiverEvent

def header : ReceiverEvent → List BlockDetails
  | acceptedFileCmd block => [block]
  | _ => []

def writtenBytes : ReceiverEvent → List FileByte
  | file (.wrote fileName position bytes) => bytesAt fileName position bytes
  | _ => []

def verified : ReceiverEvent → List BlockDetails
  | verifiedBlock block => [block]
  | _ => []

end ReceiverEvent

structure Reception where
  version : Nat
  footerType : FooterType
  checkpoint : Checkpoint
  localErrCode : ErrorCode
  checkpointIndex : Nat
  pendingCheckpointIndex : Nat
  blocksWaitingVerification : List BlockDetails
  headers : List BlockDetails
  written : List FileByte
  verified : List BlockDetails

def ReceiverThread.reception (thread : ReceiverThread) : Reception where
  version := thread.threadProtocolVersion
  footerType := thread.footerType
  checkpoint := thread.checkpoint
  localErrCode := thread.threadStats.localErrCode
  checkpointIndex := thread.checkpointIndex
  pendingCheckpointIndex := thread.pendingCheckpointIndex
  blocksWaitingVerification := thread.blocksWaitingVerification
  headers := thread.trace.flatMap ReceiverEvent.header
  written := thread.trace.flatMap ReceiverEvent.writtenBytes
  verified := thread.trace.flatMap ReceiverEvent.verified

namespace Reception

variable (reception : Reception) (details : BlockDetails)

def accept : Reception :=
  { reception with
    checkpoint := reception.checkpoint.resetLastBlockDetails
    checkpointIndex := reception.pendingCheckpointIndex
    headers := reception.headers ++ [details] }

def write (fileName : List Byte) (position : Nat) (bytes : List Byte) : Reception :=
  { reception with written := reception.written ++ bytesAt fileName position bytes }

/-- Without checksums a break keeps the part of the block that has arrived. -/
def record (receivedBytes : Nat) : Reception :=
  if reception.footerType = .noFooter then
    { reception with
      checkpoint := reception.checkpoint.setLastBlockDetails details.seqId details.offset
        receivedBytes }
  else reception

def verify : Reception :=
  { reception with
    checkpoint := reception.checkpoint.incrNumBlocks
    verified := reception.verified ++ [details] }

def fail (code : ErrorCode) : Reception :=
  { reception with localErrCode := code }

@[simp] theorem write_nil (reception : Reception) (fileName : List Byte) (position : Nat) :
    reception.write fileName position [] = reception := by
  simp [write, bytesAt]

theorem write_append (reception : Reception) (fileName : List Byte) (position : Nat)
    (first second : List Byte) :
    reception.write fileName position (first ++ second) =
      (reception.write fileName position first).write fileName (position + first.length)
        second := by
  simp [write, bytesAt_append]

/-- PROCESS_FILE_CMD from the accepted header on, on the bytes behind it: what the thread has
become, and what is left for the next command unless the connection broke. -/
def receiveBlock (tail : List Byte) : Reception × Option (List Byte) :=
  let data := tail.take details.dataSize
  let rest := tail.drop details.dataSize
  let reception := reception.write details.fileName details.offset data
  if tail.length < details.dataSize then
    ((reception.record details tail.length).fail .socketReadError, none)
  else if reception.footerType = .noFooter then (reception.verify details, some rest)
  else if rest.length < kMinBufLength then (reception.fail .socketReadError, none)
  else (reception.verify details, some (rest.drop (footerMessage data).length))

def receiveFile (tail : List Byte) : Reception × Option (List Byte) :=
  (reception.accept details).receiveBlock details tail

end Reception

/-! ### Files that open and take every write -/

structure FileAnswers.Succeed (answers : FileAnswers) : Prop where
  status : answers.opening.status ≠ some .failed
  allocationFinished : answers.opening.allocationFinished = true
  created : answers.opening.created = true
  opened : answers.opening.opened = true
  sizeSet : answers.opening.sizeSet = true
  seeked : answers.opening.seeked = true
  aborted : ∀ round, answers.aborted round = false
  written : ∀ round, answers.written round = true
  synced : answers.synced = true
  closed : answers.closed = true

theorem FileAnswers.default_succeed : ({} : FileAnswers).Succeed where
  status := nofun
  allocationFinished := rfl
  created := rfl
  opened := rfl
  sizeSet := rfl
  seeked := rfl
  aborted := fun _ => rfl
  written := fun _ => rfl
  synced := rfl
  closed := rfl

section Opening

variable {version : Nat} {details : BlockDetails} {options : WdtOptions} {answers : FileAnswers}
  {ω : Type}

theorem openExistingFile_succeeds (honest : details.Honest version) (succeed : answers.Succeed) :
    (openExistingFile answers.opening details.fileName :
        Outcome WdtCheck ω (Bool × List FileEvent)) =
      .go (true, [.opened details.fileName]) := by
  unfold openExistingFile
  rw [isSafeRelativePath_pathValidated honest.safe, succeed.opened]
  rfl

section

variable (honest : details.Honest version) (succeed : answers.Succeed)
  (writes : options.skipWrites = false)

include honest succeed writes

theorem createFile_succeeds :
    (createFile options answers.opening details.fileName :
        Outcome WdtCheck ω (Bool × List FileEvent)) =
      .go (true, [.opened details.fileName]) := by
  unfold createFile
  rw [isSafeRelativePath_pathValidated honest.safe, succeed.created, writes]
  rfl

theorem openAndSetSize_succeeds (kept : details.allocationStatus ≠ .toBeDeleted)
    (resized : details.allocationStatus ≠ .existsCorrectSize) :
    (openAndSetSize options answers.opening details : Outcome WdtCheck ω (Bool × List FileEvent)) =
      .go (true, [.opened details.fileName]) := by
  have opened : (if details.allocationStatus = .notExists then
        createFile options answers.opening details.fileName
      else openExistingFile answers.opening details.fileName :
        Outcome WdtCheck ω (Bool × List FileEvent)) = .go (true, [.opened details.fileName]) := by
    split
    · exact createFile_succeeds honest succeed writes
    · exact openExistingFile_succeeds honest succeed
  unfold openAndSetSize
  rw [opened, Outcome.go_bind]
  dsimp only
  rw [if_neg (by simp), if_neg resized, succeed.sizeSet, if_neg (by simp)]
  split
  · rename_i logged
    cases status : details.allocationStatus with
    | existsTooSmall => rfl
    | notExists | existsTooLarge => simp [status] at logged
    | existsCorrectSize => exact absurd status resized
    | toBeDeleted => exact absurd status kept
    | unnamed value => exact absurd status (honest.named value)
  · rfl

theorem openForBlocks_succeeds (kept : details.allocationStatus ≠ .toBeDeleted) :
    (openForBlocks options answers.opening details : Outcome WdtCheck ω (Bool × List FileEvent)) =
      .go (true, [.opened details.fileName]) := by
  unfold openForBlocks
  rw [if_neg kept]
  split
  · split
    · exact openExistingFile_succeeds honest succeed
    · rename_i resized
      exact openAndSetSize_succeeds honest succeed writes kept resized
  · rename_i failed
    exact absurd failed succeed.status
  · exact openExistingFile_succeeds honest succeed
  · rw [succeed.allocationFinished, if_pos rfl]
    exact openExistingFile_succeeds honest succeed

end

variable (options ω) in
theorem openWriter_succeeds (honest : details.Honest version) (succeed : answers.Succeed) :
    ∃ result, (openWriter options answers.opening details : Outcome WdtCheck ω OpenResult) =
        .go result ∧ result.ok = true ∧
      (result.events = [] ∨ result.events = [.deleted details.fileName] ∨
        result.events = [.opened details.fileName]) := by
  unfold openWriter
  cases writes : options.skipWrites with
  | true => exact ⟨_, rfl, rfl, .inl rfl⟩
  | false => ?_
  rw [if_neg (by simp)]
  by_cases deleted : details.allocationStatus = .toBeDeleted
  · have opening : (openForBlocks options answers.opening details :
        Outcome WdtCheck ω (Bool × List FileEvent)) = .go (false, [.deleted details.fileName]) := by
      unfold openForBlocks
      rw [if_pos deleted]
    rw [opening, Outcome.go_bind]
    dsimp only
    rw [if_pos deleted]
    exact ⟨_, rfl, rfl, .inr (.inl rfl)⟩
  · rw [openForBlocks_succeeds honest succeed writes deleted, Outcome.go_bind]
    dsimp only
    rw [if_neg deleted, succeed.seeked, if_neg (by simp)]
    exact ⟨_, rfl, rfl, .inr (.inr rfl)⟩

end Opening

/-! ### Stages -/

namespace ReceiverThread

/-- At READ_NEXT_CMD, with `pending` as what is at hand. -/
structure Receiving (config : ReceiverConfig) (thread : ReceiverThread) (pending : List Byte) :
    Prop where
  window : Window config thread thread.off thread.numRead.toNat pending
  notNegative : 0 ≤ thread.numRead

structure InCommand (config : ReceiverConfig) (thread : ReceiverThread) (pending : List Byte) :
    Prop where
  window : Window config thread thread.oldOffset thread.numRead.toNat pending
  enough : kMinBufLength ≤ thread.numRead
  off : thread.off = thread.oldOffset + 1

def dispatch (cmd : Byte) : Option ReceiverState :=
  if cmd = doneCmd then some .processDoneCmd
  else if cmd = fileCmd then some .processFileCmd
  else if cmd = settingsCmd then some .processSettingsCmd
  else if cmd = sizeCmd then some .processSizeCmd
  else none

variable {config : ReceiverConfig} {thread : ReceiverThread} {pending : List Byte}

section

variable (receiving : Receiving config thread pending)
  (room : thread.off + kMinBufLength ≤ config.bufSize)

include receiving room

theorem Receiving.read :
    ∃ count buf connection,
      readAtLeast { thread with oldOffset := thread.off } thread.off (config.bufSize - thread.off)
          kMinBufLength thread.numRead =
        .go (count, { thread.withReads buf connection with oldOffset := thread.off }) ∧
      (pending.length < kMinBufLength → count < kMinBufLength) ∧
      (kMinBufLength ≤ pending.length → kMinBufLength ≤ count ∧
        Window config (thread.withReads buf connection) thread.off count.toNat pending) := by
  have least : kMinBufLength = 256 := rfl
  have within := receiving.window.within
  have numRead : ((thread.numRead.toNat : Nat) : Int) = thread.numRead :=
    Int.toNat_of_nonneg receiving.notNegative
  have space : ((config.bufSize - thread.off : Nat) : Int) = config.bufSize - thread.off := by
    omega
  obtain ⟨count, buf, connection, result, reads⟩ := @readAtLeast_plain
    { thread with oldOffset := thread.off } receiving.window.plain thread.off
    (config.bufSize - thread.off) kMinBufLength thread.numRead.toNat (by omega) (by omega)
    (by omega)
  rw [numRead, space] at result
  have content : buf.read thread.off count.toNat ++ connection.coming = pending := by
    rw [reads.pending]
    exact receiving.window.content
  have counted : count.toNat ≤ pending.length := by
    rw [← content, List.length_append, Memory.read_length]
    exact Nat.le_add_right _ _
  have bounded := reads.count_le
  refine ⟨count, buf, connection, result, fun short => by omega, fun long => ?_⟩
  have enough : kMinBufLength ≤ count.toNat := by
    rcases reads.enough with enough | ended
    · exact enough
    · rw [ended, List.append_nil] at content
      rw [← content, Memory.read_length] at long
      exact long
  exact ⟨by omega, reads.plain, by omega, content⟩

theorem readNextCmd_short (short : pending.length < kMinBufLength) :
    ∃ after, thread.readNextCmd config = .go (after, .acceptWithTimeout) ∧
      after.reception = thread.reception.fail .socketReadError := by
  obtain ⟨count, buf, connection, result, few, _⟩ := receiving.read room
  unfold readNextCmd
  dsimp only at result ⊢
  rw [result, Outcome.go_bind]
  rw [if_pos (few short)]
  exact ⟨_, rfl, rfl⟩

end

theorem readNextCmd_dispatches {cmd : Byte} {rest : List Byte} {state : ReceiverState}
    (receiving : Receiving config thread (cmd :: rest))
    (room : thread.off + kMinBufLength ≤ config.bufSize)
    (long : kMinBufLength ≤ (cmd :: rest).length) (known : dispatch cmd = some state) :
    ∃ after, thread.readNextCmd config = .go (after, state) ∧
      InCommand config after (cmd :: rest) ∧ after.reception = thread.reception ∧
      after.oldOffset = thread.off := by
  obtain ⟨count, buf, connection, result, _, received⟩ := receiving.read room
  obtain ⟨enough, window⟩ := received long
  have least : (kMinBufLength : Int) = 256 := rfl
  have first : buf thread.off = cmd := by
    have split : Window config _ thread.off count.toNat ([cmd] ++ rest) := window
    have received : [cmd].length ≤ count.toNat := by
      rw [List.length_singleton]
      omega
    exact Memory.apply_eq_of_read (split.front received)
  subst first
  unfold readNextCmd
  dsimp only at result ⊢
  rw [result, Outcome.go_bind]
  rw [if_neg (by omega)]
  have inCommand : InCommand config
      { thread.withReads buf connection with
        oldOffset := thread.off
        numRead := count
        off := thread.off + 1 } (buf thread.off :: rest) :=
    ⟨window.congr rfl rfl rfl rfl, enough, rfl⟩
  unfold dispatch at known
  split at known
  · rename_i isDone
    cases known
    rw [if_pos isDone]
    exact ⟨_, rfl, inCommand, rfl, rfl⟩
  rename_i notDone
  rw [if_neg notDone]
  split at known
  · rename_i isFile
    cases known
    rw [if_pos isFile]
    exact ⟨_, rfl, inCommand, rfl, rfl⟩
  rename_i notFile
  rw [if_neg notFile]
  split at known
  · rename_i isSettings
    cases known
    rw [if_pos isSettings]
    exact ⟨_, rfl, inCommand, rfl, rfl⟩
  rename_i notSettings
  rw [if_neg notSettings]
  split at known
  · rename_i isSize
    cases known
    rw [if_pos isSize]
    exact ⟨_, rfl, inCommand, rfl, rfl⟩
  · cases known

end ReceiverThread

end Wdt
