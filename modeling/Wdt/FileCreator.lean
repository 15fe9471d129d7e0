/-
Opening a file for one block: the path check, the decision of FileCreator which of
the threads allocates the file, and FileWriter's view of the result. The file system
and the allocation map, which the threads share, answer through `OpenAnswers`.
-/

import Wdt.Protocol
import Wdt.Lib.Outcome

namespace Wdt

structure WdtOptions where
  enableDownloadResumption : Bool := false
  resumeUsingDirTree : Bool := false
  deleteExtraFiles : Bool := false
  skipWrites : Bool := false
  fsync : Bool := false
  skipFadvise : Bool := false

def WdtOptions.isLogBasedResumption (options : WdtOptions) : Bool :=
  options.enableDownloadResumption && !options.resumeUsingDirTree

inductive WdtCheck
  | lengthNotNegative
  | atLeastPositive
  | atLeastWithinMax
  | remainingDataNotNegative
  | timeoutPositive
  | settingsReceived
  | errorExpected
  | noErrorExpected
  | pathValidated
  | deletedFileNotOpen
  | deletedFileNotWritten
  | existsTooSmall
  deriving DecidableEq

def slash : Byte := 0x2F

def dot : Byte := 0x2E

def isSafeRelativePath (relPath : List Byte) : Bool :=
  !relPath.isEmpty && relPath.head? != some slash && !relPath.contains 0 &&
    (relPath.splitOn slash).all
      (fun component => !component.isEmpty && component != [dot] && component != [dot, dot])

/-- What `createFile` and `openExistingFile` check before they touch the file system. -/
def pathValidated (relPath : List Byte) : Bool :=
  !relPath.isEmpty && relPath.head? != some slash && relPath.getLast? != some slash

theorem isSafeRelativePath_pathValidated {path : List Byte}
    (safe : isSafeRelativePath path = true) : pathValidated path = true := by
  unfold isSafeRelativePath at safe
  simp only [Bool.and_eq_true, List.all_eq_true, Bool.not_eq_true'] at safe
  obtain ⟨⟨⟨nonempty, relative⟩, _⟩, components⟩ := safe
  have notLast : path.getLast? ≠ some slash := by
    intro last
    obtain ⟨front, shape⟩ := List.getLast?_eq_some_iff.mp last
    have split : path.splitOn slash = front.splitOn slash ++ [[]] := by
      rw [shape, List.splitOn, List.splitOnP_append_cons front [] (by simp)]
      rfl
    have empty := (components [] (by rw [split]; simp)).1.1
    cases empty
  simp [pathValidated, nonempty, relative, notLast]

inductive FileStatus
  | allocated
  | failed
  | inProgress (threadIndex : Nat)

structure OpenAnswers where
  /-- the entry of the block's seq-id -/
  status : Option FileStatus := none
  /-- how another thread's allocation ended -/
  allocationFinished : Bool := true
  created : Bool := true
  opened : Bool := true
  sizeSet : Bool := true
  seeked : Bool := true

inductive FileEvent
  | deleted (fileName : List Byte)
  | opened (fileName : List Byte)
  | wrote (fileName : List Byte) (position : Nat) (bytes : List Byte)
  deriving DecidableEq

def FileEvent.fileName : FileEvent → List Byte
  | deleted name => name
  | opened name => name
  | wrote name _ _ => name

variable {ω : Type}

def openExistingFile (answers : OpenAnswers) (fileName : List Byte) :
    Outcome WdtCheck ω (Bool × List FileEvent) :=
  .check (pathValidated fileName) .pathValidated <|
    .go (if answers.opened then (true, [.opened fileName]) else (false, []))

def createFile (options : WdtOptions) (answers : OpenAnswers) (fileName : List Byte) :
    Outcome WdtCheck ω (Bool × List FileEvent) :=
  .check (pathValidated fileName) .pathValidated <|
    .go (if !options.skipWrites && answers.created then (true, [.opened fileName])
      else (false, []))

/-- The first block of a file creates or resizes it. The entries added to the transfer log are
not modelled; the branch that chooses among them is, because it ends in a check. -/
def openAndSetSize (options : WdtOptions) (answers : OpenAnswers) (block : BlockDetails) :
    Outcome WdtCheck ω (Bool × List FileEvent) :=
  (if block.allocationStatus = .notExists then createFile options answers block.fileName
    else openExistingFile answers block.fileName).bind fun (isOpen, events) =>
  if !isOpen then .go (false, events)
  else if block.allocationStatus = .existsCorrectSize then .go (true, events)
  else if !answers.sizeSet then .go (false, events)
  else if options.isLogBasedResumption && !(block.allocationStatus == .existsTooLarge ||
      block.allocationStatus == .notExists) then
    .check (block.allocationStatus == .existsTooSmall) .existsTooSmall (.go (true, events))
  else .go (true, events)

def openForBlocks (options : WdtOptions) (answers : OpenAnswers) (block : BlockDetails) :
    Outcome WdtCheck ω (Bool × List FileEvent) :=
  if block.allocationStatus = .toBeDeleted then .go (false, [.deleted block.fileName])
  else
    match answers.status with
    | none =>
      if block.allocationStatus = .existsCorrectSize then
        openExistingFile answers block.fileName
      else openAndSetSize options answers block
    | some .failed => .go (false, [])
    | some .allocated => openExistingFile answers block.fileName
    | some (.inProgress _) =>
      if answers.allocationFinished then openExistingFile answers block.fileName
      else .go (false, [])

structure OpenResult where
  ok : Bool
  isOpen : Bool
  events : List FileEvent

def openWriter (options : WdtOptions) (answers : OpenAnswers) (block : BlockDetails) :
    Outcome WdtCheck ω OpenResult :=
  if options.skipWrites then .go { ok := true, isOpen := false, events := [] }
  else
    (openForBlocks options answers block).bind fun (isOpen, events) =>
      if block.allocationStatus = .toBeDeleted then
        .check (!isOpen) .deletedFileNotOpen (.go { ok := true, isOpen := false, events })
      else if isOpen && decide (0 < block.offset) && !answers.seeked then
        .go { ok := false, isOpen := false, events }
      else .go { ok := isOpen, isOpen, events }

/-! ### The checks on the way -/

/-- The path was validated, and with a transfer log the status is one the source names. -/
def OpensSafely (options : WdtOptions) (block : BlockDetails) : Prop :=
  pathValidated block.fileName = true ∧
    (options.isLogBasedResumption = true → block.allocationStatus.Named)

/-- Opening never answers early, only an unsafe block fails a check, and all that it does is
under the name of the block. -/
def OpensUnder {α : Type} (options : WdtOptions) (block : BlockDetails)
    (events : α → List FileEvent) (outcome : Outcome WdtCheck ω α) : Prop :=
  outcome.Ensures (fun _ => ¬ OpensSafely options block) (fun _ => False)
    (fun value => ∀ event ∈ events value, event.fileName = block.fileName)

section

variable (options : WdtOptions) (answers : OpenAnswers) (block : BlockDetails)

include options answers block

theorem openExistingFile_checks :
    OpensUnder options block Prod.snd (openExistingFile answers block.fileName :
      Outcome WdtCheck ω (Bool × List FileEvent)) := by
  refine Outcome.ensures_check (fun unsafePath safely => ?_) (fun _ => ?_)
  · rw [safely.1] at unsafePath
    cases unsafePath
  · split <;> simp [Outcome.Ensures, FileEvent.fileName]

theorem createFile_checks :
    OpensUnder options block Prod.snd (createFile options answers block.fileName :
      Outcome WdtCheck ω (Bool × List FileEvent)) := by
  refine Outcome.ensures_check (fun unsafePath safely => ?_) (fun _ => ?_)
  · rw [safely.1] at unsafePath
    cases unsafePath
  · split <;> simp [Outcome.Ensures, FileEvent.fileName]

theorem openAndSetSize_checks (kept : block.allocationStatus ≠ .toBeDeleted) :
    OpensUnder options block Prod.snd (openAndSetSize options answers block :
      Outcome WdtCheck ω (Bool × List FileEvent)) := by
  have opened : OpensUnder options block Prod.snd
      (if block.allocationStatus = .notExists then createFile options answers block.fileName
        else openExistingFile answers block.fileName :
        Outcome WdtCheck ω (Bool × List FileEvent)) := by
    split
    · exact createFile_checks options answers block
    · exact openExistingFile_checks options answers block
  refine Outcome.Ensures.bind opened (fun value named => ?_)
  dsimp only
  split
  · exact named
  split
  · exact named
  rename_i otherSize
  split
  · exact named
  split
  · rename_i resized
    refine Outcome.ensures_check (fun notSmall safely => ?_) (fun _ => named)
    simp only [Bool.and_eq_true, Bool.not_eq_true', Bool.or_eq_false_iff,
      beq_eq_false_iff_ne, ne_eq] at resized notSmall
    have known := safely.2 resized.1
    cases status : block.allocationStatus with
    | notExists => exact resized.2.2 status
    | existsCorrectSize => exact otherSize status
    | existsTooLarge => exact resized.2.1 status
    | existsTooSmall => exact notSmall status
    | toBeDeleted => exact kept status
    | unnamed value => exact known value status
  · exact named

theorem openForBlocks_checks :
    OpensUnder options block Prod.snd (openForBlocks options answers block :
      Outcome WdtCheck ω (Bool × List FileEvent)) := by
  unfold openForBlocks
  split
  · simp [OpensUnder, Outcome.Ensures, FileEvent.fileName]
  rename_i kept
  split
  · split
    · exact openExistingFile_checks options answers block
    · exact openAndSetSize_checks options answers block kept
  · simp [OpensUnder, Outcome.Ensures]
  · exact openExistingFile_checks options answers block
  · split
    · exact openExistingFile_checks options answers block
    · simp [OpensUnder, Outcome.Ensures]

theorem openWriter_checks :
    OpensUnder options block OpenResult.events (openWriter options answers block :
      Outcome WdtCheck ω OpenResult) := by
  unfold openWriter
  split
  · simp [OpensUnder, Outcome.Ensures]
  by_cases deleted : block.allocationStatus = .toBeDeleted
  · simp [openForBlocks, deleted, Outcome.check, OpensUnder, Outcome.Ensures, FileEvent.fileName]
  refine Outcome.Ensures.bind (openForBlocks_checks options answers block) (fun value named => ?_)
  dsimp only
  rw [if_neg deleted]
  split
  · exact named
  · exact named

end

end Wdt
