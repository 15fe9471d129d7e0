/-
The system calls of FileCreator. A received name is scanned component by component,
joined to the root directory and handed to mkdir, open and unlink; whatever the calls
answer, they stay below the root.
-/

import Wdt.FileCreator
import Wdt.Lib.Paths

namespace Wdt

open List Outcome Place

/-! ### The scanner -/

def componentAccepted (component : List Byte) : Bool :=
  !component.isEmpty && component != [dot] && component != [dot, dot]

def findSlash (relPath : List Byte) (start : Nat) : Nat :=
  start + (relPath.drop start).findIdx (· == slash)

def componentAt (relPath : List Byte) (start : Nat) : List Byte :=
  (relPath.drop start).take (findSlash relPath start - start)

theorem lt_length_of_componentAccepted {relPath : List Byte} {start : Nat}
    (accepted : componentAccepted (componentAt relPath start) = true) : start < relPath.length := by
  by_contra beyond
  have empty : relPath.drop start = [] := drop_eq_nil_of_le (by omega)
  unfold componentAccepted componentAt at accepted
  rw [empty] at accepted
  simp at accepted

def scanComponents (relPath : List Byte) (start : Nat) : Bool :=
  if accepted : componentAccepted (componentAt relPath start) = true then
    if findSlash relPath start = relPath.length then true
    else scanComponents relPath (findSlash relPath start + 1)
  else false
termination_by relPath.length - start
decreasing_by
  have inside := lt_length_of_componentAccepted accepted
  unfold findSlash
  omega

theorem splitOn_of_findIdx (rest : List Byte) : rest.splitOn slash =
      rest.take (rest.findIdx (· == slash)) :: (if rest.findIdx (· == slash) = rest.length then []
          else (rest.drop (rest.findIdx (· == slash) + 1)).splitOn slash) := by
  generalize position : rest.findIdx (· == slash) = index
  have before : ∀ byte ∈ rest.take index, (byte == slash) = false := by
    intro byte member
    obtain ⟨place, inside, same⟩ := getElem_of_mem member
    rw [getElem_take] at same
    have early : place < rest.findIdx (· == slash) := by
      rw [length_take] at inside
      omega
    rw [← same]
    exact not_of_lt_findIdx early
  have single : (rest.take index).splitOn slash = [rest.take index] :=
    splitOnP_eq_singleton before
  by_cases none : index = rest.length
  · rw [if_pos none, ← single, none, take_length]
  have inside : index < rest.length := by
    have bounded := @List.findIdx_le_length _ (· == slash) rest
    omega
  have found : rest[index] = slash := by
    subst position
    exact beq_iff_eq.mp (@List.findIdx_getElem _ (· == slash) rest inside)
  have shape : rest = rest.take index ++ slash :: rest.drop (index + 1) := by
    rw [← found, ← drop_eq_getElem_cons inside, take_append_drop]
  rw [if_neg none]
  conv_lhs => rw [shape]
  rw [splitOn_append_cons, single, singleton_append]

theorem scanComponents_eq_all (relPath : List Byte) (start : Nat)
    (within : start ≤ relPath.length) :
    scanComponents relPath start =
      ((relPath.drop start).splitOn slash).all componentAccepted := by
  induction start using scanComponents.induct relPath with
  | case1 start accepted last =>
    have whole : (relPath.drop start).findIdx (· == slash) = (relPath.drop start).length := by
      unfold findSlash at last
      rw [length_drop]
      omega
    rw [scanComponents, dif_pos accepted, if_pos last, splitOn_of_findIdx, if_pos whole]
    unfold componentAt findSlash at accepted
    rw [Nat.add_sub_cancel_left] at accepted
    simp [accepted]
  | case2 start accepted more ih =>
    have bounded := @List.findIdx_le_length _ (· == slash) (relPath.drop start)
    rw [length_drop] at bounded
    have interior : (relPath.drop start).findIdx (· == slash) ≠ (relPath.drop start).length := by
      unfold findSlash at more
      rw [length_drop]
      omega
    have next : findSlash relPath start + 1 ≤ relPath.length := by
      unfold findSlash at more ⊢
      omega
    rw [scanComponents, dif_pos accepted, if_neg more, splitOn_of_findIdx (relPath.drop start),
      if_neg interior, all_cons, drop_drop, ih next]
    unfold componentAt findSlash at accepted
    rw [Nat.add_sub_cancel_left] at accepted
    rw [accepted, Bool.true_and]
    unfold findSlash
    rw [Nat.add_assoc]
  | case3 start refused =>
    rw [scanComponents, dif_neg refused, splitOn_of_findIdx, all_cons]
    unfold componentAt findSlash at refused
    rw [Nat.add_sub_cancel_left] at refused
    rw [Bool.not_eq_true] at refused
    rw [refused, Bool.false_and]

theorem isSafeRelativePath_eq_scan (relPath : List Byte) : isSafeRelativePath relPath =
      (!(relPath.isEmpty || relPath.head? == some slash || relPath.contains 0) &&
        scanComponents relPath 0) := by
  rw [scanComponents_eq_all relPath 0 (Nat.zero_le _), drop_zero]
  unfold isSafeRelativePath componentAccepted
  simp only [Bool.not_or, bne]

inductive OpenFlags
  | existing | truncate | exclusive

inductive FileCall
  | mkdir (path : List Byte)
  | openFile (path : List Byte) (flags : OpenFlags)
  | unlink (path : List Byte)

def FileCall.path : FileCall → List Byte
  | mkdir path => path
  | openFile path _ => path
  | unlink path => path

/-- EEXIST and EISDIR count as `present`. -/
inductive MkdirAnswer
  | made | present | failed
  deriving DecidableEq

/-- What the file system and the other threads answer, by the number of calls made before. -/
structure FileSystem where
  mkdir : Nat → MkdirAnswer
  opens : Nat → Bool
  /-- the directories that other threads have entered in the cache -/
  otherDirs : Nat → List (List Byte)

structure CallLog where
  calls : List FileCall := []
  createdDirs : List (List Byte) := []

namespace CallLog

def record (log : CallLog) (call : FileCall) : CallLog := { log with calls := log.calls ++ [call] }

def dirCreated (log : CallLog) (system : FileSystem) (dir : List Byte) : Bool :=
  log.createdDirs.contains dir || (system.otherDirs log.calls.length).contains dir

end CallLog

/-- The checks on the way: those of the model without system calls, and the one that a
directory is written with its slash. -/
inductive FileCheck
  | wdt (check : WdtCheck)
  | directorySlash

def FileCheck.OfName : FileCheck → Prop
  | wdt check => check = .pathValidated
  | directorySlash => True

/-- A failed check keeps the calls made before it. -/
abbrev FileAttempt := Outcome (FileCheck × CallLog) Empty (Bool × CallLog)

def addTrailingSlash (path : List Byte) : List Byte :=
  if path.getLast? = some slash then path else path ++ [slash]

structure RootedFileCreator where
  rootDir : List Byte
  slashed : rootDir.getLast? = some slash
  skipWrites : Bool
  /-- overwriting is allowed, by its option or by download resumption -/
  truncates : Bool

namespace RootedFileCreator

def ofRoot (rootDir : List Byte) (skipWrites truncates : Bool) : RootedFileCreator where
  rootDir := addTrailingSlash rootDir
  slashed := by
    unfold addTrailingSlash
    split
    · assumption
    · simp
  skipWrites := skipWrites
  truncates := truncates

variable (creator : RootedFileCreator) (system : FileSystem) (relPath : List Byte)

def getFullPath : List Byte := creator.rootDir ++ relPath

/-- The position after the last slash before the given one. -/
def lastSlash (path : List Byte) : Nat → Nat
  | 0 => 0
  | position + 1 =>
    if path[position]? = some slash then position + 1 else lastSlash path position

theorem lastSlash_le (path : List Byte) (position : Nat) : lastSlash path position ≤ position := by
  induction position with
  | zero => exact Nat.le_refl 0
  | succ position ih =>
    unfold lastSlash
    split
    · exact Nat.le_refl _
    · omega

def makeDir (dir : List Byte) (log : CallLog) : Bool × CallLog :=
  let after := log.record (.mkdir (creator.getFullPath dir))
  if system.mkdir log.calls.length = .failed then (false, after)
  else (true, { after with createdDirs := dir :: after.createdDirs })

def createDirRecursively (force : Bool) (dir : List Byte) (log : CallLog) : FileAttempt :=
  if creator.skipWrites then .go (false, log)
  else if !force && log.dirCreated system dir then .go (true, log)
  else
    .check (dir.getLast? == some slash) (.directorySlash, log) <|
      if _hasParent : 0 < lastSlash dir (dir.length - 1) then
        (createDirRecursively force (dir.take (lastSlash dir (dir.length - 1))) log).bind
          fun (made, log) => if made then .go (creator.makeDir system dir log) else .go (false, log)
      else .go (creator.makeDir system dir log)
termination_by dir.length
decreasing_by
  have bounded := lastSlash_le dir (dir.length - 1)
  rw [List.length_take]
  omega

def openCall (path : List Byte) (flags : OpenFlags) (log : CallLog) : Bool × CallLog :=
  (system.opens log.calls.length, log.record (.openFile path flags))

def openExistingFile (log : CallLog) : FileAttempt :=
  .check (pathValidated relPath) (.wdt .pathValidated, log) <|
    .go (openCall system (creator.getFullPath relPath) .existing log)

def createParents (dir : List Byte) (log : CallLog) : FileAttempt :=
  if dir.isEmpty then .go (true, log)
  else
    (creator.createDirRecursively system false dir log).bind fun (made, log) =>
      if made then .go (true, log) else creator.createDirRecursively system true dir log

def createFlags : OpenFlags :=
  if creator.truncates then .truncate else .exclusive

def createFile (log : CallLog) : FileAttempt :=
  .check (pathValidated relPath) (.wdt .pathValidated, log) <|
    if creator.skipWrites then .go (false, log)
    else
      let path := creator.getFullPath relPath
      let dir := relPath.take (lastSlash relPath relPath.length)
      (creator.createParents system dir log).bind fun (ready, log) =>
      if !ready then .go (false, log)
      else
        let (isOpen, log) := openCall system path creator.createFlags log
        if isOpen then .go (true, log)
        else if dir.isEmpty then .go (false, log)
        else
          (creator.createDirRecursively system true dir log).bind fun (made, log) =>
            if made then .go (openCall system path creator.createFlags log) else .go (false, log)

def openAndSetSize (options : WdtOptions) (answers : OpenAnswers) (block : BlockDetails)
    (log : CallLog) : FileAttempt :=
  (if block.allocationStatus = .notExists then creator.createFile system block.fileName log
    else creator.openExistingFile system block.fileName log).bind fun (isOpen, log) =>
  if !isOpen then .go (false, log)
  else if block.allocationStatus = .existsCorrectSize then .go (true, log)
  else if !answers.sizeSet then .go (false, log)
  else if options.isLogBasedResumption && !(block.allocationStatus == .existsTooLarge ||
      block.allocationStatus == .notExists) then
    .check (block.allocationStatus == .existsTooSmall) (.wdt .existsTooSmall, log) (.go (true, log))
  else .go (true, log)

/-- The entry of the allocation map and the answers about it are `answers`; the calls are
answered by the file system. -/
def openForBlocks (options : WdtOptions) (answers : OpenAnswers) (block : BlockDetails)
    (log : CallLog) : FileAttempt :=
  if block.allocationStatus = .toBeDeleted then
    .go (false, log.record (.unlink (creator.getFullPath block.fileName)))
  else
    match answers.status with
    | none =>
      if block.allocationStatus = .existsCorrectSize then
        creator.openExistingFile system block.fileName log
      else creator.openAndSetSize system options answers block log
    | some .failed => .go (false, log)
    | some .allocated => creator.openExistingFile system block.fileName log
    | some (.inProgress _) =>
      if answers.allocationFinished then creator.openExistingFile system block.fileName log
      else .go (false, log)

/-! ### Below the root -/

def Below (path : List Byte) : Prop :=
  StrictlyBelow dot (resolve slash dot creator.rootDir) (resolve slash dot path)

/-- The path is the root joined to the name or to a directory on the way to it, it leads
strictly below the root, and nothing of it is lost when it is passed as a C string. -/
def OnTheWay (name path : List Byte) : Prop :=
  ∃ relPath, relPath <+: name ∧ path = creator.getFullPath relPath ∧ creator.Below path ∧
    (0 : Byte) ∉ relPath

def Within (name : List Byte) (log : CallLog) : Prop :=
  ∀ call ∈ log.calls, creator.OnTheWay name call.path

/-- An attempt that stays below the root and fails no check on the name. -/
def StaysBelow (name : List Byte) (attempt : FileAttempt) : Prop :=
  attempt.Ensures (fun (check, log) => ¬ check.OfName ∧ creator.Within name log)
    (fun _ => False) (fun (_, log) => creator.Within name log)

def Made (creator : RootedFileCreator) (log : CallLog) : FileEvent → Prop
  | .deleted name => .unlink (creator.getFullPath name) ∈ log.calls
  | .opened name => ∃ flags, .openFile (creator.getFullPath name) flags ∈ log.calls
  | .wrote _ _ _ => False

/-- The attempt fails no check at all, and ends with an open file only after a call for it. -/
def OpensBelow (name : List Byte) (attempt : FileAttempt) : Prop :=
  attempt.Ensures (fun _ => False) (fun _ => False) (fun (isOpen, log) => creator.Within name log ∧
      (isOpen = true → creator.Made log (.opened name)))

def DirectoryOf (name dir : List Byte) : Prop := dir <+: name ∧ ∃ parent, dir = parent ++ [slash]

variable {creator system} {name dir : List Byte} {log : CallLog} {options : WdtOptions}
  {answers : OpenAnswers} {block : BlockDetails}

theorem plain_of_safe (safe : isSafeRelativePath name = true) :
    ∀ component ∈ name.splitOn slash, Plain dot component := by
  unfold isSafeRelativePath at safe
  simp only [Bool.and_eq_true, all_eq_true, Bool.not_eq_true', bne_iff_ne, ne_eq] at safe
  intro component member
  obtain ⟨⟨nonempty, notDot⟩, notDotDot⟩ := safe.2 component member
  exact ⟨by simpa using nonempty, notDot, notDotDot⟩

theorem rootDir_eq (creator : RootedFileCreator) : ∃ front, creator.rootDir = front ++ [slash] :=
  List.getLast?_eq_some_iff.mp creator.slashed

section

variable (safe : isSafeRelativePath name = true)

include safe

theorem noNul_of_safe : (0 : Byte) ∉ name := by
  unfold isSafeRelativePath at safe
  simp only [Bool.and_eq_true, Bool.not_eq_true'] at safe
  intro member
  have held := safe.1.2
  rw [contains_iff_mem.mpr member] at held
  cases held

theorem below_file : creator.Below (creator.getFullPath name) := by
  obtain ⟨front, shape⟩ := rootDir_eq creator
  unfold Below getFullPath
  rw [shape, append_assoc, singleton_append]
  exact strictlyBelow_join (plain_of_safe safe)

theorem onTheWay_file : creator.OnTheWay name (creator.getFullPath name) :=
  ⟨name, List.prefix_refl name, rfl, below_file safe, noNul_of_safe safe⟩

theorem onTheWay_directory (directory : DirectoryOf name dir) :
    creator.OnTheWay name (creator.getFullPath dir) := by
  obtain ⟨front, shape⟩ := rootDir_eq creator
  obtain ⟨before, parent, written⟩ := directory
  have plain : ∀ component ∈ parent.splitOn slash, Plain dot component := by
    intro component member
    obtain ⟨rest, joined⟩ := before
    apply plain_of_safe safe
    rw [← joined, written, append_assoc, singleton_append, splitOn_append_cons]
    exact mem_append_left _ member
  have below : creator.Below (creator.getFullPath dir) := by
    unfold Below getFullPath
    rw [shape, written, append_assoc, singleton_append]
    exact strictlyBelow_join_directory plain
  exact ⟨dir, before, rfl, below, fun member => noNul_of_safe safe (before.subset member)⟩

end

theorem take_lastSlash {path : List Byte} {position : Nat} (within : position ≤ path.length)
    (found : 0 < lastSlash path position) :
    ∃ parent, path.take (lastSlash path position) = parent ++ [slash] := by
  induction position with
  | zero => exact absurd found (Nat.lt_irrefl 0)
  | succ position ih =>
    unfold lastSlash at found ⊢
    by_cases here : path[position]? = some slash
    · rw [if_pos here, take_add_one, here]
      exact ⟨path.take position, rfl⟩
    · rw [if_neg here] at found ⊢
      exact ih (by omega) found

theorem DirectoryOf.parent (directory : DirectoryOf name dir)
    (found : 0 < lastSlash dir (dir.length - 1)) :
    DirectoryOf name (dir.take (lastSlash dir (dir.length - 1))) :=
  ⟨(List.take_prefix _ dir).trans directory.1, take_lastSlash (Nat.sub_le _ 1) found⟩

theorem directoryOf_name (found : 0 < lastSlash name name.length) :
    DirectoryOf name (name.take (lastSlash name name.length)) :=
  ⟨List.take_prefix _ name, take_lastSlash (Nat.le_refl _) found⟩

theorem Within.record (within : creator.Within name log) (call : FileCall)
    (reaches : creator.OnTheWay name call.path) : creator.Within name (log.record call) := by
  intro other member
  rcases mem_append.mp member with early | new
  · exact within other early
  · rw [mem_singleton.mp new]
    exact reaches

section

variable (safe : isSafeRelativePath name = true)

include safe

theorem makeDir_within (directory : DirectoryOf name dir) (within : creator.Within name log) :
    creator.Within name (creator.makeDir system dir log).2 := by
  have recorded := within.record (.mkdir (creator.getFullPath dir))
    (onTheWay_directory safe directory)
  unfold makeDir
  split
  · exact recorded
  · exact recorded

theorem createDirRecursively_stays (force : Bool)
    (directory : DirectoryOf name dir) (within : creator.Within name log) :
    (creator.createDirRecursively system force dir log).Ensures (fun _ => False) (fun _ => False)
      (fun (_, log) => creator.Within name log) := by
  -- the recursion goes to the parent, which is again on the way to the name
  induction length : dir.length using Nat.strong_induction_on generalizing dir log with
  | _ size ih =>
    rw [createDirRecursively]
    split
    · exact within
    split
    · exact within
    refine ensures_check (fun notSlashed => ?_) (fun _ => ?_)
    · obtain ⟨_, parent, written⟩ := directory
      rw [written] at notSlashed
      simp at notSlashed
    · split
      · rename_i hasParent
        have bounded := lastSlash_le dir (dir.length - 1)
        have shorter : (dir.take (lastSlash dir (dir.length - 1))).length < size := by
          rw [length_take]
          omega
        refine Outcome.Ensures.bind
          (ih _ shorter (directory.parent hasParent) within rfl) (fun value after => ?_)
        dsimp only
        split
        · exact makeDir_within safe directory after
        · exact after
      · exact makeDir_within safe directory within

theorem openCall_opens (within : creator.Within name log) (flags : OpenFlags) :
    creator.OpensBelow name (.go (openCall system (creator.getFullPath name) flags log)) :=
  ⟨within.record _ (onTheWay_file safe),
    fun _ => ⟨flags, List.mem_append_right _ List.mem_cons_self⟩⟩

theorem openExistingFile_opens (within : creator.Within name log) :
    creator.OpensBelow name (creator.openExistingFile system name log) := by
  refine ensures_check (fun refused => ?_) (fun _ => openCall_opens safe within .existing)
  rw [isSafeRelativePath_pathValidated safe] at refused
  cases refused

theorem createParents_stays
    (onTheWay : dir = [] ∨ DirectoryOf name dir) (within : creator.Within name log) :
    (creator.createParents system dir log).Ensures (fun _ => False) (fun _ => False)
      (fun (_, log) => creator.Within name log) := by
  unfold createParents
  split
  · exact within
  rename_i nonempty
  have directory : DirectoryOf name dir := by
    rcases onTheWay with empty | directory
    · rw [empty] at nonempty
      exact absurd rfl nonempty
    · exact directory
  refine Outcome.Ensures.bind (createDirRecursively_stays safe false directory within)
    (fun value after => ?_)
  dsimp only
  split
  · exact after
  · exact createDirRecursively_stays safe true directory after

theorem createFile_opens (within : creator.Within name log) :
    creator.OpensBelow name (creator.createFile system name log) := by
  have closed {log : CallLog} (within : creator.Within name log) :
      creator.OpensBelow name (.go (false, log)) :=
    ⟨within, nofun⟩
  have onTheWay : name.take (lastSlash name name.length) = [] ∨
      DirectoryOf name (name.take (lastSlash name name.length)) := by
    rcases Nat.eq_zero_or_pos (lastSlash name name.length) with none | found
    · rw [none]
      exact .inl rfl
    · exact .inr (directoryOf_name found)
  refine ensures_check (fun refused => ?_) (fun _ => ?_)
  · rw [isSafeRelativePath_pathValidated safe] at refused
    cases refused
  · split
    · exact closed within
    refine Outcome.Ensures.bind (createParents_stays safe onTheWay within)
      (fun value parents => ?_)
    have opened := @openCall_opens creator system name _ safe parents creator.createFlags
    refine ensures_ite (fun _ => closed parents) (fun _ => ?_)
    refine ensures_ite (fun isOpen => ⟨opened.1, fun _ => opened.2 isOpen⟩) (fun _ => ?_)
    refine ensures_ite (fun _ => closed opened.1) (fun nonempty => ?_)
    have directory := onTheWay.resolve_left (fun empty => nonempty (by rw [empty]; rfl))
    refine Outcome.Ensures.bind (createDirRecursively_stays safe true directory opened.1)
      (fun value again => ?_)
    exact ensures_ite (fun _ => openCall_opens safe again creator.createFlags)
      (fun _ => closed again)

end

theorem OpensBelow.stays {attempt : FileAttempt} (opens : creator.OpensBelow name attempt) :
    creator.StaysBelow name attempt :=
  opens.mono (fun _ impossible => impossible.elim) (fun _ => id)
    (fun _ after => after.1)

section

variable (safe : isSafeRelativePath block.fileName = true)
  (within : creator.Within block.fileName log)

include safe within

theorem openAndSetSize_stays :
    creator.StaysBelow block.fileName
      (creator.openAndSetSize system options answers block log) := by
  have opened : creator.StaysBelow block.fileName
      (if block.allocationStatus = .notExists then creator.createFile system block.fileName log
        else creator.openExistingFile system block.fileName log) :=
    ensures_ite (fun _ => (createFile_opens safe within).stays)
      (fun _ => (openExistingFile_opens safe within).stays)
  refine Outcome.Ensures.bind opened (fun value after => ?_)
  refine ensures_ite (fun _ => after) (fun _ => ?_)
  refine ensures_ite (fun _ => after) (fun _ => ?_)
  refine ensures_ite (fun _ => after) (fun _ => ?_)
  refine ensures_ite (fun _ => ?_) (fun _ => after)
  exact ensures_check (fun _ => ⟨nofun, after⟩) (fun _ => after)

theorem openForBlocks_stays :
    creator.StaysBelow block.fileName (creator.openForBlocks system options answers block log) := by
  have existing := (@openExistingFile_opens creator system _ log safe within).stays
  refine ensures_ite (fun _ => within.record _ (onTheWay_file safe)) (fun _ => ?_)
  split
  · exact ensures_ite (fun _ => existing) (fun _ => openAndSetSize_stays safe within)
  · exact within
  · exact existing
  · exact ensures_ite (fun _ => existing) (fun _ => within)

end

/-! ### The model without calls -/

/-- Both models end alike, and every event has its call. -/
def Mirrors {ω : Type} (creator : RootedFileCreator) (attempt : FileAttempt)
    (outcome : Outcome WdtCheck ω (Bool × List FileEvent)) : Prop :=
  match attempt, outcome with
  | .crash (check, _), .crash reason => check = .wdt reason
  | .go (isOpen, log), .go (alsoOpen, events) =>
    isOpen = alsoOpen ∧ ∀ event ∈ events, creator.Made log event
  | _, _ => False

variable {ω : Type}

theorem OpensBelow.mirrors {attempt : FileAttempt} (opens : creator.OpensBelow name attempt) :
    ∃ isOpen : Bool, creator.Mirrors attempt
      (.go (if isOpen then (true, [.opened name]) else (false, [])) :
        Outcome WdtCheck ω (Bool × List FileEvent)) := by
  cases attempt with
  | crash reason => exact opens.elim
  | leave answer => exact nomatch answer
  | go value =>
    obtain ⟨isOpen, log⟩ := value
    refine ⟨isOpen, ?_⟩
    cases isOpen with
    | false => exact ⟨rfl, nofun⟩
    | true =>
      refine ⟨rfl, fun event member => ?_⟩
      rw [mem_singleton.mp member]
      exact opens.2 rfl

theorem createFile_mirrors (safe : isSafeRelativePath name = true)
    (within : creator.Within name log) (writes : options.skipWrites = false)
    (answers : OpenAnswers) :
    ∃ created, creator.Mirrors (creator.createFile system name log)
      (Wdt.createFile options { answers with created := created } name :
        Outcome WdtCheck ω (Bool × List FileEvent)) := by
  obtain ⟨created, mirrors⟩ :=
    @OpensBelow.mirrors creator name ω _ (@createFile_opens creator system name log safe within)
  refine ⟨created, ?_⟩
  unfold Wdt.createFile check
  rw [if_pos (isSafeRelativePath_pathValidated safe), writes]
  exact mirrors

theorem openExistingFile_mirrors (safe : isSafeRelativePath name = true)
    (within : creator.Within name log) (answers : OpenAnswers) :
    ∃ isOpen, creator.Mirrors (creator.openExistingFile system name log)
      (Wdt.openExistingFile { answers with opened := isOpen } name :
        Outcome WdtCheck ω (Bool × List FileEvent)) := by
  obtain ⟨isOpen, mirrors⟩ :=
    @OpensBelow.mirrors creator name ω _
      (@openExistingFile_opens creator system name log safe within)
  refine ⟨isOpen, ?_⟩
  unfold Wdt.openExistingFile check
  rw [if_pos (isSafeRelativePath_pathValidated safe)]
  exact mirrors

theorem Mirrors.bind {attempt : FileAttempt} {next : Bool × CallLog → FileAttempt}
    {outcome : Outcome WdtCheck ω (Bool × List FileEvent)}
    {nextOutcome : Bool × List FileEvent → Outcome WdtCheck ω (Bool × List FileEvent)}
    (first : creator.Mirrors attempt outcome)
    (second : ∀ isOpen log events, (∀ event ∈ events, creator.Made log event) →
      creator.Mirrors (next (isOpen, log)) (nextOutcome (isOpen, events))) :
    creator.Mirrors (attempt.bind next) (outcome.bind nextOutcome) := by
  cases attempt with
  | leave answer => exact nomatch answer
  | crash reason =>
    cases outcome with
    | crash other => exact first
    | leave answer | go value => exact first.elim
  | go value =>
    cases outcome with
    | crash other | leave answer => exact first.elim
    | go other =>
      obtain ⟨isOpen, log⟩ := value
      obtain ⟨alsoOpen, events⟩ := other
      obtain ⟨same, made⟩ := first
      subst same
      exact second isOpen log events made

/-- The model without calls is what is seen of the one with calls. The writer opens no file
when writes are skipped. -/
theorem openForBlocks_mirrors (safe : isSafeRelativePath block.fileName = true)
    (within : creator.Within block.fileName log) (writes : options.skipWrites = false)
    (answers : OpenAnswers) :
    ∃ created isOpen, creator.Mirrors (creator.openForBlocks system options answers block log)
      (Wdt.openForBlocks options { answers with created := created, opened := isOpen } block :
        Outcome WdtCheck ω (Bool × List FileEvent)) := by
  obtain ⟨created, creates⟩ := @createFile_mirrors creator system _ log options ω safe within
    writes answers
  obtain ⟨isOpen, opens⟩ := @openExistingFile_mirrors creator system _ log ω safe within answers
  refine ⟨created, isOpen, ?_⟩
  unfold openForBlocks Wdt.openForBlocks
  split
  · refine ⟨rfl, fun event member => ?_⟩
    rw [mem_singleton.mp member]
    exact mem_append_right _ mem_cons_self
  cases answers.status with
  | none =>
    dsimp only
    split
    · exact opens
    refine Mirrors.bind ?_ (fun isOpen log events made => ?_)
    · split
      · exact creates
      · exact opens
    · dsimp only
      cases isOpen with
      | false => exact ⟨rfl, made⟩
      | true =>
        have positive : ¬ (!true) = true := by decide
        by_cases correct : block.allocationStatus = .existsCorrectSize
        · rw [if_pos correct, if_pos correct]
          exact ⟨rfl, made⟩
        rw [if_neg correct, if_neg correct]
        cases answers.sizeSet with
        | false => exact ⟨rfl, made⟩
        | true =>
          rw [if_neg positive, if_neg positive]
          by_cases resized : (options.isLogBasedResumption &&
              !(block.allocationStatus == .existsTooLarge ||
                block.allocationStatus == .notExists)) = true
          · rw [if_pos resized, if_pos resized]
            unfold check
            split
            · exact ⟨rfl, made⟩
            · rfl
          · rw [if_neg resized, if_neg resized]
            exact ⟨rfl, made⟩
  | some status =>
    cases status with
    | failed => exact ⟨rfl, nofun⟩
    | allocated => exact opens
    | inProgress threadIndex =>
      dsimp only
      split
      · exact opens
      · exact ⟨rfl, nofun⟩

theorem openForBlocks_mirrors_new : ∃ created isOpen, (ofRoot [slash] false true).Mirrors
    ((ofRoot [slash] false true).openForBlocks ⟨fun _ => .made, fun _ => true, fun _ => []⟩ {} {}
      { fileName := [0x61], seqId := 7, fileSize := 10 } {})
    (Wdt.openForBlocks {} { created, opened := isOpen }
      { fileName := [0x61], seqId := 7, fileSize := 10 } : Outcome WdtCheck Unit _) :=
  openForBlocks_mirrors (by decide) (by rintro _ ⟨⟩) rfl {}

end RootedFileCreator

end Wdt
