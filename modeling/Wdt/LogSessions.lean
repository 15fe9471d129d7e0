/-
Whole receiver sessions on one transfer log: each parses the log it finds, lets the
sender decide by the result what becomes of each file, and logs what FileCreator and
ReceiverThread do to the files. Entries of different files come in any order.
-/

import Wdt.LogReplay
import Wdt.Lib.Transition

namespace Wdt

structure LogSettings where
  preallocate : Bool := true
  deleteExtraFiles : Bool := true
  recoveryId : List Byte
  config : Nat

def LogSettings.parser (settings : LogSettings) : LogParser where
  shouldPreallocateFiles := settings.preallocate
  recoveryId := settings.recoveryId
  config := settings.config

/-- A file from its creation entry on: the sizes it was given and the blocks written to it. -/
structure Incarnation where
  seqId : Nat
  fileName : List Byte
  createdSize : Nat
  resizes : List Nat := []
  blocks : List Interval := []
  deriving DecidableEq

namespace Incarnation

def sizes (file : Incarnation) : List Nat := file.createdSize :: file.resizes

/-- The file with one more resize entry, if it is the one of the seq-id. -/
def resized (seqId fileSize : Nat) (file : Incarnation) : Incarnation :=
  if file.seqId = seqId then { file with resizes := file.resizes ++ [fileSize] } else file

def written (seqId : Nat) (block : Interval) (file : Incarnation) : Incarnation :=
  if file.seqId = seqId then { file with blocks := file.blocks ++ [block] } else file

/-- The size on disk, if the creation entry passes its check there. -/
def registeredSize (preallocate : Bool) (disk : Directory) (file : Incarnation) : Option Nat :=
  match disk file.fileName with
  | none => none
  | some size => if preallocate && decide (size < file.createdSize) then none else some size

/-- The disk does not contradict the entries of the file: a file that fails its check has no
resize entries; one that passes is as long as its blocks reach and, where files are
preallocated, as its resize entries say. -/
def ToleratedBy (preallocate : Bool) (disk : Directory) (file : Incarnation) : Prop :=
  match file.registeredSize preallocate disk with
  | none => file.resizes = []
  | some size => (∀ block ∈ file.blocks, block.stop ≤ size) ∧
      (preallocate = true → ∀ resized ∈ file.resizes, resized ≤ size)

instance (preallocate : Bool) (disk : Directory) (file : Incarnation) :
    Decidable (file.ToleratedBy preallocate disk) := by
  unfold ToleratedBy
  cases file.registeredSize preallocate disk <;> infer_instance

end Incarnation

/-- `FileCreator::setFileSize`: the size behind the call. -/
def setFileSize (preallocate : Bool) (current fileSize : Nat) : Nat :=
  let truncated := if fileSize < current then (if preallocate then fileSize else 0) else current
  if fileSize = 0 then truncated
  else if !preallocate then truncated
  else max truncated fileSize

/-- A block of some bytes extends the file, an empty one does not. -/
def writtenSize (current offset dataSize : Nat) : Nat :=
  if dataSize = 0 then current else max current (offset + dataSize)

/-! ### Sessions -/

structure OpenFile where
  fileName : List Byte
  seqId : Nat
  fileSize : Nat
  deriving DecidableEq

structure LogSession where
  /-- the chunks that the log was parsed to, which the sender goes by -/
  reported : List FileChunksInfo
  /-- the files of which this session has handled a first block -/
  touched : List (List Byte) := []
  opened : List OpenFile := []
  /-- truncated files: the invalidation is logged, the creation not yet -/
  pending : List OpenFile := []
  /-- seq-ids that the sender has given to new files -/
  usedSeqIds : List Nat := []

/-- `live` are the files of the log that were not invalidated, `dead` the others. -/
structure LogWorld where
  log : List Byte := []
  disk : Directory
  live : List Incarnation := []
  dead : List Incarnation := []
  session : Option LogSession := none

inductive SessionOp
  /-- the header, behind an invalidation of the directory by `verifySenderIp` for another ip and
  one by `addTransferLogHeader` for a sender that does not resume -/
  | begin (sameSender resumes : Bool) (senderIp : List Byte) (timestamp : Nat)
  /-- the first block of a file, by its allocation status: NOT_EXISTS, EXISTS_TOO_LARGE, whose
  creation entry may come later, EXISTS_TOO_SMALL and EXISTS_CORRECT_SIZE -/
  | create (file : OpenFile) (timestamp : Nat)
  | shrink (file : OpenFile) (timestamp : Nat)
  | recreate (file : OpenFile) (timestamp : Nat)
  | grow (fileName : List Byte) (fileSize timestamp : Nat)
  | reuse (fileName : List Byte)
  | writeBlock (file : OpenFile) (offset dataSize timestamp : Nat)
  | writePart (file : OpenFile) (offset dataSize : Nat)
  | delete (fileName : List Byte) (timestamp : Nat)
  | finish

namespace LogSession

variable (session : LogSession)

/-- What the log said about a file that the session has not handled yet. -/
def previous (fileName : List Byte) : Option FileChunksInfo :=
  if fileName ∈ session.touched then none
  else session.reported.find? (fun info => decide (info.fileName = fileName))

/-- The sender counts on from the largest seq-id that was reported. -/
def IsNewSeqId (seqId : Nat) : Prop :=
  seqId ∉ session.usedSeqIds ∧ ∀ info ∈ session.reported, info.seqId < seqId

instance (session : LogSession) (seqId : Nat) : Decidable (session.IsNewSeqId seqId) := by
  unfold IsNewSeqId
  infer_instance

def touch (fileName : List Byte) : LogSession :=
  { session with touched := fileName :: session.touched }

end LogSession

namespace LogWorld

variable (settings : LogSettings) (world : LogWorld)

/-- An entry that does not fit its buffer ends the process. -/
def logEntry (entry : LogEntry) : Option LogWorld :=
  if entry.InRange ∧ entry.bytes.length ≤ kMaxEntryLength then
    some { world with log := world.log ++ entry.bytes }
  else none

def setSize (fileName : List Byte) (size : Option Nat) : LogWorld :=
  { world with disk := Function.update world.disk fileName size }

def retire (seqId : Nat) : LogWorld :=
  { world with
    live := world.live.filter (fun file => decide (file.seqId ≠ seqId))
    dead := world.dead ++ world.live.filter (fun file => decide (file.seqId = seqId)) }

def amend (change : Incarnation → Incarnation) : LogWorld :=
  { world with live := world.live.map change }

def withSession (session : LogSession) : LogWorld :=
  { world with session := some session }

/-- The header as `writeLogHeader` writes it: nothing, if it does not fit. -/
def headerBytes (senderIp : List Byte) (timestamp : Nat) : List Byte :=
  (encodeLogHeader kMaxEntryLength
    { timestamp
      recoveryId := settings.recoveryId
      senderIp
      config := settings.config }).getD []

/-- A log that is not found valid gets no further session. -/
def beginSession (sameSender resumes : Bool) (senderIp : List Byte) (timestamp : Nat) :
    Option LogWorld :=
  match settings.parser.parseLog world.disk (fun _ => timestamp) [] { contents := world.log } with
  | .error _ => none
  | .ok result =>
    if result.status ≠ .ok ∨ int64Max < timestamp then none
    else match (!sameSender).toNat + (!resumes).toNat with
    | 0 =>
      some { world with
        log := result.file.contents ++ headerBytes settings senderIp timestamp
        session := some { reported := result.fileChunksInfo } }
    | more + 1 =>
      some { world with
        log := result.file.contents ++
          (List.replicate (more + 1)
            (LogEntry.directoryInvalidation { timestamp }).bytes).flatten ++
              headerBytes settings senderIp timestamp
        live := []
        dead := world.dead ++ world.live
        session := some { reported := [] } }

/-- The creation entry of a file, and the file as it is then known. -/
def logCreation (session : LogSession) (file : OpenFile) (timestamp : Nat) : Option LogWorld :=
  (world.logEntry (.fileCreation
    { timestamp
      fileName := file.fileName
      seqId := file.seqId
      fileSize := file.fileSize })).map fun world =>
        { world with
          live := world.live ++
            [{ seqId := file.seqId, fileName := file.fileName, createdSize := file.fileSize }]
          session := some { session with opened := file :: session.opened } }

def step (op : SessionOp) : Option LogWorld :=
  match world.session, op with
  | none, .begin sameSender resumes senderIp timestamp =>
    world.beginSession settings sameSender resumes senderIp timestamp
  | some session, .create file timestamp =>
    if file.fileName ∉ session.touched ∧ session.previous file.fileName = none ∧
        session.IsNewSeqId file.seqId then
      (world.setSize file.fileName (some (setFileSize settings.preallocate 0 file.fileSize))
        ).logCreation { session.touch file.fileName with
          usedSeqIds := file.seqId :: session.usedSeqIds } file timestamp
    else none
  | some session, .shrink file timestamp =>
    match session.previous file.fileName with
    | none => none
    | some info =>
      if file.fileSize < info.fileSize ∧ session.IsNewSeqId file.seqId then
        (((world.setSize file.fileName (some (setFileSize settings.preallocate
            ((world.disk file.fileName).getD 0) file.fileSize))).retire info.seqId).logEntry
          (.fileInvalidation { timestamp, seqId := info.seqId })).map fun world =>
            world.withSession { session.touch file.fileName with
              usedSeqIds := file.seqId :: session.usedSeqIds
              pending := file :: session.pending }
      else none
  | some session, .recreate file timestamp =>
    if file ∈ session.pending then
      world.logCreation { session with pending := session.pending.erase file } file timestamp
    else none
  | some session, .grow fileName fileSize timestamp =>
    match session.previous fileName with
    | none => none
    | some info =>
      if info.fileSize < fileSize then
        (((world.setSize fileName (some (setFileSize settings.preallocate
            ((world.disk fileName).getD 0) fileSize))).amend
              (Incarnation.resized info.seqId fileSize)).logEntry
          (.fileResize { timestamp, seqId := info.seqId, fileSize })).map fun world =>
            world.withSession { session.touch fileName with
              opened := { fileName, seqId := info.seqId, fileSize } :: session.opened }
      else none
  | some session, .reuse fileName =>
    (session.previous fileName).map fun info =>
      world.withSession { session.touch fileName with
        opened := { fileName, seqId := info.seqId, fileSize := info.fileSize } ::
          session.opened }
  | some session, .writeBlock file offset dataSize timestamp =>
    -- the sender has no empty blocks but those of empty files
    if file ∈ session.opened ∧ offset + dataSize ≤ file.fileSize ∧ (0 < dataSize ∨ offset = 0) then
      ((world.setSize file.fileName (some (writtenSize ((world.disk file.fileName).getD 0)
          offset dataSize))).amend (Incarnation.written file.seqId
            { start := offset, stop := offset + dataSize })
        ).logEntry (.blockWrite { timestamp, seqId := file.seqId, offset
                                  blockSize := dataSize })
    else none
  | some session, .writePart file offset dataSize =>
    if file ∈ session.opened ∧ offset + dataSize ≤ file.fileSize then
      some (world.setSize file.fileName (some (writtenSize
        ((world.disk file.fileName).getD 0) offset dataSize)))
    else none
  | some session, .delete fileName timestamp =>
    match session.previous fileName with
    | none => none
    | some info =>
      (((if settings.deleteExtraFiles then world.setSize fileName none else world).retire
          info.seqId).logEntry
        (.fileInvalidation { timestamp, seqId := info.seqId })).map fun world =>
          world.withSession (session.touch fileName)
  | some session, .finish =>
    if session.pending = [] then some { world with session := none } else none
  | _, _ => none

def Step (op : SessionOp) (after : LogWorld) : Prop :=
  world.step settings op = some after

def logHeader (senderIp : List Byte) (timestamp : Nat) : LogEntry := .header
    { timestamp
      recoveryId := settings.recoveryId
      senderIp
      config := settings.config }

/-- A header names the sender and is written as a whole. A file grows to no less than any size
that was logged under its seq-id. When a session ends, the files of the disk do not contradict
the entries of the files that were invalidated. -/
def Tolerable : SessionOp → Prop
  | .begin _ _ senderIp timestamp => senderIp ≠ [] ∧
      (logHeader settings senderIp timestamp).InRange ∧
      (logHeader settings senderIp timestamp).bytes.length ≤ kMaxEntryLength
  | .grow fileName fileSize _ =>
    ∀ info ∈ (world.session.bind (fun session => session.previous fileName)).toList,
      ∀ file ∈ world.dead ++ world.live, file.seqId = info.seqId →
        ∀ size ∈ file.sizes, size ≤ fileSize
  | .finish => ∀ file ∈ world.dead, file.ToleratedBy settings.preallocate world.disk
  | _ => True

instance (world : LogWorld) (op : SessionOp) : Decidable (world.Tolerable settings op) := by
  cases op <;> unfold Tolerable <;> infer_instance

end LogWorld

end Wdt
