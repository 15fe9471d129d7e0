/-
The parser of the transfer log: it walks through the entries, judges them by the
files that are on the disk now, cuts off what a partial write left at the end, and
appends invalidation entries for the files that failed their check.
-/

import Wdt.TransferLog
import Wdt.FileChunks
import Wdt.Reporting
import Wdt.Lib.SortedMap
import Wdt.Lib.Outcome

namespace Wdt

structure LogFile where
  contents : List Byte
  position : Nat := 0
  deriving DecidableEq

namespace LogFile

def read (file : LogFile) (count : Nat) : List Byte × LogFile :=
  let bytes := (file.contents.drop file.position).take count
  (bytes, { file with position := file.position + bytes.length })

/-- A write behind the end leaves zeros in the gap. -/
def write (file : LogFile) (bytes : List Byte) : LogFile where
  contents := file.contents.take file.position ++
    List.replicate (file.position - file.contents.length) 0 ++ bytes ++
      file.contents.drop (file.position + bytes.length)
  position := file.position + bytes.length

def truncateExtraBytesAtEnd (file : LogFile) (extraBytes : Nat) : LogFile where
  contents := file.contents.take (file.contents.length - extraBytes)
  position := file.contents.length - extraBytes

end LogFile

/-- The size of each file under the root directory, as `stat` reports it. -/
abbrev Directory := List Byte → Option Nat

/-! ### Processing entries -/

structure LogParser where
  resumeUsingDirTree : Bool := false
  shouldPreallocateFiles : Bool := true
  recoveryId : List Byte
  config : Nat
  parseOnly : Bool := false

/-- What it collects, and the sender ip of the last header, which it returns through a
reference. -/
structure ParsedLog where
  headerParsed : Bool := false
  senderIp : List Byte := []
  fileInfoMap : SortedMap Nat FileChunksInfo := .empty
  seqIdToSizeMap : SortedMap Nat Nat := .empty
  invalidSeqIds : SortedMap Nat Unit := .empty
  deriving DecidableEq

def ParsedLog.clearParsedData (parsed : ParsedLog) : ParsedLog :=
  { parsed with fileInfoMap := .empty, seqIdToSizeMap := .empty, invalidSeqIds := .empty }

inductive LogCheck
  | intervalOrdered
  | sizeRecorded
  /-- no check of the source: the loop takes more rounds -/
  | outOfRounds
  deriving DecidableEq

abbrev Processed := Except LogCheck (ErrorCode × ParsedLog)

/-- The sum of two non-negative 64 bit numbers, as the machine adds them. -/
def wrapInt64 (value : Nat) : Int :=
  if value ≤ int64Max then value else (value : Int) - 2 ^ 64

namespace LogParser

variable (parser : LogParser)

/-- A header that does not decode may have overwritten the sender ip as well; the log is closed
then, and the ip not read again. -/
def processHeaderEntry (parsed : ParsedLog) (buf : List Byte) : Processed :=
  match decodeLogHeader buf with
  | none => .ok (.invalidLog, parsed)
  | some entry =>
    let parsed := { parsed with senderIp := entry.senderIp }
    if entry.version ≠ wlogVersion then .ok (.invalidLog, parsed)
    else if entry.senderIp = [] then .ok (.invalidLog, parsed)
    else if parser.parseOnly then .ok (.ok, { parsed with headerParsed := true })
    else if parser.recoveryId ≠ entry.recoveryId then .ok (.inconsistentDirectory, parsed)
    else if parser.config ≠ entry.config then .ok (.inconsistentDirectory, parsed)
    else .ok (.ok, { parsed with headerParsed := true })

variable (disk : Directory)

/-- The size on disk of a created file, if it passes the sanity check. -/
def verifiedSize (entry : FileCreation) : Option Nat :=
  match disk entry.fileName with
  | none => none
  | some size =>
    if parser.shouldPreallocateFiles && decide (size < entry.fileSize) then none else some size

def applyFileCreation (parsed : ParsedLog) (entry : FileCreation) : Processed :=
  if parsed.fileInfoMap.contains entry.seqId || parsed.invalidSeqIds.contains entry.seqId then
    .ok (.invalidLog, parsed)
  else
    match parser.verifiedSize disk entry with
    | some size =>
      .ok (.ok, { parsed with
        fileInfoMap := parsed.fileInfoMap.emplace entry.seqId
          { seqId := entry.seqId, fileName := entry.fileName, fileSize := size }
        seqIdToSizeMap := parsed.seqIdToSizeMap.emplace entry.seqId entry.fileSize })
    | none =>
      .ok (.ok, { parsed with invalidSeqIds := parsed.invalidSeqIds.emplace entry.seqId () })

def applyFileResize (parsed : ParsedLog) (entry : FileResize) : Processed :=
  match parsed.fileInfoMap.lookup entry.seqId with
  | none => .ok (.invalidLog, parsed)
  | some chunksInfo =>
    match parsed.seqIdToSizeMap.lookup entry.seqId with
    | none => .error .sizeRecorded
    | some size =>
      if entry.fileSize < size then .ok (.invalidLog, parsed)
      else if parser.shouldPreallocateFiles && decide (chunksInfo.fileSize < entry.fileSize) then
        .ok (.invalidLog, parsed)
      else
        .ok (.ok, { parsed with
          seqIdToSizeMap := parsed.seqIdToSizeMap.set entry.seqId entry.fileSize })

def applyBlockWrite (parsed : ParsedLog) (entry : BlockWrite) : Processed :=
  if parsed.invalidSeqIds.contains entry.seqId then .ok (.ok, parsed)
  else
    match parsed.fileInfoMap.lookup entry.seqId with
    | none => .ok (.invalidLog, parsed)
    | some chunksInfo =>
      let stop := wrapInt64 (entry.offset + entry.blockSize)
      if chunksInfo.fileSize < stop then .ok (.invalidLog, parsed)
      else if stop < entry.offset then .error .intervalOrdered
      else
        .ok (.ok, { parsed with
          fileInfoMap := parsed.fileInfoMap.set entry.seqId { chunksInfo with
            chunks := chunksInfo.chunks ++ [{ start := entry.offset, stop := stop.toNat }] } })

def applyFileInvalidation (parsed : ParsedLog) (entry : FileInvalidation) : Processed :=
  if !parsed.fileInfoMap.contains entry.seqId && !parsed.invalidSeqIds.contains entry.seqId then
    .ok (.invalidLog, parsed)
  else
    .ok (.ok, { parsed with
      fileInfoMap := parsed.fileInfoMap.erase entry.seqId
      invalidSeqIds := parsed.invalidSeqIds.erase entry.seqId })

/-- The entries about a file are refused before a header and in the mode that has no such
entries, and only printed when nothing is to be changed. -/
def processFileEntry {α : Type} (parser : LogParser) (decode : List Byte → Option α)
    (apply : ParsedLog → α → Processed) (parsed : ParsedLog) (buf : List Byte) : Processed :=
  if !parsed.headerParsed then .ok (.invalidLog, parsed)
  else
    match decode buf with
    | none => .ok (.invalidLog, parsed)
    | some entry =>
      if parser.parseOnly then .ok (.ok, parsed)
      else if parser.resumeUsingDirTree then .ok (.invalidLog, parsed)
      else apply parsed entry

def processFileCreationEntry : ParsedLog → List Byte → Processed :=
  parser.processFileEntry decodeFileCreationEntry (parser.applyFileCreation disk)

def processFileResizeEntry : ParsedLog → List Byte → Processed :=
  parser.processFileEntry decodeFileResizeEntry parser.applyFileResize

def processBlockWriteEntry : ParsedLog → List Byte → Processed :=
  parser.processFileEntry decodeBlockWriteEntry applyBlockWrite

def processFileInvalidationEntry : ParsedLog → List Byte → Processed :=
  parser.processFileEntry decodeFileInvalidationEntry applyFileInvalidation

def processDirectoryInvalidationEntry (parsed : ParsedLog) (buf : List Byte) : Processed :=
  match decodeDirectoryInvalidationEntry buf with
  | none => .ok (.invalidLog, parsed)
  | some _ =>
    if parser.parseOnly then .ok (.ok, parsed)
    else .ok (.inconsistentDirectory, { parsed with headerParsed := false })

def processTyped (type : EntryType) (parsed : ParsedLog) (buf : List Byte) : Processed :=
  match type with
  | .header => parser.processHeaderEntry parsed buf
  | .fileCreation => parser.processFileCreationEntry disk parsed buf
  | .blockWrite => parser.processBlockWriteEntry parsed buf
  | .fileResize => parser.processFileResizeEntry parsed buf
  | .fileInvalidation => parser.processFileInvalidationEntry parsed buf
  | .directoryInvalidation => parser.processDirectoryInvalidationEntry parsed buf

/-- One round of the loop, behind the two reads. While the directory is invalid, only a header
is processed. -/
def processEntry (status : ErrorCode) (parsed : ParsedLog) : (entry : List Byte) → Processed
  | [] => .ok (.invalidLog, parsed)
  | type :: buf =>
    if status = .inconsistentDirectory ∧ EntryType.ofByte type ≠ some .header then
      .ok (status, parsed)
    else
      match EntryType.ofByte type with
      | none => .ok (.invalidLog, parsed)
      | some type =>
        (parser.processTyped disk type parsed buf).map fun (status, parsed) =>
          (status, if status = .inconsistentDirectory then parsed.clearParsedData else parsed)

inductive LogRead
  | endOfFile
  /-- bytes at the end that are no whole entry, most likely a partial write -/
  | torn (extraBytes : Nat)
  | badLength
  | entry (bytes : List Byte)

def readEntry (file : LogFile) : LogRead × LogFile :=
  let (sizeBytes, file) := file.read 2
  if sizeBytes.length = 0 then (.endOfFile, file)
  else if sizeBytes.length ≠ 2 then (.torn sizeBytes.length, file)
  else
    let entrySize := loadSigned sizeBytes
    if entrySize ≤ 0 ∨ (kMaxEntryLength : Int) < entrySize then (.badLength, file)
    else
      let (entry, file) := file.read entrySize.toNat
      -- the extra bytes include the size
      if entry.length ≠ entrySize.toNat then (.torn (entry.length + 2), file)
      else (.entry entry, file)

/-- A whole entry takes at least three bytes, so there are never more rounds than bytes. -/
def parseEntries (parser : LogParser) (disk : Directory) :
    (rounds : Nat) → ErrorCode → ParsedLog → LogFile →
      Except LogCheck (ErrorCode × ParsedLog × LogFile)
  | 0, _, _, _ => .error .outOfRounds
  | rounds + 1, status, parsed, file =>
    match readEntry file with
    | (.endOfFile, file) => .ok (status, parsed, file)
    | (.torn extraBytes, file) =>
      .ok (status, parsed,
        if parser.parseOnly then file else file.truncateExtraBytesAtEnd extraBytes)
    | (.badLength, file) => .ok (.invalidLog, parsed, file)
    | (.entry entry, file) =>
      match parser.processEntry disk status parsed entry with
      | .error check => .error check
      | .ok (status, parsed) =>
        if status = .invalidLog then .ok (status, parsed, file)
        else parser.parseEntries disk rounds status parsed file

variable (clock : Nat → Nat)

/-- One write for each seq-id, in increasing order; `clock` gives each its timestamp. -/
def writeFileInvalidationEntries (file : LogFile) (seqIds : List Nat) : LogFile :=
  (seqIds.zipIdx.map fun (seqId, index) => (encodeFileInvalidationEntry kMaxEntryLength
    { timestamp := clock index, seqId }).getD []).foldl LogFile.write file

structure ParseResult where
  status : ErrorCode
  senderIp : List Byte
  fileChunksInfo : List FileChunksInfo
  file : LogFile
  deriving DecidableEq

def finishParse (status : ErrorCode) (parsed : ParsedLog) (file : LogFile) : ParseResult :=
  if status = .ok then
    { status
      senderIp := parsed.senderIp
      fileChunksInfo := parsed.fileInfoMap.values.map FileChunksInfo.mergeChunks
      file := writeFileInvalidationEntries clock file parsed.invalidSeqIds.keys }
  else { status, senderIp := parsed.senderIp, fileChunksInfo := [], file }

def parseLog (senderIp : List Byte) (file : LogFile) : Except LogCheck ParseResult :=
  (parser.parseEntries disk (file.contents.length + 1) .ok { senderIp } file).map
    fun (status, parsed, file) => finishParse clock status parsed file

end LogParser

end Wdt
