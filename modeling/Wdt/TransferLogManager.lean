/-
The manager of the transfer log: its descriptor, the buffer of entries that receiver
threads fill, the status of the resumption, and what each call does to them when the
disk writes succeed. The writer thread is in LogDurability.
-/

import Wdt.LogParser

namespace Wdt

structure LogManager where
  resumeUsingDirTree : Bool := false
  shouldPreallocateFiles : Bool := true
  disableSenderVerificationDuringResumption : Bool := false
  recoveryId : List Byte
  config : Nat
  senderIp : List Byte := []
  isOpen : Bool := true
  file : LogFile
  entries : List (List Byte) := []
  finished : Bool := false
  resumptionStatus : ErrorCode := .ok
  headerWritten : Bool := false
  deriving DecidableEq

namespace LogManager

variable (manager : LogManager)

def parser (parseOnly : Bool) : LogParser where
  resumeUsingDirTree := manager.resumeUsingDirTree
  shouldPreallocateFiles := manager.shouldPreallocateFiles
  recoveryId := manager.recoveryId
  config := manager.config
  parseOnly := parseOnly

def invalidateDirectory (timestamp : Nat) : LogManager :=
  if !manager.isOpen then manager
  else
    { manager with
      resumptionStatus := .inconsistentDirectory
      file := manager.file.write
        ((encodeDirectoryInvalidationEntry kMaxEntryLength { timestamp }).getD []) }

/-- When the header does not fit its buffer, the encoder returns -1 and so does the write of -1
bytes: nothing is written, and the call goes on as if the header were there. -/
def headerBytes (timestamp : Nat) : List Byte :=
  (encodeLogHeader kMaxEntryLength
    { timestamp
      recoveryId := manager.recoveryId
      senderIp := manager.senderIp
      config := manager.config }).getD []

def writeLogHeader (timestamp : Nat) : LogManager :=
  if !manager.isOpen then manager
  else
    { manager with
      file := manager.file.write (manager.headerBytes timestamp)
      resumptionStatus := .ok
      headerWritten := true }

/-- Whether the ip is that of the log; without a log it is not. -/
def verifySenderIp (curSenderIp : List Byte) (timestamp : Nat) : Bool × LogManager :=
  if !manager.isOpen then (false, manager)
  else if !manager.disableSenderVerificationDuringResumption && manager.senderIp != [] &&
      manager.senderIp != curSenderIp then
    (false, { manager.invalidateDirectory timestamp with senderIp := curSenderIp })
  else (true, { manager with senderIp := curSenderIp })

/-- Whether the call for the entry goes on to the buffer: an invalidation entry needs no header.
Headers and directory invalidations are never buffered. -/
def accepts (entry : LogEntry) : Bool :=
  match entry with
  | .header _ => false
  | .directoryInvalidation _ => false
  | .fileInvalidation _ => manager.isOpen
  | .fileCreation _ => manager.isOpen && manager.headerWritten
  | .blockWrite _ => manager.isOpen && manager.headerWritten
  | .fileResize _ => manager.isOpen && manager.headerWritten

/-- `addFileCreationEntry`, `addBlockWriteEntry`, `addFileResizeEntry` and
`addFileInvalidationEntry`. An entry that does not fit its buffer ends the process. -/
def addEntry (entry : LogEntry) : Option LogManager :=
  if manager.accepts entry then
    (entry.encode kMaxEntryLength).map fun bytes =>
      { manager with entries := manager.entries ++ [bytes] }
  else some manager

def writeEntriesToDiskNoLock (file : LogFile) (entries : List (List Byte)) : LogFile :=
  if entries.flatten = [] then file else file.write entries.flatten

/-! ### Parsing and compaction -/

/-- The log is closed here without a writer thread: none runs while the log is parsed. -/
def parseVerifyAndFix (disk : Directory) (clock : Nat → Nat)
    (parseOnly : Bool) : Except LogCheck (ErrorCode × LogManager × List FileChunksInfo) :=
  if !manager.isOpen then .ok (.invalidLog, manager, [])
  else
    ((manager.parser parseOnly).parseLog disk clock manager.senderIp manager.file).map
      fun result =>
        let manager := { manager with
          resumptionStatus := result.status
          senderIp := result.senderIp
          file := result.file }
        (result.status,
          if result.status = .invalidLog then { manager with isOpen := false }
          else if result.status = .inconsistentDirectory ∧ parseOnly = false then
            manager.invalidateDirectory (clock 0)
          else manager,
          result.fileChunksInfo)

/-- One chunk for each file, and it is the file. -/
def compactable (fileChunksInfo : List FileChunksInfo) : Bool :=
  fileChunksInfo.all fun info =>
    info.chunks.length == 1 && info.getTotalChunkSize == info.fileSize

def addCompacted (timestamp : Nat) (manager : LogManager) : List FileChunksInfo → Option LogManager
  | [] => some manager
  | info :: rest => do
      let manager ← manager.addEntry (.fileCreation
        { timestamp, fileName := info.fileName, seqId := info.seqId, fileSize := info.fileSize })
      let manager ← manager.addEntry (.blockWrite
        { timestamp, seqId := info.seqId, offset := 0, blockSize := info.fileSize })
      addCompacted timestamp manager rest

/-- What `compactLog` does behind the shutdown of the writer thread and before it drains the
buffer; nothing when one of its checks fails, and then there is no drain. -/
def prepareCompaction (disk : Directory) (clock : Nat → Nat) :
    Except LogCheck (Option (LogManager × Bool)) :=
  (parseVerifyAndFix { manager with file := { manager.file with position := 0 } } disk clock
    false).map fun (code, manager, fileChunksInfo) =>
      if code ≠ .ok then some (manager, false)
      else if !compactable fileChunksInfo then some (manager, false)
      else
        (addCompacted (clock 0)
          (writeLogHeader { manager with file := { contents := [], position := 0 } } (clock 0))
          fileChunksInfo).map (fun manager => (manager, true))

end LogManager

def sampleManager (contents : List Byte) : LogManager where
  recoveryId := [0x72]
  config := 3
  file := { contents }

end Wdt
