/-
Commands, limits and message formats of Protocol.h and Protocol.cpp, as far as the
command loop of the two threads uses them: FILE headers, footers, SETTINGS, SIZE,
DONE and checkpoints.
-/

import Wdt.SerializationUtil

namespace Wdt

def doneCmd : Byte := 0x44

def fileCmd : Byte := 0x4C

def waitCmd : Byte := 0x57

def errCmd : Byte := 0x45

def settingsCmd : Byte := 0x53

def abortCmd : Byte := 0x41

def ackCmd : Byte := 0x61

def sizeCmd : Byte := 0x5A

def footerCmd : Byte := 0x46

def encryptionCmd : Byte := 0x65

def pathMax : Nat := 4096

def kMaxHeader : Nat := 1 + 2 + pathMax + 4 * 10 + 1 + 10

def kMinBufLength : Nat := 256

def kMaxDone : Nat := 2 + 2 * 10

def kMaxSize : Nat := 1 + 10

def kMaxTransferIdLength : Nat := 1024

def kMaxSettings : Nat := 1 + 3 * 10 + kMaxTransferIdLength + 1

def kMaxFooter : Nat := 1 + 10

def kMaxVersion : Nat := 10

def settingsFlagVersion : Nat := 12

def headerFlagAndPrevSeqIdVersion : Nat := 13

def checkpointOffsetVersion : Nat := 16

def checkpointSeqIdVersion : Nat := 21

def varintChange : Nat := 27

/-- Zero means that the requested version cannot be handled. -/
def negotiateProtocol (requestedProtocolVersion curProtocolVersion : Nat) : Nat :=
  if requestedProtocolVersion < 10 then 0 else min curProtocolVersion requestedProtocolVersion

/-! ### Blocks -/

/-- `unnamed` is one of the three values of the header's status bits that the enumeration does
not name. -/
inductive FileAllocationStatus
  | notExists | existsCorrectSize | existsTooLarge | existsTooSmall | toBeDeleted
  | unnamed (value : Nat)
  deriving DecidableEq

namespace FileAllocationStatus

/-- The cast of the low three bits of the flags byte. -/
def ofFlags (flags : Byte) : FileAllocationStatus :=
  match flags.toNat % 8 with
  | 0 => notExists
  | 1 => existsCorrectSize
  | 2 => existsTooLarge
  | 3 => existsTooSmall
  | 4 => toBeDeleted
  | value => unnamed value

def toFlags : FileAllocationStatus → Byte
  | notExists => 0
  | existsCorrectSize => 1
  | existsTooLarge => 2
  | existsTooSmall => 3
  | toBeDeleted => 4
  | unnamed value => UInt8.ofNat value

/-- The header carries the previous seq-id only on a size mismatch. -/
def carriesPrevSeqId (status : FileAllocationStatus) : Bool :=
  status == existsTooSmall || status == existsTooLarge

/-- A status that the sender can hold. -/
def Named (status : FileAllocationStatus) : Prop :=
  ∀ value, status ≠ unnamed value

instance (status : FileAllocationStatus) : Decidable status.Named :=
  match status with
  | unnamed value => isFalse (fun named => named value rfl)
  | notExists => isTrue nofun
  | existsCorrectSize => isTrue nofun
  | existsTooLarge => isTrue nofun
  | existsTooSmall => isTrue nofun
  | toBeDeleted => isTrue nofun

theorem ofFlags_toFlags {status : FileAllocationStatus} (named : status.Named) :
    ofFlags status.toFlags = status := by
  cases status with
  | unnamed value => exact absurd rfl (named value)
  | _ => rfl

end FileAllocationStatus

structure BlockDetails where
  fileName : List Byte
  seqId : Nat := 0
  fileSize : Nat := 0
  offset : Nat := 0
  dataSize : Nat := 0
  allocationStatus : FileAllocationStatus := .notExists
  prevSeqId : Nat := 0
  deriving DecidableEq

variable (version : Nat)

def headerFields (details : BlockDetails) : List Byte :=
  varU64 details.fileName.length ++ details.fileName ++ varU64 details.seqId ++
    varU64 details.dataSize ++ varU64 details.offset ++ varU64 details.fileSize ++
    if headerFlagAndPrevSeqIdVersion ≤ version then
      details.allocationStatus.toFlags ::
        if details.allocationStatus.carriesPrevSeqId then varU64 details.prevSeqId else []
    else []

def encodeHeader (version max : Nat) (details : BlockDetails) (written : List Byte) :
    Option (List Byte) := do
  let written ← encodeString max details.fileName written
  let written ← encodeVarI64C max details.seqId written
  let written ← encodeVarI64C max details.dataSize written
  let written ← encodeVarI64C max details.offset written
  let written ← encodeVarI64C max details.fileSize written
  if headerFlagAndPrevSeqIdVersion ≤ version then
    let written ← append max written [details.allocationStatus.toFlags]
    if details.allocationStatus.carriesPrevSeqId then
      encodeVarI64C max details.prevSeqId written
    else some written
  else some written

def decodeBlock : Decoder Byte BlockDetails :=
  decodeString.bind fun fileName =>
    decodeInt64C.bind fun seqId =>
      decodeInt64C.bind fun dataSize =>
        decodeInt64C.bind fun offset =>
          decodeInt64C.bind fun fileSize =>
            Decoder.pure { fileName, seqId, fileSize, offset, dataSize }

def decodePrevSeqId (details : BlockDetails) : Decoder Byte BlockDetails :=
  if details.allocationStatus.carriesPrevSeqId then
    decodeInt64C.map (fun prevSeqId => { details with prevSeqId })
  else Decoder.pure details

def decodeHeader : Decoder Byte BlockDetails :=
  fun range =>
    match decodeBlock range with
    | (none, rest) => (none, rest)
    | (some details, rest) =>
      if headerFlagAndPrevSeqIdVersion ≤ version then
        match rest with
        -- a header that ends before its flags leaves the offset where it was
        | [] => (none, range)
        | flags :: rest =>
          decodePrevSeqId { details with allocationStatus := .ofFlags flags } rest
      else (some details, rest)

structure Settings where
  readTimeoutMillis : Nat
  writeTimeoutMillis : Nat
  transferId : List Byte
  enableChecksum : Bool := false
  sendFileChunks : Bool := false
  blockModeDisabled : Bool := false
  enableHeartBeat : Bool := false
  deriving DecidableEq

def Settings.toFlags (settings : Settings) : Byte :=
  UInt8.ofNat ((if settings.enableChecksum then 1 else 0) +
    (if settings.sendFileChunks then 2 else 0) +
    (if settings.blockModeDisabled then 4 else 0) +
    if settings.enableHeartBeat then 8 else 0)

def Settings.withFlags (settings : Settings) (flags : Byte) : Settings :=
  { settings with
    enableChecksum := flags.toNat.testBit 0
    sendFileChunks := flags.toNat.testBit 1
    blockModeDisabled := flags.toNat.testBit 2
    enableHeartBeat := flags.toNat.testBit 3 }

def encodeSettings (version max : Nat) (settings : Settings) (written : List Byte) :
    Option (List Byte) := do
  let written ← encodeVarI64C max version written
  let written ← encodeVarI64C max settings.readTimeoutMillis written
  let written ← encodeVarI64C max settings.writeTimeoutMillis written
  let written ← encodeString max settings.transferId written
  if settingsFlagVersion ≤ version then append max written [settings.toFlags]
  else some written

def decodeVersion : Decoder Byte Nat := decodeInt32C

def decodeSettings : Decoder Byte Settings :=
  fun range =>
    match (decodeInt32C.bind fun readTimeoutMillis =>
        decodeInt32C.bind fun writeTimeoutMillis =>
          decodeString.bind fun transferId =>
            Decoder.pure ({ readTimeoutMillis, writeTimeoutMillis, transferId } : Settings))
        range with
    | (none, rest) => (none, rest)
    | (some settings, rest) =>
      if settingsFlagVersion ≤ version then
        match rest with
        | [] => (none, range)
        | flags :: rest => (some (settings.withFlags flags), rest)
      else (some settings, rest)

def encodeDone (version max : Nat) (numBlocks bytesSent : Nat) (written : List Byte) :
    Option (List Byte) := do
  let written ← encodeVarI64C max numBlocks written
  if checkpointOffsetVersion ≤ version then encodeVarI64C max bytesSent written
  else some written

/-- An old peer sends no byte total; the receiver then keeps its own -1. -/
def decodeDone : Decoder Byte (Nat × Int) :=
  decodeInt64C.bind fun numBlocks =>
    if checkpointOffsetVersion ≤ version then
      decodeInt64C.map (fun bytesSent : Nat => (numBlocks, (bytesSent : Int)))
    else Decoder.pure (numBlocks, -1)

def encodeSize (max totalNumBytes : Nat) (written : List Byte) : Option (List Byte) :=
  encodeVarI64C max totalNumBytes written

def decodeSize : Decoder Byte Nat := decodeInt64C

def encodeFooter (max : Nat) (checksum : Int) (written : List Byte) : Option (List Byte) :=
  encodeVarI64 max checksum written

def decodeFooter : Decoder Byte Int := decodeInt32

/-! ### Checkpoints -/

/-- The last three numbers describe a partially received block; they are zero, the values of
`resetLastBlockDetails`, when there is none. -/
structure Checkpoint where
  port : Nat := 0
  numBlocks : Nat := 0
  lastBlockSeqId : Int := 0
  lastBlockOffset : Nat := 0
  lastBlockReceivedBytes : Nat := 0
  hasSeqId : Bool := false
  deriving DecidableEq

namespace Checkpoint

variable (checkpoint : Checkpoint)

def resetLastBlockDetails : Checkpoint :=
  { checkpoint with
    lastBlockReceivedBytes := 0
    lastBlockSeqId := 0
    lastBlockOffset := 0 }

def setLastBlockDetails (seqId offset receivedBytes : Nat) : Checkpoint :=
  { checkpoint with
    lastBlockSeqId := seqId
    lastBlockOffset := offset
    lastBlockReceivedBytes := receivedBytes }

def incrNumBlocks : Checkpoint :=
  { checkpoint with numBlocks := checkpoint.numBlocks + 1 }

end Checkpoint

/-- The receiver never holds a negative seq-id, which the encoder would refuse. -/
def encodeCheckpoint (version max : Nat) (checkpoint : Checkpoint) (written : List Byte) :
    Option (List Byte) := do
  let written ← encodeVarI64C max checkpoint.port written
  let written ← encodeVarI64C max checkpoint.numBlocks written
  let written ←
    if checkpointOffsetVersion ≤ version then
      encodeVarI64C max checkpoint.lastBlockReceivedBytes written
    else some written
  if checkpointSeqIdVersion ≤ version then do
    let written ← encodeVarI64C max checkpoint.lastBlockSeqId.toNat written
    encodeVarI64C max checkpoint.lastBlockOffset written
  else some written

def encodeCheckpoints (version max : Nat) (checkpoints : List Checkpoint)
    (written : List Byte) : Option (List Byte) :=
  checkpoints.foldl
    (fun written checkpoint => written.bind (encodeCheckpoint version max checkpoint))
    (encodeVarU64 max checkpoints.length written)

/-- Write word by word; a word for which there is no room ends it, and what was written
stays. -/
def encodeWords (max : Nat) : List (List Byte) → List Byte → Bool × List Byte
  | [], written => (true, written)
  | word :: rest, written =>
    match append max written word with
    | some written => encodeWords max rest written
    | none => (false, written)

def checkpointWords (version : Nat) (checkpoint : Checkpoint) : List (List Byte) :=
  [varU64 checkpoint.port, varU64 checkpoint.numBlocks] ++
    (if checkpointOffsetVersion ≤ version then [varU64 checkpoint.lastBlockReceivedBytes]
      else []) ++
    if checkpointSeqIdVersion ≤ version then
      [varU64 checkpoint.lastBlockSeqId.toNat, varU64 checkpoint.lastBlockOffset]
    else []

/-- What `encodeCheckpoints` leaves in the buffer: all, or the fields up to one without room. -/
def encodedCheckpoints (version max : Nat) (checkpoints : List Checkpoint) : List Byte :=
  (encodeCheckpoints version max checkpoints []).getD
    (encodeWords max (varU64 checkpoints.length ::
      checkpoints.flatMap (checkpointWords version)) []).2

def allOnes64 : Nat := 2 ^ 64 - 1

def toInt64 (value : Nat) : Int :=
  if value ≤ int64Max then value else (value : Int) - 2 ^ 64

/-- Before the change of the varint format -1 took ten bytes, the last one 0x01. -/
def decodeSeqId : Decoder Byte Int :=
  decodeUInt64.bind fun value range =>
    if version < varintChange ∧ value = allOnes64 then
      match range with
      | [] => (some (toInt64 value), [])
      | last :: rest => (if last = 0x01 then some (-1) else none, rest)
    else (some (toInt64 value), range)

def decodeReceivedBytes : Decoder Byte Nat :=
  if checkpointOffsetVersion ≤ version then decodeInt64C else Decoder.pure 0

def decodeCheckpoint : Decoder Byte Checkpoint :=
  decodeInt32C.bind fun port =>
    decodeInt64C.bind fun numBlocks =>
      (decodeReceivedBytes version).bind fun lastBlockReceivedBytes =>
        if checkpointSeqIdVersion ≤ version then
          (decodeSeqId version).bind fun lastBlockSeqId =>
            decodeInt64C.bind fun lastBlockOffset =>
              Decoder.pure
                { port, numBlocks, lastBlockSeqId, lastBlockOffset, lastBlockReceivedBytes,
                  hasSeqId := true }
        else Decoder.pure { port, numBlocks, lastBlockReceivedBytes }

def decodeCheckpointList (version : Nat) : (count : Nat) → Decoder Byte (List Checkpoint)
  | 0 => Decoder.pure []
  | count + 1 =>
    (decodeCheckpoint version).bind fun checkpoint =>
      (decodeCheckpointList version count).map (fun rest => checkpoint :: rest)

def decodeCheckpoints : Decoder Byte (List Checkpoint) :=
  decodeUInt64.bind (decodeCheckpointList version)

end Wdt
