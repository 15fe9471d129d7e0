/-
The entries of the receiver's transfer log and their encoding: two bytes of length,
one byte of type, the fields. An encoder reserves the two bytes, writes the body
behind them and stores the length last.
-/

import Wdt.Protocol

namespace Wdt

open List Option Decoder

/-! ### Entries -/

def wlogVersion : Nat := 2

/-- 2 bytes for the entry size, 1 byte for the type, the path, and 10 bytes for each number. -/
def kMaxEntryLength : Nat := 2 + 1 + 10 + pathMax + 2 * 10

inductive EntryType
  | header
  | fileCreation
  | blockWrite
  | fileInvalidation
  | fileResize
  | directoryInvalidation
  deriving DecidableEq

def EntryType.toByte : EntryType → Byte
  | .header => 0
  | .fileCreation => 1
  | .blockWrite => 2
  | .fileInvalidation => 3
  | .fileResize => 4
  | .directoryInvalidation => 5

/-- The cast of a type byte, unless it is none of the enumeration. -/
def EntryType.ofByte (byte : Byte) : Option EntryType :=
  [header, fileCreation, blockWrite, fileInvalidation, fileResize,
    directoryInvalidation][byte.toNat]?

theorem EntryType.ofByte_toByte (type : EntryType) : EntryType.ofByte type.toByte = some type := by
  cases type <;> rfl

theorem EntryType.toByte_ofByte {byte : Byte} {type : EntryType}
    (named : EntryType.ofByte byte = some type) : byte = type.toByte := by
  have small : byte.toNat < 6 := by
    by_contra large
    have absent : EntryType.ofByte byte = none :=
      getElem?_eq_none (by simp only [length_cons, length_nil]; omega)
    rw [absent] at named
    cases named
  have value : byte = UInt8.ofNat byte.toNat := (UInt8.ofNat_toNat).symm
  unfold EntryType.ofByte at named
  rw [value]
  generalize byte.toNat = index at small named
  rcases index with _ | _ | _ | _ | _ | _ | larger
  all_goals first
    | (cases named; rfl)
    | omega

structure LogHeader where
  timestamp : Nat
  version : Nat := wlogVersion
  recoveryId : List Byte
  senderIp : List Byte
  config : Nat

structure FileCreation where
  timestamp : Nat
  fileName : List Byte
  seqId : Nat
  fileSize : Nat

structure BlockWrite where
  timestamp : Nat
  seqId : Nat
  offset : Nat
  blockSize : Nat

structure FileResize where
  timestamp : Nat
  seqId : Nat
  fileSize : Nat

structure FileInvalidation where
  timestamp : Nat
  seqId : Nat

structure DirectoryInvalidation where
  timestamp : Nat

inductive LogEntry
  | header (entry : LogHeader)
  | fileCreation (entry : FileCreation)
  | blockWrite (entry : BlockWrite)
  | fileInvalidation (entry : FileInvalidation)
  | fileResize (entry : FileResize)
  | directoryInvalidation (entry : DirectoryInvalidation)

def LogEntry.type : LogEntry → EntryType
  | .header _ => .header
  | .fileCreation _ => .fileCreation
  | .blockWrite _ => .blockWrite
  | .fileInvalidation _ => .fileInvalidation
  | .fileResize _ => .fileResize
  | .directoryInvalidation _ => .directoryInvalidation

/-- What the six encoders share: the fields go behind the reserved length and the type, and the
length of the body is stored at the end. A failed one is -1 in the source. -/
def encodeEntry (type : EntryType) (fields : List Byte → Option (List Byte)) : Option (List Byte) :=
  (fields (leBytes 2 0 ++ [type.toByte])).map
    (fun written => leBytes 2 (written.length - 2) ++ written.drop 2)

variable (max : Nat)

def encodeLogHeader (entry : LogHeader) : Option (List Byte) :=
  encodeEntry .header fun written => do
    let written ← encodeVarI64C max entry.timestamp written
    let written ← encodeVarI64C max entry.version written
    let written ← encodeString max entry.recoveryId written
    let written ← encodeString max entry.senderIp written
    encodeVarI64C max entry.config written

def encodeFileCreationEntry (entry : FileCreation) : Option (List Byte) :=
  encodeEntry .fileCreation fun written => do
    let written ← encodeVarI64C max entry.timestamp written
    let written ← encodeString max entry.fileName written
    let written ← encodeVarI64C max entry.seqId written
    encodeVarI64C max entry.fileSize written

def encodeBlockWriteEntry (entry : BlockWrite) : Option (List Byte) :=
  encodeEntry .blockWrite fun written => do
    let written ← encodeVarI64C max entry.timestamp written
    let written ← encodeVarI64C max entry.seqId written
    let written ← encodeVarI64C max entry.offset written
    encodeVarI64C max entry.blockSize written

def encodeFileResizeEntry (entry : FileResize) : Option (List Byte) :=
  encodeEntry .fileResize fun written => do
    let written ← encodeVarI64C max entry.timestamp written
    let written ← encodeVarI64C max entry.seqId written
    encodeVarI64C max entry.fileSize written

def encodeFileInvalidationEntry (entry : FileInvalidation) : Option (List Byte) :=
  encodeEntry .fileInvalidation fun written => do
    let written ← encodeVarI64C max entry.timestamp written
    encodeVarI64C max entry.seqId written

def encodeDirectoryInvalidationEntry (entry : DirectoryInvalidation) : Option (List Byte) :=
  encodeEntry .directoryInvalidation fun written =>
    encodeVarI64C max entry.timestamp written

def LogEntry.encode : LogEntry → Option (List Byte)
  | .header entry => encodeLogHeader max entry
  | .fileCreation entry => encodeFileCreationEntry max entry
  | .blockWrite entry => encodeBlockWriteEntry max entry
  | .fileInvalidation entry => encodeFileInvalidationEntry max entry
  | .fileResize entry => encodeFileResizeEntry max entry
  | .directoryInvalidation entry => encodeDirectoryInvalidationEntry max entry

variable (buf : List Byte)

def decodeLogHeader : Option LogHeader :=
  whole (decodeInt64C.bind fun timestamp => decodeInt32C.bind fun version =>
    decodeString.bind fun recoveryId => decodeString.bind fun senderIp =>
      decodeInt64C.map fun config =>
        { timestamp, version, recoveryId, senderIp, config }) buf

def decodeFileCreationEntry : Option FileCreation :=
  whole (decodeInt64C.bind fun timestamp => decodeString.bind fun fileName =>
    decodeInt64C.bind fun seqId => decodeInt64C.map fun fileSize =>
      { timestamp, fileName, seqId, fileSize }) buf

def decodeBlockWriteEntry : Option BlockWrite :=
  whole (decodeInt64C.bind fun timestamp => decodeInt64C.bind fun seqId =>
    decodeInt64C.bind fun offset => decodeInt64C.map fun blockSize =>
      { timestamp, seqId, offset, blockSize }) buf

def decodeFileResizeEntry : Option FileResize :=
  whole (decodeInt64C.bind fun timestamp => decodeInt64C.bind fun seqId =>
    decodeInt64C.map fun fileSize => { timestamp, seqId, fileSize }) buf

def decodeFileInvalidationEntry : Option FileInvalidation :=
  whole (decodeInt64C.bind fun timestamp =>
    decodeInt64C.map fun seqId => { timestamp, seqId }) buf

def decodeDirectoryInvalidationEntry : Option DirectoryInvalidation :=
  whole (decodeInt64C.map fun timestamp => { timestamp }) buf

namespace LogEntry

def stringBytes (str : List Byte) : List Byte := varU64 str.length ++ str

/-- The words that the encode calls write behind the type byte. -/
def fields : LogEntry → List Byte
  | .header entry =>
    varU64 entry.timestamp ++ (varU64 entry.version ++ (stringBytes entry.recoveryId ++
      (stringBytes entry.senderIp ++ varU64 entry.config)))
  | .fileCreation entry =>
    varU64 entry.timestamp ++ (stringBytes entry.fileName ++
      (varU64 entry.seqId ++ varU64 entry.fileSize))
  | .blockWrite entry =>
    varU64 entry.timestamp ++ (varU64 entry.seqId ++
      (varU64 entry.offset ++ varU64 entry.blockSize))
  | .fileInvalidation entry => varU64 entry.timestamp ++ varU64 entry.seqId
  | .fileResize entry =>
    varU64 entry.timestamp ++ (varU64 entry.seqId ++ varU64 entry.fileSize)
  | .directoryInvalidation entry => varU64 entry.timestamp

variable (entry : LogEntry)

def body : List Byte := entry.type.toByte :: entry.fields

def bytes : List Byte := leBytes 2 entry.body.length ++ entry.body

theorem body_length : entry.body.length = entry.fields.length + 1 := rfl

theorem bytes_length : entry.bytes.length = entry.fields.length + 3 := by
  unfold bytes
  rw [length_append, leBytes_length, body_length]
  omega

end LogEntry

theorem append_bind_append (max : Nat) (written first second : List Byte) :
    ((append max written first).bind fun written => append max written second) =
      append max written (first ++ second) := by
  unfold append
  rw [length_append]
  by_cases fits : written.length + first.length ≤ max
  · rw [if_pos fits, bind_some, length_append, append_assoc, Nat.add_assoc]
  · rw [if_neg fits, bind_none, if_neg (by omega)]

theorem encodeString_eq (max : Nat) (str written : List Byte) :
    encodeString max str written = append max written (LogEntry.stringBytes str) :=
  append_bind_append max written (varU64 str.length) str

theorem LogEntry.encode_eq (max : Nat) (entry : LogEntry) : entry.encode max =
      if entry.bytes.length ≤ max then some entry.bytes else none := by
  have encoded : entry.encode max =
      encodeEntry entry.type (fun written => append max written entry.fields) := by
    cases entry <;>
      simp only [LogEntry.encode, encodeLogHeader, encodeFileCreationEntry, encodeBlockWriteEntry,
        encodeFileInvalidationEntry, encodeFileResizeEntry, encodeDirectoryInvalidationEntry,
        encodeVarI64C, encodeVarU64, encodeString_eq, bind_eq_bind, append_bind_append,
        LogEntry.type, LogEntry.fields]
  rw [encoded, bytes_length]
  unfold encodeEntry append
  dsimp only
  rw [length_append, leBytes_length, length_singleton]
  by_cases fits : 2 + 1 + entry.fields.length ≤ max
  · rw [if_pos fits, if_pos (by omega), map_some, some.injEq]
    rw [append_assoc, length_append, leBytes_length, length_append,
      length_singleton, drop_left' (leBytes_length 2 0)]
    congr 2
    rw [LogEntry.body_length]
    omega
  · rw [if_neg fits, if_neg (by omega), map_none]

def LogEntry.InRange : LogEntry → Prop
  | .header entry => entry.timestamp ≤ int64Max ∧ entry.version ≤ int32Max ∧
      entry.recoveryId.length < 2 ^ 64 ∧ entry.senderIp.length < 2 ^ 64 ∧ entry.config ≤ int64Max
  | .fileCreation entry => entry.timestamp ≤ int64Max ∧ entry.fileName.length < 2 ^ 64 ∧
      entry.seqId ≤ int64Max ∧ entry.fileSize ≤ int64Max
  | .blockWrite entry => entry.timestamp ≤ int64Max ∧ entry.seqId ≤ int64Max ∧
      entry.offset ≤ int64Max ∧ entry.blockSize ≤ int64Max
  | .fileInvalidation entry => entry.timestamp ≤ int64Max ∧ entry.seqId ≤ int64Max
  | .fileResize entry => entry.timestamp ≤ int64Max ∧ entry.seqId ≤ int64Max ∧
      entry.fileSize ≤ int64Max
  | .directoryInvalidation entry => entry.timestamp ≤ int64Max

instance (entry : LogEntry) : Decidable entry.InRange := by
  cases entry <;> unfold LogEntry.InRange <;> infer_instance

def decodeEntry (type : EntryType) (buf : List Byte) : Option LogEntry :=
  match type with
  | .header => (decodeLogHeader buf).map LogEntry.header
  | .fileCreation => (decodeFileCreationEntry buf).map LogEntry.fileCreation
  | .blockWrite => (decodeBlockWriteEntry buf).map LogEntry.blockWrite
  | .fileInvalidation => (decodeFileInvalidationEntry buf).map LogEntry.fileInvalidation
  | .fileResize => (decodeFileResizeEntry buf).map LogEntry.fileResize
  | .directoryInvalidation =>
    (decodeDirectoryInvalidationEntry buf).map LogEntry.directoryInvalidation

theorem decodeEntry_fields {entry : LogEntry} (inRange : entry.InRange) :
    decodeEntry entry.type entry.fields = some entry := by
  cases entry with
  | header entry =>
    obtain ⟨timestamp, version, recoveryId, senderIp, config⟩ := inRange
    have read : decodeLogHeader (LogEntry.header entry).fields = some entry :=
      Reads.whole ((decodeInt64C_reads timestamp).bind
        ((decodeInt32C_reads version).bind ((decodeString_reads recoveryId).bind
          ((decodeString_reads senderIp).bind ((decodeInt64C_reads config).map _)))))
    exact congrArg (Option.map LogEntry.header) read
  | fileCreation entry =>
    obtain ⟨timestamp, fileName, seqId, fileSize⟩ := inRange
    have read : decodeFileCreationEntry (LogEntry.fileCreation entry).fields = some entry :=
      Reads.whole ((decodeInt64C_reads timestamp).bind
        ((decodeString_reads fileName).bind ((decodeInt64C_reads seqId).bind
          ((decodeInt64C_reads fileSize).map _))))
    exact congrArg (Option.map LogEntry.fileCreation) read
  | blockWrite entry =>
    obtain ⟨timestamp, seqId, offset, blockSize⟩ := inRange
    have read : decodeBlockWriteEntry (LogEntry.blockWrite entry).fields = some entry :=
      Reads.whole ((decodeInt64C_reads timestamp).bind
        ((decodeInt64C_reads seqId).bind ((decodeInt64C_reads offset).bind
          ((decodeInt64C_reads blockSize).map _))))
    exact congrArg (Option.map LogEntry.blockWrite) read
  | fileInvalidation entry =>
    obtain ⟨timestamp, seqId⟩ := inRange
    have read : decodeFileInvalidationEntry (LogEntry.fileInvalidation entry).fields = some entry :=
      Reads.whole ((decodeInt64C_reads timestamp).bind ((decodeInt64C_reads seqId).map _))
    exact congrArg (Option.map LogEntry.fileInvalidation) read
  | fileResize entry =>
    obtain ⟨timestamp, seqId, fileSize⟩ := inRange
    have read : decodeFileResizeEntry (LogEntry.fileResize entry).fields = some entry :=
      Reads.whole ((decodeInt64C_reads timestamp).bind
        ((decodeInt64C_reads seqId).bind ((decodeInt64C_reads fileSize).map _)))
    exact congrArg (Option.map LogEntry.fileResize) read
  | directoryInvalidation entry =>
    have read : decodeDirectoryInvalidationEntry
        (LogEntry.directoryInvalidation entry).fields = some entry :=
      Reads.whole ((decodeInt64C_reads inRange).map _)
    exact congrArg (Option.map LogEntry.directoryInvalidation) read

end Wdt
