/-
util/WdtSocket: the encryption settings at the front of a connection, the data, a tag
after each interval of data, a new IV after some of the tags, and the tag at the end.
Each raw read says what it reads for; this label never reaches the socket's decisions.
-/

import Wdt.EncryptionUtils
import Wdt.Reporting

namespace Wdt

inductive WirePart
  | settings | data | tag | iv | plain
  deriving DecidableEq

/-- Bytes on the wire, each with what its writer or its reader took it for. -/
abbrev Wire := List (WirePart × Byte)

def labelled (part : WirePart) (bytes : List Byte) : Wire := bytes.map (fun byte => (part, byte))

/-- Where the next tag stands, counted from here; no tag stands before the first byte. -/
def computeNextTagOffset (totalProcessed tagInterval : Nat) : Nat :=
  if totalProcessed = 0 then tagInterval
  else
    let nextTagOffset := tagInterval - totalProcessed % tagInterval
    if nextTagOffset = tagInterval then 0 else nextTagOffset

/-- The IV changes at this tag because the next one would come too late. -/
def changesIv (ivChangeInterval tagInterval numProcessed : Nat) : Bool :=
  ivChangeInterval ≠ 0 ∧ ¬ numProcessed + tagInterval ≤ ivChangeInterval

/-! ### Writing -/

/-- The writing half. `ivs` is what the random generator will give; a write that the network
refuses is not modelled. -/
structure WriteSocket where
  encryptionParams : Option EncryptionParams
  writeTagInterval : Nat
  ivChangeInterval : Nat
  ivs : Nat → AesBlock
  ivsUsed : Nat := 0
  encryptionSettingsWritten : Bool := false
  /-- meaningful once the settings are written -/
  encryptor : CipherContext := { iv := ivs 0 }
  totalWritten : Nat := 0
  writesFinalized : Bool := false

namespace WriteSocket

def startEncryptor (socket : WriteSocket) : WriteSocket :=
  { socket with encryptor := { iv := socket.ivs socket.ivsUsed }, ivsUsed := socket.ivsUsed + 1 }

def writeEncryptionSettingsOnce (params : EncryptionParams) (socket : WriteSocket) :
    Wire × WriteSocket :=
  if socket.encryptionSettingsWritten then ([], socket)
  else
    let socket := socket.startEncryptor
    let buf := [encryptionCmd]
    let buf := (encodeEncryptionSettings (1 + kEncryptionCmdLen) params.type
      socket.encryptor.iv.val socket.writeTagInterval buf).getD buf
    (labelled .settings buf, { socket with encryptionSettingsWritten := true })

variable (cipher : Cipher) (params : EncryptionParams)

def encryptAndWrite (socket : WriteSocket) (data : List Byte) : Wire × WriteSocket :=
  (labelled .data ((cipher.encrypt params).output socket.encryptor data),
    { socket with encryptor := (cipher.encrypt params).after socket.encryptor data })

def encryptAndCount (socket : WriteSocket) (data : List Byte) : Wire × WriteSocket :=
  let (out, socket) := encryptAndWrite cipher params socket data
  (out, { socket with totalWritten := socket.totalWritten + data.length })

def checkAndChangeEncryptionIv (socket : WriteSocket) : Wire × WriteSocket :=
  if changesIv socket.ivChangeInterval socket.writeTagInterval socket.encryptor.getNumProcessed then
    let socket := socket.startEncryptor
    (labelled .iv socket.encryptor.iv.val, socket)
  else ([], socket)

def writeEncryptionTag (socket : WriteSocket) : Wire :=
  labelled .tag (cipher.computeCurrentTag params socket.encryptor).val

def encryptAndWriteWithTag (socket : WriteSocket) (data : List Byte) : Wire × WriteSocket :=
  let nextTagOffset := computeNextTagOffset socket.totalWritten socket.writeTagInterval
  if nextTagOffset < data.length then
    -- an offset of 0 writes nothing before the tag
    let (front, socket) := encryptAndCount cipher params socket (data.take nextTagOffset)
    let tag := writeEncryptionTag cipher params socket
    let (iv, socket) := checkAndChangeEncryptionIv socket
    let (rest, socket) := encryptAndCount cipher params socket (data.drop nextTagOffset)
    (front ++ tag ++ iv ++ rest, socket)
  else encryptAndCount cipher params socket data

def writeChunks : (rounds : Nat) → WriteSocket → List Byte → Wire × WriteSocket
  | 0, socket, _ => ([], socket)
  | rounds + 1, socket, data =>
    if data = [] then ([], socket)
    else
      let (chunk, socket) :=
        encryptAndWriteWithTag cipher params socket (data.take socket.writeTagInterval)
      let (rest, socket) := writeChunks rounds socket (data.drop socket.writeTagInterval)
      (chunk ++ rest, socket)

def write (socket : WriteSocket) (data : List Byte) : Wire × WriteSocket :=
  match socket.encryptionParams with
  | none => (labelled .plain data, socket)
  | some params =>
    let (settings, socket) := writeEncryptionSettingsOnce params socket
    if socket.writeTagInterval = 0 then
      let (out, socket) := encryptAndWrite cipher params socket data
      (settings ++ out, socket)
    else
      let (out, socket) := writeChunks cipher params data.length socket data
      (settings ++ out, socket)

/-- An encryptor that was not started gives no tag. -/
def finalizeWrites (socket : WriteSocket) : Wire × WriteSocket :=
  let finalized := { socket with writesFinalized := true }
  match socket.encryptionParams with
  | none => ([], finalized)
  | some params =>
    if socket.encryptionSettingsWritten ∧ encryptionTypeToTagLen params.type ≠ 0 then
      (labelled .tag (cipher.computeCurrentTag params socket.encryptor).val, finalized)
    else ([], finalized)

end WriteSocket

/-! ### Reading -/

/-- How a raw read ends; no bytes is the end of the stream. A read that tries to be full also
ends with a part of the bytes, when it times out or the peer goes away. -/
inductive RawAnswer
  | bytes (data : List Byte)
  | timedOut
  | failed

/-- Where a socket reads from: the peer, the network and the time it takes. -/
structure Network (ω : Type) where
  receive : ω → WirePart → (nbyte : Nat) → RawAnswer × ω

/-- The reading half, on a network in state `world`. -/
structure ReadSocket (ω : Type) where
  encryptionParams : Option EncryptionParams
  ivChangeInterval : Nat
  supportUnencryptedPeer : Bool
  /-- the byte of `buf_` behind those that the settings are read into -/
  spare : Byte := 0
  readErrorCode : ErrorCode := .ok
  encryptionSettingsRead : Bool := false
  readTagInterval : Nat := 0
  /-- meaningful once the settings are read -/
  decryptor : CipherContext
  totalRead : Nat := 0
  readsFinalized : Bool := false
  world : ω

/-- What a read returns: `none` is -1, otherwise the bytes that it put in the buffer. -/
abbrev ReadReturn := Option (List Byte)

def ReadReturn.bytes (ret : ReadReturn) : List Byte := ret.getD []

/-- `numRead > 0 ? numRead : ret` -/
def ReadReturn.orElse (numRead : List Byte) (ret : ReadReturn) : ReadReturn :=
  if numRead = [] then ret else some numRead

theorem ReadReturn.bytes_orElse {ret : ReadReturn} (silent : ret.bytes = [])
    (numRead : List Byte) : (ret.orElse numRead).bytes = numRead := by
  unfold ReadReturn.orElse
  by_cases nothing : numRead = []
  · rw [if_pos nothing, silent, nothing]
  · rw [if_neg nothing]
    rfl

namespace ReadSocket

variable {ω : Type} (network : Network ω)

def failWith (code : ErrorCode) (socket : ReadSocket ω) : ReadSocket ω :=
  { socket with readErrorCode := code }

def readInternal (part : WirePart) (nbyte : Nat) (socket : ReadSocket ω) :
    ReadReturn × ReadSocket ω :=
  if nbyte = 0 then (some [], socket.failWith .socketReadError)
  else
    let (answer, world) := network.receive socket.world part nbyte
    let socket := { socket with world }
    match answer with
    | .bytes data =>
      if data.take nbyte = [] then (some [], socket.failWith .socketReadError)
      else (some (data.take nbyte), socket.failWith .ok)
    | .timedOut => (none, socket.failWith .wdtTimeout)
    | .failed => (none, socket.failWith .socketReadError)

def acceptEncryptionSettings (params : EncryptionParams) (settings : Nat × List Byte × Nat)
    (socket : ReadSocket ω) : ReadSocket ω :=
  let (type, iv, tagInterval) := settings
  let socket := { socket with readTagInterval := tagInterval }
  if type % 2 ^ 32 ≠ params.type.toNat then socket.failWith .protocolError
  else if 0 < tagInterval ∧ encryptionTypeToTagLen params.type = 0 then
    socket.failWith .protocolError
  else if size : iv.length = kAESBlockSize then
    { socket with decryptor := { iv := ⟨iv, size⟩ }, encryptionSettingsRead := true }
  else socket.failWith .encryptionError

def readSettingsFields (params : EncryptionParams) (socket : ReadSocket ω) : ReadSocket ω :=
  let toRead := kEncryptionCmdLen - 1
  let (ret, socket) := readInternal network .settings toRead socket
  if ret.bytes.length ≠ toRead then socket.failWith .socketReadError
  else
    match (decodeEncryptionSettings (ret.bytes ++ [socket.spare])).1 with
    | none => socket.failWith .protocolError
    | some settings => acceptEncryptionSettings params settings socket

/-- Besides the socket, the byte that stands in `buf_[0]`. -/
def readEncryptionSettingsOnce (socket : ReadSocket ω) : Byte × ReadSocket ω :=
  match socket.encryptionParams with
  | none => (0, socket)
  | some params =>
    if socket.encryptionSettingsRead then (0, socket)
    else
      let (ret, socket) := readInternal network .settings 1 socket
      match ret.bytes with
      | [cmd] =>
        if cmd ≠ encryptionCmd then (cmd, socket.failWith .unexpectedCmdError)
        else (cmd, readSettingsFields network params socket)
      | _ => (0, socket)

variable (cipher : Cipher) (params : EncryptionParams) (nbyte : Nat)

def readAndDecrypt (socket : ReadSocket ω) : ReadReturn × ReadSocket ω :=
  let (ret, socket) := readInternal network .data nbyte socket
  if ret.bytes = [] then (ret, socket)
  else
    (some ((cipher.decrypt params).output socket.decryptor ret.bytes),
      { socket with decryptor := (cipher.decrypt params).after socket.decryptor ret.bytes })

def readAndCount (socket : ReadSocket ω) : ReadReturn × ReadSocket ω :=
  let (ret, socket) := readAndDecrypt network cipher params nbyte socket
  (ret, { socket with totalRead := socket.totalRead + ret.bytes.length })

/-- `none`: no whole tag, reported as an encryption error because no later read can make up
for the part that was taken. -/
def readEncryptionTag (socket : ReadSocket ω) : Option (List Byte) × ReadSocket ω :=
  let toRead := encryptionTypeToTagLen params.type
  let (ret, socket) := readInternal network .tag toRead socket
  if ret.bytes.length ≠ toRead then (none, socket.failWith .encryptionError)
  else (some ret.bytes, socket)

def checkAndChangeDecryptionIv (tag : List Byte) (socket : ReadSocket ω) : Bool × ReadSocket ω :=
  if changesIv socket.ivChangeInterval socket.readTagInterval socket.decryptor.getNumProcessed then
    let (ret, socket) := readInternal network .iv kAESBlockSize socket
    if size : ret.bytes.length = kAESBlockSize then
      if cipher.finish params socket.decryptor tag then
        (true, { socket with decryptor := { iv := ⟨ret.bytes, size⟩ } })
      else (false, socket)
    else (false, socket)
  else (true, socket)

def readTagAndIv (socket : ReadSocket ω) : Bool × ReadSocket ω :=
  match readEncryptionTag network params socket with
  | (none, socket) => (false, socket)
  | (some tag, socket) =>
    if cipher.verifyTag params socket.decryptor tag then
      match checkAndChangeDecryptionIv network cipher params tag socket with
      | (true, socket) => (true, socket)
      | (false, socket) => (false, socket.failWith .encryptionError)
    else (false, socket.failWith .encryptionError)

variable (numRead : List Byte)

def readRest (socket : ReadSocket ω) : ReadReturn × ReadSocket ω :=
  let (ret, socket) := readAndCount network cipher params (nbyte - numRead.length) socket
  if ret.bytes = [] then (ret.orElse numRead, socket) else (some (numRead ++ ret.bytes), socket)

/-- The tag and the rest of the read, with `numRead` read before the tag. -/
def readAcrossTag (socket : ReadSocket ω) : ReadReturn × ReadSocket ω :=
  match readTagAndIv network cipher params socket with
  | (false, socket) => (none, socket)
  | (true, socket) => readRest network cipher params nbyte numRead socket

def readAndDecryptWithTag (socket : ReadSocket ω) : ReadReturn × ReadSocket ω :=
  let nextTagOffset := computeNextTagOffset socket.totalRead socket.readTagInterval
  if nextTagOffset < nbyte then
    if 0 < nextTagOffset then
      let (ret, socket) := readAndCount network cipher params nextTagOffset socket
      if ret.bytes.length < nextTagOffset then (ret, socket)
      else readAcrossTag network cipher params nbyte ret.bytes socket
    else readAcrossTag network cipher params nbyte [] socket
  else readRest network cipher params nbyte [] socket

def readChunks : (rounds nbyte : Nat) → (numRead : List Byte) → ReadSocket ω →
    ReadReturn × ReadSocket ω
  | 0, _, numRead, socket => (some numRead, socket)
  | rounds + 1, nbyte, numRead, socket =>
    if numRead.length < nbyte then
      let toRead := min (nbyte - numRead.length) socket.readTagInterval
      let (ret, socket) := readAndDecryptWithTag network cipher params toRead socket
      if ret.bytes = [] then (ret.orElse numRead, socket)
      else if ret.bytes.length < toRead then (some (numRead ++ ret.bytes), socket)
      else readChunks rounds nbyte (numRead ++ ret.bytes) socket
    else (some numRead, socket)

def readUnencrypted (socket : ReadSocket ω) : ReadReturn × ReadSocket ω :=
  let (ret, socket) := readInternal network .plain (nbyte - numRead.length) socket
  match ret with
  | some data => (some (numRead ++ data), socket)
  | none => (ReadReturn.orElse numRead none, socket)

def readEncrypted (socket : ReadSocket ω) : ReadReturn × ReadSocket ω :=
  if socket.readTagInterval = 0 then readAndDecrypt network cipher params nbyte socket
  else readChunks network cipher params nbyte nbyte [] socket

def read (socket : ReadSocket ω) : ReadReturn × ReadSocket ω :=
  if socket.readErrorCode ≠ .ok ∧ socket.readErrorCode ≠ .wdtTimeout then (none, socket)
  else
    let (cmd, socket) := readEncryptionSettingsOnce network (socket.failWith .ok)
    if socket.supportUnencryptedPeer ∧ socket.readErrorCode = .unexpectedCmdError then
      readUnencrypted network nbyte [cmd]
        { socket with readErrorCode := .ok, encryptionParams := none }
    else if socket.readErrorCode ≠ .ok then (none, socket)
    else
      match socket.encryptionParams with
      | none => readUnencrypted network nbyte [] socket
      | some params => readEncrypted network cipher params nbyte socket

def finalizeReads (socket : ReadSocket ω) : ErrorCode × ReadSocket ω :=
  match socket.encryptionParams with
  | none => (.ok, { socket with readsFinalized := true })
  | some params =>
    let (tag, socket) :=
      if encryptionTypeToTagLen params.type = 0 then (some [], socket)
      else readEncryptionTag network params socket
    let finished := ¬ socket.encryptionSettingsRead ∨
      cipher.finish params socket.decryptor (tag.getD [])
    (if tag.isSome ∧ finished then .ok else .encryptionError,
      { socket with readsFinalized := true })

/-- What closing the connection resets: everything but the parameters. -/
def closeConnection (socket : ReadSocket ω) : ReadSocket ω :=
  { socket with
    readErrorCode := .ok
    encryptionSettingsRead := false
    totalRead := 0
    readsFinalized := false }

end ReadSocket

end Wdt
