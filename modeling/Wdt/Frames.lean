/-
The messages of a sender thread, byte for byte: FILE headers, checksum footers,
SIZE, DONE and SETTINGS, and that the receiver's decoders read them back.
-/

import Wdt.Lib.Encoder
import Wdt.ReceiverThread

namespace Wdt

open Encoder List Decoder Settings

/-! ### FILE headers -/

/-- A block that a sender can describe: its numbers are not negative, its path is one that a
directory scan produces, and fields that are not sent have their defaults. -/
structure BlockDetails.Honest (version : Nat) (details : BlockDetails) : Prop where
  safe : isSafeRelativePath details.fileName = true
  seqId : details.seqId ≤ int64Max
  dataSize : details.dataSize ≤ int64Max
  offset : details.offset ≤ int64Max
  fileSize : details.fileSize ≤ int64Max
  prevSeqId : details.prevSeqId ≤ int64Max
  named : details.allocationStatus.Named
  deleted : details.allocationStatus = .toBeDeleted → details.fileSize = 0 ∧ details.dataSize = 0
  unsentStatus : version < headerFlagAndPrevSeqIdVersion → details.allocationStatus = .notExists
  unsentPrevSeqId : details.allocationStatus.carriesPrevSeqId = false → details.prevSeqId = 0
  fits : 4 + (headerFields version details).length ≤ kMaxHeader

theorem append_of_fits {max : Nat} {written word : List Byte}
    (fits : (written ++ word).length ≤ max) : append max written word = some (written ++ word) :=
  put_of_fits fits

theorem append_eq_put (max : Nat) (written word : List Byte) :
    append max written word = put word max written :=
  rfl

theorem encodeVarI64C_eq_put (max value : Nat) (written : List Byte) :
    encodeVarI64C max value written = put (varU64 value) max written :=
  rfl

theorem encodeString_eq_put (max : Nat) (str written : List Byte) :
    encodeString max str written = put (varU64 str.length ++ str) max written :=
  put_bind_put _ _ max written

theorem encodeHeader_eq_put (version : Nat) (details : BlockDetails) :
    (fun max written => encodeHeader version max details written) =
      put (headerFields version details) := by
  funext max written
  unfold encodeHeader headerFields
  simp only [encodeString_eq_put, encodeVarI64C_eq_put, append_eq_put, Option.bind_eq_bind]
  by_cases flags : headerFlagAndPrevSeqIdVersion ≤ version
  · by_cases carries : details.allocationStatus.carriesPrevSeqId = true
    · simp only [if_pos flags, if_pos carries, put_bind_put]
      simp
    · simp only [if_pos flags, if_neg carries, put_bind_some, put_bind_put]
      simp
  · simp only [if_neg flags, put_bind_some, put_bind_put]
    simp

section Header

variable {version : Nat} {details : BlockDetails}

/-- The header of an honest block: its length is stored behind the status byte. -/
def headerBytes (version : Nat) (status : Byte) (details : BlockDetails) : List Byte :=
  fileCmd :: status :: leBytes 2 (4 + (headerFields version details).length) ++
    headerFields version details

theorem headerBytes_length (version : Nat) (status : Byte) (details : BlockDetails) :
    (headerBytes version status details).length = 4 + (headerFields version details).length := by
  simp [headerBytes, leBytes]
  omega

structure BlockDetails.InRange (details : BlockDetails) : Prop where
  shortName : details.fileName.length < 2 ^ 64
  seqId : details.seqId ≤ int64Max
  dataSize : details.dataSize ≤ int64Max
  offset : details.offset ≤ int64Max
  fileSize : details.fileSize ≤ int64Max
  prevSeqId : details.prevSeqId ≤ int64Max
  named : details.allocationStatus.Named

/-- What a receiver makes of a header: what the version does not carry has its default. -/
def BlockDetails.received (version : Nat) (details : BlockDetails) : BlockDetails :=
  if headerFlagAndPrevSeqIdVersion ≤ version then
    { details with
      prevSeqId := if details.allocationStatus.carriesPrevSeqId then details.prevSeqId else 0 }
  else { details with allocationStatus := .notExists, prevSeqId := 0 }

theorem BlockDetails.Honest.inRange (honest : details.Honest version) : details.InRange := by
  have shortName : details.fileName.length < 2 ^ 64 := by
    have fits := honest.fits
    unfold headerFields kMaxHeader pathMax at fits
    simp only [length_append] at fits
    omega
  exact ⟨shortName, honest.seqId, honest.dataSize, honest.offset, honest.fileSize,
    honest.prevSeqId, honest.named⟩

theorem BlockDetails.Honest.received_eq (honest : details.Honest version) :
    details.received version = details := by
  unfold BlockDetails.received
  by_cases flags : headerFlagAndPrevSeqIdVersion ≤ version
  · rw [if_pos flags]
    by_cases carries : details.allocationStatus.carriesPrevSeqId = true
    · rw [if_pos carries]
    · rw [if_neg carries, ← honest.unsentPrevSeqId (Bool.eq_false_iff.mpr carries)]
  rw [if_neg flags]
  have notExists := honest.unsentStatus (not_le.mp flags)
  have unsent := honest.unsentPrevSeqId (by rw [notExists]; rfl)
  rw [← notExists, ← unsent]

theorem decodeBlock_reads (inRange : details.InRange) : decodeBlock.Reads
      (varU64 details.fileName.length ++ details.fileName ++ varU64 details.seqId ++
        varU64 details.dataSize ++ varU64 details.offset ++ varU64 details.fileSize)
      { fileName := details.fileName
        seqId := details.seqId
        fileSize := details.fileSize
        offset := details.offset
        dataSize := details.dataSize } := by
  have regrouped : varU64 details.fileName.length ++ details.fileName ++ varU64 details.seqId ++
      varU64 details.dataSize ++ varU64 details.offset ++ varU64 details.fileSize =
      (varU64 details.fileName.length ++ details.fileName) ++
        (varU64 details.seqId ++ (varU64 details.dataSize ++
          (varU64 details.offset ++ (varU64 details.fileSize ++ [])))) := by
    simp
  rw [regrouped]
  apply Reads.bind (decodeString_reads inRange.shortName)
  apply Reads.bind (decodeInt64C_reads inRange.seqId)
  apply Reads.bind (decodeInt64C_reads inRange.dataSize)
  apply Reads.bind (decodeInt64C_reads inRange.offset)
  apply Reads.bind (decodeInt64C_reads inRange.fileSize)
  exact reads_pure _

theorem decodePrevSeqId_reads (inRange : details.InRange) :
    (decodePrevSeqId { details with prevSeqId := 0 }).Reads
      (if details.allocationStatus.carriesPrevSeqId then varU64 details.prevSeqId else [])
      { details with
        prevSeqId :=
          if details.allocationStatus.carriesPrevSeqId then details.prevSeqId else 0 } := by
  unfold decodePrevSeqId
  by_cases carries : details.allocationStatus.carriesPrevSeqId = true
  · rw [if_pos carries, if_pos carries, if_pos carries]
    exact (decodeInt64C_reads inRange.prevSeqId).map _
  · rw [if_neg carries, if_neg carries, if_neg carries]
    exact reads_pure _

theorem decodeHeader_reads_received (inRange : details.InRange) :
    (decodeHeader version).Reads (headerFields version details) (details.received version) := by
  intro rest
  unfold decodeHeader headerFields BlockDetails.received
  rw [append_assoc, decodeBlock_reads inRange]
  by_cases flags : headerFlagAndPrevSeqIdVersion ≤ version
  · simp only [if_pos flags, cons_append]
    have status : FileAllocationStatus.ofFlags details.allocationStatus.toFlags =
        details.allocationStatus := FileAllocationStatus.ofFlags_toFlags inRange.named
    rw [status]
    exact decodePrevSeqId_reads inRange rest
  · simp only [if_neg flags, nil_append]

theorem decodeHeader_reads (honest : details.Honest version) :
    (decodeHeader version).Reads (headerFields version details) details := by
  have reads := @decodeHeader_reads_received version details honest.inRange
  rw [honest.received_eq] at reads
  exact reads

end Header

/-! ### Footer, SIZE, DONE and SETTINGS -/

def footerMessage (data : List Byte) : List Byte :=
  (encodeFooter kMaxFooter (toInt32 (crc32c 0 data)) [footerCmd]).getD []

theorem footerMessage_eq (data : List Byte) :
    footerMessage data = footerCmd :: varU64 (encodeZigZag (toInt32 (crc32c 0 data))) := by
  unfold footerMessage encodeFooter encodeVarI64 encodeVarU64
  rw [append_of_fits (by
    have short := varU64_length_le (encodeZigZag (toInt32 (crc32c 0 data)))
    have longest : kMaxFooter = 11 := rfl
    simp only [length_append, length_cons, length_nil]
    omega)]
  rfl

theorem toInt32_bounds (value : UInt32) :
    toInt32 value ≤ int32Max ∧ -(int32Max : Int) - 1 ≤ toInt32 value := by
  have bound : value.toNat < 2 ^ 32 := value.toNat_lt
  unfold toInt32 int32Max
  split <;> omega

theorem decodeFooter_reads (data : List Byte) :
    decodeFooter.Reads (varU64 (encodeZigZag (toInt32 (crc32c 0 data))))
      (toInt32 (crc32c 0 data)) :=
  decodeInt32_reads (toInt32_bounds _).1 (toInt32_bounds _).2

def sizeMessage (totalNumBytes : Nat) : List Byte :=
  (encodeSize kMaxSize totalNumBytes [sizeCmd]).getD []

theorem sizeMessage_eq (totalNumBytes : Nat) :
    sizeMessage totalNumBytes = sizeCmd :: varU64 totalNumBytes := by
  unfold sizeMessage encodeSize encodeVarI64C encodeVarU64
  rw [append_of_fits (by
    have short := varU64_length_le totalNumBytes
    have longest : kMaxSize = 11 := rfl
    simp only [length_append, length_cons, length_nil]
    omega)]
  rfl

theorem decodeSize_reads {totalNumBytes : Nat} (small : totalNumBytes ≤ int64Max) :
    decodeSize.Reads (varU64 totalNumBytes) totalNumBytes :=
  decodeInt64C_reads small

def doneFields (version numBlocks totalNumBytes : Nat) : List Byte :=
  varU64 numBlocks ++ if checkpointOffsetVersion ≤ version then varU64 totalNumBytes else []

/-- 256 bytes of the sender's buffer, whatever it held behind the message. -/
def doneMessage (version : Nat) (status : Byte) (numBlocks totalNumBytes : Nat)
    (buf : Memory Byte) : List Byte :=
  (buf.store 0 ((encodeDone version kMaxDone numBlocks totalNumBytes [doneCmd, status]).getD
    [])).read 0 kMinBufLength

theorem doneFields_length_le (version numBlocks totalNumBytes : Nat) :
    (doneFields version numBlocks totalNumBytes).length ≤ 18 := by
  have first := varU64_length_le numBlocks
  have second := varU64_length_le totalNumBytes
  unfold doneFields
  rw [length_append]
  split
  · omega
  · simp only [length_nil]
    omega

theorem encodeDone_eq_put (version numBlocks bytesSent : Nat) :
    (fun max written => encodeDone version max numBlocks bytesSent written) =
      put (doneFields version numBlocks bytesSent) := by
  funext max written
  unfold encodeDone doneFields
  simp only [encodeVarI64C_eq_put, Option.bind_eq_bind]
  by_cases later : checkpointOffsetVersion ≤ version
  · simp only [if_pos later, put_bind_put]
  · simp only [if_neg later, put_bind_some, append_nil]

theorem doneMessage_eq (version : Nat) (status : Byte) (numBlocks totalNumBytes : Nat)
    (buf : Memory Byte) :
    ∃ filler, doneMessage version status numBlocks totalNumBytes buf =
        doneCmd :: status :: doneFields version numBlocks totalNumBytes ++ filler ∧
      (doneMessage version status numBlocks totalNumBytes buf).length = kMinBufLength := by
  have short := doneFields_length_le version numBlocks totalNumBytes
  have encoded : encodeDone version kMaxDone numBlocks totalNumBytes [doneCmd, status] =
      some (doneCmd :: status :: doneFields version numBlocks totalNumBytes) := by
    have longest : kMaxDone = 22 := rfl
    rw [congrFun₂ (encodeDone_eq_put version numBlocks totalNumBytes) kMaxDone]
    exact put_of_fits (by simp only [length_append, length_cons, length_nil]; omega)
  unfold doneMessage
  rw [encoded, Option.getD_some, Memory.read_length]
  have long : (doneCmd :: status :: doneFields version numBlocks totalNumBytes).length ≤
      kMinBufLength := by
    have least : kMinBufLength = 256 := rfl
    simp only [length_cons]
    omega
  rw [Memory.read_store_longer _ _ _ long]
  exact ⟨_, rfl, rfl⟩

variable {version : Nat}

theorem decodeDone_reads_received {numBlocks bytesSent : Nat}
    (small : numBlocks ≤ int64Max) (smallTotal : bytesSent ≤ int64Max) :
    (decodeDone version).Reads (doneFields version numBlocks bytesSent)
      (numBlocks, if checkpointOffsetVersion ≤ version then (bytesSent : Int) else -1) := by
  apply Reads.bind (decodeInt64C_reads small)
  by_cases later : checkpointOffsetVersion ≤ version
  · simp only [if_pos later]
    exact (decodeInt64C_reads smallTotal).map _
  · simp only [if_neg later]
    exact reads_pure _

theorem decodeDone_reads {numBlocks totalNumBytes : Nat} (version : Nat)
    (small : numBlocks ≤ int64Max) (smallTotal : totalNumBytes ≤ int64Max) :
    ∃ total : Int, (decodeDone version).Reads (doneFields version numBlocks totalNumBytes)
      (numBlocks, total) :=
  ⟨_, decodeDone_reads_received small smallTotal⟩

def settingsFields (version : Nat) (settings : Settings) : List Byte :=
  varU64 settings.readTimeoutMillis ++ (varU64 settings.writeTimeoutMillis ++
    (varU64 settings.transferId.length ++ settings.transferId)) ++
    if settingsFlagVersion ≤ version then [settings.toFlags] else []

/-- The message of a sender that does not ask for the list of received chunks. -/
def settingsMessage (version : Nat) (settings : Settings) : List Byte :=
  (encodeSettings version kMaxSettings settings [settingsCmd]).getD []

structure Settings.Honest (version : Nat) (settings : Settings) : Prop where
  versionSmall : version ≤ int32Max
  flags : settingsFlagVersion ≤ version
  readTimeout : settings.readTimeoutMillis ≤ int32Max
  writeTimeout : settings.writeTimeoutMillis ≤ int32Max
  fits : (settingsCmd :: varU64 version ++ settingsFields version settings).length ≤ kMaxSettings

theorem encodeSettings_eq_put (version : Nat) (settings : Settings) :
    (fun max written => encodeSettings version max settings written) =
      put (varU64 version ++ settingsFields version settings) := by
  funext max written
  unfold encodeSettings settingsFields
  simp only [encodeString_eq_put, encodeVarI64C_eq_put, append_eq_put, Option.bind_eq_bind]
  by_cases flags : settingsFlagVersion ≤ version
  · simp only [if_pos flags, put_bind_put]
    simp
  · simp only [if_neg flags, put_bind_some, put_bind_put]
    simp

variable {settings : Settings}

theorem settingsMessage_of_fits
    (fits : (settingsCmd :: varU64 version ++ settingsFields version settings).length ≤
      kMaxSettings) :
    settingsMessage version settings =
      settingsCmd :: varU64 version ++ settingsFields version settings := by
  unfold settingsMessage
  rw [congrFun₂ (encodeSettings_eq_put version settings) kMaxSettings, put_of_fits]
  · rw [Option.getD_some]
    rfl
  · exact fits

theorem settingsMessage_eq (honest : settings.Honest version) :
    settingsMessage version settings =
      settingsCmd :: varU64 version ++ settingsFields version settings :=
  settingsMessage_of_fits honest.fits

private theorem flagBits : ∀ checksum chunks blockMode heartBeat : Bool,
    let flags : Byte := UInt8.ofNat ((if checksum then 1 else 0) + (if chunks then 2 else 0) +
      (if blockMode then 4 else 0) + if heartBeat then 8 else 0)
    flags.toNat.testBit 0 = checksum ∧ flags.toNat.testBit 1 = chunks ∧
      flags.toNat.testBit 2 = blockMode ∧ flags.toNat.testBit 3 = heartBeat := by
  decide

theorem Settings.withFlags_toFlags (settings : Settings) :
    ({ readTimeoutMillis := settings.readTimeoutMillis
       writeTimeoutMillis := settings.writeTimeoutMillis
       transferId := settings.transferId } : Settings).withFlags settings.toFlags = settings := by
  obtain ⟨checksum, chunks, blockMode, heartBeat⟩ := flagBits settings.enableChecksum
    settings.sendFileChunks settings.blockModeDisabled settings.enableHeartBeat
  unfold withFlags toFlags
  rw [checksum, chunks, blockMode, heartBeat]

/-- What a receiver makes of the settings: without the flags, their defaults. -/
def Settings.received (version : Nat) (settings : Settings) : Settings :=
  if settingsFlagVersion ≤ version then settings
  else
    { readTimeoutMillis := settings.readTimeoutMillis
      writeTimeoutMillis := settings.writeTimeoutMillis
      transferId := settings.transferId }

theorem decodeSettings_reads_received {version : Nat} {settings : Settings}
    (readTimeout : settings.readTimeoutMillis ≤ int32Max)
    (writeTimeout : settings.writeTimeoutMillis ≤ int32Max)
    (short : settings.transferId.length < 2 ^ 64) :
    (decodeSettings version).Reads (settingsFields version settings)
      (settings.received version) := by
  intro rest
  have fields : (decodeInt32C.bind fun readTimeoutMillis =>
      decodeInt32C.bind fun writeTimeoutMillis =>
        decodeString.bind fun transferId =>
          Decoder.pure ({ readTimeoutMillis, writeTimeoutMillis, transferId } : Settings)).Reads
      (varU64 settings.readTimeoutMillis ++ (varU64 settings.writeTimeoutMillis ++
        (varU64 settings.transferId.length ++ settings.transferId)))
      { readTimeoutMillis := settings.readTimeoutMillis
        writeTimeoutMillis := settings.writeTimeoutMillis
        transferId := settings.transferId } := by
    apply Reads.bind (decodeInt32C_reads readTimeout)
    apply Reads.bind (decodeInt32C_reads writeTimeout)
    rw [← append_nil (varU64 settings.transferId.length ++ settings.transferId)]
    apply Reads.bind (decodeString_reads short)
    exact reads_pure _
  unfold decodeSettings settingsFields received
  rw [append_assoc, fields]
  by_cases flags : settingsFlagVersion ≤ version
  · simp only [if_pos flags, cons_append, nil_append]
    rw [withFlags_toFlags]
  · simp only [if_neg flags, nil_append]

theorem decodeSettings_reads (honest : settings.Honest version) :
    (decodeSettings version).Reads (settingsFields version settings) settings := by
  have short : settings.transferId.length < 2 ^ 64 := by
    have fits := honest.fits
    unfold settingsFields kMaxSettings kMaxTransferIdLength at fits
    simp only [length_append, length_cons] at fits
    omega
  have reads := @decodeSettings_reads_received version settings honest.readTimeout
    honest.writeTimeout short
  unfold received at reads
  rw [if_pos honest.flags] at reads
  exact reads

end Wdt
