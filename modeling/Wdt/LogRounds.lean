/-
What one round of the parser's loop does to the status and to what is collected, as
long as it does not find the log invalid, and what therefore holds of the collected
data in every round.
-/

import Wdt.LogReplay

namespace Wdt

open SortedMap

/-! ### One round of a valid log -/

/-- A header that the log may have: the parser's version, and a sender. -/
def LogHeader.Legible (entry : LogHeader) : Prop :=
  entry.version = wlogVersion ∧ entry.senderIp ≠ []

namespace LogParser

def Acting (parser : LogParser) : Prop :=
  parser.parseOnly = false ∧ parser.resumeUsingDirTree = false

def Matches (parser : LogParser) (entry : LogHeader) : Prop :=
  parser.recoveryId = entry.recoveryId ∧ parser.config = entry.config

instance (parser : LogParser) (entry : LogHeader) : Decidable (parser.Matches entry) := by
  unfold Matches
  infer_instance

/-- What a round can do when it does not find the log invalid: the status and the collected data
before it, the body of the entry, and both after it. -/
inductive Round (parser : LogParser) (disk : Directory) :
    ErrorCode → ParsedLog → List Byte → ErrorCode → ParsedLog → Prop
  | skipped {parsed type buf} (notHeader : EntryType.ofByte type ≠ some .header) :
      Round parser disk .inconsistentDirectory parsed (type :: buf) .inconsistentDirectory
        parsed
  | printed {status parsed type buf entry} (printing : parser.parseOnly = true)
      (valid : status ≠ .inconsistentDirectory) (notHeader : type ≠ .header)
      (headed : type ≠ .directoryInvalidation → parsed.headerParsed = true)
      (decoded : decodeEntry type buf = some entry) :
      Round parser disk status parsed (type.toByte :: buf) .ok parsed
  | header {status parsed buf entry} (decoded : decodeLogHeader buf = some entry)
      (legible : entry.Legible) (accepted : parser.parseOnly = true ∨ parser.Matches entry) :
      Round parser disk status parsed (EntryType.header.toByte :: buf) .ok
        { parsed with senderIp := entry.senderIp, headerParsed := true }
  | otherHeader {status parsed buf entry} (decoded : decodeLogHeader buf = some entry)
      (legible : entry.Legible) (different : ¬ parser.Matches entry)
      (fixing : parser.parseOnly = false) :
      Round parser disk status parsed (EntryType.header.toByte :: buf)
        .inconsistentDirectory { parsed with senderIp := entry.senderIp }.clearParsedData
  | directoryInvalidation {status parsed buf entry} (valid : status ≠ .inconsistentDirectory)
      (decoded : decodeDirectoryInvalidationEntry buf = some entry)
      (fixing : parser.parseOnly = false) :
      Round parser disk status parsed (EntryType.directoryInvalidation.toByte :: buf)
        .inconsistentDirectory { parsed with headerParsed := false }.clearParsedData
  | created {status parsed buf entry size} (acting : parser.Acting)
      (valid : status ≠ .inconsistentDirectory) (headed : parsed.headerParsed = true)
      (decoded : decodeFileCreationEntry buf = some entry)
      (uncollected : parsed.fileInfoMap.contains entry.seqId = false)
      (notInvalid : parsed.invalidSeqIds.contains entry.seqId = false)
      (verified : parser.verifiedSize disk entry = some size) :
      Round parser disk status parsed (EntryType.fileCreation.toByte :: buf) .ok
        { parsed with
          fileInfoMap := parsed.fileInfoMap.emplace entry.seqId
            { seqId := entry.seqId, fileName := entry.fileName, fileSize := size }
          seqIdToSizeMap := parsed.seqIdToSizeMap.emplace entry.seqId entry.fileSize }
  | refused {status parsed buf entry} (acting : parser.Acting)
      (valid : status ≠ .inconsistentDirectory) (headed : parsed.headerParsed = true)
      (decoded : decodeFileCreationEntry buf = some entry)
      (uncollected : parsed.fileInfoMap.contains entry.seqId = false)
      (notInvalid : parsed.invalidSeqIds.contains entry.seqId = false)
      (failed : parser.verifiedSize disk entry = none) :
      Round parser disk status parsed (EntryType.fileCreation.toByte :: buf) .ok
        { parsed with invalidSeqIds := parsed.invalidSeqIds.emplace entry.seqId () }
  | resized {status parsed buf entry chunksInfo size} (acting : parser.Acting)
      (valid : status ≠ .inconsistentDirectory)
      (headed : parsed.headerParsed = true) (decoded : decodeFileResizeEntry buf = some entry)
      (collected : parsed.fileInfoMap.lookup entry.seqId = some chunksInfo)
      (recorded : parsed.seqIdToSizeMap.lookup entry.seqId = some size)
      (grows : size ≤ entry.fileSize)
      (fits : parser.shouldPreallocateFiles = true → entry.fileSize ≤ chunksInfo.fileSize) :
      Round parser disk status parsed (EntryType.fileResize.toByte :: buf) .ok
        { parsed with
          seqIdToSizeMap := parsed.seqIdToSizeMap.set entry.seqId entry.fileSize }
  | ignored {status parsed buf entry} (acting : parser.Acting)
      (valid : status ≠ .inconsistentDirectory) (headed : parsed.headerParsed = true)
      (decoded : decodeBlockWriteEntry buf = some entry)
      (invalid : parsed.invalidSeqIds.contains entry.seqId = true) :
      Round parser disk status parsed (EntryType.blockWrite.toByte :: buf) .ok parsed
  | written {status parsed buf entry chunksInfo} (acting : parser.Acting)
      (valid : status ≠ .inconsistentDirectory)
      (headed : parsed.headerParsed = true) (decoded : decodeBlockWriteEntry buf = some entry)
      (notInvalid : parsed.invalidSeqIds.contains entry.seqId = false)
      (collected : parsed.fileInfoMap.lookup entry.seqId = some chunksInfo)
      (within : wrapInt64 (entry.offset + entry.blockSize) ≤ chunksInfo.fileSize)
      (ordered : (entry.offset : Int) ≤ wrapInt64 (entry.offset + entry.blockSize)) :
      Round parser disk status parsed (EntryType.blockWrite.toByte :: buf) .ok
        { parsed with
          fileInfoMap := parsed.fileInfoMap.set entry.seqId
            { chunksInfo with
              chunks := chunksInfo.chunks ++
                [{ start := entry.offset
                   stop := (wrapInt64 (entry.offset + entry.blockSize)).toNat }] } }
  | invalidated {status parsed buf entry} (acting : parser.Acting)
      (valid : status ≠ .inconsistentDirectory)
      (headed : parsed.headerParsed = true) (decoded : decodeFileInvalidationEntry buf = some entry)
      (known : parsed.fileInfoMap.contains entry.seqId = true ∨
        parsed.invalidSeqIds.contains entry.seqId = true) :
      Round parser disk status parsed (EntryType.fileInvalidation.toByte :: buf) .ok
        { parsed with
          fileInfoMap := parsed.fileInfoMap.erase entry.seqId
          invalidSeqIds := parsed.invalidSeqIds.erase entry.seqId }

variable {parser : LogParser} {disk : Directory} {status after : ErrorCode}
  {parsed collected : ParsedLog} {body : List Byte}

theorem invalid_ne {first : ParsedLog} (valid : after ≠ .invalidLog) :
    (.ok (.invalidLog, first) : Processed) ≠ .ok (after, collected) := by
  intro same
  cases same
  exact valid rfl

theorem of_check {bad : Prop} [Decidable bad] {first : ParsedLog} {rest : Processed}
    (processed : (if bad then (.ok (.invalidLog, first) : Processed) else rest) =
      .ok (after, collected))
    (valid : after ≠ .invalidLog) : ¬ bad ∧ rest = .ok (after, collected) := by
  split at processed
  · exact absurd processed (invalid_ne valid)
  · exact ⟨‹_›, processed⟩

/-! ### A processed entry is one of these rounds -/

variable {entry : FileCreation}

section Inversion

variable {buf : List Byte}

theorem headerEntry_round
    (processed : parser.processHeaderEntry parsed buf = .ok (after, collected))
    (valid : after ≠ .invalidLog) :
    Round parser disk status parsed (EntryType.header.toByte :: buf) after
      (if after = .inconsistentDirectory then collected.clearParsedData else collected) := by
  unfold processHeaderEntry at processed
  split at processed
  · exact absurd processed (invalid_ne valid)
  rename_i entry decoded
  obtain ⟨sameVersion, processed⟩ := of_check processed valid
  obtain ⟨sender, processed⟩ := of_check processed valid
  have legible : entry.Legible := ⟨not_not.mp sameVersion, sender⟩
  split at processed
  · rename_i printing
    cases processed
    exact .header decoded legible (.inl printing)
  rename_i printing
  have fixing := Bool.eq_false_of_not_eq_true printing
  split at processed
  · rename_i otherId
    cases processed
    exact .otherHeader decoded legible (fun same => otherId same.1) fixing
  rename_i sameId
  split at processed
  · rename_i otherConfig
    cases processed
    exact .otherHeader decoded legible (fun same => otherConfig same.2) fixing
  · rename_i sameConfig
    cases processed
    exact .header decoded legible (.inr ⟨not_not.mp sameId, not_not.mp sameConfig⟩)

variable (consistent : status ≠ .inconsistentDirectory) (valid : after ≠ .invalidLog)
  (acting : parser.Acting) (headed : parsed.headerParsed = true)

include consistent valid acting headed

theorem fileCreation_round (decoded : decodeFileCreationEntry buf = some entry)
    (applied : parser.applyFileCreation disk parsed entry = .ok (after, collected)) :
    after = .ok ∧ Round parser disk status parsed (EntryType.fileCreation.toByte :: buf) .ok
        collected := by
  obtain ⟨new, applied⟩ := of_check applied valid
  rw [Bool.or_eq_true, not_or, Bool.not_eq_true, Bool.not_eq_true] at new
  split at applied <;> cases applied
  · rename_i size verified
    exact ⟨rfl, .created acting consistent headed decoded new.1 new.2 verified⟩
  · rename_i failed
    exact ⟨rfl, .refused acting consistent headed decoded new.1 new.2 failed⟩

theorem fileResize_round {entry : FileResize} (decoded : decodeFileResizeEntry buf = some entry)
    (applied : parser.applyFileResize parsed entry = .ok (after, collected)) :
    after = .ok ∧ Round parser disk status parsed (EntryType.fileResize.toByte :: buf) .ok
        collected := by
  unfold applyFileResize at applied
  split at applied
  · exact absurd applied (invalid_ne valid)
  rename_i chunksInfo known
  split at applied
  · cases applied
  rename_i size recorded
  obtain ⟨grows, applied⟩ := of_check applied valid
  obtain ⟨fits, applied⟩ := of_check applied valid
  cases applied
  rw [Bool.and_eq_true, decide_eq_true_eq, not_and, Nat.not_lt] at fits
  exact ⟨rfl, .resized acting consistent headed decoded known recorded
    (Nat.le_of_not_lt grows) fits⟩

theorem blockWrite_round {entry : BlockWrite} (decoded : decodeBlockWriteEntry buf = some entry)
    (applied : applyBlockWrite parsed entry = .ok (after, collected)) :
    after = .ok ∧ Round parser disk status parsed (EntryType.blockWrite.toByte :: buf) .ok
        collected := by
  unfold applyBlockWrite at applied
  split at applied
  · rename_i invalid
    cases applied
    exact ⟨rfl, .ignored acting consistent headed decoded invalid⟩
  rename_i notInvalid
  split at applied
  · exact absurd applied (invalid_ne valid)
  rename_i chunksInfo known
  obtain ⟨within, applied⟩ := of_check applied valid
  split at applied <;> cases applied
  rename_i ordered
  exact ⟨rfl, .written acting consistent headed decoded
    (Bool.eq_false_of_not_eq_true notInvalid) known (Int.not_lt.mp within)
    (Int.not_lt.mp ordered)⟩

theorem fileInvalidation_round {entry : FileInvalidation}
    (decoded : decodeFileInvalidationEntry buf = some entry)
    (applied : applyFileInvalidation parsed entry = .ok (after, collected)) :
    after = .ok ∧
      Round parser disk status parsed (EntryType.fileInvalidation.toByte :: buf) .ok
        collected := by
  obtain ⟨known, applied⟩ := of_check applied valid
  cases applied
  refine ⟨rfl, .invalidated acting consistent headed decoded ?_⟩
  simpa [or_iff_not_imp_left] using known

omit acting headed

theorem fileEntry_round {α : Type} {decode : List Byte → Option α} {wrap : α → LogEntry}
    {apply : ParsedLog → α → Processed} {type : EntryType} (notHeader : type ≠ .header)
    (decoder : ∀ entry, decode buf = some entry → decodeEntry type buf = some (wrap entry))
    (handled : ∀ entry, parser.Acting → parsed.headerParsed = true → decode buf = some entry →
      apply parsed entry = .ok (after, collected) → after = .ok ∧
        Round parser disk status parsed (type.toByte :: buf) .ok collected)
    (processed : parser.processFileEntry decode apply parsed buf = .ok (after, collected)) :
    Round parser disk status parsed (type.toByte :: buf) after
      (if after = .inconsistentDirectory then collected.clearParsedData else collected) := by
  obtain ⟨headed, processed⟩ := of_check processed valid
  rw [Bool.not_eq_true, Bool.not_eq_eq_eq_not, Bool.not_false] at headed
  split at processed
  · exact absurd processed (invalid_ne valid)
  rename_i entry decoded
  split at processed
  · rename_i printing
    cases processed
    exact .printed printing consistent notHeader (fun _ => headed) (decoder entry decoded)
  rename_i printing
  obtain ⟨byLog, processed⟩ := of_check processed valid
  rcases handled entry ⟨Bool.eq_false_of_not_eq_true printing,
    Bool.eq_false_of_not_eq_true byLog⟩ headed decoded processed with ⟨rfl, round⟩
  exact round

end Inversion

theorem round_of_processEntry
    (processed : parser.processEntry disk status parsed body = .ok (after, collected))
    (valid : after ≠ .invalidLog) : Round parser disk status parsed body after collected := by
  cases body with
  | nil =>
    cases processed
    exact absurd rfl valid
  | cons byte buf =>
    unfold processEntry at processed
    dsimp only at processed
    split at processed
    · rename_i skips
      obtain ⟨rfl, notHeader⟩ := skips
      cases processed
      exact .skipped notHeader
    rename_i skips
    split at processed
    · exact absurd processed (invalid_ne valid)
    rename_i type named
    have consistent (notHeader : type ≠ .header) : status ≠ .inconsistentDirectory :=
      fun inconsistent => skips ⟨inconsistent, by simpa [named] using notHeader⟩
    obtain ⟨⟨outcome, middle⟩, result, same⟩ := Except.map_eq_ok_iff.mp processed
    cases same
    rw [EntryType.toByte_ofByte named]
    have decodes {α : Type} {decode : List Byte → Option α} (wrap : α → LogEntry)
        (entry : α) (decoded : decode buf = some entry) :
        (decode buf).map wrap = some (wrap entry) := by
      rw [decoded, Option.map_some]
    cases type with
    | header => exact headerEntry_round result valid
    | fileCreation =>
      exact fileEntry_round (consistent nofun) valid nofun (decodes _)
        (fun _ acting headed => fileCreation_round (consistent nofun) valid acting headed)
        result
    | blockWrite =>
      exact fileEntry_round (consistent nofun) valid nofun (decodes _)
        (fun _ acting headed => blockWrite_round (consistent nofun) valid acting headed)
        result
    | fileInvalidation =>
      exact fileEntry_round (consistent nofun) valid nofun (decodes _)
        (fun _ acting headed => fileInvalidation_round (consistent nofun) valid acting headed)
        result
    | fileResize =>
      exact fileEntry_round (consistent nofun) valid nofun (decodes _)
        (fun _ acting headed => fileResize_round (consistent nofun) valid acting headed)
        result
    | directoryInvalidation =>
      change parser.processDirectoryInvalidationEntry parsed buf = _ at result
      unfold processDirectoryInvalidationEntry at result
      split at result
      · exact absurd result (invalid_ne valid)
      rename_i entry decoded
      cases printing : parser.parseOnly <;> rw [printing] at result <;> cases result
      · exact .directoryInvalidation (consistent nofun) decoded printing
      · exact .printed printing (consistent nofun) nofun (fun other => absurd rfl other)
          (decodes _ entry decoded)

theorem processEntry_typed {type : EntryType} {buf : List Byte}
    (looked : status = .inconsistentDirectory → type = .header)
    (processed : parser.processTyped disk type parsed buf = .ok (after, collected)) :
    parser.processEntry disk status parsed (type.toByte :: buf) =
      .ok (after, if after = .inconsistentDirectory then collected.clearParsedData
        else collected) := by
  unfold processEntry
  dsimp only
  rw [EntryType.ofByte_toByte, if_neg (fun skipped => skipped.2 (by rw [looked skipped.1]))]
  dsimp only
  rw [processed]
  rfl

theorem processFileEntry_printed {α : Type} {decode : List Byte → Option α} {wrap : α → LogEntry}
    {apply : ParsedLog → α → Processed} {buf : List Byte} {entry : LogEntry}
    (printing : parser.parseOnly = true) (headed : parsed.headerParsed = true)
    (decoded : (decode buf).map wrap = some entry) :
    parser.processFileEntry decode apply parsed buf = .ok (.ok, parsed) := by
  rcases Option.map_eq_some_iff.mp decoded with ⟨value, found, _⟩
  unfold processFileEntry
  rw [headed, found, printing]
  rfl

theorem processFileEntry_decoded {α : Type} {decode : List Byte → Option α}
    {apply : ParsedLog → α → Processed} {buf : List Byte} {entry : α} (acting : parser.Acting)
    (headed : parsed.headerParsed = true) (decoded : decode buf = some entry) :
    parser.processFileEntry decode apply parsed buf = apply parsed entry := by
  unfold processFileEntry
  rw [headed, decoded, acting.1, acting.2]
  rfl

theorem Round.processEntry_eq (round : Round parser disk status parsed body after collected) :
    parser.processEntry disk status parsed body = .ok (after, collected) := by
  have excluded : ∀ {type : EntryType}, status ≠ .inconsistentDirectory →
      status = .inconsistentDirectory → type = .header :=
    fun consistent inconsistent => absurd inconsistent consistent
  cases round with
  | skipped notHeader =>
    unfold processEntry
    dsimp only
    rw [if_pos ⟨rfl, notHeader⟩]
  | @printed _ _ type buf entry printing consistent notHeader headed decoded =>
    have processed : parser.processTyped disk type parsed buf = .ok (.ok, parsed) := by
      cases type with
      | header => exact absurd rfl notHeader
      | fileCreation | blockWrite | fileInvalidation | fileResize =>
        exact processFileEntry_printed printing (headed nofun) decoded
      | directoryInvalidation =>
        rcases Option.map_eq_some_iff.mp decoded with ⟨value, found, _⟩
        change parser.processDirectoryInvalidationEntry parsed buf = _
        unfold processDirectoryInvalidationEntry
        rw [found, printing]
        rfl
    exact processEntry_typed (excluded consistent) processed
  | @header _ _ buf entry decoded legible accepted =>
    have processed : parser.processTyped disk .header parsed buf =
        .ok (.ok, { parsed with senderIp := entry.senderIp, headerParsed := true }) := by
      change parser.processHeaderEntry parsed buf = _
      rcases accepted with printing | ⟨sameId, sameConfig⟩
      · simp [processHeaderEntry, decoded, legible.1, legible.2, printing]
      · simp [processHeaderEntry, decoded, legible.1, legible.2, sameId, sameConfig]
    exact processEntry_typed (fun _ => rfl) processed
  | @otherHeader _ _ buf entry decoded legible different fixing =>
    have processed : parser.processTyped disk .header parsed buf =
        .ok (.inconsistentDirectory, { parsed with senderIp := entry.senderIp }) := by
      change parser.processHeaderEntry parsed buf = _
      by_cases sameId : parser.recoveryId = entry.recoveryId
      · have otherConfig : parser.config ≠ entry.config := fun same => different ⟨sameId, same⟩
        simp [processHeaderEntry, decoded, legible.1, legible.2, fixing, sameId, otherConfig]
      · simp [processHeaderEntry, decoded, legible.1, legible.2, fixing, sameId]
    exact processEntry_typed (fun _ => rfl) processed
  | @directoryInvalidation _ _ buf entry consistent decoded fixing =>
    have processed : parser.processTyped disk .directoryInvalidation parsed buf =
        .ok (.inconsistentDirectory, { parsed with headerParsed := false }) := by
      change parser.processDirectoryInvalidationEntry parsed buf = _
      unfold processDirectoryInvalidationEntry
      rw [decoded, fixing]
      rfl
    exact processEntry_typed (excluded consistent) processed
  | created acting consistent headed decoded uncollected notInvalid verified =>
    refine processEntry_typed (excluded consistent)
      ((processFileEntry_decoded acting headed decoded).trans ?_)
    simp [applyFileCreation, uncollected, notInvalid, verified]
  | refused acting consistent headed decoded uncollected notInvalid failed =>
    refine processEntry_typed (excluded consistent)
      ((processFileEntry_decoded acting headed decoded).trans ?_)
    simp [applyFileCreation, uncollected, notInvalid, failed]
  | resized acting consistent headed decoded known recorded grows fits =>
    refine processEntry_typed (excluded consistent)
      ((processFileEntry_decoded acting headed decoded).trans ?_)
    simpa [applyFileResize, known, recorded, Nat.not_lt.mpr grows] using fits
  | ignored acting consistent headed decoded invalid =>
    refine processEntry_typed (excluded consistent)
      ((processFileEntry_decoded acting headed decoded).trans ?_)
    simp [applyBlockWrite, invalid]
  | written acting consistent headed decoded notInvalid known within ordered =>
    refine processEntry_typed (excluded consistent)
      ((processFileEntry_decoded acting headed decoded).trans ?_)
    simp [applyBlockWrite, notInvalid, known, Int.not_lt.mpr within, Int.not_lt.mpr ordered]
  | invalidated acting consistent headed decoded known =>
    refine processEntry_typed (excluded consistent)
      ((processFileEntry_decoded acting headed decoded).trans ?_)
    rcases known with known | invalid
    · simp [applyFileInvalidation, known]
    · simp [applyFileInvalidation, invalid]

inductive Rounds (parser : LogParser) (disk : Directory) :
    ErrorCode → ParsedLog → List (List Byte) → ErrorCode → ParsedLog → Prop
  | nil {status parsed : _} : Rounds parser disk status parsed [] status parsed
  | cons {status middle after parsed between collected body rest}
      (round : Round parser disk status parsed body middle between)
      (rounds : Rounds parser disk middle between rest after collected) :
      Rounds parser disk status parsed (body :: rest) after collected

theorem Round.status_eq (round : Round parser disk status parsed body after collected) :
    after = .ok ∨ after = .inconsistentDirectory := by
  cases round with
  | skipped | otherHeader | directoryInvalidation => exact .inr rfl
  | printed | header | created | refused | resized | ignored | written | invalidated =>
    exact .inl rfl

theorem Round.valid (round : Round parser disk status parsed body after collected) :
    after ≠ .invalidLog := by
  rcases round.status_eq with rfl | rfl
  · exact nofun
  · exact nofun

variable {bodies : List (List Byte)}

theorem rounds_of_replay
    (replayed : parser.replay disk status parsed bodies = .ok (after, collected))
    (valid : after ≠ .invalidLog) :
    Rounds parser disk status parsed bodies after collected := by
  induction bodies generalizing status parsed with
  | nil =>
    cases replayed
    exact .nil
  | cons body rest ih =>
    rw [replay] at replayed
    split at replayed
    · cases replayed
    rename_i middle between processed
    split at replayed
    · rename_i invalid
      cases replayed
      exact absurd invalid valid
    · rename_i invalid
      exact .cons (round_of_processEntry processed invalid) (ih replayed)

theorem Rounds.replay_eq (rounds : Rounds parser disk status parsed bodies after collected) :
    parser.replay disk status parsed bodies = .ok (after, collected) := by
  induction rounds with
  | nil => rfl
  | cons round _ ih =>
    rw [replay, round.processEntry_eq]
    dsimp only
    rw [if_neg round.valid]
    exact ih

theorem Rounds.status_eq (rounds : Rounds parser disk status parsed bodies after collected)
    (standing : status = .ok ∨ status = .inconsistentDirectory) :
    after = .ok ∨ after = .inconsistentDirectory := by
  induction rounds with
  | nil => exact standing
  | cons round _ ih => exact ih round.status_eq

theorem Rounds.append {first second : List (List Byte)} {middle : ErrorCode} {between : ParsedLog}
    (rounds : Rounds parser disk status parsed first middle between)
    (more : Rounds parser disk middle between second after collected) :
    Rounds parser disk status parsed (first ++ second) after collected := by
  induction rounds with
  | nil => exact more
  | cons round _ ih => exact .cons round (ih more)

theorem Rounds.split {first second : List (List Byte)}
    (rounds : Rounds parser disk status parsed (first ++ second) after collected) :
    ∃ middle between, Rounds parser disk status parsed first middle between ∧
      Rounds parser disk middle between second after collected := by
  induction first generalizing status parsed with
  | nil => exact ⟨status, parsed, .nil, rounds⟩
  | cons body rest ih =>
    cases rounds with
    | cons round rounds =>
      rcases ih rounds with ⟨middle, between, front, back⟩
      exact ⟨middle, between, .cons round front, back⟩

theorem Rounds.invariant {holds : ErrorCode → ParsedLog → Prop}
    (rounds : Rounds parser disk status parsed bodies after collected)
    (kept : ∀ {status after parsed collected body},
      Round parser disk status parsed body after collected → holds status parsed →
        holds after collected)
    (initially : holds status parsed) : holds after collected := by
  induction rounds with
  | nil => exact initially
  | cons round _ ih => exact ih (kept round initially)

/-! ### What is collected -/

structure CollectedFile (disk : Directory) (seqId : Nat) (info : FileChunksInfo) :
    Prop where
  small : seqId ≤ int64Max
  keyed : info.seqId = seqId
  onDisk : disk info.fileName = some info.fileSize
  within : ∀ chunk ∈ info.chunks, chunk.start ≤ chunk.stop ∧ chunk.stop ≤ info.fileSize

structure Collects (parser : LogParser) (disk : Directory) (parsed : ParsedLog) : Prop where
  headed : ∀ seqId, parsed.fileInfoMap.lookup seqId ≠ none ∨
    parsed.invalidSeqIds.lookup seqId ≠ none → parsed.headerParsed = true ∧ parser.Acting
  apart : ∀ seqId, parsed.invalidSeqIds.lookup seqId ≠ none → parsed.fileInfoMap.lookup seqId = none
  invalidSmall : ∀ seqId, parsed.invalidSeqIds.lookup seqId ≠ none → seqId ≤ int64Max
  files : ∀ seqId info, parsed.fileInfoMap.lookup seqId = some info →
    CollectedFile disk seqId info

theorem collects_empty (parsed : ParsedLog) : Collects parser disk parsed.clearParsedData where
  headed := fun _ present => present.elim (absurd rfl) (absurd rfl)
  apart := fun _ invalid => absurd rfl invalid
  invalidSmall := fun _ invalid => absurd rfl invalid
  files := nofun

theorem fileCreation_seqId {buf : List Byte}
    (decoded : decodeFileCreationEntry buf = some entry) : entry.seqId ≤ int64Max := by
  have yields : (decodeInt64C.bind fun timestamp => decodeString.bind fun fileName =>
      decodeInt64C.bind fun seqId => decodeInt64C.map fun fileSize =>
        ({ timestamp, fileName, seqId, fileSize } : FileCreation)).Yields
      (fun entry => entry.seqId ≤ int64Max) := by
    refine decodeInt64C_yields.bind (fun timestamp _ => ?_)
    have anyString : decodeString.Yields (fun _ => True) := fun _ _ _ _ => trivial
    refine anyString.bind (fun fileName _ => ?_)
    refine decodeInt64C_yields.bind (fun seqId small => ?_)
    exact decodeInt64C_yields.map (fun _ _ => small)
  exact yields.whole decoded

theorem verifiedSize_eq_some {size : Nat}
    (verified : parser.verifiedSize disk entry = some size) :
    disk entry.fileName = some size := by
  unfold verifiedSize at verified
  cases found : disk entry.fileName with
  | none =>
    rw [found] at verified
    cases verified
  | some onDisk =>
    rw [found] at verified
    dsimp only at verified
    split at verified
    · cases verified
    · exact verified

section Kept

variable (collects : Collects parser disk parsed)

include collects

theorem Collects.created {entry : FileCreation} {size : Nat} (acting : parser.Acting)
    (headed : parsed.headerParsed = true) (small : entry.seqId ≤ int64Max)
    (notInvalid : parsed.invalidSeqIds.lookup entry.seqId = none)
    (uncollected : parsed.fileInfoMap.lookup entry.seqId = none)
    (onDisk : disk entry.fileName = some size) (sizes : SortedMap Nat Nat) :
    Collects parser disk { parsed with
      fileInfoMap := parsed.fileInfoMap.emplace entry.seqId
        { seqId := entry.seqId, fileName := entry.fileName, fileSize := size }
      seqIdToSizeMap := sizes } := by
  refine ⟨fun _ _ => ⟨headed, acting⟩, fun seqId invalid => ?_, collects.invalidSmall,
    fun seqId info lookup => ?_⟩
  · rw [lookup_emplace, if_neg]
    · exact collects.apart seqId invalid
    · rintro rfl
      exact invalid notInvalid
  · rw [lookup_emplace, uncollected] at lookup
    split at lookup
    · rename_i same
      cases lookup
      exact ⟨same ▸ small, same.symm, onDisk, nofun⟩
    · exact collects.files seqId info lookup

theorem Collects.refused {seqId : Nat} (acting : parser.Acting)
    (headed : parsed.headerParsed = true) (small : seqId ≤ int64Max)
    (uncollected : parsed.fileInfoMap.lookup seqId = none) :
    Collects parser disk { parsed with
      invalidSeqIds := parsed.invalidSeqIds.emplace seqId () } := by
  refine ⟨fun _ _ => ⟨headed, acting⟩, fun other invalid => ?_, fun other invalid => ?_,
    collects.files⟩ <;> rw [lookup_emplace] at invalid <;> split at invalid
  · exact ‹other = seqId› ▸ uncollected
  · exact collects.apart other invalid
  · exact ‹other = seqId› ▸ small
  · exact collects.invalidSmall other invalid

theorem Collects.written {seqId : Nat} {info : FileChunksInfo} {chunk : Interval}
    (lookup : parsed.fileInfoMap.lookup seqId = some info) (ordered : chunk.start ≤ chunk.stop)
    (within : chunk.stop ≤ info.fileSize) :
    Collects parser disk { parsed with
      fileInfoMap := parsed.fileInfoMap.set seqId
        { info with chunks := info.chunks ++ [chunk] } } := by
  have file := collects.files seqId info lookup
  have present : parsed.fileInfoMap.lookup seqId ≠ none := by
    rw [lookup]
    exact nofun
  have state := collects.headed seqId (.inl present)
  refine ⟨fun _ _ => state, fun other invalid => ?_, collects.invalidSmall,
    fun other result lookup' => ?_⟩
  · rw [lookup_set, if_neg]
    · exact collects.apart other invalid
    · rintro rfl
      exact present (collects.apart other invalid)
  · rw [lookup_set] at lookup'
    split at lookup'
    · rename_i same
      cases lookup'
      refine same ▸ ⟨file.small, file.keyed, file.onDisk, fun part member => ?_⟩
      rcases List.mem_append.mp member with earlier | last
      · exact file.within part earlier
      · rw [List.mem_singleton.mp last]
        exact ⟨ordered, within⟩
    · exact collects.files other result lookup'

theorem Collects.invalidated (seqId : Nat) :
    Collects parser disk { parsed with
      fileInfoMap := parsed.fileInfoMap.erase seqId
      invalidSeqIds := parsed.invalidSeqIds.erase seqId } := by
  have refused (other : Nat) (lookup : (parsed.invalidSeqIds.erase seqId).lookup other ≠ none) :
      parsed.invalidSeqIds.lookup other ≠ none := by
    rw [lookup_erase] at lookup
    split at lookup
    · exact absurd rfl lookup
    · exact lookup
  have absent (other : Nat) (uncollected : parsed.fileInfoMap.lookup other = none) :
      (parsed.fileInfoMap.erase seqId).lookup other = none := by
    rw [lookup_erase, uncollected, ite_self]
  refine
    { headed := fun other present => collects.headed other
        (present.imp (fun collected none => collected (absent other none)) (refused other))
      apart := fun other invalid => absent other (collects.apart other (refused other invalid))
      invalidSmall := fun other invalid => collects.invalidSmall other (refused other invalid)
      files := fun other info lookup => ?_ }
  rw [lookup_erase] at lookup
  exact collects.files other info (Option.ite_none_left_eq_some.mp lookup).2

theorem Round.keeps_collects (round : Round parser disk status parsed body after collected) :
    Collects parser disk collected := by
  cases round with
  | skipped | printed | ignored => exact collects
  | header decoded legible accepted =>
    exact { collects with headed := fun seqId present => ⟨rfl, (collects.headed seqId present).2⟩ }
  | otherHeader | directoryInvalidation => exact collects_empty _
  | created acting _ headed decoded uncollected notInvalid verified =>
    exact collects.created acting headed (fileCreation_seqId decoded)
      (contains_eq_false_iff.mp notInvalid)
      (contains_eq_false_iff.mp uncollected) (verifiedSize_eq_some verified) _
  | refused acting _ headed decoded uncollected notInvalid failed =>
    exact collects.refused acting headed (fileCreation_seqId decoded)
      (contains_eq_false_iff.mp uncollected)
  | resized acting _ headed decoded known recorded grows fits =>
    exact { collects with }
  | written acting _ headed decoded notInvalid known within ordered =>
    exact collects.written known (by dsimp only; omega) (by dsimp only; omega)
  | invalidated acting _ headed decoded known => exact collects.invalidated _

end Kept

theorem Rounds.keeps_collects
    (rounds : Rounds parser disk status parsed bodies after collected)
    (collects : Collects parser disk parsed) : Collects parser disk collected :=
  rounds.invariant (fun round kept => Round.keeps_collects kept round) collects

end LogParser

end Wdt
