/-
Compaction of the log: it is replaced by a header and, for each received file, one
creation entry and one block. The new log means what the old one meant.
-/

import Wdt.MissingFiles
import Wdt.LogDurability

open Transition

namespace Wdt

open SortedMap

open LogEntry

open List Option

/-- What holds of the files of any file system. The names are shorter than `PATH_MAX`, and the
sizes fit their type. -/
structure Directory.OnDisk (disk : Directory) : Prop where
  names : ∀ name size, disk name = some size → name.length < 4096
  sizes : ∀ name size, disk name = some size → size ≤ int64Max

/-- Files as compaction finds them: each is there, with all of its bytes received. -/
structure WholeFiles (disk : Directory) (files : List FileChunksInfo) : Prop where
  sorted : files.Pairwise (fun first second => first.seqId < second.seqId)
  small : ∀ info ∈ files, info.seqId ≤ int64Max
  onDisk : ∀ info ∈ files, disk info.fileName = some info.fileSize
  whole : ∀ info ∈ files, info.chunks = [{ start := 0, stop := info.fileSize }]

variable {info : FileChunksInfo}

theorem WholeFiles.tail {disk : Directory}
    {rest : List FileChunksInfo} (files : WholeFiles disk (info :: rest)) :
    WholeFiles disk rest where
  sorted := (List.pairwise_cons.mp files.sorted).2
  small := (List.forall_mem_cons.mp files.small).2
  onDisk := (List.forall_mem_cons.mp files.onDisk).2
  whole := (List.forall_mem_cons.mp files.whole).2

theorem WholeFiles.mergeChunks {disk : Directory} {files : List FileChunksInfo}
    (whole : WholeFiles disk files) : files.map FileChunksInfo.mergeChunks = files := by
  have same : ∀ info ∈ files, info.mergeChunks = id info := by
    intro info member
    obtain ⟨seqId, fileName, fileSize, chunks⟩ := info
    have single : chunks = [{ start := 0, stop := fileSize }] := whole.whole _ member
    rw [single]
    rfl
  rw [List.map_congr_left same, List.map_id]

namespace LogManager

theorem whole_of_compactable
    (within : ∀ chunk ∈ info.chunks, chunk.start ≤ chunk.stop ∧ chunk.stop ≤ info.fileSize)
    (single : info.chunks.length = 1) (total : info.getTotalChunkSize = info.fileSize) :
    info.chunks = [{ start := 0, stop := info.fileSize }] := by
  rcases length_eq_one_iff.mp single with ⟨chunk, chunks⟩
  have bounds := within chunk (by rw [chunks]; exact mem_cons_self)
  unfold FileChunksInfo.getTotalChunkSize at total
  rw [chunks] at total ⊢
  have size : (chunk.stop : Int) - chunk.start = info.fileSize := by
    simpa [Interval.size] using total
  obtain ⟨start, stop⟩ := chunk
  dsimp only at bounds size
  have first : start = 0 := by omega
  have last : stop = info.fileSize := by omega
  rw [first, last]

variable {files : List FileChunksInfo}

theorem compactable_of_whole {disk : Directory} (whole : WholeFiles disk files) :
    compactable files = true := by
  apply all_eq_true.mpr
  intro info member
  unfold FileChunksInfo.getTotalChunkSize
  rw [whole.whole info member]
  simp [Interval.size]

/-! ### The entries of a compacted log -/

def compactedHeader (manager : LogManager) (senderIp : List Byte) (timestamp : Nat) : LogHeader :=
  { timestamp, recoveryId := manager.recoveryId, senderIp, config := manager.config }

def compactedCreation (timestamp : Nat) (info : FileChunksInfo) : FileCreation :=
  { timestamp, fileName := info.fileName, seqId := info.seqId, fileSize := info.fileSize }

def compactedBlock (timestamp : Nat) (info : FileChunksInfo) : BlockWrite :=
  { timestamp, seqId := info.seqId, offset := 0, blockSize := info.fileSize }

def compactedEntries (timestamp : Nat) (files : List FileChunksInfo) : List LogEntry :=
  files.flatMap fun info =>
    [.fileCreation (compactedCreation timestamp info), .blockWrite (compactedBlock timestamp info)]

theorem mem_compactedEntries {timestamp : Nat} {entry : LogEntry}
    (member : entry ∈ compactedEntries timestamp files) :
    ∃ info ∈ files, entry = .fileCreation (compactedCreation timestamp info) ∨
      entry = .blockWrite (compactedBlock timestamp info) := by
  rcases mem_flatMap.mp member with ⟨info, listed, among⟩
  rcases mem_cons.mp among with first | second
  · exact ⟨info, listed, .inl first⟩
  · exact ⟨info, listed, .inr (mem_singleton.mp second)⟩

theorem compactedEntries_fit {disk : Directory} (onDisk : disk.OnDisk)
    (whole : WholeFiles disk files) {timestamp : Nat} {entry : LogEntry}
    (member : entry ∈ compactedEntries timestamp files) : entry.bytes.length ≤ kMaxEntryLength := by
  rcases mem_compactedEntries member with ⟨info, listed, kind⟩
  have limit : kMaxEntryLength = 4129 := rfl
  have time := varU64_length_le timestamp
  have number := varU64_length_le info.seqId
  have size := varU64_length_le info.fileSize
  rw [bytes_length]
  rcases kind with rfl | rfl
  · have name := onDisk.names _ _ (whole.onDisk info listed)
    have nameLength : (varU64 info.fileName.length).length ≤ 2 :=
      varU64_length_le_of_lt (by norm_num; omega)
    simp only [fields, compactedCreation, stringBytes, length_append]
    omega
  · have offset := varU64_length_le 0
    simp only [fields, compactedBlock, length_append]
    omega

end LogManager

namespace LogParser

open LogManager

variable {parser : LogParser} {disk : Directory} {parsed : ParsedLog}

theorem rounds_compacted_file {timestamp : Nat}
    (acting : parser.Acting) (inRange : timestamp ≤ int64Max) (small : info.seqId ≤ int64Max)
    (fits : info.fileSize ≤ int64Max) (name : info.fileName.length < 4096)
    (onDisk : disk info.fileName = some info.fileSize)
    (whole : info.chunks = [{ start := 0, stop := info.fileSize }])
    (headed : parsed.headerParsed = true) (fresh : parsed.fileInfoMap.lookup info.seqId = none)
    (valid : parsed.invalidSeqIds.contains info.seqId = false) :
    ∃ collected, Rounds parser disk .ok parsed
        [(fileCreation (compactedCreation timestamp info)).body,
          (blockWrite (compactedBlock timestamp info)).body] .ok collected ∧
      collected.headerParsed = true ∧ collected.senderIp = parsed.senderIp ∧
      collected.invalidSeqIds = parsed.invalidSeqIds ∧
      ∀ seqId, collected.fileInfoMap.lookup seqId =
        if seqId = info.seqId then some info else parsed.fileInfoMap.lookup seqId := by
  have creation : decodeFileCreationEntry
      (fileCreation (compactedCreation timestamp info)).fields =
        some (compactedCreation timestamp info) :=
    decode_of_inRange ⟨inRange, Nat.lt_trans name (by decide), small, fits⟩
      (fun _ => rfl) (fun other same => fileCreation.inj same)
  have block : decodeBlockWriteEntry (blockWrite (compactedBlock timestamp info)).fields =
        some (compactedBlock timestamp info) :=
    decode_of_inRange ⟨inRange, small, Nat.zero_le _, fits⟩
      (fun _ => rfl) (fun other same => blockWrite.inj same)
  have verified : parser.verifiedSize disk (compactedCreation timestamp info) =
      some info.fileSize := by
    simp [verifiedSize, compactedCreation, onDisk]
  have consistent : ErrorCode.ok ≠ .inconsistentDirectory := nofun
  have first := @Round.created parser disk .ok parsed _ _ _ acting consistent headed creation
    (contains_eq_false_iff.mpr fresh) valid verified
  have lookup : (parsed.fileInfoMap.emplace info.seqId
      { seqId := info.seqId, fileName := info.fileName, fileSize := info.fileSize }).lookup
        info.seqId =
      some { seqId := info.seqId, fileName := info.fileName, fileSize := info.fileSize } := by
    simp [lookup_emplace, fresh]
  have size : wrapInt64 (0 + info.fileSize) = info.fileSize := by
    unfold wrapInt64
    rw [Nat.zero_add, if_pos fits]
  have within : wrapInt64 ((compactedBlock timestamp info).offset +
      (compactedBlock timestamp info).blockSize) ≤ info.fileSize := le_of_eq size
  have ordered : ((compactedBlock timestamp info).offset : Int) ≤
      wrapInt64 ((compactedBlock timestamp info).offset +
        (compactedBlock timestamp info).blockSize) := by
    change ((0 : Nat) : Int) ≤ wrapInt64 (0 + info.fileSize)
    rw [size]
    exact Int.natCast_nonneg _
  have second := @Round.written parser disk .ok
    { parsed with
      fileInfoMap := parsed.fileInfoMap.emplace info.seqId
        { seqId := info.seqId, fileName := info.fileName, fileSize := info.fileSize }
      seqIdToSizeMap := parsed.seqIdToSizeMap.emplace info.seqId info.fileSize }
    _ (compactedBlock timestamp info) _ acting consistent headed block valid lookup within ordered
  refine ⟨_, .cons first (.cons second .nil), headed, rfl, rfl, ?_⟩
  intro seqId
  have complete : FileChunksInfo.mk info.seqId info.fileName info.fileSize
      ([] ++ [{ start := 0, stop := (wrapInt64 (0 + info.fileSize)).toNat }]) = info := by
    rw [size, Int.toNat_natCast, nil_append, ← whole]
  rw [lookup_set, lookup_emplace]
  by_cases same : seqId = info.seqId
  · exact (if_pos same).trans ((congrArg some complete).trans (if_pos same).symm)
  · exact (if_neg same).trans ((if_neg same).trans (if_neg same).symm)

theorem rounds_compacted {timestamp : Nat} (acting : parser.Acting)
    (inRange : timestamp ≤ int64Max) (onDisk : disk.OnDisk) {files : List FileChunksInfo}
    (whole : WholeFiles disk files) (headed : parsed.headerParsed = true)
    (fresh : ∀ info ∈ files, parsed.fileInfoMap.lookup info.seqId = none)
    (valid : ∀ seqId, parsed.invalidSeqIds.contains seqId = false) :
    ∃ collected, Rounds parser disk .ok parsed
        ((compactedEntries timestamp files).map LogEntry.body) .ok collected ∧
      collected.senderIp = parsed.senderIp ∧
      ∀ seqId info, collected.fileInfoMap.lookup seqId = some info ↔
        (info ∈ files ∧ info.seqId = seqId) ∨ parsed.fileInfoMap.lookup seqId = some info := by
  induction files generalizing parsed with
  | nil =>
    exact ⟨parsed, .nil, rfl, fun seqId info => by simp⟩
  | cons file rest ih =>
    have present := whole.onDisk file mem_cons_self
    have unseen := fresh file mem_cons_self
    rcases rounds_compacted_file acting inRange (whole.small file mem_cons_self)
        (onDisk.sizes _ _ present) (onDisk.names _ _ present) present
        (whole.whole file mem_cons_self) headed unseen (valid file.seqId) with
      ⟨between, first, headed', sameIp, sameInvalid, lookups⟩
    have above := (pairwise_cons.mp whole.sorted).1
    have later := ih whole.tail headed' (by
      intro info member
      rw [lookups, if_neg (Nat.ne_of_gt (above info member))]
      exact fresh info (mem_cons_of_mem _ member)) (by
      intro seqId
      rw [sameInvalid]
      exact valid seqId)
    rcases later with ⟨collected, others, keptIp, found⟩
    refine ⟨collected, first.append others, keptIp.trans sameIp, fun seqId info => ?_⟩
    grind

theorem Rounds.senderIp_eq {status after : ErrorCode} {collected : ParsedLog}
    {bodies : List (List Byte)}
    (rounds : Rounds parser disk status parsed bodies after collected) :
    collected.senderIp = parsed.senderIp ∨
      ∃ body ∈ bodies, ∃ entry, entryOf body = some (.header entry) ∧ entry.senderIp ≠ [] ∧
        collected.senderIp = entry.senderIp := by
  induction rounds with
  | nil => exact .inl rfl
  | @cons _ _ _ _ between collected body rest round _ ih =>
    rcases ih with same | ⟨later, member, found⟩
    · rw [same]
      cases round with
      | @header _ _ buf entry decoded legible _ | @otherHeader _ _ buf entry decoded legible _ _ =>
        exact .inr ⟨_, mem_cons_self, entry, entryOf_decoded .header rfl decoded, legible.2, rfl⟩
      | skipped | printed | directoryInvalidation | created | refused | resized | ignored
      | written | invalidated => exact .inl rfl
    · exact .inr ⟨later, mem_cons_of_mem _ member, found⟩

end LogParser

variable {prepared : LogManager}

namespace LogManager

variable {manager : LogManager} {disk : Directory} {files : List FileChunksInfo}

def compactedLog (manager : LogManager) (senderIp : List Byte) (timestamp : Nat)
    (files : List FileChunksInfo) : List Byte :=
  ((.header (manager.compactedHeader senderIp timestamp) ::
    compactedEntries timestamp files).map LogEntry.bytes).flatten

theorem bytes_eq_frame (entries : List LogEntry) :
    (entries.map LogEntry.bytes).flatten = ((entries.map LogEntry.body).map frame).flatten := by
  rw [List.map_map]
  rfl

variable {timestamp : Nat}

theorem parse_compactedLog {senderIp : List Byte} (acting : (manager.parser false).Acting)
    (inRange : timestamp ≤ int64Max) (config : manager.config ≤ int64Max) (onDisk : disk.OnDisk)
    (whole : WholeFiles disk files) (named : senderIp ≠ [])
    (fits : (LogEntry.header (manager.compactedHeader senderIp timestamp)).bytes.length ≤
      kMaxEntryLength) {reopened : LogManager} (isOpen : reopened.isOpen = true)
    (sameTransfer : reopened.parser false = manager.parser false)
    (sameLog : reopened.file = { contents := manager.compactedLog senderIp timestamp files })
    (clock : Nat → Nat) :
    ∃ again, reopened.parseVerifyAndFix disk clock false = .ok (.ok, again, files) ∧
      again.senderIp = senderIp := by
  have limit : kMaxEntryLength = 4129 := rfl
  have decoded :
      decodeLogHeader (LogEntry.header (manager.compactedHeader senderIp timestamp)).fields =
        some (manager.compactedHeader senderIp timestamp) := by
    have length := fits
    rw [bytes_length] at length
    simp only [fields, compactedHeader, stringBytes, length_append] at length
    have version : wlogVersion ≤ int32Max := by decide
    have recoveryId : manager.recoveryId.length < 2 ^ 64 := by omega
    have ip : senderIp.length < 2 ^ 64 := by omega
    exact decode_of_inRange ⟨inRange, version, recoveryId, ip, config⟩
      (fun _ => rfl) (fun other same => LogEntry.header.inj same)
  have header : LogParser.Round (manager.parser false) disk .ok
      { senderIp := reopened.senderIp }
      (LogEntry.header (manager.compactedHeader senderIp timestamp)).body .ok
      { senderIp, headerParsed := true } :=
    @LogParser.Round.header (manager.parser false) disk .ok _ _ _ decoded ⟨rfl, named⟩
      (.inr ⟨rfl, rfl⟩)
  rcases @LogParser.rounds_compacted (manager.parser false) disk
      { senderIp, headerParsed := true } timestamp acting inRange onDisk files whole rfl
      (fun _ _ => rfl) (fun _ => rfl) with ⟨collected, rounds, ip, lookups⟩
  have values : collected.fileInfoMap.values = files := by
    apply values_eq_of_lookup whole.sorted
    intro seqId info
    rw [lookups, or_iff_left (by intro found; cases found)]
  have replayed := (LogParser.Rounds.cons header rounds).replay_eq
  have framed : ∀ body ∈ (LogEntry.header (manager.compactedHeader senderIp timestamp)).body ::
      (compactedEntries timestamp files).map LogEntry.body, WellFramed body := by
    intro body member
    rcases mem_cons.mp member with rfl | listed
    · exact wellFramed_body fits
    · rcases mem_map.mp listed with ⟨entry, among, rfl⟩
      exact wellFramed_body (compactedEntries_fit onDisk whole among)
  rw [← sameTransfer] at replayed
  rcases LogParser.parseLog_replayed clock framed (.inl rfl) replayed with
    ⟨result, parsed, ok, chunks, sender, _⟩
  have contents : reopened.file = { contents :=
      (((LogEntry.header (manager.compactedHeader senderIp timestamp)).body ::
        (compactedEntries timestamp files).map LogEntry.body).map frame).flatten ++ [] } := by
    rw [sameLog, compactedLog, bytes_eq_frame, append_nil]
    rfl
  rw [← contents] at parsed
  have reparsed := parseVerifyAndFix_of_parseLog isOpen parsed ok
  rw [chunks, values, whole.mergeChunks] at reparsed
  exact ⟨_, reparsed, sender.trans ip⟩

theorem addEntry_of_fits {entry : LogEntry} (accepted : manager.accepts entry = true)
    (fits : entry.bytes.length ≤ kMaxEntryLength) :
    manager.addEntry entry =
      some { manager with entries := manager.entries ++ [entry.bytes] } := by
  unfold addEntry
  rw [if_pos accepted, encode_eq, if_pos fits]
  rfl

theorem addCompacted_of_fits {timestamp : Nat} (isOpen : manager.isOpen = true)
    (headed : manager.headerWritten = true)
    (fits : ∀ entry ∈ compactedEntries timestamp files, entry.bytes.length ≤ kMaxEntryLength) :
    addCompacted timestamp manager files = some { manager with
      entries := manager.entries ++ (compactedEntries timestamp files).map LogEntry.bytes } := by
  induction files generalizing manager with
  | nil =>
    change some manager = some { manager with entries := manager.entries ++ [] }
    rw [append_nil]
  | cons info rest ih =>
    have open' : (manager.isOpen && manager.headerWritten) = true := by
      rw [isOpen, headed]
      rfl
    have first := @addEntry_of_fits manager
      (.fileCreation (compactedCreation timestamp info)) open' (fits _ mem_cons_self)
    have second := @addEntry_of_fits { manager with entries := manager.entries ++
        [(fileCreation (compactedCreation timestamp info)).bytes] }
      (.blockWrite (compactedBlock timestamp info)) open'
      (fits _ (mem_cons_of_mem _ mem_cons_self))
    have later := @ih { manager with entries := (manager.entries ++
        [(fileCreation (compactedCreation timestamp info)).bytes]) ++
        [(blockWrite (compactedBlock timestamp info)).bytes] } isOpen headed
      (fun entry member => fits entry (mem_cons_of_mem _ (mem_cons_of_mem _ member)))
    change ((manager.addEntry (.fileCreation (compactedCreation timestamp info))).bind
      fun manager => (manager.addEntry (.blockWrite (compactedBlock timestamp info))).bind
        fun manager => addCompacted timestamp manager rest) = _
    rw [first, bind_some, second, bind_some, later, append_assoc,
      append_assoc]
    rfl

def drained (manager : LogManager) : LogManager :=
  { manager with
    entries := []
    file := writeEntriesToDiskNoLock manager.file manager.entries }

variable {fixed : LogManager} {clock : Nat → Nat}

theorem prepareCompaction_of_parse
    (parsed : parseVerifyAndFix { manager with file := { manager.file with position := 0 } }
      disk clock false = .ok (.ok, fixed, files)) (idle : manager.entries = [])
    (onDisk : disk.OnDisk) (whole : WholeFiles disk files)
    (fits : (LogEntry.header (manager.compactedHeader fixed.senderIp (clock 0))).bytes.length ≤
      kMaxEntryLength) :
    ∃ prepared, manager.prepareCompaction disk clock = .ok (some (prepared, true)) ∧
      prepared.drained.file.contents =
        manager.compactedLog fixed.senderIp (clock 0) files := by
  rcases parseVerifyAndFix_ok parsed with ⟨isOpen, result, _, _, _, same⟩
  have header : fixed.headerBytes (clock 0) =
      (LogEntry.header (manager.compactedHeader fixed.senderIp (clock 0))).bytes := by
    have encoded := encode_eq kMaxEntryLength
      (.header (manager.compactedHeader fixed.senderIp (clock 0)))
    rw [if_pos fits] at encoded
    rw [same] at encoded ⊢
    exact congrArg (fun bytes => bytes.getD []) encoded
  have fixedOpen : fixed.isOpen = true := same ▸ isOpen
  have noEntries : fixed.entries = [] := same ▸ idle
  obtain ⟨headed, written, file, headedOpen, headedHeader, headedEntries⟩ : ∃ headed,
      writeLogHeader { fixed with file := { contents := [], position := 0 } } (clock 0) = headed ∧
      headed.file = { contents := fixed.headerBytes (clock 0)
                      position := (fixed.headerBytes (clock 0)).length } ∧
      headed.isOpen = true ∧ headed.headerWritten = true ∧ headed.entries = [] := by
    unfold writeLogHeader
    rw [fixedOpen, write_file_atEnd rfl]
    exact ⟨_, rfl, rfl, rfl, rfl, noEntries⟩
  have added := @addCompacted_of_fits headed files (clock 0) headedOpen headedHeader
    (fun entry member => compactedEntries_fit onDisk whole member)
  refine ⟨{ headed with
      entries := headed.entries ++ (compactedEntries (clock 0) files).map LogEntry.bytes }, ?_, ?_⟩
  · unfold prepareCompaction
    rw [parsed]
    change Except.ok (if ErrorCode.ok ≠ .ok then some (fixed, false)
      else if !compactable files then some (fixed, false)
      else (addCompacted (clock 0) (writeLogHeader
        { fixed with file := { contents := [], position := 0 } } (clock 0)) files).map
          (fun manager => (manager, true))) = _
    rw [if_neg (not_not.mpr rfl), compactable_of_whole whole, Bool.not_true,
      if_neg Bool.false_ne_true, written, added]
    rfl
  · unfold drained
    rw [file, writeEntriesToDiskNoLock_atEnd rfl, headedEntries, header]
    rfl

/-! ### What the parse before it finds -/

theorem wholeFiles_of_parse (fromStart : manager.file.position = 0)
    (parsed : manager.parseVerifyAndFix disk clock false = .ok (.ok, fixed, files))
    (passes : compactable files = true) : WholeFiles disk files := by
  rcases rounds_of_parse fromStart parsed with ⟨collected, rounds, found, _⟩
  have collects := rounds.keeps_collects (LogParser.collects_empty { senderIp := manager.senderIp })
  have origin : ∀ info ∈ files, ∃ original seqId,
      collected.fileInfoMap.lookup seqId = some original ∧ info = original.mergeChunks := by
    intro info member
    rw [found] at member
    rcases mem_map.mp member with ⟨original, listed, rfl⟩
    rcases mem_values_iff.mp listed with ⟨seqId, lookup⟩
    exact ⟨original, seqId, lookup, rfl⟩
  constructor
  · rw [found, pairwise_map]
    exact values_sorted fun seqId info lookup => (collects.files seqId info lookup).keyed
  · intro info member
    rcases origin info member with ⟨original, seqId, lookup, rfl⟩
    change original.seqId ≤ int64Max
    rw [(collects.files seqId original lookup).keyed]
    exact (collects.files seqId original lookup).small
  · intro info member
    rcases origin info member with ⟨original, seqId, lookup, rfl⟩
    exact (collects.files seqId original lookup).onDisk
  · intro info member
    have passed := all_eq_true.mp passes info member
    rw [Bool.and_eq_true, beq_iff_eq, beq_iff_eq] at passed
    rcases origin info member with ⟨original, seqId, lookup, rfl⟩
    exact whole_of_compactable (mergedChunks_within (collects.files seqId original lookup).within)
      passed.1 passed.2

theorem prepareCompaction_passed
    (passes : manager.prepareCompaction disk clock = .ok (some (prepared, true))) :
    ∃ fixed files, parseVerifyAndFix
        { manager with file := { manager.file with position := 0 } } disk clock false =
          .ok (.ok, fixed, files) ∧ compactable files = true := by
  rcases Except.map_eq_ok_iff.mp passes with ⟨⟨code, fixed, files⟩, parsed, checked⟩
  simp only at checked
  split at checked
  · cases checked
  rename_i ok
  cases not_not.mp ok
  cases complete : compactable files <;> rw [complete] at checked
  · cases checked
  · exact ⟨fixed, files, parsed, complete⟩

/-- The new header fits its buffer, whether it has the sender ip of the manager or that of a
header in the log. -/
def HeaderFits (manager : LogManager) (timestamp : Nat) : Prop :=
  ∀ senderIp, (senderIp = manager.senderIp ∨ ∃ body ∈ logBodies manager.file.contents,
      ∃ entry, entryOf body = some (.header entry) ∧ entry.senderIp = senderIp) →
    (LogEntry.header (manager.compactedHeader senderIp timestamp)).bytes.length ≤ kMaxEntryLength

theorem senderIp_of_parse (fromStart : manager.file.position = 0)
    (parsed : manager.parseVerifyAndFix disk clock false = .ok (.ok, fixed, files)) :
    fixed.senderIp = manager.senderIp ∨ ∃ body ∈ logBodies manager.file.contents,
      ∃ entry, entryOf body = some (.header entry) ∧ entry.senderIp ≠ [] ∧
        fixed.senderIp = entry.senderIp := by
  rcases rounds_of_parse fromStart parsed with ⟨collected, rounds, _, sender⟩
  rw [sender]
  exact rounds.senderIp_eq

theorem HeaderFits.of_parse (fits : manager.HeaderFits timestamp)
    (fromStart : manager.file.position = 0)
    (parsed : manager.parseVerifyAndFix disk clock false = .ok (.ok, fixed, files)) :
    (LogEntry.header (manager.compactedHeader fixed.senderIp timestamp)).bytes.length ≤
      kMaxEntryLength := by
  apply fits
  rcases senderIp_of_parse fromStart parsed with same | ⟨body, member, entry, read, _, same⟩
  · exact .inl same
  · exact .inr ⟨body, member, entry, read, same.symm⟩

theorem prepareCompaction_contents
    (passes : manager.prepareCompaction disk clock = .ok (some (prepared, true)))
    (idle : manager.entries = []) (named : manager.senderIp ≠ [])
    (fits : manager.HeaderFits (clock 0)) (onDisk : disk.OnDisk) :
    ∃ fixed files senderIp, parseVerifyAndFix
        { manager with file := { manager.file with position := 0 } } disk clock false =
          .ok (.ok, fixed, files) ∧
      WholeFiles disk files ∧ senderIp ≠ [] ∧
      (LogEntry.header (manager.compactedHeader senderIp (clock 0))).bytes.length ≤
        kMaxEntryLength ∧
      prepared.drained.file.contents = manager.compactedLog senderIp (clock 0) files := by
  rcases prepareCompaction_passed passes with ⟨fixed, files, parsed, complete⟩
  have whole := wholeFiles_of_parse rfl parsed complete
  have ip : fixed.senderIp ≠ [] := by
    rcases senderIp_of_parse rfl parsed with same | ⟨_, _, _, _, nonempty, same⟩
    · exact same ▸ named
    · exact same ▸ nonempty
  have rewound : HeaderFits { manager with file := { manager.file with position := 0 } }
    (clock 0) := fits
  have headerFits := rewound.of_parse rfl parsed
  rcases prepareCompaction_of_parse parsed idle onDisk whole headerFits with
    ⟨again, prepares, contents⟩
  rw [passes] at prepares
  cases prepares
  exact ⟨fixed, files, fixed.senderIp, parsed, whole, ip, headerFits, contents⟩

theorem prepareCompaction_again {reopened again : LogManager} {later : Nat → Nat}
    (parsed : reopened.parseVerifyAndFix disk later false = .ok (.ok, again, files))
    (fromStart : reopened.file.position = 0) (onDisk : disk.OnDisk)
    (whole : WholeFiles disk files) (idle : reopened.entries = [])
    (fits : reopened.HeaderFits (later 0)) :
    ∃ next, reopened.prepareCompaction disk later = .ok (some (next, true)) ∧
      (LogEntry.header (reopened.compactedHeader again.senderIp (later 0))).bytes.length ≤
        kMaxEntryLength ∧
      next.drained.file.contents = reopened.compactedLog again.senderIp (later 0) files := by
  have rewound : { reopened with file := { reopened.file with position := 0 } } = reopened := by
    rw [← fromStart]
  have headerFits := fits.of_parse fromStart parsed
  rw [← rewound] at parsed
  rcases prepareCompaction_of_parse parsed idle onDisk whole headerFits with
    ⟨next, prepares, contents⟩
  exact ⟨next, prepares, headerFits, contents⟩

end LogManager

namespace LogSystem

open LogManager

theorem Accounted.compact_idle {contents : List Byte} {system after : LogSystem}
    {disk : Directory} {clock : Nat → Nat} (holds : Accounted contents system)
    (moves : system.Step (.compact disk clock) after) :
    system.manager.entries = [] ∧ system.manager.resumeUsingDirTree = false := by
  obtain ⟨⟨phase, unstarted | ended⟩, -⟩ := ite_none_right_eq_some.mp moves
  · exact absurd unstarted (holds.compacting phase)
  · have finishing : system.writer.finishing = true := by rw [ended]; rfl
    have live : system.Live := by simp [Live, phase]
    exact ⟨(holds.finishing finishing).2, (holds.writerOpen (holds.compacting phase) live).1⟩

theorem compact_drained {system after : LogSystem} {disk : Directory} {clock : Nat → Nat}
    (moves : system.Step (.compact disk clock) after)
    (passes : system.manager.prepareCompaction disk clock = .ok (some (prepared, true))) :
    after.manager = prepared.drained := by
  obtain ⟨-, moves⟩ := ite_none_right_eq_some.mp moves
  rw [passes] at moves
  cases moves
  rfl

/-- In every run whose writer is started on a consistent directory: a compaction that passes its
checks leaves a log that parses to the files that the log parsed to before, and so does another
compaction of it. -/
theorem compaction_preserves_files {start system compacted : LogSystem} (parsed : start.JustParsed)
    (path : Path Step (fun system action => system.startsConsistent action = true) start system)
    {disk : Directory} {clock : Nat → Nat} {prepared : LogManager}
    (moves : system.Step (.compact disk clock) compacted)
    (passes : system.manager.prepareCompaction disk clock = .ok (some (prepared, true)))
    (named : system.manager.senderIp ≠ []) (fits : system.manager.HeaderFits (clock 0))
    (inRange : clock 0 ≤ int64Max) (config : system.manager.config ≤ int64Max)
    (onDisk : disk.OnDisk) :
    ∃ fixed files, parseVerifyAndFix
        { system.manager with file := { system.manager.file with position := 0 } } disk clock
          false = .ok (.ok, fixed, files) ∧
      ∀ reopened : LogManager, reopened.isOpen = true →
        reopened.parser false = system.manager.parser false →
        reopened.file = { contents := compacted.manager.file.contents } → ∀ later,
        (∃ again, reopened.parseVerifyAndFix disk later false = .ok (.ok, again, files)) ∧
        (reopened.entries = [] → later 0 ≤ int64Max → reopened.HeaderFits (later 0) →
          ∃ next, reopened.prepareCompaction disk later = .ok (some (next, true)) ∧
            ∀ last : LogManager, last.isOpen = true →
              last.parser false = system.manager.parser false →
              last.file = { contents := next.drained.file.contents } → ∀ latest,
              ∃ again, last.parseVerifyAndFix disk latest false =
                .ok (.ok, again, files)) := by
  have holds := parsed.accounted_path path
  rcases holds.compact_idle moves with ⟨idle, tree⟩
  have acting : (system.manager.parser false).Acting := ⟨rfl, tree⟩
  rcases prepareCompaction_contents passes idle named fits onDisk with
    ⟨fixed, files, senderIp, before, whole, ip, headerFits, contents⟩
  rw [compact_drained moves passes, contents]
  refine ⟨fixed, files, before, ?_⟩
  intro reopened isOpen sameTransfer sameLog later
  rcases parse_compactedLog acting inRange config onDisk whole ip headerFits isOpen sameTransfer
    sameLog later with ⟨again, reparsed, sameIp⟩
  refine ⟨⟨again, reparsed⟩, ?_⟩
  intro noEntries laterInRange fitsAgain
  rcases prepareCompaction_again reparsed (by rw [sameLog]) onDisk whole noEntries fitsAgain with
    ⟨next, prepares, nextFits, nextContents⟩
  refine ⟨next, prepares, ?_⟩
  intro last lastOpen lastTransfer lastLog latest
  rw [nextContents] at lastLog
  have sameConfig : reopened.config = system.manager.config :=
    congrArg LogParser.config sameTransfer
  rcases parse_compactedLog (sameTransfer ▸ acting) laterInRange (sameConfig ▸ config) onDisk whole
    (sameIp ▸ ip) nextFits lastOpen (lastTransfer.trans sameTransfer.symm) lastLog latest with
    ⟨last, lastParsed, _⟩
  exact ⟨last, lastParsed⟩

/-! ### Two compactions -/

def singleFile : Directory := fun name => if name = [0x66] then some 10 else none

theorem singleFile_onDisk : singleFile.OnDisk := by
  constructor <;>
  · intro name size found
    obtain ⟨rfl, same⟩ := ite_none_right_eq_some.mp found
    cases same
    decide

def receivesFile : List LogAction :=
  [.startThread, .verifySenderIp [0x73] 1, .writeLogHeader 1, .addEntry sampleEntry,
    .addEntry (.blockWrite { timestamp := 3, seqId := 0, offset := 0, blockSize := 10 }),
    .startCompaction]

def parsedFiles (manager : LogManager) : Option (ErrorCode × List FileChunksInfo) :=
  (parseVerifyAndFix { manager with file := { manager.file with position := 0 } } singleFile id
    false).toOption.map fun result => (result.1, result.2.2)

def headersFrom (senderIp contents : List Byte) : Bool :=
  (logBodies contents).all fun body => match entryOf body with
    | some (.header entry) => entry.senderIp == senderIp
    | _ => true

theorem headerFits_sample {manager : LogManager} (recoveryId : manager.recoveryId = [0x72])
    (config : manager.config = 3) (sender : manager.senderIp = [0x73])
    (headers : headersFrom [0x73] manager.file.contents = true) : manager.HeaderFits 0 := by
  intro senderIp source
  have same : senderIp = [0x73] := by
    rcases source with same | ⟨body, member, entry, read, same⟩
    · rw [same, sender]
    have all := all_eq_true.mp headers body member
    rw [read] at all
    rw [← same]
    exact beq_iff_eq.mp all
  unfold compactedHeader
  rw [same, recoveryId, config]
  decide

def drainsBuffer : Except LogCheck (Option (LogManager × Bool)) → Bool
  | .ok (some (_, drains)) => drains
  | _ => false

theorem compaction_preserves_files_sample :
    ∃ system compacted : LogSystem, system.Step (.compact singleFile id) compacted ∧
      ∃ fixed files, files.map FileChunksInfo.fileName = [[0x66]] ∧ parseVerifyAndFix
          { system.manager with file := { system.manager.file with position := 0 } } singleFile id
            false = .ok (.ok, fixed, files) ∧
        ∃ again, parseVerifyAndFix { system.manager with
            isOpen := true
            file := { contents := compacted.manager.file.contents } } singleFile id false =
          .ok (.ok, again, files) := by
  have computed : (runsUnder step startsConsistent { manager := sampleManager [] }
      (receivesFile ++ [.wakeWriter, .writeBatch])).any (fun system =>
        (system.step (.compact singleFile id)).isSome &&
        drainsBuffer (system.manager.prepareCompaction singleFile id) &&
        decide (system.manager.recoveryId = [0x72] ∧ system.manager.config = 3 ∧
          system.manager.senderIp = [0x73] ∧
          headersFrom [0x73] system.manager.file.contents = true ∧
          (parsedFiles system.manager).map (fun result => result.2.map FileChunksInfo.fileName) =
            some [[0x66]])) = true := by
    decide +kernel
  rcases any_eq_true _ _ |>.mp computed with ⟨system, run, holds⟩
  rw [Bool.and_eq_true, Bool.and_eq_true, decide_eq_true_eq] at holds
  rcases holds with ⟨⟨steps, drains⟩, recoveryId, config, sender, headers, names⟩
  rcases isSome_iff_exists.mp steps with ⟨compacted, moves⟩
  unfold drainsBuffer at drains
  split at drains
  · rename_i prepared done passes
    cases (show done = true from drains)
    have started := justParsed_of_parse rfl rfl ⟨rfl, rfl, rfl⟩ parse_sampleManager
    rcases compaction_preserves_files started
        (path_of_runsUnder (fun _ _ _ => id) (fun _ _ => id) .refl run) moves
        passes (by rw [sender]; decide) (headerFits_sample recoveryId config sender headers)
        (by decide) (by rw [config]; decide) singleFile_onDisk with
      ⟨fixed, files, before, after⟩
    rcases (after { system.manager with
        isOpen := true
        file := { contents := compacted.manager.file.contents } } rfl rfl rfl id).1 with
      ⟨again, reparsed⟩
    unfold parsedFiles at names
    rw [before] at names
    exact ⟨system, compacted, moves, fixed, files, some.inj names, before, again, reparsed⟩
  · cases drains

/-- Without a writer, the entries of a session are still in the buffer when its compaction parses
the log: the compacted log has a file that the log did not have. -/
theorem compaction_adds_buffered_file :
    ∃ manager, (sampleManager otherTransferLog).parseVerifyAndFix singleFile id false =
        .ok (.inconsistentDirectory, manager, []) ∧
      ∃ system compacted, Path Step (fun _ _ => True) { manager } system ∧
        system.Step (.compact singleFile id) compacted ∧
        parsedFiles system.manager = some (.ok, []) ∧
        parsedFiles compacted.manager = some (.ok,
          [{ seqId := 0, fileName := [0x66], fileSize := 10,
             chunks := [{ start := 0, stop := 10 }] }]) := by
  have parses : (match (sampleManager otherTransferLog).parseVerifyAndFix singleFile id false with
      | .ok (code, manager, chunks) => decide (code = .inconsistentDirectory ∧ chunks = []) &&
          (runsUnder step (fun _ _ => true) { manager } receivesFile).any (fun system =>
            (system.step (.compact singleFile id)).any (fun compacted => decide (
              parsedFiles system.manager = some (.ok, []) ∧
              parsedFiles compacted.manager = some (.ok,
                [{ seqId := 0, fileName := [0x66], fileSize := 10,
                   chunks := [{ start := 0, stop := 10 }] }]))))
      | .error _ => false) = true := by
    decide +kernel
  split at parses
  · rename_i code manager chunks result
    rw [Bool.and_eq_true, decide_eq_true_eq] at parses
    rcases parses with ⟨⟨rfl, rfl⟩, computed⟩
    rcases any_eq_true _ _ |>.mp computed with ⟨system, run, compacts⟩
    rcases any_eq_true _ _ |>.mp compacts with ⟨compacted, moves, holds⟩
    rw [decide_eq_true_eq] at holds
    exact ⟨manager, result, system, compacted, path_of_run run, moves, holds⟩
  · cases parses

end LogSystem

end Wdt
