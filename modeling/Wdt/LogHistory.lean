/-
Histories of whole sessions: what holds of the log, of the disk and of the state of
a session after any operations, and what parsing the log therefore returns between
two sessions.
-/

import Wdt.SessionFiles
import Wdt.TornTail

namespace Wdt

open List Option Incarnation LogEntry FileChunksInfo

/-! ### Log and disk together -/

/-- Between two sessions, the disk contradicts nothing in the log. -/
structure Consistent (settings : LogSettings) (world : LogWorld) : Prop where
  replays : Replays settings.parser (world.session ≠ none) world.log world.live world.dead
  distinct : Distinct world.live
  kept : ∀ file ∈ world.live, file.KeptOn settings.preallocate world.disk
  between : world.session = none →
    ∀ file ∈ world.dead, file.ToleratedBy settings.preallocate world.disk
  within : ∀ session, world.session = some session →
    SessionSound settings.preallocate world.disk world.live session

theorem LogSettings.parser_acting (settings : LogSettings) : settings.parser.Acting := ⟨rfl, rfl⟩

namespace Consistent

variable {settings : LogSettings} {world after : LogWorld} {session : LogSession}

theorem initial (settings : LogSettings) (disk : Directory) : Consistent settings { disk } where
  replays := (Replays.empty settings.parser).mono (fun opened => absurd rfl opened)
  distinct := fun _ member => absurd member List.not_mem_nil
  kept := fun _ member => absurd member List.not_mem_nil
  between := fun _ _ member => absurd member List.not_mem_nil
  within := nofun

theorem of_open (isOpen : world.session = some session)
    (replays : Replays settings.parser True world.log world.live world.dead)
    (distinct : Distinct world.live)
    (kept : ∀ file ∈ world.live, file.KeptOn settings.preallocate world.disk)
    (sound : SessionSound settings.preallocate world.disk world.live session) :
    Consistent settings world where
  replays := replays.mono (fun _ => trivial)
  distinct := distinct
  kept := kept
  between := fun closed => nomatch isOpen.symm.trans closed
  within := fun _ opened => Option.some.inj (isOpen.symm.trans opened) ▸ sound

/-- The parser collects the live files that are on the disk. -/
def CollectedAs (world : LogWorld) (parsed : ParsedLog) : Prop :=
  ∀ seqId info, parsed.fileInfoMap.lookup seqId = some info ↔
    ∃ file ∈ world.live, file.seqId = seqId ∧ ∃ size,
      world.disk file.fileName = some size ∧ info = file.chunksInfo size

theorem parses (consistent : Consistent settings world) (closed : world.session = none)
    (clock : Nat → Nat) (senderIp : List Byte) :
    ∃ parsed : ParsedLog,
      settings.parser.parseLog world.disk clock senderIp { contents := world.log } =
        .ok { status := .ok
              senderIp := parsed.senderIp
              fileChunksInfo := parsed.fileInfoMap.values.map mergeChunks
              file := { contents := world.log, position := world.log.length } } ∧
      CollectedAs world parsed := by
  obtain ⟨entries, fit, written, collects⟩ := consistent.replays
  have tolerant : ∀ file ∈ world.dead ++ world.live,
      file.ToleratedBy settings.parser.shouldPreallocateFiles world.disk := by
    intro file member
    rcases mem_append.mp member with dead | live
    · exact consistent.between closed file dead
    · exact (consistent.kept file live).tolerated
  obtain ⟨parsed, replayed, _, mirrors⟩ := collects world.disk senderIp tolerant
  have framed : ∀ body ∈ entries.map LogEntry.body, WellFramed body := by
    intro body member
    obtain ⟨entry, present, rfl⟩ := mem_map.mp member
    exact wellFramed_body (fit entry present)
  have contents : ((entries.map LogEntry.body).map frame).flatten = world.log := by
    rw [List.map_map, written]
    rfl
  have parse := @LogParser.parseLog_log settings.parser world.disk _ [] framed
    (.inl rfl) clock senderIp
  rw [replayed, append_nil, contents] at parse
  obtain ⟨file, result, position, _⟩ := parse
  have noneInvalid : parsed.invalidSeqIds.keys = [] := by
    apply eq_nil_iff_forall_not_mem.mpr
    intro seqId
    apply SortedMap.lookup_eq_none_iff.mp
    by_contra found
    obtain ⟨_, found⟩ := ne_none_iff_exists'.mp found
    obtain ⟨known, member, _, refused⟩ := (mirrors.refused seqId).mp found
    obtain ⟨size, _, registered⟩ := (consistent.kept known member).registered
    cases registered.symm.trans refused
  have atEnd := position (by decide)
  refine ⟨parsed, ?_, fun seqId info => ?_⟩
  · rw [result, atEnd]
    unfold LogParser.finishParse
    rw [if_pos rfl, noneInvalid]
    rfl
  · rw [mirrors.collected]
    constructor
    · rintro ⟨known, member, same, size, registered, described⟩
      obtain ⟨length, onDisk, isRegistered⟩ := (consistent.kept known member).registered
      cases isRegistered.symm.trans registered
      exact ⟨known, member, same, size, onDisk, described⟩
    · rintro ⟨known, member, same, size, onDisk, described⟩
      obtain ⟨length, alsoOnDisk, isRegistered⟩ := (consistent.kept known member).registered
      cases alsoOnDisk.symm.trans onDisk
      exact ⟨known, member, same, size, isRegistered, described⟩

/-! ### Beginning and ending a session -/

variable {timestamp : Nat}

theorem headerBytes_eq {senderIp : List Byte}
    (fits : (LogWorld.logHeader settings senderIp timestamp).bytes.length ≤ kMaxEntryLength) :
    LogWorld.headerBytes settings senderIp timestamp =
      (LogWorld.logHeader settings senderIp timestamp).bytes := by
  change (encode kMaxEntryLength
    (LogWorld.logHeader settings senderIp timestamp)).getD [] = _
  rw [encode_eq, if_pos fits, getD_some]

section

variable (consistent : Consistent settings world)

include consistent

theorem sessionSound_begin {parsed : ParsedLog}
    (collected : CollectedAs world parsed) :
    SessionSound settings.preallocate world.disk world.live
      { reported := parsed.fileInfoMap.values.map mergeChunks } := by
  have reported : ∀ file ∈ world.live,
      ∃ info ∈ parsed.fileInfoMap.values.map mergeChunks,
        info.fileName = file.fileName ∧ info.seqId = file.seqId := by
    intro file member
    obtain ⟨size, onDisk, _⟩ := (consistent.kept file member).registered
    have found := (collected file.seqId (file.chunksInfo size)).mpr
      ⟨file, member, rfl, size, onDisk, rfl⟩
    exact ⟨_, mem_map_of_mem (SortedMap.mem_values_iff.mpr ⟨_, found⟩), rfl, rfl⟩
  constructor
  · intro file member
    obtain ⟨info, present, named, _⟩ := reported file member
    exact .inr ⟨info, present, named⟩
  · intro file member
    obtain ⟨info, present, _, numbered⟩ := reported file member
    exact .inr ⟨info, present, numbered⟩
  · intro info member _
    obtain ⟨origin, value, rfl⟩ := mem_map.mp member
    obtain ⟨seqId, found⟩ := SortedMap.mem_values_iff.mp value
    obtain ⟨file, present, _, size, onDisk, described⟩ := (collected seqId origin).mp found
    rw [described]
    exact ⟨onDisk, file, present, rfl, rfl⟩
  · exact nofun
  · exact nofun
  · exact List.Pairwise.nil

theorem beginSession (closed : world.session = none)
    {sameSender resumes : Bool} {senderIp : List Byte}
    (tolerable : world.Tolerable settings (.begin sameSender resumes senderIp timestamp))
    (begun : world.beginSession settings sameSender resumes senderIp timestamp = some after) :
    Consistent settings after := by
  obtain ⟨named, inRange, fits⟩ := tolerable
  obtain ⟨parsed, result, collected⟩ := consistent.parses closed (fun _ => timestamp) []
  have accepted : Replays.Accepted settings.parser
      { timestamp
        recoveryId := settings.recoveryId
        senderIp
        config := settings.config } := ⟨rfl, named, rfl, rfl⟩
  unfold LogWorld.beginSession at begun
  rw [result] at begun
  rw [headerBytes_eq fits] at begun
  obtain ⟨accepts, begun⟩ := ite_none_left_eq_some.mp begun
  have dated : timestamp ≤ int64Max := Nat.not_lt.mp (fun late => accepts (.inr late))
  generalize (!sameSender).toNat + (!resumes).toNat = invalidations at begun
  cases invalidations with
  | zero =>
    cases begun
    exact of_open rfl (consistent.replays.header accepted inRange fits)
      consistent.distinct consistent.kept (consistent.sessionSound_begin collected)
  | succ more =>
    cases begun
    have short : (directoryInvalidation { timestamp }).bytes.length ≤
        kMaxEntryLength := by
      have length := varU64_length_le timestamp
      have limit : kMaxEntryLength = 4129 := rfl
      rw [bytes_length, fields]
      dsimp only
      omega
    exact of_open rfl (consistent.replays.restart settings.parser_acting accepted inRange fits
      (show (directoryInvalidation { timestamp }).InRange from dated) short more)
      (forall_mem_nil _) (forall_mem_nil _) ⟨forall_mem_nil _, forall_mem_nil _, forall_mem_nil _,
        forall_mem_nil _, forall_mem_nil _, List.Pairwise.nil⟩

theorem finish (tolerable : world.Tolerable settings .finish) :
    Consistent settings { world with session := none } where
  __ := consistent
  replays := consistent.replays.mono (fun opened => absurd rfl opened)
  between := fun _ => tolerable
  within := nofun

end

/-! ### Operations of a session -/

theorem logEntry_eq_some {entry : LogEntry} (logged : world.logEntry entry = some after) :
    entry.InRange ∧ entry.bytes.length ≤ kMaxEntryLength ∧
      after = { world with log := world.log ++ entry.bytes } := by
  obtain ⟨writes, logged⟩ := ite_none_right_eq_some.mp logged
  exact ⟨writes.1, writes.2, (some.inj logged).symm⟩

theorem opened_replays (consistent : Consistent settings world)
    (isOpen : world.session = some session) :
    Replays settings.parser True world.log world.live world.dead :=
  consistent.replays.mono (fun _ => by rw [isOpen]; exact nofun)

theorem logCreation (consistent : Consistent settings { world with session := some session })
    {file : OpenFile} (awaited : file ∈ session.pending) {timestamp : Nat}
    (logged : world.logCreation { session with pending := session.pending.erase file } file
      timestamp = some after) : Consistent settings after := by
  obtain ⟨middle, entered, rfl⟩ := map_eq_some_iff.mp logged
  obtain ⟨inRange, fits, rfl⟩ := logEntry_eq_some entered
  have sound := consistent.within session rfl
  obtain ⟨_, _, unused, size, onDisk, small, allocated⟩ := sound.pending file awaited
  refine of_open rfl ((consistent.opened_replays rfl).creation settings.parser_acting inRange fits
    (fun known present => (unused known present).2)) (consistent.distinct.snoc unused)
    (fun known member => ?_) (sound.recreate awaited inRange.2.2.2)
  rcases mem_append.mp member with old | new
  · exact consistent.kept known old
  rw [mem_singleton.mp new]
  refine ⟨size, onDisk, small, nofun, fun preallocated sized among => ?_⟩
  rw [mem_singleton.mp among]
  exact allocated preallocated

variable {file : OpenFile} {fileName : List Byte} {info : FileChunksInfo} {middle : LogWorld}

section

variable (consistent : Consistent settings world) (isOpen : world.session = some session)

include consistent isOpen

theorem create
    (untouched : file.fileName ∉ session.touched) (absent : session.previous file.fileName = none)
    (new : session.IsNewSeqId file.seqId) (logged : (world.setSize file.fileName
        (some (setFileSize settings.preallocate 0 file.fileSize))).logCreation
      { session.touch file.fileName with usedSeqIds := file.seqId :: session.usedSeqIds } file
        timestamp = some after) : Consistent settings after := by
  have sound := consistent.within session isOpen
  have unnamed : ∀ known ∈ world.live, known.fileName ≠ file.fileName := by
    intro known member same
    rcases sound.named known member with touched | ⟨info, reported, named⟩
    · rw [same] at touched
      exact untouched touched
    · exact LogSession.not_reported untouched absent info reported (named.trans same)
  have others := sound.awaited_elsewhere untouched
  have fileSize : file.fileSize ≤ int64Max := by
    obtain ⟨middle, entered, _⟩ := map_eq_some_iff.mp logged
    exact (logEntry_eq_some entered).1.2.2.2
  have bound := setFileSize_le settings.preallocate 0 file.fileSize
  have awaits := ((@SessionSound.touch _ _ _ _ sound file.fileName).setDisk mem_cons_self
    others (some (setFileSize settings.preallocate 0 file.fileSize))).await mem_cons_self new
      unnamed others (Function.update_self _ _ _) (by omega)
      (fun preallocated => le_setFileSize_of_preallocate preallocated 0 file.fileSize)
  have created := @logCreation settings (world.setSize file.fileName
      (some (setFileSize settings.preallocate 0 file.fileSize))) after _
    (of_open rfl (consistent.opened_replays isOpen) consistent.distinct
      (fun known member => (consistent.kept known member).update_other (unnamed known member) _)
      awaits) file mem_cons_self timestamp
  rw [erase_cons_head] at created
  exact created logged

theorem recreate (awaited : file ∈ session.pending)
    (logged : world.logCreation { session with pending := session.pending.erase file } file
      timestamp = some after) : Consistent settings after :=
  @logCreation settings world after session (by rw [← isOpen]; exact consistent) file awaited _
    logged

theorem invalidate (found : session.previous fileName = some info) {size : Option Nat}
    (logged : ((world.setSize fileName size).retire info.seqId).logEntry
      (.fileInvalidation { timestamp, seqId := info.seqId }) = some after) :
    Replays settings.parser True after.log after.live after.dead ∧ Distinct after.live ∧
      (∀ file ∈ after.live, file.fileName ≠ fileName ∧
        file.KeptOn settings.preallocate after.disk) ∧
      SessionSound settings.preallocate after.disk after.live (session.touch fileName) ∧
      after.disk = Function.update world.disk fileName size ∧
      ∀ file ∈ session.pending, file.fileName ≠ fileName := by
  have sound := consistent.within session isOpen
  obtain ⟨inRange, fits, rfl⟩ := logEntry_eq_some logged
  obtain ⟨untouched, _, file, isLive, seqId, named⟩ := sound.previous found
  have others := sound.awaited_elsewhere untouched
  refine ⟨?_, ?_, ?_, ?_, rfl, others⟩
  · exact (consistent.opened_replays isOpen).invalidation settings.parser_acting inRange fits
      isLive seqId
  · exact consistent.distinct.of_subset (fun other member => (mem_filter.mp member).1)
  · intro other member
    obtain ⟨present, different⟩ := mem_filter.mp member
    have renamed : other.fileName ≠ fileName := by
      intro same
      have equal := consistent.distinct other present file isLive (.inr (same.trans named.symm))
      rw [equal] at different
      exact of_decide_eq_true different seqId
    exact ⟨renamed, (consistent.kept other present).update_other renamed size⟩
  · exact (sound.retire consistent.distinct found).setDisk mem_cons_self others size

theorem shrink (found : session.previous file.fileName = some info)
    (shrinks : file.fileSize < info.fileSize) (new : session.IsNewSeqId file.seqId)
    (logged : ((world.setSize file.fileName (some (setFileSize settings.preallocate
        ((world.disk file.fileName).getD 0) file.fileSize))).retire info.seqId).logEntry
      (.fileInvalidation { timestamp, seqId := info.seqId }) = some middle) :
    Consistent settings (middle.withSession { session.touch file.fileName with
      usedSeqIds := file.seqId :: session.usedSeqIds
      pending := file :: session.pending }) := by
  obtain ⟨replays, distinct, kept, sound, disk, others⟩ := consistent.invalidate isOpen found logged
  obtain ⟨_, onDisk, known, present, _, named⟩ := (consistent.within session isOpen).previous found
  obtain ⟨size, sized, small, _⟩ := consistent.kept known present
  rw [named, onDisk, some.injEq] at sized
  have bound := setFileSize_le settings.preallocate info.fileSize file.fileSize
  refine of_open rfl replays distinct (fun other member => (kept other member).2)
    (sound.await mem_cons_self new (fun other member => (kept other member).1) others
      (by rw [disk, Function.update_self]) ?_
      (fun preallocated => le_setFileSize_of_preallocate preallocated _ _))
  rw [onDisk, getD_some]
  omega

theorem written {file : OpenFile} (isOpened : file ∈ session.opened) {offset dataSize : Nat}
    (inFile : offset + dataSize ≤ file.fileSize) {known : Incarnation} (isLive : known ∈ world.live)
    (named : known.fileName = file.fileName) {amend : Incarnation → Incarnation}
    (amends : Amends amend) (others : ∀ other, other.seqId ≠ known.seqId → amend other = other)
    (resizes : (amend known).resizes = known.resizes)
    (blocks : ∀ block ∈ (amend known).blocks, block ∈ known.blocks ∨
      (block.stop = offset + dataSize ∧ (0 < dataSize ∨ offset = 0)))
    {log : List Byte}
    (replays : Replays settings.parser True log (world.live.map amend) world.dead) :
    Consistent settings { world with
      log
      disk := Function.update world.disk file.fileName (some (writtenSize
        ((world.disk file.fileName).getD 0) offset dataSize))
      live := world.live.map amend } := by
  have sound := consistent.within session isOpen
  obtain ⟨touched, small, _⟩ := sound.opened file isOpened
  obtain ⟨size, onDisk, sizeSmall, _⟩ := consistent.kept known isLive
  have awaitedOthers : ∀ awaited ∈ session.pending, awaited.fileName ≠ file.fileName := by
    intro awaited member same
    exact ((sound.pending awaited member).2.2.1 known isLive).1 (named.trans same.symm)
  refine of_open isOpen replays (consistent.distinct.amended amends) ?_
    ((sound.setDisk touched awaitedOthers _).amended amends)
  rw [← named, onDisk, getD_some]
  refine kept_amended consistent.distinct consistent.kept isLive others ?_
  have bound := writtenSize_le size offset dataSize
  refine (consistent.kept known isLive).grown amends onDisk (le_writtenSize _ _ _) (by omega) ?_ ?_
  · intro block member
    rcases blocks block member with old | ⟨stop, proper⟩
    · exact .inl old
    · rw [stop]
      exact .inr (block_within_writtenSize size proper)
  · intro _ resized member
    exact .inl (resizes ▸ member)

variable (found : session.previous fileName = some info)

include found

theorem delete
    (logged : ((if settings.deleteExtraFiles then world.setSize fileName none else world).retire
        info.seqId).logEntry (.fileInvalidation { timestamp, seqId := info.seqId }) =
      some middle) :
    Consistent settings (middle.withSession (session.touch fileName)) := by
  have kept_disk : world.setSize fileName (world.disk fileName) = world := by
    unfold LogWorld.setSize
    rw [Function.update_eq_self]
  obtain ⟨size, resized⟩ : ∃ size, (if settings.deleteExtraFiles then world.setSize fileName none
      else world) = world.setSize fileName size := by
    cases settings.deleteExtraFiles with
    | true => exact ⟨none, rfl⟩
    | false => exact ⟨_, kept_disk.symm⟩
  rw [resized] at logged
  obtain ⟨replays, distinct, kept, sound, _⟩ := consistent.invalidate isOpen found logged
  exact of_open rfl replays distinct (fun other member => (kept other member).2) sound

theorem grow {fileSize : Nat} (grows : info.fileSize < fileSize)
    (tolerable : world.Tolerable settings (.grow fileName fileSize timestamp))
    (logged : ((world.setSize fileName (some (setFileSize settings.preallocate
        ((world.disk fileName).getD 0) fileSize))).amend
          (Incarnation.resized info.seqId fileSize)).logEntry
      (.fileResize { timestamp, seqId := info.seqId, fileSize }) = some middle) :
    Consistent settings (middle.withSession { session.touch fileName with
      opened := { fileName, seqId := info.seqId, fileSize } :: session.opened }) := by
  have sound := consistent.within session isOpen
  have amends := resized_amends info.seqId fileSize
  obtain ⟨inRange, fits, rfl⟩ := logEntry_eq_some logged
  obtain ⟨untouched, onDisk, file, isLive, seqId, named⟩ := sound.previous found
  have small : fileSize ≤ int64Max := inRange.2.2
  have larger : ∀ other ∈ world.dead ++ world.live, other.seqId = info.seqId →
      ∀ size ∈ other.sizes, size ≤ fileSize := by
    refine tolerable info ?_
    rw [isOpen, bind_some, found]
    exact mem_cons_self
  have others := sound.awaited_elsewhere untouched
  refine of_open rfl ((consistent.opened_replays isOpen).resize settings.parser_acting inRange
    fits isLive seqId larger) (consistent.distinct.amended amends) ?_
    (((sound.touchKnown found small).setDisk mem_cons_self others _).amended amends)
  rw [onDisk, getD_some, ← named]
  refine kept_amended consistent.distinct consistent.kept isLive
    (fun known different => if_neg (fun same => different (same.trans seqId.symm))) ?_
  have bound := setFileSize_le settings.preallocate info.fileSize fileSize
  have amended : Incarnation.resized info.seqId fileSize file =
      { file with resizes := file.resizes ++ [fileSize] } := if_pos seqId
  refine (consistent.kept file isLive).grown amends (by rw [named]; exact onDisk)
    (le_setFileSize_of_lt settings.preallocate grows) (by omega) ?_ ?_ <;> rw [amended]
  · exact fun block member => .inl member
  · intro preallocated size member
    rcases mem_append.mp member with old | last
    · exact .inl old
    · rw [mem_singleton.mp last]
      exact .inr (le_setFileSize_of_preallocate preallocated _ _)

theorem reuse :
    Consistent settings (world.withSession { session.touch fileName with
      opened := { fileName, seqId := info.seqId, fileSize := info.fileSize } ::
        session.opened }) := by
  have sound := consistent.within session isOpen
  obtain ⟨_, onDisk, file, isLive, _, named⟩ := sound.previous found
  obtain ⟨size, sized, small, _⟩ := consistent.kept file isLive
  rw [named, onDisk, some.injEq] at sized
  exact of_open rfl (consistent.opened_replays isOpen) consistent.distinct consistent.kept
    (sound.touchKnown found (sized ▸ small))

end

section

variable {offset dataSize : Nat} (consistent : Consistent settings world)
  (isOpen : world.session = some session) (isOpened : file ∈ session.opened)
  (inFile : offset + dataSize ≤ file.fileSize)

include consistent isOpen isOpened inFile

theorem writeBlock (proper : 0 < dataSize ∨ offset = 0)
    (logged : ((world.setSize file.fileName (some (writtenSize
        ((world.disk file.fileName).getD 0) offset dataSize))).amend (Incarnation.written
          file.seqId { start := offset, stop := offset + dataSize })).logEntry
      (.blockWrite { timestamp, seqId := file.seqId, offset, blockSize := dataSize }) =
        some after) : Consistent settings after := by
  obtain ⟨inRange, fits, rfl⟩ := logEntry_eq_some logged
  obtain ⟨_, small, known, isLive, seqId, named⟩ :=
    (consistent.within session isOpen).opened file isOpened
  have amended : Incarnation.written file.seqId { start := offset, stop := offset + dataSize }
      known = { known with
        blocks := known.blocks ++ [{ start := offset, stop := offset + dataSize }] } :=
    if_pos seqId
  refine consistent.written isOpen isOpened inFile isLive named (written_amends _ _)
    (fun other different => if_neg (fun same => different (same.trans seqId.symm))) ?_ ?_
    ((consistent.opened_replays isOpen).block settings.parser_acting consistent.distinct inRange
      fits isLive seqId (inFile.trans small))
  · rw [amended]
  · intro block member
    rw [amended] at member
    rcases mem_append.mp member with old | last
    · exact .inl old
    · rw [mem_singleton.mp last]
      exact .inr ⟨rfl, proper⟩

theorem writePart :
    Consistent settings (world.setSize file.fileName (some (writtenSize
      ((world.disk file.fileName).getD 0) offset dataSize))) := by
  obtain ⟨_, _, known, isLive, _, named⟩ := (consistent.within session isOpen).opened file isOpened
  have same : Amends id :=
    ⟨fun _ => rfl, fun _ => rfl, fun _ => rfl, fun _ _ => id, fun _ _ => id⟩
  have part := @written settings world session consistent isOpen file isOpened offset dataSize
    inFile known isLive named id same (fun _ _ => rfl) rfl (fun _ member => .inl member)
    world.log (by rw [List.map_id]; exact consistent.opened_replays isOpen)
  rw [List.map_id] at part
  exact part

end

theorem step (consistent : Consistent settings world) {op : SessionOp}
    (tolerable : world.Tolerable settings op) (moved : world.Step settings op after) :
    Consistent settings after := by
  unfold LogWorld.Step LogWorld.step at moved
  cases isOpen : world.session <;> rw [isOpen] at moved
  · cases op with
    | begin => exact consistent.beginSession isOpen tolerable moved
    | _ => cases moved
  rename_i session
  cases op with
  | begin => cases moved
  | create file timestamp =>
    obtain ⟨⟨untouched, absent, new⟩, logged⟩ := ite_none_right_eq_some.mp moved
    exact consistent.create isOpen untouched absent new logged
  | shrink file timestamp =>
    dsimp only at moved
    cases found : session.previous file.fileName <;> rw [found] at moved
    · cases moved
    · obtain ⟨⟨shrinks, new⟩, moved⟩ := ite_none_right_eq_some.mp moved
      obtain ⟨middle, logged, rfl⟩ := map_eq_some_iff.mp moved
      exact consistent.shrink isOpen found shrinks new logged
  | recreate file timestamp =>
    obtain ⟨awaited, logged⟩ := ite_none_right_eq_some.mp moved
    exact consistent.recreate isOpen awaited logged
  | grow fileName fileSize timestamp =>
    dsimp only at moved
    cases found : session.previous fileName <;> rw [found] at moved
    · cases moved
    · obtain ⟨grows, moved⟩ := ite_none_right_eq_some.mp moved
      obtain ⟨middle, logged, rfl⟩ := map_eq_some_iff.mp moved
      exact consistent.grow isOpen found grows tolerable logged
  | reuse fileName =>
    obtain ⟨info, found, rfl⟩ := map_eq_some_iff.mp moved
    exact consistent.reuse isOpen found
  | writeBlock file offset dataSize timestamp =>
    obtain ⟨⟨opened, inFile, proper⟩, logged⟩ := ite_none_right_eq_some.mp moved
    exact consistent.writeBlock isOpen opened inFile proper logged
  | writePart file offset dataSize =>
    obtain ⟨⟨opened, inFile⟩, moved⟩ := ite_none_right_eq_some.mp moved
    cases moved
    exact consistent.writePart isOpen opened inFile
  | delete fileName timestamp =>
    dsimp only at moved
    cases found : session.previous fileName <;> rw [found] at moved
    · cases moved
    · obtain ⟨middle, logged, rfl⟩ := map_eq_some_iff.mp moved
      exact consistent.delete isOpen found logged
  | finish =>
    obtain ⟨-, moved⟩ := ite_none_right_eq_some.mp moved
    cases moved
    exact consistent.finish tolerable

theorem reported_once (consistent : Consistent settings world) {parsed : ParsedLog}
    (collected : CollectedAs world parsed)
    {file : Incarnation} (isLive : file ∈ world.live) {size : Nat}
    (onDisk : world.disk file.fileName = some size) :
    (parsed.fileInfoMap.values.map mergeChunks).filter
      (fun info => decide (info.fileName = file.fileName)) =
        [(file.chunksInfo size).mergeChunks] := by
  have keyed : ∀ seqId info, parsed.fileInfoMap.lookup seqId = some info →
      info.seqId = seqId := by
    intro seqId info found
    obtain ⟨known, _, same, _, _, rfl⟩ := (collected seqId info).mp found
    exact same
  have single : parsed.fileInfoMap.values.filter
      (fun info => decide (info.mergeChunks.fileName = file.fileName)) =
        [file.chunksInfo size] := by
    apply perm_singleton.mp
    apply (perm_ext_iff_of_nodup ((SortedMap.values_nodup keyed).filter _)
      (nodup_singleton _)).mpr
    intro info
    rw [mem_filter, decide_eq_true_eq, SortedMap.mem_values_iff, mem_singleton]
    constructor
    · rintro ⟨⟨seqId, found⟩, named⟩
      obtain ⟨known, present, _, length, knownOnDisk, described⟩ := (collected seqId info).mp found
      rw [described] at named ⊢
      have same := consistent.distinct known present file isLive (.inr named)
      rw [same, onDisk, some.injEq] at knownOnDisk
      rw [same, knownOnDisk]
    · intro described
      rw [described]
      exact ⟨⟨file.seqId, (collected _ _).mpr ⟨file, isLive, rfl, size, onDisk, rfl⟩⟩, rfl⟩
  rw [List.filter_map]
  exact congrArg (List.map mergeChunks) single

end Consistent

open Transition

/-- After any number of sessions that keep to the conditions, the log is found valid and stays
as it is, and names each live file once, with the bytes of the blocks written since its
creation. -/
theorem LogWorld.sessions_parsed {settings : LogSettings} {disk : Directory} {world : LogWorld}
    (run : Path (LogWorld.Step settings) (LogWorld.Tolerable settings) { disk } world)
    (closed : world.session = none) (clock : Nat → Nat) (senderIp : List Byte) :
    ∃ result, settings.parser.parseLog world.disk clock senderIp { contents := world.log } =
        .ok result ∧
      result.status = .ok ∧ result.file.contents = world.log ∧
      (∀ file ∈ world.live, ∃ info,
        result.fileChunksInfo.filter (fun info => decide (info.fileName = file.fileName)) = [info] ∧
        info.seqId = file.seqId ∧
        ∀ position, (∃ chunk ∈ info.chunks, chunk.Covers position) ↔
          ∃ block ∈ file.blocks, block.Covers position) ∧
      ∀ info ∈ result.fileChunksInfo, ∃ file ∈ world.live, file.fileName = info.fileName := by
  have consistent : Consistent settings world := run.invariant (Consistent settings)
    (Consistent.initial settings disk)
    (fun _ _ _ consistent tolerable moved => consistent.step tolerable moved)
  obtain ⟨parsed, result, collected⟩ := consistent.parses closed clock senderIp
  refine ⟨_, result, rfl, rfl, ?_, ?_⟩
  · intro file isLive
    obtain ⟨size, onDisk, _⟩ := (consistent.kept file isLive).registered
    exact ⟨_, consistent.reported_once collected isLive onDisk, rfl,
      fun position => mergedChunks_covers file.blocks position⟩
  · intro info member
    obtain ⟨origin, value, rfl⟩ := mem_map.mp member
    obtain ⟨seqId, found⟩ := SortedMap.mem_values_iff.mp value
    obtain ⟨file, isLive, _, _, _, described⟩ := (collected seqId origin).mp found
    rw [described]
    exact ⟨file, isLive, rfl⟩

namespace LogWorld

def sampleSettings : LogSettings := { recoveryId := [0x72], config := 3 }

def sampleFile (seqId fileSize : Nat) : OpenFile := { fileName := [0x66], seqId, fileSize }

def growingSessions : List SessionOp :=
  [.begin true true [0x73] 1, .create (sampleFile 0 10) 1,
    .writeBlock (sampleFile 0 10) 0 10 1, .finish,
    .begin true true [0x73] 2, .grow [0x66] 20 2, .writeBlock (sampleFile 0 20) 10 5 2, .finish,
    .begin true true [0x73] 3,
    .create { fileName := [0x67], seqId := 1, fileSize := 4 } 3, .finish]

theorem sessions_parsed_sample :
    ∃ world, Path (LogWorld.Step sampleSettings) (LogWorld.Tolerable sampleSettings)
        { disk := fun _ => none } world ∧
      world.session = none ∧
      world.live.map Incarnation.blocks = [[⟨0, 10⟩, ⟨10, 15⟩], []] ∧
      ∃ result, sampleSettings.parser.parseLog world.disk (fun _ => 4) []
        { contents := world.log } = .ok result ∧ result.status = .ok := by
  have computed : (runsUnder (LogWorld.step sampleSettings)
      (fun world op => decide (world.Tolerable sampleSettings op)) { disk := fun _ => none }
      growingSessions).any (fun world => decide (world.session = none ∧
        world.live.map Incarnation.blocks = [[⟨0, 10⟩, ⟨10, 15⟩], []])) = true := by
    decide +kernel
  rcases any_eq_true _ _ |>.mp computed with ⟨world, run, holds⟩
  rw [decide_eq_true_eq] at holds
  have path : Path (LogWorld.Step sampleSettings) (LogWorld.Tolerable sampleSettings)
      { disk := fun _ => none } world :=
    path_of_runsUnder (fun _ _ _ => id) (fun _ _ test => of_decide_eq_true test) .refl run
  rcases sessions_parsed path holds.1 (fun _ => 4) [] with ⟨result, parsed, status, _⟩
  exact ⟨world, path, holds.1, holds.2, result, parsed, status⟩

/-- The grown file becomes shorter than it was grown to: its old seq-id is invalidated, it is
truncated and created again under a new one. -/
def shrinkingSessions : List SessionOp :=
  [.begin true true [0x73] 1, .create (sampleFile 0 10) 1,
    .writeBlock (sampleFile 0 10) 0 10 1, .finish,
    .begin true true [0x73] 2, .grow [0x66] 20 2, .writeBlock (sampleFile 0 20) 10 10 2, .finish,
    .begin true true [0x73] 3, .shrink (sampleFile 1 15) 3, .recreate (sampleFile 1 15) 3,
    .writeBlock (sampleFile 1 15) 0 15 3, .finish]

/-- The old resize entry is judged by the size that the file has now, and the whole log is given
up. -/
theorem shrunk_file_invalidates_log :
    ∃ world, Path (LogWorld.Step sampleSettings) (fun _ _ => True) { disk := fun _ => none } world ∧
      world.session = none ∧ world.disk [0x66] = some 15 ∧
      world.live = [{ seqId := 1
                      fileName := [0x66]
                      createdSize := 15
                      blocks := [⟨0, 15⟩] }] ∧
      ∃ result, sampleSettings.parser.parseLog world.disk (fun _ => 4) []
          { contents := world.log } = .ok result ∧
        result.status = .invalidLog ∧ result.fileChunksInfo = [] := by
  have computed : (runsUnder (LogWorld.step sampleSettings) (fun _ _ => true)
      { disk := fun _ => none } shrinkingSessions).any (fun world =>
        decide (world.session = none ∧ world.disk [0x66] = some 15 ∧
          world.live = [{ seqId := 1
                          fileName := [0x66]
                          createdSize := 15
                          blocks := [⟨0, 15⟩] }]) &&
        match sampleSettings.parser.parseLog world.disk (fun _ => 4) []
            { contents := world.log } with
        | .ok result => decide (result.status = .invalidLog ∧ result.fileChunksInfo = [])
        | .error _ => false) = true := by
    decide +kernel
  rcases any_eq_true _ _ |>.mp computed with ⟨world, run, holds⟩
  rw [Bool.and_eq_true, decide_eq_true_eq] at holds
  rcases holds with ⟨⟨closed, size, live⟩, parse⟩
  refine ⟨world, path_of_run run,
    closed, size, live, ?_⟩
  split at parse
  · rename_i result parsed
    exact ⟨result, parsed, of_decide_eq_true parse⟩
  · cases parse

end LogWorld

end Wdt
