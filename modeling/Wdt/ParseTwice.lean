/-
A log that was fixed stays as it is: parsing it again, with the same directory, finds
the same chunks and has nothing left to cut off or to invalidate.
-/

import Wdt.LogContents
import Wdt.LogMirror
import Wdt.TransferLogManager

namespace Wdt

open LogEntry FileChunksInfo

variable {clock : Nat → Nat}

namespace LogParser

variable {parser : LogParser} {disk : Directory} {status after : ErrorCode}
  {parsed collected : ParsedLog} {body : List Byte} {bodies : List (List Byte)}

theorem Round.withSenderIp (round : Round parser disk status parsed body after collected)
    (senderIp : List Byte) :
    ∃ other, Round parser disk status { parsed with senderIp } body after
      { collected with senderIp := other } := by
  cases round with
  | skipped notHeader => exact ⟨senderIp, .skipped notHeader⟩
  | printed printing valid notHeader headed decoded =>
    exact ⟨senderIp, .printed printing valid notHeader headed decoded⟩
  | @header _ _ _ entry decoded legible accepted =>
    exact ⟨entry.senderIp, .header decoded legible accepted⟩
  | @otherHeader _ _ _ entry decoded legible different fixing =>
    exact ⟨entry.senderIp, .otherHeader decoded legible different fixing⟩
  | directoryInvalidation valid decoded fixing =>
    exact ⟨senderIp, .directoryInvalidation valid decoded fixing⟩
  | created acting valid headed decoded uncollected notInvalid verified =>
    exact ⟨senderIp, .created acting valid headed decoded uncollected notInvalid verified⟩
  | refused acting valid headed decoded uncollected notInvalid failed =>
    exact ⟨senderIp, .refused acting valid headed decoded uncollected notInvalid failed⟩
  | resized acting valid headed decoded known recorded grows fits =>
    exact ⟨senderIp, .resized acting valid headed decoded known recorded grows fits⟩
  | ignored acting valid headed decoded invalid =>
    exact ⟨senderIp, .ignored acting valid headed decoded invalid⟩
  | written acting valid headed decoded notInvalid known within ordered =>
    exact ⟨senderIp, .written acting valid headed decoded notInvalid known within ordered⟩
  | invalidated acting valid headed decoded known =>
    exact ⟨senderIp, .invalidated acting valid headed decoded known⟩

theorem Rounds.withSenderIp (rounds : Rounds parser disk status parsed bodies after collected)
    (senderIp : List Byte) :
    ∃ other, Rounds parser disk status { parsed with senderIp } bodies after
      { collected with senderIp := other } := by
  induction rounds generalizing senderIp with
  | nil => exact ⟨senderIp, .nil⟩
  | cons round _ ih =>
    rcases round.withSenderIp senderIp with ⟨middle, first⟩
    rcases ih middle with ⟨other, rest⟩
    exact ⟨other, .cons first rest⟩

/-- The bodies of the entries that the parser appends, the first with the given index. -/
def invalidationBodies (clock : Nat → Nat) (index : Nat) (seqIds : List Nat) : List (List Byte) :=
  (seqIds.zipIdx index).map fun (seqId, index) =>
    (fileInvalidation { timestamp := clock index, seqId }).body

theorem invalidationEntries_eq (clock : Nat → Nat) (seqIds : List Nat) :
    invalidationEntries clock seqIds =
      ((invalidationBodies clock 0 seqIds).map frame).flatten := by
  unfold invalidationEntries invalidationBodies
  rw [List.map_map]
  rfl

theorem invalidationBodies_framed (clock : Nat → Nat) (index : Nat) (seqIds : List Nat) :
    ∀ body ∈ invalidationBodies clock index seqIds, WellFramed body := by
  intro body member
  rcases List.mem_map.mp member with ⟨⟨seqId, place⟩, _, rfl⟩
  apply wellFramed_body
  have timestamp := varU64_length_le (clock place)
  have number := varU64_length_le seqId
  have limit : kMaxEntryLength = 4129 := rfl
  change (varU64 (clock place) ++ varU64 seqId).length + 3 ≤ kMaxEntryLength
  rw [List.length_append]
  omega

theorem rounds_invalidations (inRange : ∀ index, clock index ≤ int64Max)
    {seqIds : List Nat} (collects : Collects parser disk parsed)
    (keys : parsed.invalidSeqIds.keys = seqIds) (index : Nat) :
    ∃ cleaned, Rounds parser disk .ok parsed (invalidationBodies clock index seqIds) .ok
        cleaned ∧
      cleaned.fileInfoMap = parsed.fileInfoMap ∧ cleaned.invalidSeqIds.keys = [] := by
  induction seqIds generalizing parsed index with
  | nil => exact ⟨parsed, .nil, rfl, keys⟩
  | cons seqId rest ih =>
    have invalid : parsed.invalidSeqIds.contains seqId = true := by
      apply SortedMap.contains_iff.mpr
      rw [keys]
      exact List.mem_cons_self
    have present : parsed.invalidSeqIds.lookup seqId ≠ none := by
      rcases SortedMap.contains_eq_true_iff.mp invalid with ⟨value, found⟩
      rw [found]
      exact nofun
    rcases collects.headed seqId (.inr present) with ⟨headed, acting⟩
    have decoded : decodeFileInvalidationEntry (fileInvalidation
        { timestamp := clock index, seqId }).fields = some { timestamp := clock index, seqId } :=
      decode_of_inRange ⟨inRange index, collects.invalidSmall seqId present⟩
        (fun _ => rfl) (fun other same => fileInvalidation.inj same)
    have round : Round parser disk .ok parsed
        (fileInvalidation { timestamp := clock index, seqId }).body .ok
        { parsed with
          fileInfoMap := parsed.fileInfoMap.erase seqId
          invalidSeqIds := parsed.invalidSeqIds.erase seqId } :=
      @Round.invalidated parser disk .ok parsed _ _ acting
        nofun headed decoded (.inr invalid)
    have later := ih (round.keeps_collects collects) (SortedMap.keys_erase_head keys) (index + 1)
    rcases later with ⟨cleaned, rounds, sameFiles, none⟩
    refine ⟨cleaned, .cons round rounds, ?_, none⟩
    rw [sameFiles]
    exact SortedMap.erase_of_absent (collects.apart seqId present)

/-! ### Parsing twice -/

variable {senderIp : List Byte}

theorem replay_again (inRange : ∀ index, clock index ≤ int64Max)
    (replayed : parser.replay disk .ok { senderIp } bodies = .ok (.ok, collected))
    (other : List Byte) :
    ∃ cleaned, parser.replay disk .ok { senderIp := other }
        (bodies ++ invalidationBodies clock 0 collected.invalidSeqIds.keys) = .ok (.ok, cleaned) ∧
      cleaned.fileInfoMap = collected.fileInfoMap ∧ cleaned.invalidSeqIds.keys = [] := by
  have rounds := rounds_of_replay replayed nofun
  rcases rounds.withSenderIp other with ⟨last, again⟩
  have collects : Collects parser disk { collected with senderIp := last } :=
    again.keeps_collects (collects_empty { senderIp := other })
  rcases rounds_invalidations inRange collects rfl 0 with ⟨cleaned, more, sameFiles, none⟩
  exact ⟨cleaned, (again.append more).replay_eq, sameFiles, none⟩

theorem finishParse_ok (clock : Nat → Nat) (parsed : ParsedLog) (file : LogFile) :
    finishParse clock .ok parsed file =
      { status := .ok
        senderIp := parsed.senderIp
        fileChunksInfo := parsed.fileInfoMap.values.map mergeChunks
        file := writeFileInvalidationEntries clock file parsed.invalidSeqIds.keys } :=
  if_pos rfl

theorem parseLog_left {contents : List Byte} {result : ParseResult}
    (parsed : parser.parseLog disk clock senderIp { contents } = .ok result)
    (ok : result.status = .ok) :
    ∃ collected tail, TornTail tail ∧ (parser.parseOnly = true ∨ tail = []) ∧
      parser.replay disk .ok { senderIp } (logBodies contents) = .ok (.ok, collected) ∧
      result.fileChunksInfo = collected.fileInfoMap.values.map mergeChunks ∧
      result.file.contents = ((logBodies contents ++
        invalidationBodies clock 0 collected.invalidSeqIds.keys).map frame).flatten ++ tail ∧
      result.senderIp = collected.senderIp := by
  rcases parseLog_valid parsed (by rw [ok]; exact nofun) with
    ⟨tail, collected, torn, shape, replayed, finished⟩
  rw [ok] at replayed finished
  rw [finishParse_ok] at finished
  cases printing : parser.parseOnly with
  | true =>
    have nothing := replay_parseOnly printing (by decide : ErrorCode.ok ≠ .invalidLog) replayed
    refine ⟨collected, tail, torn, .inl rfl, replayed, by rw [finished], ?_,
      by rw [finished]⟩
    rw [finished, nothing, printing, if_pos rfl]
    change contents = ((logBodies contents ++ []).map frame).flatten ++ tail
    rw [List.append_nil]
    exact shape
  | false =>
    refine ⟨collected, [], .inl rfl, .inr rfl, replayed, by rw [finished], ?_,
      by rw [finished]⟩
    rw [finished, printing, if_neg Bool.false_ne_true, writeFileInvalidationEntries_atEnd,
      invalidationEntries_eq, List.map_append, List.flatten_append, List.append_nil]

theorem parseLog_replayed {tail : List Byte} (clock : Nat → Nat)
    (framed : ∀ body ∈ bodies, WellFramed body) (torn : TornTail tail)
    (replayed : parser.replay disk .ok { senderIp } bodies = .ok (.ok, collected)) :
    ∃ result, parser.parseLog disk clock senderIp
        { contents := (bodies.map frame).flatten ++ tail } = .ok result ∧
      result.status = .ok ∧
      result.fileChunksInfo = collected.fileInfoMap.values.map mergeChunks ∧
      result.senderIp = collected.senderIp ∧
      (parser.parseOnly = true ∨ tail = [] → collected.invalidSeqIds.keys = [] →
        result.file.contents = (bodies.map frame).flatten ++ tail) := by
  have loop := @parseLog_log parser disk bodies tail framed torn clock senderIp
  rw [replayed] at loop
  rcases loop with ⟨file, parsed, kept, _⟩
  rw [finishParse_ok] at parsed
  refine ⟨_, parsed, rfl, rfl, rfl, ?_⟩
  intro cut none
  rw [none]
  change file.contents = _
  rw [kept nofun]
  cases printing : parser.parseOnly with
  | true => rw [if_pos rfl]
  | false =>
    rcases cut with printed | nothing
    · rw [printing] at printed
      cases printed
    · rw [if_neg Bool.false_ne_true, nothing, List.append_nil]

end LogParser

/-! ### The manager -/

theorem LogFile.eq_of_position_zero {file : LogFile} (atStart : file.position = 0) :
    file = { contents := file.contents } := by
  rw [← atStart]

namespace LogManager

theorem parseVerifyAndFix_ok {manager : LogManager} {disk : Directory}
    {parseOnly : Bool} {fixed : LogManager} {chunks : List FileChunksInfo}
    (parsed : manager.parseVerifyAndFix disk clock parseOnly = .ok (.ok, fixed, chunks)) :
    manager.isOpen = true ∧ ∃ result,
      (manager.parser parseOnly).parseLog disk clock manager.senderIp manager.file =
        .ok result ∧ result.status = .ok ∧ result.fileChunksInfo = chunks ∧
      fixed = { manager with
        resumptionStatus := .ok
        senderIp := result.senderIp
        file := result.file } := by
  unfold parseVerifyAndFix at parsed
  cases opened : manager.isOpen with
  | false =>
    rw [opened] at parsed
    cases parsed
  | true =>
    rw [opened] at parsed
    refine ⟨rfl, ?_⟩
    cases outcome : (manager.parser parseOnly).parseLog disk clock manager.senderIp
        manager.file with
    | error check =>
      rw [outcome] at parsed
      cases parsed
    | ok result =>
      rw [outcome] at parsed
      simp only [Bool.not_true, Bool.false_eq_true, if_false, Except.map, Except.ok.injEq,
        Prod.mk.injEq] at parsed
      rcases parsed with ⟨ok, same, found⟩
      refine ⟨result, rfl, ok, found, ?_⟩
      rw [ok, if_neg nofun, if_neg (fun both => nomatch both.1)] at same
      exact same.symm

theorem parseVerifyAndFix_of_parseLog {manager : LogManager} {disk : Directory}
    {clock : Nat → Nat} {parseOnly : Bool} {result : LogParser.ParseResult}
    (isOpen : manager.isOpen = true)
    (parsed : (manager.parser parseOnly).parseLog disk clock manager.senderIp manager.file =
      .ok result) (ok : result.status = .ok) :
    manager.parseVerifyAndFix disk clock parseOnly = .ok (.ok, { manager with
      resumptionStatus := .ok
      senderIp := result.senderIp
      file := result.file }, result.fileChunksInfo) := by
  unfold parseVerifyAndFix
  rw [isOpen, parsed]
  simp only [Bool.not_true, Bool.false_eq_true, if_false, Except.map, ok]
  rw [if_neg nofun, if_neg (fun both => nomatch both.1)]

theorem rounds_of_parse {manager fixed : LogManager} {disk : Directory}
    {parseOnly : Bool} {chunks : List FileChunksInfo} (fromStart : manager.file.position = 0)
    (parsed : manager.parseVerifyAndFix disk clock parseOnly = .ok (.ok, fixed, chunks)) :
    ∃ collected, LogParser.Rounds (manager.parser parseOnly) disk .ok
        { senderIp := manager.senderIp } (logBodies manager.file.contents) .ok collected ∧
      chunks = collected.fileInfoMap.values.map mergeChunks ∧
      fixed.senderIp = collected.senderIp := by
  rcases parseVerifyAndFix_ok parsed with ⟨_, result, first, ok, found, same⟩
  rw [LogFile.eq_of_position_zero fromStart] at first
  rcases LogParser.parseLog_left first ok with ⟨collected, _, _, _, replayed, files, _, sender⟩
  have rounds := LogParser.rounds_of_replay replayed nofun
  refine ⟨collected, rounds, ?_, ?_⟩
  · rw [← found]
    exact files
  · rw [same]
    exact sender

/-- Whatever the log holds: once it was parsed with success, a parser of the same transfer finds
the same chunks in it and leaves every byte of it. -/
theorem parse_after_fix_changes_nothing {manager fixed : LogManager} {disk : Directory}
    {clock : Nat → Nat} {parseOnly : Bool} {chunks : List FileChunksInfo}
    (fromStart : manager.file.position = 0) (inRange : ∀ index, clock index ≤ int64Max)
    (parsed : manager.parseVerifyAndFix disk clock parseOnly = .ok (.ok, fixed, chunks))
    {reopened : LogManager} (isOpen : reopened.isOpen = true)
    (sameTransfer : reopened.parser parseOnly = manager.parser parseOnly)
    (sameLog : reopened.file = { contents := fixed.file.contents }) (later : Nat → Nat) :
    ∃ again, reopened.parseVerifyAndFix disk later parseOnly = .ok (.ok, again, chunks) ∧
      again.file.contents = fixed.file.contents := by
  rcases parseVerifyAndFix_ok parsed with ⟨_, result, first, ok, found, same⟩
  rw [LogFile.eq_of_position_zero fromStart] at first
  rcases LogParser.parseLog_left first ok with
    ⟨collected, tail, torn, cut, replayed, files, left, _⟩
  rcases LogParser.replay_again inRange replayed reopened.senderIp with
    ⟨cleaned, replayedAgain, sameFiles, none⟩
  have framed : ∀ body ∈ logBodies manager.file.contents ++
      LogParser.invalidationBodies clock 0 collected.invalidSeqIds.keys, WellFramed body :=
    List.forall_mem_append.mpr ⟨(bodiesFrom_split (le_refl manager.file.contents.length)).1,
      LogParser.invalidationBodies_framed clock 0 _⟩
  rcases LogParser.parseLog_replayed later framed torn replayedAgain with
    ⟨again, second, okAgain, sameChunks, _, unchanged⟩
  have sameContents := unchanged cut none
  rw [← left, ← sameTransfer] at second
  rw [← left] at sameContents
  have contents : fixed.file.contents = result.file.contents := by
    rw [same]
  rw [contents] at sameLog
  rw [← sameLog] at second
  have reparsed := parseVerifyAndFix_of_parseLog isOpen second okAgain
  rw [sameChunks, sameFiles, ← files, found] at reparsed
  exact ⟨_, reparsed, by rw [contents]; exact sameContents⟩

/-- The log of two files with one more entry. -/
def twoFilesLog (last : LogEntry) : List Byte :=
  (([.header { timestamp := 1, recoveryId := [0x72], senderIp := [0x73], config := 3 },
    .fileCreation { timestamp := 2, fileName := [0x66], seqId := 0, fileSize := 10 },
    .fileCreation { timestamp := 3, fileName := [0x67], seqId := 1, fileSize := 10 },
    last] : List LogEntry).map bytes).flatten

def tornManager : LogManager := sampleManager
  (twoFilesLog (.blockWrite { timestamp := 4, seqId := 0, offset := 0, blockSize := 4 }) ++ [9])

/-- It is parsed when the second file is gone. -/
def oneFileDirectory : Directory := fun name => if name = [0x66] then some 10 else none

def fixedManager : LogManager :=
  { tornManager with
    senderIp := [0x73]
    file :=
      { contents := tornManager.file.contents.dropLast ++
          (fileInvalidation { timestamp := 7, seqId := 1 }).bytes
        position := 38 } }

theorem parse_after_fix_of_torn_log :
    tornManager.parseVerifyAndFix oneFileDirectory (fun _ => 7) false = .ok (.ok, fixedManager,
        [{ seqId := 0, fileName := [0x66], fileSize := 10,
           chunks := [{ start := 0, stop := 4 }] }]) ∧
    ∃ again, parseVerifyAndFix
        { tornManager with file := { contents := fixedManager.file.contents } }
        oneFileDirectory (fun _ => 8) false =
      .ok (.ok, again,
        [{ seqId := 0, fileName := [0x66], fileSize := 10,
           chunks := [{ start := 0, stop := 4 }] }]) ∧
      again.file.contents = fixedManager.file.contents :=
  have parsed : tornManager.parseVerifyAndFix oneFileDirectory (fun _ => 7) false =
      .ok (.ok, fixedManager,
        [{ seqId := 0, fileName := [0x66], fileSize := 10,
           chunks := [{ start := 0, stop := 4 }] }]) := by decide +kernel
  ⟨parsed, @parse_after_fix_changes_nothing tornManager fixedManager oneFileDirectory _ false _
    rfl (fun _ => by decide) parsed
    { tornManager with file := { contents := fixedManager.file.contents } } rfl rfl rfl _⟩

end LogManager

end Wdt
