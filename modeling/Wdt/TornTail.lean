/-
Recovery of a log whose last write was cut off: the parser answers as if the cut
entry had never been started, and in the mode that fixes the log it also leaves the
file so.
-/

import Wdt.LogRounds

namespace Wdt

open List LogEntry

/-- The entries of which no byte is behind the cut. -/
def wholeEntries : List (List Byte) → (cut : Nat) → List (List Byte)
  | [], _ => []
  | body :: rest, cut =>
    if (frame body).length ≤ cut then body :: wholeEntries rest (cut - (frame body).length)
    else []

/-- Nothing, or the start of an entry without its last byte. -/
def TornTail (tail : List Byte) : Prop :=
  tail = [] ∨ ∃ body, WellFramed body ∧ tail <+: frame body ∧ tail.length < (frame body).length

theorem wholeEntries_sublist (bodies : List (List Byte)) (cut : Nat) :
    wholeEntries bodies cut <+: bodies := by
  induction bodies generalizing cut with
  | nil => exact prefix_refl []
  | cons body rest ih =>
    unfold wholeEntries
    by_cases fits : (frame body).length ≤ cut
    · rw [if_pos fits]
      exact cons_prefix_cons.mpr ⟨rfl, ih _⟩
    · rw [if_neg fits]
      exact nil_prefix

variable {bodies : List (List Byte)}

theorem take_frames (framed : ∀ body ∈ bodies, WellFramed body) (cut : Nat) :
    ∃ tail, TornTail tail ∧ (bodies.map frame).flatten.take cut =
      ((wholeEntries bodies cut).map frame).flatten ++ tail := by
  induction bodies generalizing cut with
  | nil => exact ⟨[], .inl rfl, take_nil⟩
  | cons body rest ih =>
    rw [map_cons, flatten_cons, take_append]
    unfold wholeEntries
    by_cases fits : (frame body).length ≤ cut
    · rcases ih (forall_mem_cons.mp framed).2
        (cut - (frame body).length) with ⟨tail, torn, shape⟩
      refine ⟨tail, torn, ?_⟩
      rw [if_pos fits, shape, take_of_length_le fits, map_cons, flatten_cons,
        append_assoc]
    refine ⟨(frame body).take cut, .inr ⟨body, framed body mem_cons_self,
      take_prefix cut (frame body), ?_⟩, ?_⟩
    · rw [length_take]
      omega
    · rw [if_neg fits, Nat.sub_eq_zero_of_le (by omega), take_zero, append_nil]
      rfl

namespace LogParser

variable {parser : LogParser} {disk : Directory}

theorem parseEntries_tail {file : LogFile} {tail : List Byte} (torn : TornTail tail)
    (shape : file.ahead = tail) (within : file.position ≤ file.contents.length) (rounds : Nat)
    (status : ErrorCode) (parsed : ParsedLog) :
    parser.parseEntries disk (rounds + 1) status parsed file =
      .ok (status, parsed, if parser.parseOnly then
          { file with position := file.contents.length }
        else { contents := file.contents.take file.position, position := file.position }) := by
  have length : file.contents.length = file.position + tail.length := by
    rw [← shape, LogFile.ahead, length_drop]
    omega
  by_cases nothing : tail = []
  · rw [parseEntries, readEntry_end (by rw [shape, nothing])]
    rw [nothing, length_nil, Nat.add_zero] at length
    have all : file.contents.take file.position = file.contents := by
      rw [← length, take_length]
    rw [all, length, ite_self]
  · rcases torn with empty | ⟨body, framed, start, cut⟩
    · exact absurd empty nothing
    · rw [parseEntries, readEntry_torn framed start cut nothing shape]
      unfold LogFile.truncateExtraBytesAtEnd
      dsimp only
      rw [length, Nat.add_sub_cancel]

/-- One of the entries creates the file of the seq-id, and the file is missing or, where files
are preallocated, shorter than the entry says. -/
def FailsCheck (parser : LogParser) (disk : Directory) (bodies : List (List Byte))
    (seqId : Nat) : Prop :=
  ∃ body ∈ bodies, ∃ buf entry, body = EntryType.fileCreation.toByte :: buf ∧
    decodeFileCreationEntry buf = some entry ∧ entry.seqId = seqId ∧
    (disk entry.fileName = none ∨ (parser.shouldPreallocateFiles = true ∧
      ∃ size, disk entry.fileName = some size ∧ size < entry.fileSize))

theorem verifiedSize_eq_none {entry : FileCreation}
    (failed : parser.verifiedSize disk entry = none) :
    disk entry.fileName = none ∨ (parser.shouldPreallocateFiles = true ∧
      ∃ size, disk entry.fileName = some size ∧ size < entry.fileSize) := by
  unfold verifiedSize at failed
  cases found : disk entry.fileName with
  | none => exact .inl rfl
  | some size =>
    rw [found] at failed
    dsimp only at failed
    split at failed
    · rename_i short
      rw [Bool.and_eq_true, decide_eq_true_eq] at short
      exact .inr ⟨short.1, size, rfl, short.2⟩
    · cases failed

variable {seqId : Nat}

theorem FailsCheck.mono {more : List (List Byte)} (fails : FailsCheck parser disk bodies seqId)
    (included : ∀ body ∈ bodies, body ∈ more) : FailsCheck parser disk more seqId := by
  rcases fails with ⟨body, member, details⟩
  exact ⟨body, included body member, details⟩

variable {collected : ParsedLog} {after : ErrorCode}

theorem Round.fails_of_invalid {status : ErrorCode} {parsed : ParsedLog}
    {body : List Byte} (round : Round parser disk status parsed body after collected)
    (present : collected.invalidSeqIds.contains seqId = true) :
    parsed.invalidSeqIds.contains seqId = true ∨ (parser.parseOnly = false ∧
      FailsCheck parser disk [body] seqId) := by
  cases round with
  | skipped | printed | header | created | resized | ignored | written => exact .inl present
  | otherHeader | directoryInvalidation => cases present
  | refused acting _ _ decoded _ _ failed =>
    rw [SortedMap.contains, SortedMap.lookup_emplace] at present
    split at present
    case isTrue same =>
      exact .inr ⟨acting.1, _, mem_singleton_self _, _, _, rfl, decoded, same.symm,
        verifiedSize_eq_none failed⟩
    case isFalse => exact .inl present
  | invalidated =>
    rw [SortedMap.contains, SortedMap.lookup_erase] at present
    split at present
    · cases present
    · exact .inl present

theorem Rounds.fails_of_invalid {status : ErrorCode} {parsed : ParsedLog}
    (rounds : Rounds parser disk status parsed bodies after collected)
    (present : collected.invalidSeqIds.contains seqId = true) :
    parsed.invalidSeqIds.contains seqId = true ∨ (parser.parseOnly = false ∧
      FailsCheck parser disk bodies seqId) := by
  induction rounds with
  | nil => exact .inl present
  | cons round _ ih =>
    rcases ih present with added | ⟨fixing, fails⟩
    · rcases round.fails_of_invalid added with old | ⟨fixing, fails⟩
      · exact .inl old
      · exact .inr ⟨fixing, fails.mono (by simp)⟩
    · exact .inr ⟨fixing, fails.mono fun _ member => mem_cons_of_mem _ member⟩

/-! ### The result of parsing -/

theorem finishParse_fileChunksInfo (clock : Nat → Nat) (status : ErrorCode) (parsed : ParsedLog)
    (file other : LogFile) : (finishParse clock status parsed file).fileChunksInfo =
      (finishParse clock status parsed other).fileChunksInfo := by
  unfold finishParse
  split <;> rfl

theorem parseLog_log {bodies : List (List Byte)} {tail : List Byte}
    (framed : ∀ body ∈ bodies, WellFramed body) (torn : TornTail tail) (clock : Nat → Nat)
    (senderIp : List Byte) :
    match parser.replay disk .ok { senderIp } bodies with
    | .error check =>
      parser.parseLog disk clock senderIp
        { contents := (bodies.map frame).flatten ++ tail } = .error check
    | .ok (after, collected) => ∃ file,
        parser.parseLog disk clock senderIp
          { contents := (bodies.map frame).flatten ++ tail } =
            .ok (finishParse clock after collected file) ∧
        (after ≠ .invalidLog → file = if parser.parseOnly then
            { contents := (bodies.map frame).flatten ++ tail
              position := ((bodies.map frame).flatten ++ tail).length }
          else
            { contents := (bodies.map frame).flatten
              position := (bodies.map frame).flatten.length }) ∧
        (after = .invalidLog → file.contents = (bodies.map frame).flatten ++ tail) := by
  obtain ⟨rounds, position, parsed⟩ :=
    @parseLog_frames parser disk _ framed tail clock senderIp
  revert parsed
  cases parser.replay disk .ok { senderIp } bodies with
  | error check => exact id
  | ok pair =>
    obtain ⟨after, collected⟩ := pair
    intro parsed
    dsimp only at parsed ⊢
    by_cases invalid : after = .invalidLog
    · rw [if_pos invalid] at parsed
      exact ⟨_, parsed, fun valid => absurd invalid valid, fun _ => rfl⟩
    rw [if_neg invalid, parseEntries_tail torn (ahead_frames bodies tail)
      (by rw [length_append]; exact Nat.le_add_right _ _)] at parsed
    refine ⟨_, parsed, fun _ => ?_, fun same => absurd same invalid⟩
    rw [take_left]

theorem fails_of_replay {senderIp : List Byte} (valid : after ≠ .invalidLog)
    (replayed : parser.replay disk .ok { senderIp } bodies = .ok (after, collected)) :
    ∀ seqId ∈ collected.invalidSeqIds.keys,
      parser.parseOnly = false ∧ FailsCheck parser disk bodies seqId := by
  intro seqId present
  rcases (rounds_of_replay replayed valid).fails_of_invalid (SortedMap.contains_iff.mpr present)
    with old | fails
  · cases old
  · exact fails

theorem replay_parseOnly
    {senderIp : List Byte} (printing : parser.parseOnly = true) (valid : after ≠ .invalidLog)
    (replayed : parser.replay disk .ok { senderIp } bodies = .ok (after, collected)) :
    collected.invalidSeqIds.keys = [] := by
  apply eq_nil_iff_forall_not_mem.mpr
  intro seqId present
  have fixing := (fails_of_replay valid replayed seqId present).1
  rw [printing] at fixing
  cases fixing

/-- Cut a log at any byte. The parser returns the status and the chunks of the whole entries
before the cut. When it fixes the log, and does not find it invalid, the file is those entries
and then invalidation entries, only of files that failed their check, with the offset at the
end; when it only prints, the file stays as it was. -/
theorem torn_tail_recovery (parser : LogParser) (disk : Directory) (clock : Nat → Nat)
    (senderIp : List Byte) {bodies : List (List Byte)}
    (framed : ∀ body ∈ bodies, WellFramed body) (cut : Nat) :
    let log := (bodies.map frame).flatten.take cut
    let whole := ((wholeEntries bodies cut).map frame).flatten
    (parser.parseLog disk clock senderIp { contents := log }).map
        (fun result => (result.status, result.fileChunksInfo)) =
      (parser.parseLog disk clock senderIp { contents := whole }).map
        (fun result => (result.status, result.fileChunksInfo)) ∧
    ∀ result, parser.parseLog disk clock senderIp { contents := log } = .ok result →
      (parser.parseOnly = true → result.file.contents = log) ∧
      (parser.parseOnly = false → result.status ≠ .invalidLog → ∃ seqIds,
        result.file.contents = whole ++ invalidationEntries clock seqIds ∧
        result.file.position = result.file.contents.length ∧
        ∀ seqId ∈ seqIds, FailsCheck parser disk (wholeEntries bodies cut) seqId) := by
  dsimp only
  have framedWhole : ∀ body ∈ wholeEntries bodies cut, WellFramed body :=
    fun body member => framed body ((wholeEntries_sublist bodies cut).subset member)
  rcases take_frames framed cut with ⟨tail, torn, shape⟩
  have ofTorn := @parseLog_log parser disk _ tail framedWhole torn clock senderIp
  have ofWhole := @parseLog_log parser disk _ [] framedWhole (.inl rfl) clock senderIp
  rw [append_nil] at ofWhole
  rw [shape]
  cases replayed : parser.replay disk .ok { senderIp } (wholeEntries bodies cut) with
  | error check =>
    rw [replayed] at ofTorn ofWhole
    rw [ofTorn, ofWhole]
    exact ⟨rfl, nofun⟩
  | ok pair =>
    obtain ⟨after, collected⟩ := pair
    rw [replayed] at ofTorn ofWhole
    rcases ofTorn with ⟨file, parsedTorn, kept, left⟩
    rcases ofWhole with ⟨other, parsedWhole, _, _⟩
    rw [parsedTorn, parsedWhole]
    constructor
    · simp only [Except.map, finishParse_status, finishParse_fileChunksInfo clock after collected
        file other]
    · intro result same
      cases same
      rw [finishParse_status]
      constructor
      · intro printing
        have contents : file.contents = ((wholeEntries bodies cut).map frame).flatten ++ tail := by
          by_cases invalid : after = .invalidLog
          · exact left invalid
          · rw [kept invalid, if_pos printing]
        unfold finishParse
        split
        case isTrue ok =>
          rw [replay_parseOnly printing (by rw [ok]; decide) replayed]
          exact contents
        case isFalse => exact contents
      · intro fixing valid
        have fixed := kept valid
        rw [if_neg (by rw [fixing]; exact Bool.false_ne_true)] at fixed
        unfold finishParse
        split
        · refine ⟨collected.invalidSeqIds.keys, ?_, ?_, fun seqId present =>
            (fails_of_replay valid replayed seqId present).2⟩
          · rw [fixed, writeFileInvalidationEntries_atEnd]
          · rw [fixed, writeFileInvalidationEntries_atEnd]
        refine ⟨[], ?_, ?_, nofun⟩
        · rw [fixed]
          exact (append_nil _).symm
        · rw [fixed]

def sampleEntries : List LogEntry :=
  [.header { timestamp := 1, recoveryId := [0x72], senderIp := [0x73], config := 3 },
    .fileCreation { timestamp := 2, fileName := [0x66], seqId := 0, fileSize := 10 }]

def sampleParser : LogParser := { recoveryId := [0x72], config := 3 }

theorem torn_tail_recovery_sample : (∀ body ∈ sampleEntries.map LogEntry.body, WellFramed body) ∧
    (sampleParser.parseLog (fun _ => some 10) id []
        { contents := ((sampleEntries.map LogEntry.body).map frame).flatten.take 17 }).map
        (fun result => (result.status, result.fileChunksInfo)) =
      (sampleParser.parseLog (fun _ => some 10) id []
        { contents :=
            ((wholeEntries (sampleEntries.map LogEntry.body) 17).map frame).flatten }).map
        (fun result => (result.status, result.fileChunksInfo)) :=
  have framed : ∀ body ∈ sampleEntries.map LogEntry.body, WellFramed body := by decide +kernel
  ⟨framed, (torn_tail_recovery sampleParser (fun _ => some 10) id [] framed 17).1⟩

/-- The file of the log is there, five bytes long, and yet an invalidation entry is appended for
it. And a parser that only prints leaves a torn byte in place. -/
theorem short_file_invalidated : (sampleParser.parseLog (fun _ => some 5) (fun _ => 7) []
        { contents := (sampleEntries.map bytes).flatten }).map
        (fun result => (result.status, result.file.contents)) =
      .ok (.ok, (sampleEntries.map bytes).flatten ++
        (fileInvalidation { timestamp := 7, seqId := 0 }).bytes) ∧
    (LogParser.parseLog { sampleParser with parseOnly := true } (fun _ => some 10) id []
        { contents := (sampleEntries.map bytes).flatten ++ [9] }).map
        (fun result => (result.status, result.file.contents)) =
      .ok (.ok, (sampleEntries.map bytes).flatten ++ [9]) := by
  decide +kernel

end LogParser

end Wdt
