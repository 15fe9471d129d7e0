/-
The parser and a log of any contents: entries are read back as they were written, the
recorded sizes follow the collected files up to the first invalidation of a collected
file, and nothing but a block whose end overflows makes a check of the parser fail.
-/

import Wdt.StaleEntries
import Mathlib.Data.List.Induction

namespace Wdt

open List SortedMap LogEntry

namespace LogParser

/-- The entries that the reads of the loop find. -/
def readEntries : (rounds : Nat) → LogFile → List (List Byte)
  | 0, _ => []
  | rounds + 1, file =>
    match readEntry file with
    | (.entry body, file) => body :: readEntries rounds file
    | _ => []

theorem readEntries_frames {bodies : List (List Byte)} {file : LogFile} {rounds : Nat}
    (framed : ∀ body ∈ bodies, WellFramed body) (shape : file.ahead = (bodies.map frame).flatten)
    (enough : bodies.length ≤ rounds) : readEntries rounds file = bodies := by
  induction bodies generalizing file rounds with
  | nil =>
    cases rounds with
    | zero => rfl
    | succ rounds => rw [readEntries, readEntry_end shape]
  | cons body rest ih =>
    obtain ⟨more, rfl⟩ := Nat.exists_eq_succ_of_ne_zero (Nat.ne_zero_of_lt enough)
    rw [readEntries, readEntry_frame (framed body mem_cons_self) shape]
    dsimp only
    rw [ih (forall_mem_cons.mp framed).2
        (LogFile.ahead_advance shape) (Nat.le_of_succ_le_succ enough)]

/-- What the encoders write for each entry is its length, its type and fields that the decoder of
the type reads whole; and the reads of the loop find the entries of any concatenation again. -/
theorem entries_read_back {entries : List LogEntry} {written : List (List Byte)}
    (inRange : ∀ entry ∈ entries, entry.InRange)
    (encoded : entries.map (encode kMaxEntryLength) = written.map some) :
    (∀ entry ∈ entries, ∃ fields,
      entry.encode kMaxEntryLength =
        some (leBytes 2 (fields.length + 1) ++ entry.type.toByte :: fields) ∧
      loadSigned (leBytes 2 (fields.length + 1)) = (fields.length + 1 : Nat) ∧
      EntryType.ofByte entry.type.toByte = some entry.type ∧
      decodeEntry entry.type fields = some entry) ∧
    ∀ rounds, entries.length ≤ rounds →
      (readEntries rounds { contents := written.flatten }).map entryOf = entries.map some := by
  have fits : ∀ entry ∈ entries, entry.bytes.length ≤ kMaxEntryLength := by
    intro entry member
    have listed := mem_map_of_mem (f := encode kMaxEntryLength) member
    rw [encoded, encode_eq] at listed
    by_contra large
    simp [large] at listed
  have bytes : written = entries.map LogEntry.bytes := by
    apply map_injective_iff.mpr (Option.some_injective _)
    rw [← encoded, map_map]
    exact map_congr_left fun entry member =>
      (encode_eq _ entry).trans (if_pos (fits entry member))
  constructor
  · intro entry member
    refine ⟨entry.fields, ?_, loadSigned_size (wellFramed_body (fits entry member)),
      EntryType.ofByte_toByte _, decodeEntry_fields (inRange entry member)⟩
    rw [encode_eq, if_pos (fits entry member)]
    rfl
  · intro rounds enough
    have read := @readEntries_frames (entries.map LogEntry.body)
      { contents := (entries.map LogEntry.bytes).flatten } rounds
      (forall_mem_map.mpr fun entry member => wellFramed_body (fits entry member))
      (by rw [map_map]; rfl) (by rwa [length_map])
    rw [bytes, read, map_map]
    exact map_congr_left fun entry member =>
      (entryOf_typed entry.type entry.fields).trans (decodeEntry_fields (inRange entry member))

theorem entries_read_back_sample : sampleEntries.length ≤ 2 ∧
    (readEntries 2 { contents := (sampleEntries.map LogEntry.bytes).flatten }).map entryOf =
      sampleEntries.map some :=
  ⟨le_refl 2, (@entries_read_back sampleEntries (sampleEntries.map LogEntry.bytes)
    (by decide +kernel) (by decide +kernel)).2 2 (le_refl 2)⟩

variable {parser : LogParser} {disk : Directory} {status after : ErrorCode}
  {parsed collected : ParsedLog} {body : List Byte} {bodies : List (List Byte)}
  {senderIp : List Byte}

/-! ### The sizes and the files -/

/-- Where there is a file, its size is recorded. -/
def SizesRecorded (parsed : ParsedLog) : Prop :=
  ∀ seqId, parsed.fileInfoMap.lookup seqId ≠ none → parsed.seqIdToSizeMap.lookup seqId ≠ none

theorem Round.keeps_sizes (round : Round parser disk status parsed body after collected)
    (recorded : SizesRecorded parsed) : SizesRecorded collected := by
  cases round with
  | skipped | printed | header | refused | ignored => exact recorded
  | otherHeader | directoryInvalidation => exact nofun
  | created =>
    intro seqId
    rw [lookup_emplace, lookup_emplace]
    split
    · exact fun _ => nofun
    · exact recorded seqId
  | resized =>
    intro seqId found
    rw [lookup_set]
    split
    · exact nofun
    · exact recorded seqId found
  | written _ _ _ _ _ known =>
    intro seqId
    rw [lookup_set]
    split
    · next same => exact fun _ => recorded seqId (by rw [same, known]; exact nofun)
    · exact recorded seqId
  | invalidated =>
    intro seqId
    rw [lookup_erase]
    split
    · exact fun absent => absurd rfl absent
    · exact recorded seqId

/-- What every state has that the loop reaches from the start. -/
structure Reached (parser : LogParser) (disk : Directory) (status : ErrorCode)
    (parsed : ParsedLog) : Prop where
  standing : status = .ok ∨ status = .inconsistentDirectory
  collects : Collects parser disk parsed
  forgetful : Forgetful status parsed
  recorded : SizesRecorded parsed

theorem Reached.step (reached : Reached parser disk status parsed)
    (round : Round parser disk status parsed body after collected) :
    Reached parser disk after collected where
  standing := round.status_eq
  collects := round.keeps_collects reached.collects
  forgetful := round.keeps_forgetful reached.forgetful
  recorded := round.keeps_sizes reached.recorded

theorem reached_start (parser : LogParser) (disk : Directory) (senderIp : List Byte) :
    Reached parser disk .ok { senderIp } :=
  ⟨.inl rfl, collects_empty { senderIp }, nofun, nofun⟩

theorem Rounds.reached (rounds : Rounds parser disk .ok { senderIp } bodies after collected) :
    Reached parser disk after collected :=
  rounds.invariant (fun round kept => kept.step round) (reached_start parser disk senderIp)

theorem Reached.valid (reached : Reached parser disk status parsed) :
    status ≠ .invalidLog := by
  rcases reached.standing with rfl | rfl
  · exact nofun
  · exact nofun

theorem Reached.acting (reached : Reached parser disk status parsed) {seqId : Nat}
    (present : parsed.fileInfoMap.lookup seqId ≠ none) :
    status ≠ .inconsistentDirectory ∧ parser.Acting ∧ parsed.headerParsed = true ∧
      parsed.invalidSeqIds.contains seqId = false := by
  obtain ⟨headed, acting⟩ := reached.collects.headed seqId (.inl present)
  refine ⟨fun same => ?_, acting, headed, ?_⟩
  · rw [← reached.forgetful same] at present
    exact present rfl
  · rw [contains_eq_false_iff]
    by_contra invalid
    exact present (reached.collects.apart seqId invalid)

/-- What an entry makes of the size that the entries before it give to the seq-id. -/
def sizeAfter (seqId : Nat) (size : Option Nat) (body : List Byte) : Option Nat :=
  match entryOf body with
  | some (.fileCreation entry) => if seqId = entry.seqId then some entry.fileSize else size
  | some (.fileResize entry) => if seqId = entry.seqId then some entry.fileSize else size
  | some (.fileInvalidation entry) => if seqId = entry.seqId then none else size
  | _ => size

def loggedSize (seqId : Nat) (bodies : List (List Byte)) : Option Nat :=
  bodies.foldl (sizeAfter seqId) none

def SizesFollow (bodies : List (List Byte)) (parsed : ParsedLog) : Prop :=
  ∀ seqId, (parsed.seqIdToSizeMap.lookup seqId ≠ none ↔ parsed.fileInfoMap.lookup seqId ≠ none) ∧
    ∀ size, parsed.seqIdToSizeMap.lookup seqId = some size → loggedSize seqId bodies = some size

theorem Round.keeps_following (round : Round parser disk status parsed body after collected)
    (reached : Reached parser disk status parsed) (follow : SizesFollow bodies parsed)
    (spared : ∀ entry, entryOf body = some (.fileInvalidation entry) →
      parsed.fileInfoMap.lookup entry.seqId = none) :
    SizesFollow (bodies ++ [body]) collected := by
  intro seqId
  obtain ⟨live, logged⟩ := follow seqId
  have present {size : Nat} (found : parsed.seqIdToSizeMap.lookup seqId = some size) :
      parsed.fileInfoMap.lookup seqId ≠ none := live.mp (by rw [found]; exact nofun)
  rw [loggedSize, foldl_concat, ← loggedSize, sizeAfter]
  cases round with
  | skipped => exact ⟨live, fun size found => absurd rfl (reached.acting (present found)).1⟩
  | printed printing =>
    refine ⟨live, fun size found => ?_⟩
    have acting := (reached.acting (present found)).2.1.1
    rw [printing] at acting
    cases acting
  | header decoded =>
    rw [entryOf_decoded .header rfl decoded]
    exact ⟨live, logged⟩
  | otherHeader | directoryInvalidation => exact ⟨⟨absurd rfl, absurd rfl⟩, nofun⟩
  | @created _ _ _ entry _ _ _ _ decoded uncollected =>
    have absent : parsed.seqIdToSizeMap.lookup entry.seqId = none := by
      by_contra recorded
      exact (follow entry.seqId).1.mp recorded (contains_eq_false_iff.mp uncollected)
    rw [lookup_emplace, lookup_emplace, absent,
      entryOf_decoded .fileCreation rfl decoded]
    by_cases same : seqId = entry.seqId
    · simp [same]
    · simpa [same] using ⟨live, logged⟩
  | @refused _ _ _ entry _ _ _ decoded uncollected =>
    refine ⟨live, fun size found => ?_⟩
    have other : seqId ≠ entry.seqId := by
      rintro rfl
      exact present found (contains_eq_false_iff.mp uncollected)
    rw [entryOf_decoded .fileCreation rfl decoded]
    simpa [other] using logged size found
  | @resized _ _ _ entry _ _ _ _ _ decoded known =>
    rw [lookup_set, entryOf_decoded .fileResize rfl decoded]
    by_cases same : seqId = entry.seqId
    · simp [same, known]
    · simpa [same] using ⟨live, logged⟩
  | ignored _ _ _ decoded =>
    rw [entryOf_decoded .blockWrite rfl decoded]
    exact ⟨live, logged⟩
  | @written _ _ _ entry _ _ _ _ decoded _ known =>
    rw [lookup_set, entryOf_decoded .blockWrite rfl decoded]
    refine ⟨?_, logged⟩
    by_cases same : seqId = entry.seqId
    · simpa [same, known] using live
    · simpa [same] using live
  | @invalidated _ _ _ entry _ _ _ decoded =>
    have read := entryOf_decoded .fileInvalidation rfl decoded
    have absent := spared entry read
    rw [lookup_erase, read]
    by_cases same : seqId = entry.seqId
    · rw [← same] at absent
      have unrecorded : parsed.seqIdToSizeMap.lookup seqId = none := by
        by_contra recorded
        exact live.mp recorded absent
      rw [if_pos same]
      rw [unrecorded]
      exact ⟨⟨absurd rfl, absurd rfl⟩, nofun⟩
    · simpa [same] using ⟨live, logged⟩

/-- The recorded sizes follow the collected files in every prefix of a log if and only if no
entry invalidates a file that is collected when it is read: its size stays, and is taken for that
of the next file with the seq-id. -/
theorem sizes_follow_files_iff (parser : LogParser) (disk : Directory) (senderIp : List Byte)
    (bodies : List (List Byte)) :
    (∀ before, before <+: bodies → ∀ status parsed,
      parser.replay disk .ok { senderIp } before = .ok (status, parsed) →
      status ≠ .invalidLog → SizesFollow before parsed) ↔
    ∀ before body, before ++ [body] <+: bodies → ∀ status parsed,
      parser.replay disk .ok { senderIp } before = .ok (status, parsed) →
      status ≠ .invalidLog → ∀ entry, entryOf body = some (.fileInvalidation entry) →
        parsed.fileInfoMap.lookup entry.seqId = none := by
  constructor
  · intro follow before body within status parsed replayed valid entry read
    by_contra present
    have rounds := rounds_of_replay replayed valid
    obtain ⟨consistent, acting, headed, _⟩ := rounds.reached.acting present
    have recorded := ((follow before ((prefix_append _ _).trans within) status parsed replayed
      valid) entry.seqId).1.mpr present
    obtain ⟨buf, rfl, found⟩ := entryOf_eq_some read
    obtain ⟨_, decoded, same⟩ := Option.map_eq_some_iff.mp found
    cases same
    have round : Round parser disk status parsed _ _ _ :=
      .invalidated acting consistent headed decoded
        (.inl (SortedMap.contains_eq_true_iff.mpr (Option.ne_none_iff_exists'.mp present)))
    have later := (rounds.append (.cons round .nil)).replay_eq
    have erased := ((follow _ within _ _ later nofun) entry.seqId).1.mp recorded
    rw [SortedMap.lookup_erase, if_pos rfl] at erased
    exact erased rfl
  · intro spared before
    induction before using List.reverseRecOn with
    | nil =>
      intro _ status parsed replayed _ seqId
      cases replayed
      exact ⟨⟨absurd rfl, absurd rfl⟩, nofun⟩
    | append_singleton front body ih =>
      intro within status parsed replayed valid
      obtain ⟨middle, between, rounds, last⟩ := (rounds_of_replay replayed valid).split
      cases last with
      | cons round none =>
        cases none
        have earlier := rounds.replay_eq
        exact round.keeps_following rounds.reached
          (ih ((prefix_append _ _).trans within) _ _ earlier rounds.reached.valid)
          (spared front body within _ _ earlier rounds.reached.valid)

def recreatedBodies : List (List Byte) :=
  (sampleEntries ++ [LogEntry.fileInvalidation { timestamp := 3, seqId := 0 },
    LogEntry.fileCreation { timestamp := 4, fileName := [0x66], seqId := 0, fileSize := 4 }]).map
    LogEntry.body

/-- The size of an invalidated file stays recorded, and stands for that of the next one. -/
theorem recreated_file_has_old_size :
    (sampleParser.replay (fun _ => some 10) .ok { senderIp := [] } (recreatedBodies.take 3)).map
        (fun (status, parsed) =>
          (status, parsed.fileInfoMap.lookup 0, parsed.seqIdToSizeMap.lookup 0)) =
      .ok (.ok, none, some 10) ∧
    (sampleParser.replay (fun _ => some 10) .ok { senderIp := [] } recreatedBodies).map
        (fun (status, parsed) => (status, parsed.seqIdToSizeMap.lookup 0)) =
      .ok (.ok, some 10) ∧
    loggedSize 0 recreatedBodies = some 4 := by
  decide +kernel

/-- The end of the block is computed only when its file is collected. -/
def EndFits (parsed : ParsedLog) (body : List Byte) : Prop :=
  ∀ entry, entryOf body = some (.blockWrite entry) →
    parsed.fileInfoMap.lookup entry.seqId ≠ none → entry.offset + entry.blockSize ≤ int64Max

theorem applyBlockWrite_overflow {entry : BlockWrite} {buf : List Byte}
    (decoded : decodeBlockWriteEntry buf = some entry)
    (notInvalid : parsed.invalidSeqIds.contains entry.seqId = false)
    (present : parsed.fileInfoMap.lookup entry.seqId ≠ none)
    (large : int64Max < entry.offset + entry.blockSize) :
    applyBlockWrite parsed entry = .error .intervalOrdered := by
  have small : entry.offset ≤ int64Max ∧ entry.blockSize ≤ int64Max := by
    refine (show Decoder.Yields _ fun entry : BlockWrite =>
      entry.offset ≤ int64Max ∧ entry.blockSize ≤ int64Max from ?_).whole decoded
    refine decodeInt64C_yields.bind fun _ _ => decodeInt64C_yields.bind fun _ _ => ?_
    refine decodeInt64C_yields.bind fun _ offset => decodeInt64C_yields.map fun _ size => ?_
    exact ⟨offset, size⟩
  have limit : int64Max = 2 ^ 63 - 1 := rfl
  obtain ⟨info, known⟩ := Option.ne_none_iff_exists'.mp present
  unfold applyBlockWrite
  rw [notInvalid, known, wrapInt64, if_neg (Nat.not_le.mpr large)]
  dsimp only
  rw [if_neg Bool.false_ne_true, if_neg (by omega), if_pos (by omega)]

theorem processFileEntry_total {α : Type} {decode : List Byte → Option α}
    {apply : ParsedLog → α → Processed} {buf : List Byte}
    (total : ∀ entry, decode buf = some entry → ∃ pair, apply parsed entry = .ok pair) :
    ∃ pair, parser.processFileEntry decode apply parsed buf = .ok pair := by
  unfold processFileEntry
  split
  · exact ⟨_, rfl⟩
  split
  · exact ⟨_, rfl⟩
  · rename_i entry decoded
    split
    · exact ⟨_, rfl⟩
    split
    · exact ⟨_, rfl⟩
    · exact total entry decoded

theorem processTyped_total (recorded : SizesRecorded parsed) {type : EntryType} {buf : List Byte}
    (fits : EndFits parsed (type.toByte :: buf)) :
    ∃ pair, parser.processTyped disk type parsed buf = .ok pair := by
  cases type with
  | header | directoryInvalidation =>
    simp only [processTyped, processHeaderEntry, processDirectoryInvalidationEntry]
    repeat' split
    all_goals exact ⟨_, rfl⟩
  | fileCreation | fileInvalidation =>
    apply processFileEntry_total
    intro entry decoded
    simp only [applyFileCreation, applyFileInvalidation]
    repeat' split
    all_goals exact ⟨_, rfl⟩
  | fileResize =>
    apply processFileEntry_total
    intro entry decoded
    unfold applyFileResize
    split
    · exact ⟨_, rfl⟩
    rename_i info known
    split
    · rename_i absent
      exact absurd absent (recorded _ (by rw [known]; exact Option.some_ne_none _))
    repeat' split
    all_goals exact ⟨_, rfl⟩
  | blockWrite =>
    apply processFileEntry_total
    intro entry decoded
    unfold applyBlockWrite
    split
    · exact ⟨_, rfl⟩
    split
    · exact ⟨_, rfl⟩
    rename_i known
    have sum : wrapInt64 (entry.offset + entry.blockSize) = _ :=
      if_pos (fits entry (entryOf_decoded .blockWrite rfl decoded)
        (by rw [known]; exact Option.some_ne_none _))
    dsimp only
    rw [sum, if_neg (show ¬ ((entry.offset + entry.blockSize : Nat) : Int) < _ by omega)]
    split
    all_goals exact ⟨_, rfl⟩

theorem Reached.processEntry_total_iff (reached : Reached parser disk status parsed) :
    (∃ pair, parser.processEntry disk status parsed body = .ok pair) ↔
      EndFits parsed body := by
  constructor
  · rintro ⟨pair, processed⟩ entry read present
    by_contra large
    obtain ⟨consistent, acting, headed, notInvalid⟩ := reached.acting present
    obtain ⟨buf, rfl, found⟩ := entryOf_eq_some read
    obtain ⟨_, decoded, same⟩ := Option.map_eq_some_iff.mp found
    cases same
    have failed : parser.processTyped disk .blockWrite parsed buf = .error .intervalOrdered :=
      (processFileEntry_decoded acting headed decoded).trans
        (applyBlockWrite_overflow decoded notInvalid present (Nat.not_le.mp large))
    unfold processEntry at processed
    dsimp only at processed
    rw [EntryType.ofByte_toByte, if_neg (fun skipped => consistent skipped.1)] at processed
    dsimp only [LogEntry.type] at processed
    rw [failed] at processed
    cases processed
  · intro fits
    cases body with
    | nil => exact ⟨_, rfl⟩
    | cons byte buf =>
      unfold processEntry
      dsimp only
      split
      · exact ⟨_, rfl⟩
      split
      · exact ⟨_, rfl⟩
      · rename_i type named
        rw [EntryType.toByte_ofByte named] at fits
        obtain ⟨pair, processed⟩ := @processTyped_total parser disk _ reached.recorded _ _ fits
        rw [processed]
        exact ⟨_, rfl⟩

/-! ### Any contents -/

/-- The end fits of each block that is reached when the entries are processed. -/
def EndsFit (parser : LogParser) (disk : Directory) :
    ErrorCode → ParsedLog → List (List Byte) → Prop
  | _, _, [] => True
  | status, parsed, body :: rest => EndFits parsed body ∧ ∀ after collected,
      parser.processEntry disk status parsed body = .ok (after, collected) →
        after ≠ .invalidLog → EndsFit parser disk after collected rest

theorem Reached.replay_total_iff (reached : Reached parser disk status parsed) :
    (∃ pair, parser.replay disk status parsed bodies = .ok pair) ↔
      EndsFit parser disk status parsed bodies := by
  induction bodies generalizing status parsed with
  | nil => exact ⟨fun _ => trivial, fun _ => ⟨_, rfl⟩⟩
  | cons body rest ih =>
    rw [replay, EndsFit, ← reached.processEntry_total_iff]
    cases processed : parser.processEntry disk status parsed body with
    | error check => simp
    | ok pair =>
      obtain ⟨after, collected⟩ := pair
      by_cases invalid : after = .invalidLog
      · simp [invalid]
      · simpa [invalid] using ih (reached.step (round_of_processEntry processed invalid))

theorem readEntry_advances {file behind : LogFile}
    (read : readEntry file = (.entry body, behind)) : behind.ahead.length < file.ahead.length := by
  unfold readEntry LogFile.read at read
  dsimp only at read
  split at read
  · cases read
  split at read
  · cases read
  split at read
  · cases read
  split at read
  · cases read
  rename_i two _ _
  cases read
  simp only [LogFile.ahead, length_drop, length_take] at two ⊢
  omega

theorem parseEntries_ends {file : LogFile} {rounds : Nat} (enough : file.ahead.length < rounds) :
    parser.parseEntries disk (rounds + 1) status parsed file =
      parser.parseEntries disk rounds status parsed file := by
  induction rounds generalizing status parsed file with
  | zero => omega
  | succ rounds ih =>
    rw [parseEntries, parseEntries]
    cases read : readEntry file with
    | mk found behind =>
      cases found with
      | endOfFile | torn | badLength => rfl
      | entry body =>
        have advanced := readEntry_advances read
        dsimp only
        split
        · rfl
        split
        · rfl
        · exact ih (by omega)

theorem parseLog_total_iff (parser : LogParser) (disk : Directory) (clock : Nat → Nat)
    (senderIp contents : List Byte) :
    (∃ result, parser.parseLog disk clock senderIp { contents } = .ok result ∧
      ParseStatus result.status) ↔
    ∃ pair, parser.replay disk .ok { senderIp } (logBodies contents) = .ok pair := by
  obtain ⟨framed, tail, shape, kind⟩ := bodiesFrom_split (le_refl contents.length)
  change ∀ body ∈ logBodies contents, WellFramed body at framed
  change contents = ((logBodies contents).map frame).flatten ++ tail at shape
  obtain ⟨rounds, position, parsed⟩ :=
    @parseLog_frames parser disk _ framed tail clock senderIp
  rw [← shape] at parsed
  rw [parsed]
  cases replayed : parser.replay disk .ok { senderIp } (logBodies contents) with
  | error check => exact ⟨nofun, nofun⟩
  | ok pair =>
    refine ⟨fun _ => ⟨pair, rfl⟩, fun _ => ?_⟩
    dsimp only
    by_cases invalid : pair.1 = .invalidLog
    · rw [if_pos invalid]
      exact ⟨_, rfl, .inr (.inr ((finishParse_status _ _ _ _).trans invalid))⟩
    · have behind := ahead_frames (logBodies contents) tail
      rw [← shape] at behind
      rw [if_neg invalid]
      rcases kind with torn | bad
      · have size := congrArg length shape
        rw [length_append] at size
        rw [parseEntries_tail torn behind (by dsimp only; omega)]
        refine ⟨_, rfl, ?_⟩
        rw [finishParse_status]
        exact (rounds_of_replay replayed invalid).reached.standing.imp_right .inl
      · rw [← behind] at bad
        obtain ⟨stopped, read⟩ := readEntry_badLength bad
        rw [parseEntries, read]
        exact ⟨_, rfl, .inr (.inr (finishParse_status _ _ _ _))⟩

/-- Whatever the log holds, the loop ends by itself, and the parser gets through it with one of
three statuses if and only if no block that it adds to a file ends behind the largest offset. -/
theorem parser_survives_iff (parser : LogParser) (disk : Directory) (clock : Nat → Nat)
    (senderIp contents : List Byte) :
    (∀ rounds, contents.length < rounds →
      parser.parseEntries disk (rounds + 1) .ok { senderIp } { contents } =
        parser.parseEntries disk rounds .ok { senderIp } { contents }) ∧
    ((∃ result, parser.parseLog disk clock senderIp { contents } = .ok result ∧
        ParseStatus result.status) ↔
      EndsFit parser disk .ok { senderIp } (logBodies contents)) :=
  ⟨fun _ enough => parseEntries_ends enough,
    (parseLog_total_iff parser disk clock senderIp contents).trans
      (reached_start parser disk senderIp).replay_total_iff⟩

def overflowingLog : List Byte :=
  ((sampleEntries ++ [LogEntry.blockWrite
    { timestamp := 3, seqId := 0, offset := int64Max, blockSize := 1 }]).map
    LogEntry.bytes).flatten

/-- The end of the block wraps around and passes for one within the file. -/
theorem overflowing_block_aborts : sampleParser.parseLog (fun _ => some 10) id []
    { contents := overflowingLog } = .error .intervalOrdered := by
  decide +kernel

end LogParser

end Wdt
