/-
What makes the entries of a log stale: an invalidation of the directory, or the header
of another transfer. Whatever a parse returns was written behind the last of them, and
behind a header of the parsed transfer.
-/

import Wdt.ParseTwice

namespace Wdt

open List Option SortedMap EntryType

def entryType : (body : List Byte) → Option EntryType
  | [] => none
  | type :: _ => ofByte type

def entryOf : (body : List Byte) → Option LogEntry
  | [] => none
  | type :: buf => (ofByte type).bind fun type => decodeEntry type buf

theorem entryOf_typed (type : EntryType) (buf : List Byte) :
    entryOf (type.toByte :: buf) = decodeEntry type buf := by
  rw [entryOf, ofByte_toByte, bind_some]

theorem entryOf_decoded {α : Type} {decode : List Byte → Option α} {wrap : α → LogEntry}
    {buf : List Byte} {entry : α} (type : EntryType)
    (decoder : decodeEntry type buf = (decode buf).map wrap) (decoded : decode buf = some entry) :
    entryOf (type.toByte :: buf) = some (wrap entry) := by
  rw [entryOf_typed, decoder, decoded, map_some]

theorem entryType_typed (type : EntryType) (buf : List Byte) :
    entryType (type.toByte :: buf) = some type :=
  ofByte_toByte type

theorem entryOf_eq_some {body : List Byte} {entry : LogEntry} (read : entryOf body = some entry) :
    ∃ buf, body = entry.type.toByte :: buf ∧ decodeEntry entry.type buf = some entry := by
  cases body with
  | nil => cases read
  | cons byte buf =>
    obtain ⟨type, named, decoded⟩ := bind_eq_some_iff.mp read
    have same : entry.type = type := by
      cases type with
      | header | fileCreation | blockWrite | fileInvalidation | fileResize
      | directoryInvalidation =>
        obtain ⟨_, _, rfl⟩ := map_eq_some_iff.mp decoded
        rfl
    rw [same, toByte_ofByte named]
    exact ⟨buf, rfl, decoded⟩

theorem entryType_of_read {body : List Byte} {entry : LogEntry}
    (read : entryOf body = some entry) : entryType body = some entry.type := by
  obtain ⟨buf, rfl, _⟩ := entryOf_eq_some read
  exact entryType_typed _ _

theorem entryOf_other_type {body : List Byte} (notHeader : entryType body ≠ some .header)
    (entry : LogHeader) : entryOf body ≠ some (.header entry) :=
  fun read => notHeader (entryType_of_read read)

namespace LogParser

/-- The entry makes all that precedes it stale. -/
def voids (parser : LogParser) (body : List Byte) : Bool :=
  match entryOf body with
  | some (.header entry) => !decide (parser.Matches entry)
  | _ => entryType body == some .directoryInvalidation

def renews (parser : LogParser) (body : List Byte) : Bool :=
  match entryOf body with
  | some (.header entry) => decide (parser.Matches entry)
  | _ => false

variable {parser : LogParser} {disk : Directory} {status after : ErrorCode}
  {parsed collected : ParsedLog} {body : List Byte} {bodies : List (List Byte)}

theorem voids_header {entry : LogHeader} (read : entryOf body = some (.header entry)) :
    parser.voids body = !decide (parser.Matches entry) := by
  unfold voids
  rw [read]

theorem renews_header {entry : LogHeader} (read : entryOf body = some (.header entry)) :
    parser.renews body = decide (parser.Matches entry) := by
  unfold renews
  rw [read]

theorem voids_other (notHeader : entryType body ≠ some .header) :
    parser.voids body = (entryType body == some .directoryInvalidation) := by
  unfold voids
  split
  · next entry read => exact absurd read (entryOf_other_type notHeader entry)
  · rfl

theorem renews_other (notHeader : entryType body ≠ some .header) : parser.renews body = false := by
  unfold renews
  split
  · next entry read => exact absurd read (entryOf_other_type notHeader entry)
  · rfl

theorem Round.fileEntry {type : EntryType} {buf : List Byte} (notHeader : type ≠ .header)
    (notVoid : type ≠ .directoryInvalidation) :
    parser.voids (type.toByte :: buf) = false ∧ parser.renews (type.toByte :: buf) = false := by
  have other : entryType (type.toByte :: buf) ≠ some .header := by
    rw [entryType_typed]
    exact fun same => notHeader (some.inj same)
  refine ⟨?_, renews_other other⟩
  rw [voids_other other, entryType_typed]
  exact beq_false_of_ne fun same => notVoid (some.inj same)

/-- While the directory is invalid, nothing is collected. -/
def Forgetful (status : ErrorCode) (parsed : ParsedLog) : Prop :=
  status = .inconsistentDirectory → parsed.clearParsedData = parsed

theorem Round.keeps_forgetful (round : Round parser disk status parsed body after collected)
    (forgetful : Forgetful status parsed) : Forgetful after collected := by
  cases round with
  | skipped => exact forgetful
  | otherHeader | directoryInvalidation => exact fun _ => rfl
  | printed | header | created | refused | resized | ignored | written | invalidated =>
    exact nofun

section

variable (fixing : parser.parseOnly = false)

include fixing

theorem Round.inconsistent_of_voids
    (round : Round parser disk status parsed body after collected)
    (voids : parser.voids body = true) : after = .inconsistentDirectory := by
  have acts : ¬ parser.parseOnly = true := Bool.eq_false_iff.mp fixing
  cases round with
  | skipped | otherHeader | directoryInvalidation => rfl
  | printed printing => exact absurd printing acts
  | header decoded legible accepted =>
    rw [voids_header (entryOf_decoded .header rfl decoded),
      decide_eq_true (accepted.resolve_left acts)] at voids
    cases voids
  | created | refused | resized | ignored | written | invalidated =>
    exact nomatch voids.symm.trans (Round.fileEntry (by decide) (by decide)).1

theorem Round.of_inconsistent
    (round : Round parser disk .inconsistentDirectory parsed body after collected)
    (fresh : parser.voids body = false) :
    (after = .inconsistentDirectory ∧ collected = parsed) ∨
      ∃ entry : LogHeader, parser.renews body = true ∧ after = .ok ∧
        collected = { parsed with senderIp := entry.senderIp, headerParsed := true } ∧
        ∀ status other, Round parser disk status other body .ok
          { other with senderIp := entry.senderIp, headerParsed := true } := by
  cases round with
  | skipped => exact .inl ⟨rfl, rfl⟩
  | @header _ _ buf entry decoded legible accepted =>
    have same := accepted.resolve_left (Bool.eq_false_iff.mp fixing)
    refine .inr ⟨entry, ?_, rfl, rfl, fun _ _ => .header decoded legible (.inr same)⟩
    rw [renews_header (entryOf_decoded .header rfl decoded), decide_eq_true same]
  | otherHeader decoded legible different =>
    rw [voids_header (entryOf_decoded .header rfl decoded), decide_eq_false different] at fresh
    cases fresh
  | printed _ valid | directoryInvalidation valid | created _ valid | refused _ valid
  | resized _ valid | ignored _ valid | written _ valid | invalidated _ valid =>
    exact absurd rfl valid

theorem Rounds.of_inconsistent
    (rounds : Rounds parser disk .inconsistentDirectory parsed bodies .ok collected)
    (cleared : parsed.clearParsedData = parsed)
    (fresh : ∀ body ∈ bodies, parser.voids body = false) :
    ∃ skipped header rest, bodies = skipped ++ header :: rest ∧ parser.renews header = true ∧
      ∀ senderIp, Rounds parser disk .ok { senderIp } (header :: rest) .ok collected := by
  induction bodies with
  | nil => cases rounds
  | cons body rest ih =>
    cases rounds with
    | cons round rounds =>
      rcases round.of_inconsistent fixing (fresh body mem_cons_self) with
        ⟨rfl, rfl⟩ | ⟨entry, renews, rfl, rfl, again⟩
      · rcases ih rounds (forall_mem_cons.mp fresh).2 with
          ⟨skipped, header, last, rfl, renews, alone⟩
        exact ⟨body :: skipped, header, last, rfl, renews, alone⟩
      · refine ⟨[], body, rest, rfl, renews, fun senderIp => ?_⟩
        rw [← cleared] at rounds
        exact .cons (again .ok { senderIp }) rounds

theorem Rounds.behind_void {senderIp : List Byte}
    {before later : List (List Byte)} {event : List Byte}
    (rounds : Rounds parser disk .ok { senderIp } (before ++ event :: later) .ok collected)
    (voids : parser.voids event = true) (fresh : ∀ body ∈ later, parser.voids body = false) :
    ∃ skipped header rest, later = skipped ++ header :: rest ∧ parser.renews header = true ∧
      ∀ senderIp, Rounds parser disk .ok { senderIp } (header :: rest) .ok collected := by
  rcases rounds.split with ⟨middle, between, front, back⟩
  have forgetful : Forgetful middle between :=
    front.invariant (fun round kept => round.keeps_forgetful kept) nofun
  cases back with
  | cons round back =>
    have kept := round.keeps_forgetful forgetful
    cases round.inconsistent_of_voids fixing voids
    exact back.of_inconsistent fixing (kept rfl) fresh

end

/-! ### Where collected data comes from -/

/-- A creation entry among the bodies names the file, and each byte of its chunks is in a block
that one of them records for it. -/
structure ComesFrom (bodies : List (List Byte)) (info : FileChunksInfo) : Prop where
  created : ∃ body ∈ bodies, ∃ entry, entryOf body = some (.fileCreation entry) ∧
    entry.seqId = info.seqId ∧ entry.fileName = info.fileName
  written : ∀ chunk ∈ info.chunks, ∀ position, chunk.Covers position →
    ∃ body ∈ bodies, ∃ entry, entryOf body = some (.blockWrite entry) ∧
      entry.seqId = info.seqId ∧ entry.offset ≤ position ∧
      position < entry.offset + entry.blockSize

theorem ComesFrom.append {info : FileChunksInfo} (source : ComesFrom bodies info)
    (more : List (List Byte)) : ComesFrom (bodies ++ more) info where
  created := source.created.imp fun _ => And.imp_left (List.mem_append_left more)
  written := fun chunk present position covers =>
    (source.written chunk present position covers).imp
      fun _ => And.imp_left (List.mem_append_left more)

theorem ComesFrom.mergeChunks {info : FileChunksInfo} (source : ComesFrom bodies info) :
    ComesFrom bodies info.mergeChunks where
  created := source.created
  written := by
    intro merged present position covers
    rcases (mergedChunks_covers info.chunks position).mp ⟨merged, present, covers⟩ with
      ⟨chunk, original, inside⟩
    exact source.written chunk original position inside

theorem ComesFrom.without_header {header : List Byte}
    {rest : List (List Byte)} {info : FileChunksInfo} (renews : parser.renews header = true)
    (source : ComesFrom (header :: rest) info) : ComesFrom rest info := by
  unfold LogParser.renews at renews
  constructor
  · rcases source.created with ⟨body, member, entry, read, found⟩
    rcases mem_cons.mp member with rfl | later
    · rw [read] at renews
      cases renews
    · exact ⟨body, later, entry, read, found⟩
  · intro chunk present position covers
    rcases source.written chunk present position covers with ⟨body, member, entry, read, found⟩
    rcases mem_cons.mp member with rfl | later
    · rw [read] at renews
      cases renews
    · exact ⟨body, later, entry, read, found⟩

def AllFrom (bodies : List (List Byte)) (parsed : ParsedLog) : Prop :=
  ∀ seqId info, parsed.fileInfoMap.lookup seqId = some info →
    info.seqId = seqId ∧ ComesFrom bodies info

theorem wrapInt64_le (value : Nat) : wrapInt64 value ≤ value := by
  unfold wrapInt64
  split
  · exact le_refl _
  · omega

theorem Round.keeps_source (round : Round parser disk status parsed body after collected)
    (sources : AllFrom bodies parsed) : AllFrom (bodies ++ [body]) collected := by
  have old : ∀ {seqId : Nat} {info : FileChunksInfo}, parsed.fileInfoMap.lookup seqId = some info →
        info.seqId = seqId ∧ ComesFrom (bodies ++ [body]) info :=
    fun lookup => ⟨(sources _ _ lookup).1, (sources _ _ lookup).2.append [body]⟩
  cases round with
  | skipped | printed | header | refused | resized | ignored =>
    exact fun seqId info lookup => old lookup
  | otherHeader | directoryInvalidation => exact nofun
  | @created _ _ buf entry size acting valid headed decoded uncollected =>
    intro seqId info lookup
    rw [lookup_emplace, contains_eq_false_iff.mp uncollected] at lookup
    split at lookup
    · cases lookup
      exact ⟨Eq.symm ‹_›, ⟨_, mem_append_right _ mem_cons_self, entry,
        entryOf_decoded .fileCreation rfl decoded, rfl, rfl⟩, nofun⟩
    · exact old lookup
  | @written _ _ buf entry chunksInfo acting valid headed decoded notInvalid known =>
    intro seqId info lookup
    rw [lookup_set] at lookup
    split at lookup
    · cases lookup
      rcases old known with ⟨keyed, source⟩
      refine ⟨keyed.trans (Eq.symm ‹_›), source.created, ?_⟩
      intro chunk member position covers
      rcases mem_append.mp member with earlier | last
      · exact source.written chunk earlier position covers
      cases mem_singleton.mp last
      refine ⟨_, mem_append_right _ mem_cons_self, entry,
        entryOf_decoded .blockWrite rfl decoded, keyed.symm, covers.1, ?_⟩
      have bound := wrapInt64_le (entry.offset + entry.blockSize)
      have below := covers.2
      dsimp only at below
      omega
    · exact old lookup
  | @invalidated _ _ buf entry =>
    intro seqId info lookup
    rw [lookup_erase] at lookup
    exact old (ite_none_left_eq_some.mp lookup).2

theorem Rounds.keeps_source {seen : List (List Byte)}
    (rounds : Rounds parser disk status parsed bodies after collected)
    (sources : AllFrom seen parsed) : AllFrom (seen ++ bodies) collected := by
  induction rounds generalizing seen with
  | nil =>
    rw [append_nil]
    exact sources
  | @cons _ _ _ _ _ _ body rest round _ ih =>
    have later := ih (round.keeps_source sources)
    rw [append_assoc] at later
    exact later

end LogParser

/-! ### The manager -/

namespace LogManager

theorem chunks_of_parseOnly {manager fixed : LogManager} {disk : Directory}
    {clock : Nat → Nat} {chunks : List FileChunksInfo} (fromStart : manager.file.position = 0)
    (parsed : manager.parseVerifyAndFix disk clock true = .ok (.ok, fixed, chunks)) :
    chunks = [] := by
  rcases rounds_of_parse fromStart parsed with ⟨collected, rounds, files, _⟩
  have collects := rounds.keeps_collects (LogParser.collects_empty { senderIp := manager.senderIp })
  rw [files]
  cases values : collected.fileInfoMap.values with
  | nil => rfl
  | cons info rest =>
    have listed : info ∈ collected.fileInfoMap.values := by
      rw [values]
      exact mem_cons_self
    rcases mem_values_iff.mp listed with ⟨seqId, lookup⟩
    have acting := (collects.headed seqId (.inl (by simp [lookup]))).2
    cases acting.1

/-- Let an entry be the last in the log that makes what precedes it stale. Then all that a parse
for the transfer returns comes from entries behind it, and behind a header of the transfer that
follows it: it is what the entries from that header on amount to. Without such a header the log
never parses. And a parse that only prints returns no file at all. -/
theorem stale_entries_not_parsed {manager : LogManager} {disk : Directory}
    {clock : Nat → Nat} (fromStart : manager.file.position = 0)
    {before later : List (List Byte)} {event : List Byte}
    (shape : logBodies manager.file.contents = before ++ event :: later)
    (voids : (manager.parser false).voids event = true)
    (last : ∀ body ∈ later, (manager.parser false).voids body = false) :
    (∀ fixed chunks, manager.parseVerifyAndFix disk clock false = .ok (.ok, fixed, chunks) →
      ∃ skipped header rest, later = skipped ++ header :: rest ∧
        (manager.parser false).renews header = true ∧
        (∀ info ∈ chunks, LogParser.ComesFrom rest info) ∧
        ∃ alone, parseVerifyAndFix
          { manager with file := { contents := ((header :: rest).map frame).flatten } }
          disk clock false = .ok (.ok, alone, chunks)) ∧
    ((∀ body ∈ later, (manager.parser false).renews body = false) → ∀ fixed chunks,
      manager.parseVerifyAndFix disk clock false ≠ .ok (.ok, fixed, chunks)) ∧
    ∀ fixed chunks,
      manager.parseVerifyAndFix disk clock true = .ok (.ok, fixed, chunks) → chunks = [] := by
  refine (fun behind => And.intro behind ⟨?_, ?_⟩) ?_
  · intro fixed chunks parsed
    have isOpen := (parseVerifyAndFix_ok parsed).1
    rcases rounds_of_parse fromStart parsed with ⟨collected, rounds, files, _⟩
    rw [shape] at rounds
    rcases rounds.behind_void rfl voids last with ⟨skipped, header, rest, rfl, renews, alone⟩
    refine ⟨skipped, header, rest, rfl, renews, ?_, ?_⟩
    · intro info member
      rw [files] at member
      rcases mem_map.mp member with ⟨original, listed, rfl⟩
      rcases mem_values_iff.mp listed with ⟨seqId, lookup⟩
      have initially : LogParser.AllFrom [] { senderIp := [] } := nofun
      have source := (alone []).keeps_source initially
      exact (((source seqId original lookup).2).without_header renews).mergeChunks
    · have framed : ∀ body ∈ header :: rest, WellFramed body := by
        intro body member
        apply (bodiesFrom_split (le_refl manager.file.contents.length)).1 body
        change body ∈ logBodies manager.file.contents
        rw [shape]
        exact mem_append_right _ (mem_cons_of_mem _ (mem_append_right _ member))
      rcases LogParser.parseLog_replayed clock framed (.inl rfl)
          (alone manager.senderIp).replay_eq with ⟨again, second, okAgain, sameChunks, _⟩
      rw [append_nil] at second
      have reparsed := @parseVerifyAndFix_of_parseLog
        { manager with file := { contents := ((header :: rest).map frame).flatten } }
        disk clock false again isOpen second okAgain
      rw [sameChunks, ← files] at reparsed
      exact ⟨_, reparsed⟩
  · intro headless fixed chunks parsed
    rcases behind fixed chunks parsed with ⟨skipped, header, rest, rfl, renews, _⟩
    rw [headless header (mem_append_right _ mem_cons_self)] at renews
    cases renews
  · intro fixed chunks parsed
    exact chunks_of_parseOnly fromStart parsed

def continuedManager : LogManager := sampleManager
  (([.header { timestamp := 1, recoveryId := [0x71], senderIp := [0x73], config := 3 },
    .fileCreation { timestamp := 2, fileName := [0x67], seqId := 0, fileSize := 10 },
    .directoryInvalidation { timestamp := 3 },
    .header { timestamp := 4, recoveryId := [0x72], senderIp := [0x73], config := 3 },
    .fileCreation { timestamp := 5, fileName := [0x66], seqId := 0, fileSize := 10 },
    .blockWrite { timestamp := 6, seqId := 0, offset := 0, blockSize := 4 }] :
      List LogEntry).map LogEntry.bytes).flatten

theorem stale_entries_of_continued_log :
    (∃ fixed chunks, continuedManager.parseVerifyAndFix (fun _ => some 10) id false =
      .ok (.ok, fixed, chunks) ∧ chunks.map FileChunksInfo.fileName = [[0x66]] ∧
      ∃ skipped header rest,
        (logBodies continuedManager.file.contents).drop 3 = skipped ++ header :: rest ∧
        (continuedManager.parser false).renews header = true ∧
        (∀ info ∈ chunks, LogParser.ComesFrom rest info) ∧
        ∃ alone, parseVerifyAndFix
          { continuedManager with file := { contents := ((header :: rest).map frame).flatten } }
          (fun _ => some 10) id false = .ok (.ok, alone, chunks)) :=
  have parsed : continuedManager.parseVerifyAndFix (fun _ => some 10) id false =
      .ok (.ok, { continuedManager with
          senderIp := [0x73]
          file := { continuedManager.file with position := 47 } },
        [{ seqId := 0, fileName := [0x66], fileSize := 10,
           chunks := [{ start := 0, stop := 4 }] }]) := by decide +kernel
  ⟨_, _, parsed, rfl, (@stale_entries_not_parsed continuedManager (fun _ => some 10) id rfl
    ((logBodies continuedManager.file.contents).take 2)
    ((logBodies continuedManager.file.contents).drop 3)
    (LogEntry.directoryInvalidation { timestamp := 3 }).body (by decide +kernel)
    (by decide +kernel) (by decide +kernel)).1 _ _ parsed⟩

end LogManager

end Wdt
