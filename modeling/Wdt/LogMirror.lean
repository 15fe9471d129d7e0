/-
What a replay of the log collects, for every disk that does not contradict the
entries: the files that were not invalidated, each with the blocks written to it.
-/

import Wdt.LogRounds
import Wdt.LogSessions

namespace Wdt

open List Option SortedMap LogEntry Incarnation

theorem LogEntry.decode_of_inRange {α : Type} {decode : List Byte → Option α}
    {wrap : α → LogEntry} {entry : α} (inRange : (wrap entry).InRange)
    (decoder : ∀ buf, decodeEntry (wrap entry).type buf = (decode buf).map wrap)
    (injective : ∀ other, wrap other = wrap entry → other = entry) :
    decode (wrap entry).fields = some entry := by
  have decoded := decodeEntry_fields inRange
  rw [decoder] at decoded
  rcases map_eq_some_iff.mp decoded with ⟨other, found, same⟩
  rw [found, injective other same]

/-! ### The files of the log as the parser collects them -/

/-- What is collected for a file that passed its check with the given size on disk. -/
def Incarnation.chunksInfo (file : Incarnation) (size : Nat) : FileChunksInfo where
  seqId := file.seqId
  fileName := file.fileName
  fileSize := size
  chunks := file.blocks

def Distinct (live : List Incarnation) : Prop :=
  ∀ file ∈ live, ∀ other ∈ live,
    file.seqId = other.seqId ∨ file.fileName = other.fileName → file = other

/-- The live files are collected, or known to be invalid, according to the disk; the sizes that
are recorded were logged under their seq-ids, maybe for a file that is not live any more. -/
structure Mirrors (preallocate : Bool) (disk : Directory) (live dead : List Incarnation)
    (parsed : ParsedLog) : Prop where
  collected : ∀ seqId info, parsed.fileInfoMap.lookup seqId = some info ↔
    ∃ file ∈ live, file.seqId = seqId ∧ ∃ size,
      file.registeredSize preallocate disk = some size ∧ info = file.chunksInfo size
  refused : ∀ seqId, parsed.invalidSeqIds.lookup seqId = some () ↔
    ∃ file ∈ live, file.seqId = seqId ∧ file.registeredSize preallocate disk = none
  logged : ∀ seqId size, parsed.seqIdToSizeMap.lookup seqId = some size →
    ∃ file ∈ dead ++ live, file.seqId = seqId ∧ size ∈ file.sizes
  recorded : ∀ file ∈ live, file.registeredSize preallocate disk ≠ none →
    parsed.seqIdToSizeMap.lookup file.seqId ≠ none

section

variable {parser : LogParser} {disk : Directory} {live dead : List Incarnation} {parsed : ParsedLog}

theorem mirrors_empty (preallocate : Bool) (dead : List Incarnation) (parsed : ParsedLog) :
    Mirrors preallocate disk [] dead parsed.clearParsedData where
  collected := fun _ _ => ⟨nofun, fun ⟨_, member, _⟩ => nomatch member⟩
  refused := fun _ => ⟨nofun, fun ⟨_, member, _⟩ => nomatch member⟩
  logged := nofun
  recorded := nofun

theorem Mirrors.unknown (mirrors : Mirrors parser.shouldPreallocateFiles disk live dead parsed)
    {seqId : Nat} (unused : ∀ file ∈ live, file.seqId ≠ seqId) :
    parsed.fileInfoMap.lookup seqId = none ∧ parsed.invalidSeqIds.lookup seqId = none := by
  constructor <;> refine eq_none_iff_forall_ne_some.mpr fun info found => ?_
  · obtain ⟨file, member, same, _⟩ := (mirrors.collected seqId info).mp found
    exact unused file member same
  · obtain ⟨file, member, same, _⟩ := (mirrors.refused seqId).mp found
    exact unused file member same

variable {file : Incarnation} {holds : Incarnation → Prop}

theorem exists_mem_snoc :
    (∃ member ∈ live ++ [file], holds member) ↔ (∃ member ∈ live, holds member) ∨ holds file := by
  simp only [mem_append, mem_singleton, or_and_right, exists_or, exists_eq_left]

variable {buf : List Byte}

theorem Mirrors.creation (mirrors : Mirrors parser.shouldPreallocateFiles disk live dead parsed)
    {entry : FileCreation} (acting : parser.Acting) (headed : parsed.headerParsed = true)
    (decoded : decodeFileCreationEntry buf = some entry)
    (unused : ∀ file ∈ live, file.seqId ≠ entry.seqId) :
    ∃ after, parser.Round disk .ok parsed (EntryType.fileCreation.toByte :: buf) .ok after ∧
      after.headerParsed = true ∧
      Mirrors parser.shouldPreallocateFiles disk (live ++
        [{ seqId := entry.seqId, fileName := entry.fileName, createdSize := entry.fileSize }])
        dead after := by
  obtain ⟨notCollected, notRefused⟩ := mirrors.unknown unused
  have uncollected := contains_eq_false_iff.mpr notCollected
  have notInvalid := contains_eq_false_iff.mpr notRefused
  generalize shape : ({ seqId := entry.seqId, fileName := entry.fileName
                        createdSize := entry.fileSize } : Incarnation) = file
  have seqId : file.seqId = entry.seqId := by rw [← shape]
  have verified : parser.verifiedSize disk entry =
      file.registeredSize parser.shouldPreallocateFiles disk := by
    rw [← shape]
    rfl
  have before {other : Incarnation} (present : other ∈ dead ++ live) :
      other ∈ dead ++ (live ++ [file]) := by
    rw [← append_assoc]
    exact mem_append_left _ present
  cases size : file.registeredSize parser.shouldPreallocateFiles disk with
  | none =>
    refine ⟨_, .refused acting nofun headed decoded uncollected notInvalid
      (verified.trans size), headed, fun other info => ?_, fun other => ?_,
      fun other found known => (mirrors.logged other found known).imp fun _ =>
        And.imp_left before, fun member present registered => ?_⟩
    · rw [exists_mem_snoc, mirrors.collected]
      simp [size]
    · rw [exists_mem_snoc, lookup_emplace, notRefused, ← mirrors.refused, seqId]
      by_cases same : other = entry.seqId
      · simp [same, size]
      · simp [same, Ne.symm same]
    · rcases mem_append.mp present with old | new
      · exact mirrors.recorded member old registered
      · rw [mem_singleton.mp new] at registered
        exact absurd size registered
  | some length =>
    refine ⟨_, .created acting nofun headed decoded uncollected notInvalid
      (verified.trans size), headed, fun other info => ?_, fun other => ?_,
      fun other found known => ?_, fun member present registered => ?_⟩
    · rw [exists_mem_snoc, lookup_emplace, notCollected, ← mirrors.collected, seqId]
      by_cases same : other = entry.seqId
      · have described : file.chunksInfo length =
            { seqId := entry.seqId, fileName := entry.fileName, fileSize := length } := by
          rw [← shape]
          rfl
        simp [same, notCollected, size, described, eq_comm]
      · simp [same, Ne.symm same]
    · rw [exists_mem_snoc, mirrors.refused]
      simp [size]
    · rw [lookup_emplace] at known
      split at known
      · rename_i same
        cases old : parsed.seqIdToSizeMap.lookup entry.seqId <;> rw [old] at known <;>
          cases known
        · exact ⟨file, by simp, seqId.trans same.symm, by simp [← shape, Incarnation.sizes]⟩
        · -- a size of an earlier file with this seq-id was kept
          obtain ⟨member, present, equal, among⟩ := mirrors.logged _ _ old
          exact ⟨member, before present, equal.trans same.symm, among⟩
      · exact (mirrors.logged other found known).imp fun _ => And.imp_left before
    · rw [lookup_emplace]
      split
      · exact nofun
      rename_i different
      rcases mem_append.mp present with old | new
      · exact mirrors.recorded member old registered
      · rw [mem_singleton.mp new] at different
        exact absurd seqId different

theorem exists_mem_amended {amend : Incarnation → Incarnation} :
    (∃ member ∈ live.map amend, holds member) ↔ ∃ file ∈ live, holds (amend file) := by
  simp only [List.mem_map, exists_exists_and_eq_and]

/-- A change to files that leaves the checks on their creation as they are and forgets no
entry. -/
structure Incarnation.Amends (amend : Incarnation → Incarnation) : Prop where
  seqId : ∀ file, (amend file).seqId = file.seqId
  fileName : ∀ file, (amend file).fileName = file.fileName
  createdSize : ∀ file, (amend file).createdSize = file.createdSize
  resizes : ∀ file, ∀ size ∈ file.resizes, size ∈ (amend file).resizes
  blocks : ∀ file, ∀ block ∈ file.blocks, block ∈ (amend file).blocks

namespace Incarnation.Amends

variable {amend : Incarnation → Incarnation}

theorem registeredSize (amends : Amends amend) (preallocate : Bool) (file : Incarnation) :
    (amend file).registeredSize preallocate disk = file.registeredSize preallocate disk := by
  unfold Incarnation.registeredSize
  rw [amends.fileName, amends.createdSize]

theorem sizes (amends : Amends amend) {file : Incarnation} {size : Nat}
    (among : size ∈ file.sizes) : size ∈ (amend file).sizes := by
  rcases mem_cons.mp among with created | resized
  · rw [created, ← amends.createdSize]
    exact mem_cons_self
  · exact mem_cons_of_mem _ (amends.resizes file size resized)

theorem tolerated_file (amends : Amends amend) {preallocate : Bool}
    {file : Incarnation} (tolerated : (amend file).ToleratedBy preallocate disk) :
    file.ToleratedBy preallocate disk := by
  unfold ToleratedBy at tolerated ⊢
  rw [amends.registeredSize] at tolerated
  cases registered : file.registeredSize preallocate disk with
  | none =>
    rw [registered] at tolerated
    apply eq_nil_iff_forall_not_mem.mpr
    intro size among
    have later := amends.resizes file size among
    rw [tolerated] at later
    cases later
  | some size =>
    rw [registered] at tolerated
    exact ⟨fun block member => tolerated.1 block (amends.blocks file block member),
      fun preallocated resized member =>
        tolerated.2 preallocated resized (amends.resizes file resized member)⟩

theorem tolerated (amends : Amends amend) {preallocate : Bool} :
    ∀ file ∈ dead ++ live, ∃ later ∈ dead ++ live.map amend, ∀ disk,
      later.ToleratedBy preallocate disk → file.ToleratedBy preallocate disk := by
  intro file member
  rcases mem_append.mp member with old | current
  · exact ⟨file, mem_append_left _ old, fun _ => id⟩
  · exact ⟨amend file, mem_append_right _ (mem_map_of_mem current),
      fun _ later => amends.tolerated_file later⟩

theorem mirrors {preallocate : Bool} {after : ParsedLog} (amends : Amends amend)
    (mirrors : Mirrors preallocate disk live dead parsed)
    (same : after.invalidSeqIds = parsed.invalidSeqIds ∧
      after.seqIdToSizeMap = parsed.seqIdToSizeMap)
    (collected : ∀ seqId info, after.fileInfoMap.lookup seqId = some info ↔
      ∃ file ∈ live.map amend, file.seqId = seqId ∧ ∃ size,
        file.registeredSize preallocate disk = some size ∧ info = file.chunksInfo size) :
    Mirrors preallocate disk (live.map amend) dead after where
  collected := collected
  refused := by
    intro seqId
    rw [exists_mem_amended, same.1]
    simp only [amends.seqId, amends.registeredSize]
    exact mirrors.refused seqId
  logged := by
    intro seqId size lookup
    rw [same.2] at lookup
    obtain ⟨file, present, equal, among⟩ := mirrors.logged _ _ lookup
    rcases mem_append.mp present with old | current
    · exact ⟨file, mem_append_left _ old, equal, among⟩
    · exact ⟨amend file, mem_append_right _ (mem_map_of_mem current),
        (amends.seqId file).trans equal, amends.sizes among⟩
  recorded := by
    intro file present passes
    obtain ⟨origin, current, rfl⟩ := mem_map.mp present
    rw [amends.registeredSize] at passes
    rw [amends.seqId, same.2]
    exact mirrors.recorded origin current passes

end Incarnation.Amends

/-! ### Resizing and writing -/

theorem Incarnation.resized_amends (seqId fileSize : Nat) :
    Amends (Incarnation.resized seqId fileSize) := by
  constructor <;> intro file <;> unfold Incarnation.resized <;> split
  case resizes.isTrue => exact fun size among => mem_append_left _ among
  all_goals first | rfl | exact fun _ => id

theorem Incarnation.written_amends (seqId : Nat) (block : Interval) :
    Amends (Incarnation.written seqId block) := by
  constructor <;> intro file <;> unfold Incarnation.written <;> split
  case blocks.isTrue => exact fun block among => mem_append_left _ among
  all_goals first | rfl | exact fun _ => id

section

variable (mirrors : Mirrors parser.shouldPreallocateFiles disk live dead parsed)

include mirrors

theorem Mirrors.resize
    {entry : FileResize} (acting : parser.Acting) (headed : parsed.headerParsed = true)
    (decoded : decodeFileResizeEntry buf = some entry) (member : file ∈ live)
    (named : file.seqId = entry.seqId) {size : Nat}
    (registered : file.registeredSize parser.shouldPreallocateFiles disk = some size)
    (allocated : parser.shouldPreallocateFiles = true → entry.fileSize ≤ size)
    (larger : ∀ other ∈ dead ++ live, other.seqId = entry.seqId →
      ∀ logged ∈ other.sizes, logged ≤ entry.fileSize) :
    ∃ after, parser.Round disk .ok parsed (EntryType.fileResize.toByte :: buf) .ok after ∧
      after.headerParsed = true ∧
      Mirrors parser.shouldPreallocateFiles disk
        (live.map (Incarnation.resized entry.seqId entry.fileSize)) dead after := by
  have amends := resized_amends entry.seqId entry.fileSize
  have found : parsed.fileInfoMap.lookup entry.seqId = some (file.chunksInfo size) :=
    (mirrors.collected _ _).mpr ⟨file, member, named, size, registered, rfl⟩
  have recorded := mirrors.recorded file member (by rw [registered]; exact nofun)
  rw [named] at recorded
  obtain ⟨known, knownSize⟩ := ne_none_iff_exists'.mp recorded
  have below : known ≤ entry.fileSize := by
    obtain ⟨other, present, same, among⟩ := mirrors.logged _ _ knownSize
    exact larger other present same known among
  have same_info : ∀ (other : Incarnation) length,
      (Incarnation.resized entry.seqId entry.fileSize other).chunksInfo length =
        other.chunksInfo length := by
    intro other length
    unfold Incarnation.resized
    split <;> rfl
  have kept := @Amends.mirrors _ _ _ _ _ _ parsed amends mirrors ⟨rfl, rfl⟩ (by
    intro seqId info
    rw [exists_mem_amended]
    simp only [amends.seqId, amends.registeredSize, same_info]
    exact mirrors.collected seqId info)
  refine ⟨_, .resized acting nofun headed decoded found knownSize below allocated, headed,
    kept.collected, kept.refused, ?_, ?_⟩
  · intro seqId logged lookup
    rw [lookup_set] at lookup
    by_cases same : seqId = entry.seqId
    · rw [if_pos same, some.injEq] at lookup
      refine ⟨_, mem_append_right _ (mem_map_of_mem member), ?_, ?_⟩
      · rw [amends.seqId, named, same]
      · unfold Incarnation.resized
        rw [if_pos named, ← lookup]
        exact mem_cons_of_mem _ (mem_append_right _ mem_cons_self)
    · rw [if_neg same] at lookup
      exact kept.logged seqId logged lookup
  · intro other present passes
    rw [lookup_set]
    split
    · exact nofun
    · exact kept.recorded other present passes

theorem Mirrors.block (distinct : Distinct live) {entry : BlockWrite} (acting : parser.Acting)
    (headed : parsed.headerParsed = true) (decoded : decodeBlockWriteEntry buf = some entry)
    (member : file ∈ live) (named : file.seqId = entry.seqId)
    (small : entry.offset + entry.blockSize ≤ int64Max)
    (within : ∀ size, file.registeredSize parser.shouldPreallocateFiles disk = some size →
      entry.offset + entry.blockSize ≤ size) :
    ∃ after, parser.Round disk .ok parsed (EntryType.blockWrite.toByte :: buf) .ok after ∧
      after.headerParsed = true ∧
      Mirrors parser.shouldPreallocateFiles disk (live.map (Incarnation.written entry.seqId
        { start := entry.offset, stop := entry.offset + entry.blockSize })) dead after := by
  have only : ∀ other ∈ live, other.seqId = entry.seqId → other = file :=
    fun other present same => distinct other present file member (.inl (same.trans named.symm))
  generalize shape :
    ({ start := entry.offset, stop := entry.offset + entry.blockSize } : Interval) = block
  have amends := written_amends entry.seqId block
  have untouched : ∀ other : Incarnation, other.seqId ≠ entry.seqId →
      Incarnation.written entry.seqId block other = other := fun other different => if_neg different
  have elsewhere : ∀ seqId info, seqId ≠ entry.seqId →
      (parsed.fileInfoMap.lookup seqId = some info ↔
        ∃ other ∈ live.map (Incarnation.written entry.seqId block), other.seqId = seqId ∧
          ∃ size, other.registeredSize parser.shouldPreallocateFiles disk = some size ∧
            info = other.chunksInfo size) := by
    intro seqId info different
    rw [exists_mem_amended, mirrors.collected]
    refine exists_congr fun other => and_congr_right fun present => ?_
    rw [amends.seqId]
    refine and_congr_right fun equal => ?_
    rw [untouched other (fun same => different (equal.symm.trans same))]
  cases registered : file.registeredSize parser.shouldPreallocateFiles disk with
  | none =>
    have invalid : parsed.invalidSeqIds.contains entry.seqId = true := by
      rw [SortedMap.contains,
        (mirrors.refused entry.seqId).mpr ⟨file, member, named, registered⟩, isSome_some]
    refine ⟨_, .ignored acting nofun headed decoded invalid, headed,
      amends.mirrors mirrors ⟨rfl, rfl⟩ ?_⟩
    intro seqId info
    by_cases same : seqId = entry.seqId
    · rw [exists_mem_amended, mirrors.collected]
      refine exists_congr fun other => and_congr_right fun present => ?_
      rw [amends.seqId, amends.registeredSize]
      refine and_congr_right fun equal => ?_
      rw [only other present (equal.trans same), registered]
      simp
    · exact elsewhere seqId info same
  | some size =>
    have found : parsed.fileInfoMap.lookup entry.seqId = some (file.chunksInfo size) :=
      (mirrors.collected _ _).mpr ⟨file, member, named, size, registered, rfl⟩
    have accepted : parsed.invalidSeqIds.lookup entry.seqId = none := by
      refine eq_none_iff_forall_ne_some.mpr fun _ invalid => ?_
      obtain ⟨other, present, equal, fails⟩ := (mirrors.refused _).mp invalid
      rw [only other present equal, registered] at fails
      cases fails
    have stop : wrapInt64 (entry.offset + entry.blockSize) =
        ((entry.offset + entry.blockSize : Nat) : Int) := if_pos small
    have bound := within size registered
    refine ⟨_, .written acting nofun headed decoded
      (SortedMap.contains_eq_false_iff.mpr accepted) found (by rw [stop]; exact_mod_cast bound)
      (by rw [stop]; omega), headed, amends.mirrors mirrors ⟨rfl, rfl⟩ ?_⟩
    intro seqId info
    rw [stop, Int.toNat_natCast, shape, SortedMap.lookup_set]
    by_cases same : seqId = entry.seqId
    · have amended : (Incarnation.written entry.seqId block file).chunksInfo size =
          { file.chunksInfo size with
            chunks := (file.chunksInfo size).chunks ++ [block] } := by
        unfold Incarnation.written
        rw [if_pos named]
        rfl
      rw [if_pos same, exists_mem_amended, ← amended, some.injEq]
      constructor
      · intro equal
        exact ⟨file, member, by rw [amends.seqId, named, same], size,
          by rw [amends.registeredSize, registered], equal.symm⟩
      · rintro ⟨other, present, equal, length, passes, described⟩
        rw [amends.seqId] at equal
        rw [only other present (equal.trans same)] at passes described
        rw [amends.registeredSize, registered, some.injEq] at passes
        rw [described, passes]
    · rw [if_neg same]
      exact elsewhere seqId info same

theorem Mirrors.invalidation
    {entry : FileInvalidation} (acting : parser.Acting) (headed : parsed.headerParsed = true)
    (decoded : decodeFileInvalidationEntry buf = some entry) (member : file ∈ live)
    (named : file.seqId = entry.seqId) :
    ∃ after, parser.Round disk .ok parsed (EntryType.fileInvalidation.toByte :: buf) .ok after ∧
      after.headerParsed = true ∧
      Mirrors parser.shouldPreallocateFiles disk
        (live.filter (fun file => decide (file.seqId ≠ entry.seqId)))
        (dead ++ live.filter (fun file => decide (file.seqId = entry.seqId))) after := by
  have known : parsed.fileInfoMap.contains entry.seqId = true ∨
      parsed.invalidSeqIds.contains entry.seqId = true := by
    unfold SortedMap.contains
    cases registered : file.registeredSize parser.shouldPreallocateFiles disk with
    | none =>
      rw [(mirrors.refused entry.seqId).mpr ⟨file, member, named, registered⟩]
      exact .inr rfl
    | some size =>
      rw [(mirrors.collected entry.seqId (file.chunksInfo size)).mpr
        ⟨file, member, named, size, registered, rfl⟩]
      exact .inl rfl
  have remaining : ∀ holds : Incarnation → Prop,
      (∃ other ∈ live.filter (fun file => decide (file.seqId ≠ entry.seqId)), holds other) ↔
        ∃ other ∈ live, other.seqId ≠ entry.seqId ∧ holds other := by
    intro holds
    simp only [mem_filter, decide_eq_true_eq, and_assoc]
  refine ⟨_, .invalidated acting nofun headed decoded known, headed, ?_, ?_, ?_, ?_⟩
  · intro seqId info
    rw [SortedMap.lookup_erase, remaining]
    split
    · grind
    · rw [mirrors.collected]
      grind
  · intro seqId
    rw [SortedMap.lookup_erase, remaining]
    split
    · grind
    · rw [mirrors.refused]
      grind
  · intro seqId size lookup
    obtain ⟨other, present, facts⟩ := mirrors.logged _ _ lookup
    refine ⟨other, ?_, facts⟩
    simp only [mem_append, mem_filter, decide_eq_true_eq] at present ⊢
    tauto
  · intro other present passes
    exact mirrors.recorded other (mem_filter.mp present).1 passes

end

end

/-! ### Logs -/

/-- The log is a sequence of whole entries, and replaying them with any disk that contradicts
none of its files collects the live ones. -/
def Replays (parser : LogParser) (started : Prop) (log : List Byte)
    (live dead : List Incarnation) : Prop :=
  ∃ entries : List LogEntry, (∀ entry ∈ entries, entry.bytes.length ≤ kMaxEntryLength) ∧
    log = (entries.map bytes).flatten ∧
    ∀ disk senderIp, (∀ file ∈ dead ++ live, file.ToleratedBy parser.shouldPreallocateFiles disk) →
      ∃ parsed, parser.replay disk .ok { senderIp } (entries.map body) =
          .ok (.ok, parsed) ∧
        (started → parsed.headerParsed = true) ∧
        Mirrors parser.shouldPreallocateFiles disk live dead parsed

namespace Replays

variable {parser : LogParser} {started : Prop} {log : List Byte} {live dead : List Incarnation}

theorem empty (parser : LogParser) : Replays parser False [] [] [] := by
  refine ⟨[], fun _ member => absurd member not_mem_nil, rfl, ?_⟩
  intro disk senderIp _
  exact ⟨_, rfl, False.elim, mirrors_empty _ _ { senderIp }⟩

theorem mono {weaker : Prop} (replays : Replays parser started log live dead)
    (implies : weaker → started) : Replays parser weaker log live dead := by
  obtain ⟨entries, fit, written, collects⟩ := replays
  refine ⟨entries, fit, written, fun disk senderIp tolerant => ?_⟩
  obtain ⟨parsed, replayed, header, mirrors⟩ := collects disk senderIp tolerant
  exact ⟨parsed, replayed, fun isWeaker => header (implies isWeaker), mirrors⟩

theorem append {after : Prop} {now gone : List Incarnation} {more : List LogEntry}
    (replays : Replays parser started log live dead)
    (fit : ∀ entry ∈ more, entry.bytes.length ≤ kMaxEntryLength)
    (tolerated : ∀ file ∈ dead ++ live, ∃ later ∈ gone ++ now, ∀ disk,
      later.ToleratedBy parser.shouldPreallocateFiles disk →
        file.ToleratedBy parser.shouldPreallocateFiles disk)
    (replayed : ∀ disk parsed,
      (∀ file ∈ gone ++ now, file.ToleratedBy parser.shouldPreallocateFiles disk) →
      (started → parsed.headerParsed = true) →
      Mirrors parser.shouldPreallocateFiles disk live dead parsed →
      ∃ next, parser.Rounds disk .ok parsed (more.map body) .ok next ∧
        (after → next.headerParsed = true) ∧
        Mirrors parser.shouldPreallocateFiles disk now gone next) :
    Replays parser after (log ++ (more.map bytes).flatten) now gone := by
  obtain ⟨entries, fitted, written, collects⟩ := replays
  refine ⟨entries ++ more, ?_, ?_, ?_⟩
  · exact forall_mem_append.mpr ⟨fitted, fit⟩
  · rw [map_append, flatten_append, written]
  · intro disk senderIp tolerant
    have before : ∀ file ∈ dead ++ live,
        file.ToleratedBy parser.shouldPreallocateFiles disk := by
      intro file member
      obtain ⟨later, present, implies⟩ := tolerated file member
      exact implies disk (tolerant later present)
    obtain ⟨parsed, first, header, mirrors⟩ := collects disk senderIp before
    obtain ⟨next, rest, facts⟩ := replayed disk parsed tolerant header mirrors
    refine ⟨next, ?_, facts⟩
    rw [map_append]
    exact ((LogParser.rounds_of_replay first nofun).append rest).replay_eq

theorem entry {after : Prop} {now gone : List Incarnation} {entry : LogEntry}
    (replays : Replays parser started log live dead) (fits : entry.bytes.length ≤ kMaxEntryLength)
    (tolerated : ∀ file ∈ dead ++ live, ∃ later ∈ gone ++ now, ∀ disk,
      later.ToleratedBy parser.shouldPreallocateFiles disk →
        file.ToleratedBy parser.shouldPreallocateFiles disk)
    (round : ∀ disk parsed,
      (∀ file ∈ gone ++ now, file.ToleratedBy parser.shouldPreallocateFiles disk) →
      (started → parsed.headerParsed = true) →
      Mirrors parser.shouldPreallocateFiles disk live dead parsed →
      ∃ next, parser.Round disk .ok parsed entry.body .ok next ∧ next.headerParsed = true ∧
        Mirrors parser.shouldPreallocateFiles disk now gone next) :
    Replays parser after (log ++ entry.bytes) now gone := by
  have appended := @Replays.append parser started log live dead after now gone [entry] replays
    (fun other member => by rw [mem_singleton.mp member]; exact fits) tolerated (by
      intro disk parsed tolerant header mirrors
      obtain ⟨next, result, headed, mirrored⟩ := round disk parsed tolerant header mirrors
      exact ⟨next, .cons result .nil, fun _ => headed, mirrored⟩)
  rw [map_singleton, flatten_singleton] at appended
  exact appended

theorem creation (replays : Replays parser True log live dead) (acting : parser.Acting)
    {entry : FileCreation} (inRange : (fileCreation entry).InRange)
    (fits : (fileCreation entry).bytes.length ≤ kMaxEntryLength)
    (unused : ∀ file ∈ live, file.seqId ≠ entry.seqId) :
    Replays parser True (log ++ (fileCreation entry).bytes) (live ++
      [{ seqId := entry.seqId, fileName := entry.fileName, createdSize := entry.fileSize }])
      dead := by
  apply replays.entry fits
  · intro file member
    exact ⟨file, by rw [← append_assoc]; exact mem_append_left _ member,
      fun _ => id⟩
  · intro disk parsed _ header mirrors
    exact mirrors.creation acting (header trivial) (decode_of_inRange inRange
      (fun _ => rfl) (fun _ same => fileCreation.inj same)) unused

variable {file : Incarnation}

section

variable (replays : Replays parser True log live dead) (acting : parser.Acting)

include replays acting

theorem resize {entry : FileResize} (inRange : (fileResize entry).InRange)
    (fits : (fileResize entry).bytes.length ≤ kMaxEntryLength) (member : file ∈ live)
    (named : file.seqId = entry.seqId) (larger : ∀ other ∈ dead ++ live, other.seqId = entry.seqId →
      ∀ logged ∈ other.sizes, logged ≤ entry.fileSize) :
    Replays parser True (log ++ (fileResize entry).bytes)
      (live.map (Incarnation.resized entry.seqId entry.fileSize)) dead := by
  have amends := resized_amends entry.seqId entry.fileSize
  apply replays.entry fits
  · exact amends.tolerated
  · intro disk parsed tolerant header mirrors
    have resized := tolerant _ (mem_append_right _ (mem_map_of_mem member))
    unfold ToleratedBy at resized
    rw [amends.registeredSize] at resized
    have last : entry.fileSize ∈
        (Incarnation.resized entry.seqId entry.fileSize file).resizes := by
      unfold Incarnation.resized
      rw [if_pos named]
      exact mem_append_right _ mem_cons_self
    cases registered : file.registeredSize parser.shouldPreallocateFiles disk with
    | none =>
      rw [registered] at resized
      rw [resized] at last
      cases last
    | some size =>
      rw [registered] at resized
      exact mirrors.resize acting (header trivial) (decode_of_inRange inRange
        (fun _ => rfl) (fun _ same => fileResize.inj same)) member named registered
        (fun preallocated => resized.2 preallocated _ last) larger

theorem block (distinct : Distinct live) {entry : BlockWrite} (inRange : (blockWrite entry).InRange)
    (fits : (blockWrite entry).bytes.length ≤ kMaxEntryLength) (member : file ∈ live)
    (named : file.seqId = entry.seqId) (small : entry.offset + entry.blockSize ≤ int64Max) :
    Replays parser True (log ++ (blockWrite entry).bytes)
      (live.map (Incarnation.written entry.seqId
        { start := entry.offset, stop := entry.offset + entry.blockSize })) dead := by
  have amends := written_amends entry.seqId
    { start := entry.offset, stop := entry.offset + entry.blockSize }
  apply replays.entry fits
  · exact amends.tolerated
  · intro disk parsed tolerant header mirrors
    refine mirrors.block distinct acting (header trivial) (decode_of_inRange inRange
      (fun _ => rfl) (fun _ same => blockWrite.inj same)) member named small ?_
    intro size registered
    have written := tolerant _ (mem_append_right _ (mem_map_of_mem member))
    unfold ToleratedBy at written
    rw [amends.registeredSize, registered] at written
    refine written.1 { start := entry.offset, stop := entry.offset + entry.blockSize } ?_
    unfold Incarnation.written
    rw [if_pos named]
    exact mem_append_right _ mem_cons_self

theorem invalidation {entry : FileInvalidation} (inRange : (fileInvalidation entry).InRange)
    (fits : (fileInvalidation entry).bytes.length ≤ kMaxEntryLength) (member : file ∈ live)
    (named : file.seqId = entry.seqId) :
    Replays parser True (log ++ (fileInvalidation entry).bytes)
      (live.filter (fun file => decide (file.seqId ≠ entry.seqId)))
      (dead ++ live.filter (fun file => decide (file.seqId = entry.seqId))) := by
  apply replays.entry fits
  · intro other present
    refine ⟨other, ?_, fun _ => id⟩
    simp only [mem_append, mem_filter, decide_eq_true_eq] at present ⊢
    by_cases same : other.seqId = entry.seqId
    · exact .inl (present.imp_right (fun current => ⟨current, same⟩))
    · rcases present with old | current
      · exact .inl (.inl old)
      · exact .inr ⟨current, same⟩
  · intro disk parsed _ header mirrors
    exact mirrors.invalidation acting (header trivial) (decode_of_inRange inRange
      (fun _ => rfl) (fun _ same => fileInvalidation.inj same)) member named

end

def Accepted (parser : LogParser) (entry : LogHeader) : Prop :=
  entry.version = wlogVersion ∧ entry.senderIp ≠ [] ∧ entry.recoveryId = parser.recoveryId ∧
    entry.config = parser.config

theorem round_header {disk : Directory} {status : ErrorCode} {entry : LogHeader}
    (accepted : Accepted parser entry) (inRange : (LogEntry.header entry).InRange)
    (parsed : ParsedLog) :
    parser.Round disk status parsed (LogEntry.header entry).body .ok
      { parsed with senderIp := entry.senderIp, headerParsed := true } := by
  obtain ⟨version, named, recoveryId, config⟩ := accepted
  exact .header (@decode_of_inRange _ _ LogEntry.header entry inRange (fun _ => rfl)
    (fun _ same => LogEntry.header.inj same)) ⟨version, named⟩ (.inr ⟨recoveryId.symm, config.symm⟩)

theorem header (replays : Replays parser started log live dead) {entry : LogHeader}
    (accepted : Accepted parser entry) (inRange : (LogEntry.header entry).InRange)
    (fits : (LogEntry.header entry).bytes.length ≤ kMaxEntryLength) :
    Replays parser True (log ++ (LogEntry.header entry).bytes) live dead := by
  apply replays.entry fits (fun file member => ⟨file, member, fun _ => id⟩)
  intro disk parsed _ _ mirrors
  exact ⟨_, round_header accepted inRange parsed, rfl, mirrors.collected, mirrors.refused,
    mirrors.logged, mirrors.recorded⟩

theorem rounds_skipped {disk : Directory} {parsed : ParsedLog} {type : Byte} {buf : List Byte}
    (notHeader : EntryType.ofByte type ≠ some .header) (more : Nat) :
    parser.Rounds disk .inconsistentDirectory parsed (replicate more (type :: buf))
      .inconsistentDirectory parsed := by
  induction more with
  | zero => exact .nil
  | succ more ih => exact .cons (.skipped notHeader) ih

/-- Only the first of several invalidations is looked at. -/
theorem restart (replays : Replays parser started log live dead) (acting : parser.Acting)
    {entry : LogHeader} (accepted : Accepted parser entry)
    (inRange : (LogEntry.header entry).InRange)
    (fits : (LogEntry.header entry).bytes.length ≤ kMaxEntryLength)
    {invalidation : DirectoryInvalidation} (dated : (directoryInvalidation invalidation).InRange)
    (short : (directoryInvalidation invalidation).bytes.length ≤ kMaxEntryLength) (more : Nat) :
    Replays parser True
      (log ++ (replicate (more + 1) (directoryInvalidation invalidation).bytes).flatten ++
        (LogEntry.header entry).bytes) [] (dead ++ live) := by
  have appended := @Replays.append parser started log live dead True [] (dead ++ live)
    (replicate (more + 1) (directoryInvalidation invalidation) ++ [LogEntry.header entry]) replays
    (fun other member => by
      rcases mem_append.mp member with first | second
      · rw [eq_of_mem_replicate first]
        exact short
      · rw [mem_singleton.mp second]
        exact fits)
    (fun file member => ⟨file, mem_append_left _ member, fun _ => id⟩) (by
      intro disk parsed _ _ _
      have decoded := @decode_of_inRange _ decodeDirectoryInvalidationEntry
        directoryInvalidation invalidation dated (fun _ => rfl)
        (fun _ same => directoryInvalidation.inj same)
      have notHeader : EntryType.ofByte EntryType.directoryInvalidation.toByte ≠ some .header := by
        decide
      rw [map_append, map_replicate]
      exact ⟨_, .cons (.directoryInvalidation nofun decoded acting.1)
        ((rounds_skipped notHeader more).append (.cons (round_header accepted inRange _) .nil)),
        fun _ => rfl, mirrors_empty _ _ { parsed with
          headerParsed := true
          senderIp := entry.senderIp }⟩)
  rw [map_append, map_replicate, map_singleton, flatten_append, flatten_singleton,
    ← append_assoc] at appended
  exact appended

end Replays

end Wdt
