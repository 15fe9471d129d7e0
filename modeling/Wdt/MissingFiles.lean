/-
Files that were removed from the disk. The parser drops them and goes on with the
others, but only as long as no resize entry needs one of them: the parses before and
after the removal are run beside each other, and each resize entry is compared with
the entries that the log has before it.
-/

import Wdt.StaleEntries

namespace Wdt

open SortedMap LogEntry

def Directory.without (disk : Directory) (removed : List (List Byte)) : Directory :=
  fun name => if removed.contains name then none else disk name

/-! ### What the log says before an entry -/

def creations (seqId : Nat) (entries : List LogEntry) : List FileCreation := entries.filterMap fun
    | .fileCreation entry => if entry.seqId = seqId then some entry else none
    | _ => none

def resizes (seqId : Nat) (entries : List LogEntry) : List FileResize := entries.filterMap fun
    | .fileResize entry => if entry.seqId = seqId then some entry else none
    | _ => none

/-- The size that a resize may not fall below: that of the last resize, or that of the first
file that was created under the seq-id and passes the check. -/
def sizeBefore (passes : FileCreation → Bool) (seqId : Nat) (entries : List LogEntry) :
    Option Nat :=
  match (resizes seqId entries).getLast? with
  | some resize => some resize.fileSize
  | none => ((creations seqId entries).filter passes).head?.map FileCreation.fileSize

section Appended

variable (seqId : Nat) (entries : List LogEntry)

theorem creations_append (more : List LogEntry) :
    creations seqId (entries ++ more) = creations seqId entries ++ creations seqId more :=
  List.filterMap_append

theorem resizes_append (more : List LogEntry) :
    resizes seqId (entries ++ more) = resizes seqId entries ++ resizes seqId more :=
  List.filterMap_append

theorem creations_created (entry : FileCreation) :
    creations seqId (entries ++ [.fileCreation entry]) =
      creations seqId entries ++ if entry.seqId = seqId then [entry] else [] := by
  by_cases same : entry.seqId = seqId <;> simp [creations, same]

theorem resizes_resized (entry : FileResize) : resizes seqId (entries ++ [.fileResize entry]) =
      resizes seqId entries ++ if entry.seqId = seqId then [entry] else [] := by
  by_cases same : entry.seqId = seqId <;> simp [resizes, same]

variable (passes : FileCreation → Bool)

theorem sizeBefore_other {entry : LogEntry}
    (noCreation : creations seqId [entry] = []) (noResize : resizes seqId [entry] = []) :
    sizeBefore passes seqId (entries ++ [entry]) = sizeBefore passes seqId entries := by
  unfold sizeBefore
  rw [creations_append, resizes_append, noCreation, noResize, List.append_nil, List.append_nil]

theorem sizeBefore_resized (entry : FileResize) :
    sizeBefore passes seqId (entries ++ [.fileResize entry]) =
      if entry.seqId = seqId then some entry.fileSize else sizeBefore passes seqId entries := by
  unfold sizeBefore
  rw [resizes_resized, creations_append]
  by_cases same : entry.seqId = seqId <;> simp [same, creations]

theorem sizeBefore_created (entry : FileCreation) :
    sizeBefore passes seqId (entries ++ [.fileCreation entry]) =
      if entry.seqId = seqId ∧ passes entry = true then
        some ((sizeBefore passes seqId entries).getD entry.fileSize)
      else sizeBefore passes seqId entries := by
  unfold sizeBefore
  rw [creations_created, resizes_append, show resizes seqId [.fileCreation entry] = [] from rfl,
    List.append_nil]
  cases (resizes seqId entries).getLast? with
  | some resize => exact (ite_self _).symm
  | none =>
    by_cases same : entry.seqId = seqId
    · cases passing : passes entry
      · simp [same, passing]
      · cases filtered : (creations seqId entries).filter passes <;>
          simp [same, passing, filtered]
    · simp [same]

end Appended

namespace LogParser

/-- The entries since the directory became valid, when it is valid. -/
def epochStep (parser : LogParser) (epoch : Option (List LogEntry)) (body : List Byte) :
    Option (List LogEntry) :=
  if parser.voids body then none
  else if parser.renews body then some (epoch.getD [])
  else epoch.map fun entries => entries ++ (entryOf body).toList

/-- The file that a resize entry is about was not removed, and its size is not smaller than the
one known when the removed files are left out. -/
def ResizeStands (parser : LogParser) (disk : Directory) (removed : List (List Byte))
    (entries : List LogEntry) (resize : FileResize) : Prop :=
  (∀ creation, (creations resize.seqId entries).getLast? = some creation →
    creation.fileName ∉ removed) ∧
  ∀ size, sizeBefore (fun creation =>
      (parser.verifiedSize (disk.without removed) creation).isSome) resize.seqId entries =
    some size → size ≤ resize.fileSize

/-- So is every resize entry that the parser comes to while the directory is valid. -/
def ResizesStand (parser : LogParser) (disk : Directory) (removed : List (List Byte)) :
    Option (List LogEntry) → List (List Byte) → Prop
  | _, [] => True
  | epoch, body :: rest =>
    (∀ entries resize, epoch = some entries → entryOf body = some (.fileResize resize) →
      parser.ResizeStands disk removed entries resize) ∧
    ResizesStand parser disk removed (parser.epochStep epoch body) rest

variable {parser : LogParser} {disk : Directory} {removed : List (List Byte)}

variable {entry : FileCreation}

theorem verifiedSize_without_removed (gone : entry.fileName ∈ removed) :
    parser.verifiedSize (disk.without removed) entry = none := by
  unfold verifiedSize Directory.without
  rw [if_pos (List.contains_iff_mem.mpr gone)]

theorem verifiedSize_without_kept (kept : entry.fileName ∉ removed) :
    parser.verifiedSize (disk.without removed) entry =
      parser.verifiedSize disk entry := by
  unfold verifiedSize Directory.without
  rw [if_neg (kept ∘ List.contains_iff_mem.mp)]

theorem verifiedSize_without_refused {entry : FileCreation}
    (failed : parser.verifiedSize disk entry = none) :
    parser.verifiedSize (disk.without removed) entry = none := by
  by_cases gone : entry.fileName ∈ removed
  · exact verifiedSize_without_removed gone
  · rw [verifiedSize_without_kept gone, failed]

/-! ### Both parses beside each other -/

/-- What the parse without the removed files has for a seq-id, as it follows from the other one
and from the entries so far. -/
structure TracksAt (parser : LogParser) (disk : Directory) (removed : List (List Byte))
    (entries : List LogEntry) (full thin : ParsedLog) (seqId : Nat) : Prop where
  files : thin.fileInfoMap.lookup seqId =
    (full.fileInfoMap.lookup seqId).filter (fun info => decide (info.fileName ∉ removed))
  invalid : thin.invalidSeqIds.contains seqId = true ↔
    full.invalidSeqIds.contains seqId = true ∨
      ∃ info, full.fileInfoMap.lookup seqId = some info ∧ info.fileName ∈ removed
  named : ∀ info, full.fileInfoMap.lookup seqId = some info →
    ∃ creation, (creations seqId entries).getLast? = some creation ∧
      creation.fileName = info.fileName
  sized : thin.seqIdToSizeMap.lookup seqId = sizeBefore (fun creation =>
    (parser.verifiedSize (disk.without removed) creation).isSome) seqId entries
  recorded : thin.fileInfoMap.lookup seqId ≠ none → thin.seqIdToSizeMap.lookup seqId ≠ none

structure Tracks (parser : LogParser) (disk : Directory) (removed : List (List Byte))
    (entries : List LogEntry) (full thin : ParsedLog) : Prop where
  headed : thin.headerParsed = full.headerParsed
  seqIds : ∀ seqId, TracksAt parser disk removed entries full thin seqId

variable {info : FileChunksInfo}

section Tracking

variable {entries : List LogEntry} {full thin : ParsedLog}
  (tracks : Tracks parser disk removed entries full thin)

include tracks

variable {seqId : Nat}

theorem Tracks.kept
    (lookup : full.fileInfoMap.lookup seqId = some info) (kept : info.fileName ∉ removed) :
    thin.fileInfoMap.lookup seqId = some info := by
  rw [(tracks.seqIds _).files, lookup]
  exact if_pos (decide_eq_true kept)

theorem Tracks.gone
    (lookup : full.fileInfoMap.lookup seqId = some info) (gone : info.fileName ∈ removed) :
    thin.fileInfoMap.lookup seqId = none ∧ thin.invalidSeqIds.contains seqId = true := by
  refine ⟨?_, (tracks.seqIds seqId).invalid.mpr (.inr ⟨info, lookup, gone⟩)⟩
  rw [(tracks.seqIds _).files, lookup]
  exact if_neg (by rw [decide_eq_true_eq]; exact not_not.mpr gone)

theorem Tracks.absent (absent : full.fileInfoMap.lookup seqId = none) :
    thin.fileInfoMap.lookup seqId = none := by
  rw [(tracks.seqIds _).files, absent]
  rfl

theorem Tracks.notInvalid (valid : full.invalidSeqIds.contains seqId = false)
    (kept : ∀ info, full.fileInfoMap.lookup seqId = some info → info.fileName ∉ removed) :
    thin.invalidSeqIds.contains seqId = false := by
  apply Bool.eq_false_of_not_eq_true
  intro invalid
  rcases (tracks.seqIds seqId).invalid.mp invalid with invalid | ⟨info, lookup, gone⟩
  · rw [valid] at invalid
    cases invalid
  · exact kept info lookup gone

theorem Tracks.change {later : List LogEntry} {full' thin' : ParsedLog} (seqId : Nat)
    (headed : thin'.headerParsed = full'.headerParsed)
    (elsewhere : ∀ other, other ≠ seqId →
      full'.fileInfoMap.lookup other = full.fileInfoMap.lookup other ∧
      full'.invalidSeqIds.contains other = full.invalidSeqIds.contains other ∧
      thin'.fileInfoMap.lookup other = thin.fileInfoMap.lookup other ∧
      thin'.invalidSeqIds.contains other = thin.invalidSeqIds.contains other ∧
      thin'.seqIdToSizeMap.lookup other = thin.seqIdToSizeMap.lookup other ∧
      creations other later = creations other entries ∧
      resizes other later = resizes other entries)
    (own : TracksAt parser disk removed later full' thin' seqId) :
    Tracks parser disk removed later full' thin' := by
  refine ⟨headed, fun other => ?_⟩
  by_cases same : other = seqId
  · subst same
    exact own
  obtain ⟨fullFiles, fullInvalid, thinFiles, thinInvalid, sizes, created, resized⟩ :=
    elsewhere other same
  have before := tracks.seqIds other
  constructor
  all_goals
    simp only [sizeBefore, fullFiles, fullInvalid, thinFiles, thinInvalid, sizes, created, resized]
  · exact before.files
  · exact before.invalid
  · exact before.named
  · exact before.sized
  · exact before.recorded

theorem Tracks.silent {entry : LogEntry} (noCreation : ∀ seqId, creations seqId [entry] = [])
    (noResize : ∀ seqId, resizes seqId [entry] = []) :
    Tracks parser disk removed (entries ++ [entry]) full thin where
  headed := tracks.headed
  seqIds := fun seqId =>
    { tracks.seqIds seqId with
      named := by
        rw [creations_append, noCreation, List.append_nil]
        exact (tracks.seqIds seqId).named
      sized := by
        rw [sizeBefore_other _ _ _ (noCreation seqId) (noResize seqId)]
        exact (tracks.seqIds seqId).sized }

/-- What the parser records of a file whose size is verified. -/
def recordCreation (parsed : ParsedLog) (entry : FileCreation) (size : Nat) : ParsedLog :=
  { parsed with
    fileInfoMap := parsed.fileInfoMap.emplace entry.seqId
      { seqId := entry.seqId, fileName := entry.fileName, fileSize := size }
    seqIdToSizeMap := parsed.seqIdToSizeMap.emplace entry.seqId entry.fileSize }

theorem Tracks.created {entry : FileCreation} {size : Nat}
    (uncollected : full.fileInfoMap.lookup entry.seqId = none) (kept : entry.fileName ∉ removed)
    (verified : parser.verifiedSize (disk.without removed) entry = some size) :
    Tracks parser disk removed (entries ++ [.fileCreation entry])
      (recordCreation full entry size) (recordCreation thin entry size) := by
  have absent := tracks.absent uncollected
  have invalid := (tracks.seqIds entry.seqId).invalid
  refine tracks.change entry.seqId tracks.headed ?_ ⟨?_, ?_, ?_, ?_, ?_⟩
  · intro other different
    simp [recordCreation, lookup_emplace, different, different.symm, creations_created, resizes]
  · simp [recordCreation, lookup_emplace, uncollected, absent, Option.filter_some, kept]
  · simpa [recordCreation, lookup_emplace, uncollected, kept] using invalid
  · simp [recordCreation, lookup_emplace, uncollected, creations_created]
  · simp [recordCreation, lookup_emplace, sizeBefore_created, verified, (tracks.seqIds _).sized]
  · simp [recordCreation, lookup_emplace]

theorem Tracks.created_gone {size : Nat} (uncollected : full.fileInfoMap.lookup entry.seqId = none)
    (gone : entry.fileName ∈ removed) :
    Tracks parser disk removed (entries ++ [.fileCreation entry])
      (recordCreation full entry size)
      { thin with invalidSeqIds := thin.invalidSeqIds.emplace entry.seqId () } := by
  have absent := tracks.absent uncollected
  refine tracks.change entry.seqId tracks.headed ?_ ⟨?_, ?_, ?_, ?_, ?_⟩
  · intro other different
    simp [recordCreation, contains, lookup_emplace, different, different.symm,
      creations_created, resizes]
  · simp [recordCreation, lookup_emplace, uncollected, absent, Option.filter_some, gone]
  · simp [recordCreation, contains, lookup_emplace, uncollected, gone]
  · simp [recordCreation, lookup_emplace, uncollected, creations_created]
  · simp [sizeBefore_created, verifiedSize_without_removed gone, (tracks.seqIds _).sized]
  · exact (tracks.seqIds entry.seqId).recorded

theorem Tracks.refused {entry : FileCreation}
    (uncollected : full.fileInfoMap.lookup entry.seqId = none)
    (failed : parser.verifiedSize (disk.without removed) entry = none) :
    Tracks parser disk removed (entries ++ [.fileCreation entry])
      { full with invalidSeqIds := full.invalidSeqIds.emplace entry.seqId () }
      { thin with invalidSeqIds := thin.invalidSeqIds.emplace entry.seqId () } := by
  refine tracks.change entry.seqId tracks.headed ?_ ⟨?_, ?_, ?_, ?_, ?_⟩
  · intro other different
    simp [contains, lookup_emplace, different, different.symm,
      creations_created, resizes]
  · exact (tracks.seqIds entry.seqId).files
  · simp [contains, lookup_emplace]
  · simp [uncollected]
  · simp [sizeBefore_created, failed, (tracks.seqIds _).sized]
  · exact (tracks.seqIds entry.seqId).recorded

theorem Tracks.resized (entry : FileResize) :
    Tracks parser disk removed (entries ++ [.fileResize entry])
      { full with seqIdToSizeMap := full.seqIdToSizeMap.set entry.seqId entry.fileSize }
      { thin with seqIdToSizeMap := thin.seqIdToSizeMap.set entry.seqId entry.fileSize } := by
  have noCreation (seqId : Nat) : creations seqId [.fileResize entry] = [] := rfl
  refine tracks.change entry.seqId tracks.headed ?_ ⟨?_, ?_, ?_, ?_, ?_⟩
  · intro other different
    simp [lookup_set, different, different.symm, creations_append, noCreation,
      resizes_resized]
  · exact (tracks.seqIds entry.seqId).files
  · exact (tracks.seqIds entry.seqId).invalid
  · simpa [creations_append, noCreation] using (tracks.seqIds entry.seqId).named
  · simp [lookup_set, sizeBefore_resized]
  · simp [lookup_set]

theorem Tracks.written {seqId : Nat} {info : FileChunksInfo} (chunks : List Interval)
    (lookup : full.fileInfoMap.lookup seqId = some info) (kept : info.fileName ∉ removed) :
    Tracks parser disk removed entries
      { full with fileInfoMap := full.fileInfoMap.set seqId { info with chunks } }
      { thin with fileInfoMap := thin.fileInfoMap.set seqId { info with chunks } } := by
  have invalid := (tracks.seqIds seqId).invalid
  have recorded := (tracks.seqIds seqId).recorded
  refine tracks.change seqId tracks.headed ?_ ⟨?_, ?_, ?_, ?_, ?_⟩
  · intro other different
    simp [lookup_set, different]
  · simp [lookup_set, Option.filter_some, kept]
  · simpa [lookup_set, lookup, kept] using invalid
  · simpa [lookup_set, lookup] using (tracks.seqIds seqId).named
  · exact (tracks.seqIds seqId).sized
  · simpa [lookup_set, tracks.kept lookup kept] using recorded

theorem Tracks.written_gone (chunks : List Interval)
    (lookup : full.fileInfoMap.lookup seqId = some info) (gone : info.fileName ∈ removed) :
    Tracks parser disk removed entries
      { full with fileInfoMap := full.fileInfoMap.set seqId { info with chunks } } thin := by
  obtain ⟨absent, invalid⟩ := tracks.gone lookup gone
  refine tracks.change seqId tracks.headed ?_ ⟨?_, ?_, ?_, ?_, ?_⟩
  · intro other different
    simp [lookup_set, different]
  · simp [lookup_set, absent, Option.filter_some, gone]
  · simp [lookup_set, invalid, gone]
  · simpa [lookup_set, lookup] using (tracks.seqIds seqId).named
  · exact (tracks.seqIds seqId).sized
  · exact (tracks.seqIds seqId).recorded

theorem Tracks.invalidated (seqId : Nat) : Tracks parser disk removed entries
      { full with
        fileInfoMap := full.fileInfoMap.erase seqId
        invalidSeqIds := full.invalidSeqIds.erase seqId }
      { thin with
        fileInfoMap := thin.fileInfoMap.erase seqId
        invalidSeqIds := thin.invalidSeqIds.erase seqId } := by
  refine tracks.change seqId tracks.headed ?_ ⟨?_, ?_, ?_, ?_, ?_⟩
  · intro other different
    simp [contains, lookup_erase, different]
  · simp [lookup_erase]
  · simp [contains, lookup_erase]
  · simp [lookup_erase]
  · exact (tracks.seqIds seqId).sized
  · simp [lookup_erase]

end Tracking

/-! ### Rounds of both parses -/

theorem tracks_empty (full thin : ParsedLog) (headed : thin.headerParsed = full.headerParsed) :
    Tracks parser disk removed [] full.clearParsedData thin.clearParsedData := by
  refine ⟨headed, fun _ => ⟨rfl, ⟨nofun, ?_⟩, nofun, rfl, absurd rfl⟩⟩
  rintro (invalid | ⟨info, lookup, _⟩)
  · cases invalid
  · cases lookup

/-- The states of the two parses: while the directory is invalid, nothing is collected. -/
inductive Beside (parser : LogParser) (disk : Directory) (removed : List (List Byte)) :
    ErrorCode → Option (List LogEntry) → ParsedLog → ParsedLog → Prop
  | invalid {full thin} (fullCleared : full.clearParsedData = full)
      (thinCleared : thin.clearParsedData = thin) :
      Beside parser disk removed .inconsistentDirectory none full thin
  | valid {entries full thin} (tracks : Tracks parser disk removed entries full thin) :
      Beside parser disk removed .ok (some entries) full thin

variable {buf : List Byte}

theorem epochStep_fileEntry (type : EntryType) {entry : LogEntry}
    (notHeader : type ≠ .header) (notVoid : type ≠ .directoryInvalidation)
    (decoded : decodeEntry type buf = some entry) (entries : List LogEntry) :
    parser.epochStep (some entries) (type.toByte :: buf) = some (entries ++ [entry]) := by
  have kind := @Round.fileEntry parser type buf notHeader notVoid
  unfold epochStep
  rw [kind.1, kind.2, entryOf_typed, decoded]
  rfl

theorem epochStep_skipped {type : Byte} (notHeader : EntryType.ofByte type ≠ some .header) :
    parser.epochStep none (type :: buf) = none := by
  have other : parser.renews (type :: buf) = false := renews_other notHeader
  unfold epochStep
  rw [other]
  exact ite_self _

variable {status after : ErrorCode} {epoch : Option (List LogEntry)}
  {full thin collected : ParsedLog} {body : List Byte}

theorem epochStep_header {entry : LogHeader} (decoded : decodeLogHeader buf = some entry) :
    parser.epochStep epoch (EntryType.header.toByte :: buf) =
      if parser.Matches entry then some (epoch.getD []) else none := by
  have read := entryOf_decoded .header rfl decoded
  unfold epochStep
  rw [voids_header read, renews_header read]
  by_cases same : parser.Matches entry <;> simp [same]

theorem epochStep_directoryInvalidation (buf : List Byte) :
    parser.epochStep epoch (EntryType.directoryInvalidation.toByte :: buf) = none := by
  unfold epochStep
  rw [voids_other (by rw [entryType_typed]; exact nofun), entryType_typed]
  rfl

section

variable (fixing : parser.parseOnly = false)
  (round : Round parser disk status full body after collected)

include fixing round

theorem Round.without (beside : Beside parser disk removed status epoch full thin)
    (stands : ∀ entries resize, epoch = some entries → entryOf body = some (.fileResize resize) →
        parser.ResizeStands disk removed entries resize) :
    ∃ kept, Round parser (disk.without removed) status thin body after kept ∧
      Beside parser disk removed after (parser.epochStep epoch body) collected kept := by
  have acts : ¬ parser.parseOnly = true := Bool.eq_false_iff.mp fixing
  cases beside with
  | invalid fullCleared thinCleared =>
    cases round with
    | skipped notHeader =>
      rw [epochStep_skipped notHeader]
      exact ⟨thin, .skipped notHeader, .invalid fullCleared thinCleared⟩
    | @header _ _ buf entry decoded legible accepted =>
      have same := accepted.resolve_left acts
      rw [epochStep_header decoded, if_pos same, ← fullCleared, ← thinCleared]
      exact ⟨_, .header decoded legible (.inr same), .valid (tracks_empty
        { full with senderIp := entry.senderIp, headerParsed := true }
        { thin with senderIp := entry.senderIp, headerParsed := true } rfl)⟩
    | otherHeader decoded legible different =>
      rw [epochStep_header decoded, if_neg different]
      exact ⟨_, .otherHeader decoded legible different fixing, .invalid rfl rfl⟩
    | printed _ valid | directoryInvalidation valid | created _ valid | refused _ valid
    | resized _ valid | ignored _ valid | written _ valid | invalidated _ valid =>
      exact absurd rfl valid
  | @valid entries _ _ tracks =>
    cases round with
    | printed printing => exact absurd printing acts
    | header decoded legible accepted =>
      have same := accepted.resolve_left acts
      rw [epochStep_header decoded, if_pos same]
      exact ⟨_, .header decoded legible (.inr same), .valid ⟨rfl, fun seqId =>
        { tracks.seqIds seqId with }⟩⟩
    | otherHeader decoded legible different =>
      rw [epochStep_header decoded, if_neg different]
      exact ⟨_, .otherHeader decoded legible different fixing, .invalid rfl rfl⟩
    | directoryInvalidation valid decoded =>
      rw [epochStep_directoryInvalidation]
      exact ⟨_, .directoryInvalidation valid decoded fixing, .invalid rfl rfl⟩
    | @created _ _ buf entry size acting valid headed decoded uncollected notInvalid verified =>
      have lookup := contains_eq_false_iff.mp uncollected
      have absent := contains_eq_false_iff.mpr (tracks.absent lookup)
      have invalid := tracks.notInvalid notInvalid (by simp [lookup])
      rw [epochStep_fileEntry .fileCreation nofun nofun
        (congrArg (Option.map fileCreation) decoded)]
      by_cases gone : entry.fileName ∈ removed
      · exact ⟨_, .refused acting valid (tracks.headed.trans headed) decoded absent invalid
          (verifiedSize_without_removed gone), .valid (tracks.created_gone lookup gone)⟩
      · have passes := (verifiedSize_without_kept gone).trans verified
        exact ⟨_, .created acting valid (tracks.headed.trans headed) decoded absent invalid
          passes, .valid (tracks.created lookup gone passes)⟩
    | refused acting valid headed decoded uncollected notInvalid failed =>
      have lookup := contains_eq_false_iff.mp uncollected
      have absent := contains_eq_false_iff.mpr (tracks.absent lookup)
      have invalid := tracks.notInvalid notInvalid (by simp [lookup])
      have fails := @verifiedSize_without_refused parser disk removed _ failed
      rw [epochStep_fileEntry .fileCreation nofun nofun
        (congrArg (Option.map fileCreation) decoded)]
      exact ⟨_, .refused acting valid (tracks.headed.trans headed) decoded absent invalid
        fails, .valid (tracks.refused lookup fails)⟩
    | @resized _ _ buf entry info size acting valid headed decoded known recorded grows fits =>
      have read := congrArg (Option.map fileResize) decoded
      rcases stands entries entry rfl ((entryOf_typed _ _).trans read) with ⟨there, larger⟩
      rcases (tracks.seqIds entry.seqId).named info known with ⟨creation, last, sameName⟩
      have lookup := tracks.kept known (sameName ▸ there creation last)
      rw [epochStep_fileEntry .fileResize nofun nofun read]
      rcases Option.ne_none_iff_exists'.mp ((tracks.seqIds entry.seqId).recorded (by simp [lookup]))
        with ⟨least, sized⟩
      exact ⟨_, .resized acting valid (tracks.headed.trans headed) decoded lookup sized
        (larger least ((tracks.seqIds entry.seqId).sized.symm.trans sized)) fits,
        .valid (tracks.resized entry)⟩
    | @ignored _ _ buf entry acting valid headed decoded invalid =>
      rw [epochStep_fileEntry .blockWrite nofun nofun
        (congrArg (Option.map blockWrite) decoded)]
      exact ⟨thin, .ignored acting valid (tracks.headed.trans headed) decoded
        ((tracks.seqIds entry.seqId).invalid.mpr (.inl invalid)),
        .valid (tracks.silent (fun _ => rfl) (fun _ => rfl))⟩
    | @written _ _ buf entry info acting valid headed decoded notInvalid known within ordered =>
      rw [epochStep_fileEntry .blockWrite nofun nofun
        (congrArg (Option.map blockWrite) decoded)]
      by_cases gone : info.fileName ∈ removed
      · exact ⟨thin, .ignored acting valid (tracks.headed.trans headed) decoded
          (tracks.gone known gone).2,
          .valid ((tracks.written_gone _ known gone).silent (fun _ => rfl) (fun _ => rfl))⟩
      have invalid := tracks.notInvalid notInvalid (by simp [known, gone])
      exact ⟨_, .written acting valid (tracks.headed.trans headed) decoded invalid
        (tracks.kept known gone) within ordered,
        .valid ((tracks.written _ known gone).silent (fun _ => rfl) (fun _ => rfl))⟩
    | @invalidated _ _ buf entry acting valid headed decoded known =>
      rw [epochStep_fileEntry .fileInvalidation nofun nofun
        (congrArg (Option.map fileInvalidation) decoded)]
      refine ⟨_, .invalidated acting valid (tracks.headed.trans headed) decoded ?_,
        .valid ((tracks.invalidated entry.seqId).silent (fun _ => rfl) (fun _ => rfl))⟩
      rcases known with collected | invalid
      · rcases contains_eq_true_iff.mp collected with ⟨info, lookup⟩
        by_cases gone : info.fileName ∈ removed
        · exact .inr (tracks.gone lookup gone).2
        · exact .inl (contains_eq_true_iff.mpr ⟨info, tracks.kept lookup gone⟩)
      · exact .inr ((tracks.seqIds entry.seqId).invalid.mpr (.inl invalid))

theorem Round.of_resize (valid : status ≠ .inconsistentDirectory) {resize : FileResize}
    (read : entryOf body = some (.fileResize resize)) :
    ∃ buf info, body = EntryType.fileResize.toByte :: buf ∧
      decodeFileResizeEntry buf = some resize ∧ parser.Acting ∧ full.headerParsed = true ∧
      full.fileInfoMap.lookup resize.seqId = some info := by
  have kind := entryType_of_read read
  cases round with
  | skipped => exact absurd rfl valid
  | printed printing => cases printing.symm.trans fixing
  | @resized _ _ buf entry info size acting _ headed decoded known =>
    rcases Option.map_eq_some_iff.mp read with ⟨same, again, equal⟩
    cases equal
    rw [decoded] at again
    cases again
    exact ⟨buf, info, rfl, decoded, acting, headed, known⟩
  | header | otherHeader | directoryInvalidation | created | refused | ignored | written
  | invalidated =>
    cases kind

end

theorem Tracks.resize_falls {entries : List LogEntry}
    {resize : FileResize} (tracks : Tracks parser disk removed entries full thin)
    (lookup : full.fileInfoMap.lookup resize.seqId = some info)
    (falls : ¬ parser.ResizeStands disk removed entries resize) :
    parser.applyFileResize thin resize = .ok (.invalidLog, thin) := by
  unfold applyFileResize
  by_cases gone : info.fileName ∈ removed
  · rw [(tracks.gone lookup gone).1]
  rw [tracks.kept lookup gone]
  rcases (tracks.seqIds resize.seqId).named info lookup with ⟨creation, last, sameName⟩
  have there : ∀ creation, (creations resize.seqId entries).getLast? = some creation →
      creation.fileName ∉ removed := by simp [last, sameName, gone]
  have smaller := fun larger => falls ⟨there, larger⟩
  rw [← (tracks.seqIds _).sized] at smaller
  cases sized : thin.seqIdToSizeMap.lookup resize.seqId with
  | none => simp [sized] at smaller
  | some size =>
    dsimp only
    rw [if_pos (by simpa [sized] using smaller)]

theorem Round.invalid_without (fixing : parser.parseOnly = false)
    (round : Round parser disk status full body after collected)
    (beside : Beside parser disk removed status epoch full thin)
    (falls : ¬ ∀ entries resize, epoch = some entries → entryOf body = some (.fileResize resize) →
        parser.ResizeStands disk removed entries resize) :
    parser.processEntry (disk.without removed) status thin body =
      .ok (.invalidLog, thin) := by
  rcases not_forall.mp falls with ⟨entries, fallsAt⟩
  rcases not_forall.mp fallsAt with ⟨resize, fallsFor⟩
  rcases Classical.not_imp.mp fallsFor with ⟨current, unread⟩
  rcases Classical.not_imp.mp unread with ⟨read, small⟩
  cases beside with
  | invalid => cases current
  | valid tracks =>
    cases current
    have valid : ErrorCode.ok ≠ .inconsistentDirectory := nofun
    rcases round.of_resize fixing valid read with
      ⟨buf, info, rfl, decoded, acting, headed, lookup⟩
    exact processEntry_typed (fun same => absurd same valid)
      ((processFileEntry_decoded acting (tracks.headed.trans headed) decoded).trans
        (tracks.resize_falls lookup small))

variable {bodies : List (List Byte)}

theorem Rounds.without (fixing : parser.parseOnly = false)
    (rounds : Rounds parser disk status full bodies after collected)
    (beside : Beside parser disk removed status epoch full thin) :
    (parser.ResizesStand disk removed epoch bodies → ∃ last kept,
      Rounds parser (disk.without removed) status thin bodies after kept ∧
        Beside parser disk removed after last collected kept) ∧
    (¬ parser.ResizesStand disk removed epoch bodies → ∃ kept,
      parser.replay (disk.without removed) status thin bodies = .ok (.invalidLog, kept)) := by
  induction rounds generalizing epoch thin with
  | nil => exact ⟨fun _ => ⟨epoch, thin, .nil, beside⟩, fun falls => absurd trivial falls⟩
  | @cons _ _ _ _ _ _ body rest round rounds ih =>
    constructor
    · intro stand
      rcases round.without fixing beside stand.1 with ⟨between, first, middle⟩
      rcases (ih middle).1 stand.2 with ⟨last, kept, others, final⟩
      exact ⟨last, kept, .cons first others, final⟩
    · intro falls
      by_cases stands : ∀ entries resize, epoch = some entries →
          entryOf body = some (.fileResize resize) →
            parser.ResizeStands disk removed entries resize
      · rcases round.without fixing beside stands with ⟨between, first, middle⟩
        rcases (ih middle).2 (fun later => falls ⟨stands, later⟩) with ⟨kept, replayed⟩
        refine ⟨kept, ?_⟩
        rw [replay, first.processEntry_eq]
        dsimp only
        rw [if_neg first.valid]
        exact replayed
      · refine ⟨thin, ?_⟩
        rw [replay, round.invalid_without fixing beside stands]
        rfl

theorem Rounds.anyDirectory (printing : parser.parseOnly = true)
    (rounds : Rounds parser disk status full bodies after collected) (other : Directory) :
    Rounds parser other status full bodies after collected := by
  have excluded : ¬ parser.Acting := fun acting => nomatch printing.symm.trans acting.1
  induction rounds with
  | nil => exact .nil
  | cons round _ ih =>
    refine .cons ?_ ih
    cases round with
    | skipped notHeader => exact .skipped notHeader
    | printed _ valid notHeader headed decoded =>
      exact .printed printing valid notHeader headed decoded
    | header decoded legible accepted => exact .header decoded legible accepted
    | otherHeader decoded legible different fixing =>
      exact .otherHeader decoded legible different fixing
    | directoryInvalidation valid decoded fixing =>
      exact .directoryInvalidation valid decoded fixing
    | created acting | refused acting | resized acting | ignored acting | written acting
    | invalidated acting => exact absurd acting excluded

theorem chunks_without {entries : List LogEntry}
    (tracks : Tracks parser disk removed entries full thin) :
    thin.fileInfoMap.values.map FileChunksInfo.mergeChunks =
      (full.fileInfoMap.values.map FileChunksInfo.mergeChunks).filter
        (fun info => decide (info.fileName ∉ removed)) := by
  rw [values_filter fun seqId => (tracks.seqIds seqId).files, List.filter_map]
  rfl

end LogParser

/-! ### The manager -/

namespace LogManager

theorem parseVerifyAndFix_of_rounds {manager fixed : LogManager} {disk other : Directory}
    {clock : Nat → Nat} {parseOnly : Bool} {chunks : List FileChunksInfo}
    (fromStart : manager.file.position = 0)
    (parsed : manager.parseVerifyAndFix disk clock parseOnly = .ok (.ok, fixed, chunks))
    {collected : ParsedLog}
    (rounds : LogParser.Rounds (manager.parser parseOnly) other .ok
      { senderIp := manager.senderIp } (logBodies manager.file.contents) .ok collected)
    (later : Nat → Nat) :
    ∃ again, manager.parseVerifyAndFix other later parseOnly =
      .ok (.ok, again, collected.fileInfoMap.values.map FileChunksInfo.mergeChunks) := by
  rcases parseVerifyAndFix_ok parsed with ⟨isOpen, result, first, ok, _, _⟩
  have file := LogFile.eq_of_position_zero fromStart
  rw [file] at first
  rcases LogParser.parseLog_valid first (by rw [ok]; exact nofun) with
    ⟨tail, _, torn, shape, _, _⟩
  have framed : ∀ body ∈ logBodies manager.file.contents, WellFramed body :=
    (bodiesFrom_split (le_refl manager.file.contents.length)).1
  rcases LogParser.parseLog_replayed later framed torn rounds.replay_eq with
    ⟨again, second, okAgain, sameChunks, _⟩
  rw [← shape, ← file] at second
  have reparsed := parseVerifyAndFix_of_parseLog isOpen second okAgain
  rw [sameChunks] at reparsed
  exact ⟨_, reparsed⟩

/-- Let a log parse with success, and let files be removed then. It still parses, without the
removed files and with the others as before, exactly when its resize entries stand. -/
theorem missing_files_tolerated_iff {manager fixed : LogManager} {disk : Directory}
    {clock : Nat → Nat} {parseOnly : Bool} {chunks : List FileChunksInfo}
    (fromStart : manager.file.position = 0)
    (parsed : manager.parseVerifyAndFix disk clock parseOnly = .ok (.ok, fixed, chunks))
    (removed : List (List Byte)) (later : Nat → Nat) :
    (∃ again, manager.parseVerifyAndFix (disk.without removed) later parseOnly =
      .ok (.ok, again, chunks.filter (fun info => decide (info.fileName ∉ removed)))) ↔
    (parseOnly = true ∨ (manager.parser parseOnly).ResizesStand disk removed (some [])
      (logBodies manager.file.contents)) := by
  rcases rounds_of_parse fromStart parsed with ⟨collected, rounds, found, _⟩
  cases parseOnly with
  | true =>
    refine ⟨fun _ => .inl rfl, fun _ => ?_⟩
    rcases parseVerifyAndFix_of_rounds fromStart parsed
      (rounds.anyDirectory rfl (disk.without removed)) later with ⟨again, reparsed⟩
    have none := chunks_of_parseOnly fromStart reparsed
    rw [none] at reparsed
    rw [chunks_of_parseOnly fromStart parsed]
    exact ⟨again, reparsed⟩
  | false =>
    have initially : LogParser.Beside (manager.parser false) disk removed .ok (some [])
        { senderIp := manager.senderIp } { senderIp := manager.senderIp } :=
      .valid (LogParser.tracks_empty { senderIp := manager.senderIp }
        { senderIp := manager.senderIp } rfl)
    have both := rounds.without rfl initially
    constructor
    · rintro ⟨again, reparsed⟩
      right
      by_contra falls
      rcases both.2 falls with ⟨kept, invalid⟩
      rcases rounds_of_parse fromStart reparsed with ⟨_, valid, _⟩
      have impossible := invalid.symm.trans valid.replay_eq
      cases impossible
    · rintro (printing | stand)
      · cases printing
      rcases both.1 stand with ⟨last, kept, others, final⟩
      cases final with
      | valid tracks =>
        rcases parseVerifyAndFix_of_rounds fromStart parsed others later with
          ⟨again, reparsed⟩
        rw [LogParser.chunks_without tracks, ← found] at reparsed
        exact ⟨again, reparsed⟩

/-- Two files of twelve bytes were created with ten, and the first was resized. -/
def resizedManager : LogManager :=
  sampleManager (twoFilesLog (.fileResize { timestamp := 4, seqId := 0, fileSize := 12 }))

theorem missing_files_of_resized_log :
    (resizedManager.parser false).ResizesStand (fun _ => some 12) [[0x67]] (some [])
      (logBodies resizedManager.file.contents) ∧
    ¬ (resizedManager.parser false).ResizesStand (fun _ => some 12) [[0x66]] (some [])
      (logBodies resizedManager.file.contents) := by
  have parsed : resizedManager.parseVerifyAndFix (fun _ => some 12) id false =
      .ok (.ok, { resizedManager with
          senderIp := [0x73]
          file := { resizedManager.file with position := 32 } },
        [{ seqId := 0, fileName := [0x66], fileSize := 12, chunks := [] },
          { seqId := 1, fileName := [0x67], fileSize := 12, chunks := [] }]) := by
    decide +kernel
  constructor
  · have second := (missing_files_tolerated_iff rfl parsed [[0x67]] id).mp
      ⟨{ resizedManager with
          senderIp := [0x73]
          file :=
            { contents := resizedManager.file.contents ++
                (fileInvalidation { timestamp := 0, seqId := 1 }).bytes
              position := 37 } }, by decide +kernel⟩
    exact second.resolve_left Bool.false_ne_true
  · intro stand
    rcases (missing_files_tolerated_iff rfl parsed [[0x66]] id).mpr (.inr stand) with
      ⟨again, reparsed⟩
    have invalid : (resizedManager.parseVerifyAndFix
        (Directory.without (fun _ => some 12) [[0x66]]) id false).map Prod.fst =
          .ok .invalidLog := by decide +kernel
    rw [reparsed] at invalid
    cases invalid

/-- Without the file that was resized, the whole log is invalid, and so is one in which a seq-id
was used for a removed file first and for a larger one then. -/
theorem log_invalid_without_resized_file :
    ((resizedManager.parseVerifyAndFix (fun _ => some 12) id false).map Prod.fst = .ok .ok ∧
    (resizedManager.parseVerifyAndFix (Directory.without (fun _ => some 12) [[0x66]]) id
      false).map Prod.fst = .ok .invalidLog) ∧
    let reused : LogManager := { resizedManager with
      file := { contents := (([.header
          { timestamp := 1, recoveryId := [0x72], senderIp := [0x73], config := 3 },
        .fileCreation { timestamp := 2, fileName := [0x66], seqId := 0, fileSize := 3 },
        .fileInvalidation { timestamp := 3, seqId := 0 },
        .fileCreation { timestamp := 4, fileName := [0x67], seqId := 0, fileSize := 10 },
        .fileResize { timestamp := 5, seqId := 0, fileSize := 5 }] :
          List LogEntry).map bytes).flatten } }
    (reused.parseVerifyAndFix (fun _ => some 12) id false).map Prod.fst = .ok .ok ∧
    (reused.parseVerifyAndFix (Directory.without (fun _ => some 12) [[0x66]]) id
      false).map Prod.fst = .ok .invalidLog := by
  decide +kernel

end LogManager

end Wdt
