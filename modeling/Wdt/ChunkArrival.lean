/-
When the receiver's list of chunks arrives. Files are discovered one by one while the
list is on its way; its arrival throws away what has been queued and queues all files
again. Whenever that happens, the queue is the same in the end.
-/

import Mathlib.Algebra.Order.BigOperators.Group.List
import Wdt.FileDiscovery

namespace Wdt

open List Option DiscoveryQueue

/-! ### The list of chunks and the end of discovery -/

/-- An entry of a map: the first one for a name stays. -/
def insertEntry (entries : List FileChunksInfo) (info : FileChunksInfo) : List FileChunksInfo :=
  if entries.any fun other => other.fileName == info.fileName then entries else entries ++ [info]

def nextFreeSeqId (nextSeqId : Int64) (info : FileChunksInfo) : Int64 :=
  if nextSeqId < Int64.ofNat info.seqId + 1 then Int64.ofNat info.seqId + 1 else nextSeqId

namespace DiscoveryQueue

variable (queue : DiscoveryQueue)

def enqueueFileToBeDeleted (info : FileChunksInfo) : DiscoveryQueue :=
  { queue with
    sharedFileData := queue.sharedFileData ++
      [{ relPath := info.fileName
         size := 0
         seqId := Int64.ofNat info.seqId
         allocationStatus := .toBeDeleted
         sizeSmall := Nat.zero_le _ }]
    sourceQueue := queue.sourceQueue ++
      [{ metadata := queue.sharedFileData.length, size := 0, offset := 0 }] }

def extraFiles : List FileChunksInfo :=
  queue.previouslyTransferredChunks.filter fun info =>
    !(queue.sharedFileData.map SourceMetaData.relPath).contains info.fileName

def enqueueFilesToBeDeleted : DiscoveryQueue :=
  if !queue.deleteFiles then queue
  else if !queue.initFinished || queue.previouslyTransferredChunks.isEmpty then queue
  else
    let extra := queue.extraFiles
    let queue := extra.foldl enqueueFileToBeDeleted queue
    { queue with
      numEntries := queue.numEntries + Int64.ofNat extra.length
      numBlocks := queue.numBlocks + Int64.ofNat extra.length }

/-- The end of `buildQueueSynchronously`. -/
def finishDiscovery : DiscoveryQueue :=
  ({ queue with initFinished := true }).enqueueFilesToBeDeleted

def addReceived (info : FileChunksInfo) : DiscoveryQueue :=
  { queue with
    nextSeqId := nextFreeSeqId queue.nextSeqId info
    previouslyTransferredChunks := insertEntry queue.previouslyTransferredChunks info }

/-- `none`: the check on the number of dequeued blocks ends the process, or a loop takes more
rounds. -/
def setPreviouslyReceivedChunks (rounds : Nat) (chunks : List FileChunksInfo) :
    Option DiscoveryQueue :=
  if queue.numBlocksDequeued ≠ 0 then none
  else
    let queue := { queue with nextSeqId := 0, totalFileSize := 0, numEntries := 0, numBlocks := 0 }
    let queue := { chunks.foldl addReceived queue with sourceQueue := [] }
    ((List.range queue.sharedFileData.length).foldlM (createIntoQueueWithin rounds) queue).map
      enqueueFilesToBeDeleted

end DiscoveryQueue

structure DiscoveredFile where
  relPath : List Byte
  size : Nat
  sizeSmall : size ≤ int64Max

def DiscoveredFile.metadata (file : DiscoveredFile) : SourceMetaData where
  relPath := file.relPath
  size := file.size
  sizeSmall := file.sizeSmall

inductive DiscoveryEvent
  | createIntoQueue (file : DiscoveredFile)
  | finishDiscovery
  | setPreviouslyReceivedChunks (chunks : List FileChunksInfo)

namespace DiscoveryQueue

def apply (rounds : Nat) (queue : DiscoveryQueue) : DiscoveryEvent → Option DiscoveryQueue
  | .createIntoQueue file => queue.createIntoQueue rounds file.metadata
  | .finishDiscovery => some queue.finishDiscovery
  | .setPreviouslyReceivedChunks chunks => queue.setPreviouslyReceivedChunks rounds chunks

/-- The events one by one, if each loop over a chunk ends within so many rounds. -/
def run (rounds : Nat) (queue : DiscoveryQueue) : List DiscoveryEvent → Option DiscoveryQueue
  | [] => some queue
  | event :: rest => (queue.apply rounds event).bind fun after => after.run rounds rest

end DiscoveryQueue

/-- All files are found and discovery ends; the list of chunks arrives behind so many of these
events. -/
def arrivalAt (files : List DiscoveredFile) (chunks : List FileChunksInfo) (position : Nat) :
    List DiscoveryEvent :=
  let events := files.map .createIntoQueue ++ [.finishDiscovery]
  events.take position ++ .setPreviouslyReceivedChunks chunks :: events.drop position

/-- The sources with the metadata they point to, and the totals. -/
@[ext]
structure QueueView where
  sources : List (Option SourceMetaData × Nat × Nat)
  nextSeqId : Int64
  numEntries : Int64
  numBlocks : Int64
  totalFileSize : Int64
  previouslySentBytes : Int64

namespace DiscoveryQueue

def seen (data : List SourceMetaData) (source : FileByteSource) :
    Option SourceMetaData × Nat × Nat :=
  (data[source.metadata]?, source.size, source.offset)

def view (queue : DiscoveryQueue) : QueueView where
  sources := queue.sourceQueue.map (seen queue.sharedFileData)
  nextSeqId := queue.nextSeqId
  numEntries := queue.numEntries
  numBlocks := queue.numBlocks
  totalFileSize := queue.totalFileSize
  previouslySentBytes := queue.previouslySentBytes

end DiscoveryQueue

def SourceMetaData.file (metadata : SourceMetaData) : DiscoveredFile where
  relPath := metadata.relPath
  size := metadata.size
  sizeSmall := metadata.sizeSmall

def FilePlan.metadata (plan : FilePlan) (file : DiscoveredFile) : SourceMetaData where
  relPath := file.relPath
  size := file.size
  seqId := plan.seqId
  prevSeqId := plan.prevSeqId
  allocationStatus := plan.allocationStatus
  sizeSmall := file.sizeSmall

def FileChunksInfo.deletion (info : FileChunksInfo) : SourceMetaData where
  relPath := info.fileName
  size := 0
  seqId := Int64.ofNat info.seqId
  allocationStatus := .toBeDeleted
  sizeSmall := Nat.zero_le _

namespace QueueView

def addFile (rules : DiscoveryQueue) (view : QueueView) (file : DiscoveredFile) : QueueView :=
  let (plan, nextSeqId, sentBytes) := planFile (rules.find file.relPath) view.nextSeqId file.size
  let view :=
    { view with
      nextSeqId
      previouslySentBytes := view.previouslySentBytes + Int64.ofInt sentBytes }
  match plan with
  | none => view
  | some plan =>
    let enqueued := plan.remainingChunks.foldl
      (EnqueuedBlocks.addChunk 0 (rules.blockSize file.size))
      { totalFileSize := view.totalFileSize }
    { view with
      sources := view.sources ++ enqueued.sources.map fun source =>
        (some (plan.metadata file), source.size, source.offset)
      totalFileSize := enqueued.totalFileSize
      numEntries := view.numEntries + 1
      numBlocks := view.numBlocks + enqueued.blockCount.toInt64 }

/-- The entries of `rules` that are not for one of the files. -/
def addDeletions (rules : DiscoveryQueue) (files : List DiscoveredFile) (view : QueueView) :
    QueueView :=
  let extra := rules.previouslyTransferredChunks.filter fun info =>
    !(files.map DiscoveredFile.relPath).contains info.fileName
  { view with
    sources := view.sources ++ extra.map fun info => (some info.deletion, 0, 0)
    numEntries := view.numEntries + Int64.ofNat extra.length
    numBlocks := view.numBlocks + Int64.ofNat extra.length }

end QueueView

/-! ### A queue does what its view says -/

theorem cutChunk_index (index blockSize offset remainingBytes : Nat) :
    cutChunk index blockSize offset remainingBytes =
      (cutChunk 0 blockSize offset remainingBytes).map fun source =>
        { source with metadata := index } := by
  induction remainingBytes using Nat.strong_induction_on generalizing offset with
  | _ remainingBytes ih =>
    rw [cutChunk.eq_def index blockSize offset remainingBytes,
      cutChunk.eq_def 0 blockSize offset remainingBytes]
    dsimp only
    by_cases more : 0 < remainingBytes - min remainingBytes blockSize ∧
        0 < min remainingBytes blockSize
    · rw [dif_pos more, dif_pos more, map_cons, ih _ (by omega)]
    · rw [dif_neg more, dif_neg more, map_cons, map_nil]

namespace DiscoveryQueue

def files (queue : DiscoveryQueue) : List DiscoveredFile :=
  queue.sharedFileData.map SourceMetaData.file

/-- What decides how files are queued. -/
def rules (queue : DiscoveryQueue) : DiscoveryQueue where
  blockSizeMbytes := queue.blockSizeMbytes
  deleteFiles := queue.deleteFiles
  previouslyTransferredChunks := queue.previouslyTransferredChunks

/-- The queue looks like `view`, and its sources are of the first `count` files. -/
structure Shows (rules : DiscoveryQueue) (files : List DiscoveredFile) (finished : Bool)
    (count : Nat) (view : QueueView) (queue : DiscoveryQueue) : Prop where
  rules : queue.rules = rules
  files : queue.files = files
  finished : queue.initFinished = finished
  dequeued : queue.numBlocksDequeued = 0
  bounded : ∀ source ∈ queue.sourceQueue, source.metadata < count
  view : queue.view = view

variable {rules queue : DiscoveryQueue} {files : List DiscoveredFile} {finished : Bool}
  {count : Nat} {view : QueueView}

theorem seen_congr {data others : List SourceMetaData} {sources : List FileByteSource}
    (same : ∀ source ∈ sources, data[source.metadata]? = others[source.metadata]?) :
    sources.map (seen data) = sources.map (seen others) := by
  apply map_congr_left
  intro source member
  unfold seen
  rw [same source member]

theorem seen_new {data : List SourceMetaData} {index : Nat} {metadata : SourceMetaData}
    (present : data[index]? = some metadata) (blockSize : Nat) (chunks : List Interval) :
    (chunks.flatMap fun chunk => cutChunk index blockSize chunk.start chunk.bytes).map (seen data) =
      (chunks.flatMap fun chunk => cutChunk 0 blockSize chunk.start chunk.bytes).map
        fun source => (some metadata, source.size, source.offset) := by
  induction chunks with
  | nil => rfl
  | cons chunk rest ih =>
    rw [flatMap_cons, map_append, ih, flatMap_cons, map_append,
      cutChunk_index index, List.map_map]
    congr 1
    apply map_congr_left
    intro source _
    change (data[index]?, source.size, source.offset) = _
    rw [present]

theorem new_length (index blockSize : Nat) (chunks : List Interval) :
    (chunks.flatMap fun chunk => cutChunk index blockSize chunk.start chunk.bytes).length =
      (chunks.flatMap fun chunk => cutChunk 0 blockSize chunk.start chunk.bytes).length := by
  rw [length_flatMap, length_flatMap]
  congr 1
  apply map_congr_left
  intro chunk _
  rw [cutChunk_index index, length_map]

theorem new_metadata {index blockSize : Nat} {chunks : List Interval} {source : FileByteSource}
    (member : source ∈ chunks.flatMap fun chunk =>
      cutChunk index blockSize chunk.start chunk.bytes) : source.metadata = index := by
  obtain ⟨chunk, _, inChunk⟩ := mem_flatMap.mp member
  rw [cutChunk_index] at inChunk
  obtain ⟨other, _, same⟩ := mem_map.mp inChunk
  rw [← same]

theorem files_set {data : List SourceMetaData} {index : Nat} {metadata other : SourceMetaData}
    (present : data[index]? = some metadata) (same : other.file = metadata.file) :
    (data.set index other).map SourceMetaData.file = data.map SourceMetaData.file := by
  have within : index < data.length := (List.getElem?_eq_some_iff.mp present).1
  apply List.ext_getElem?
  intro position
  rw [List.getElem?_map, List.getElem?_map, List.getElem?_set]
  by_cases own : index = position
  · rw [if_pos own, if_pos within, ← own, present, map_some, map_some, same]
  · rw [if_neg own]

theorem Shows.metadata (shows : Shows rules files finished count view queue)
    {file : DiscoveredFile} {index : Nat} (present : files[index]? = some file) :
    ∃ metadata, queue.sharedFileData[index]? = some metadata ∧ metadata.file = file := by
  rw [← shows.files] at present
  unfold DiscoveryQueue.files at present
  rw [List.getElem?_map] at present
  exact map_eq_some_iff.mp present

theorem Shows.createIntoQueueInternal (shows : Shows rules files finished count view queue)
    {file : DiscoveredFile} (present : files[count]? = some file) :
    Shows rules files finished (count + 1) (view.addFile rules file)
      (queue.createIntoQueueInternal count) := by
  obtain ⟨metadata, isMetadata, isFile⟩ := shows.metadata present
  obtain ⟨sameRules, sameFiles, sameFinished, dequeued, bounded, sameView⟩ := shows
  subst sameRules
  subst sameView
  subst isFile
  have later : ∀ source ∈ queue.sourceQueue, source.metadata < count + 1 :=
    fun source member => (bounded source member).trans (Nat.lt_succ_self _)
  generalize result : planFile (queue.find metadata.relPath) queue.nextSeqId metadata.size = planned
  have sameResult : planFile (queue.rules.find metadata.file.relPath) queue.view.nextSeqId
      metadata.file.size = planned := result
  unfold createIntoQueueInternal QueueView.addFile
  rw [isMetadata, sameResult]
  dsimp only
  rw [result]
  obtain ⟨plan, nextSeqId, sentBytes⟩ := planned
  cases plan with
  | none => exact ⟨rfl, sameFiles, sameFinished, dequeued, later, rfl⟩
  | some plan =>
    have within : count < queue.sharedFileData.length := (List.getElem?_eq_some_iff.mp isMetadata).1
    have renewed : (queue.sharedFileData.set count (plan.metadata metadata.file))[count]? =
        some (plan.metadata metadata.file) := by
      rw [List.getElem?_set, if_pos rfl, if_pos within]
    have kept : queue.sourceQueue.map
        (seen (queue.sharedFileData.set count (plan.metadata metadata.file))) =
        queue.sourceQueue.map (seen queue.sharedFileData) := by
      apply seen_congr
      intro source member
      have before := bounded source member
      rw [List.getElem?_set, if_neg (by omega)]
    dsimp only
    rw [foldl_addChunk, foldl_addChunk]
    have sameData := @files_set queue.sharedFileData count metadata (plan.metadata metadata.file)
      isMetadata rfl
    refine ⟨rfl, sameData.trans sameFiles, sameFinished, dequeued, ?_, ?_⟩
    · intro source member
      rcases mem_append.mp member with old | new
      · exact later source old
      · rw [new_metadata new]
        exact Nat.lt_succ_self _
    · have newSources := seen_new renewed (queue.blockSize metadata.size) plan.remainingChunks
      have newCount := new_length count (queue.blockSize metadata.size) plan.remainingChunks
      apply QueueView.ext
      · change map (seen (queue.sharedFileData.set count (plan.metadata metadata.file)))
            (queue.sourceQueue ++ ([] ++ _)) =
          map (seen queue.sharedFileData) queue.sourceQueue ++ map _ ([] ++ _)
        rw [nil_append, nil_append, map_append, kept]
        exact congrArg (map (seen queue.sharedFileData) queue.sourceQueue ++ ·) newSources
      · rfl
      · rfl
      · exact congrArg (fun blocks => queue.numBlocks + ((0 : Int32) + Int32.ofNat blocks).toInt64)
          newCount
      · rfl
      · rfl

/-- A result that is there exactly on a condition, and what holds of it. -/
structure Ends (condition : Prop) (holds : DiscoveryQueue → Prop)
    (result : Option DiscoveryQueue) : Prop where
  ends_iff : result.isSome = true ↔ condition
  holds : ∀ queue ∈ result, holds queue

section

variable {condition later : Prop} {holds final : DiscoveryQueue → Prop}
  {result : Option DiscoveryQueue}

theorem Ends.pure {queue : DiscoveryQueue} (always : condition) (held : holds queue) :
    Ends condition holds (some queue) :=
  ⟨iff_of_true rfl always, by rintro _ ⟨⟩; exact held⟩

theorem Ends.bind {next : DiscoveryQueue → Option DiscoveryQueue}
    (first : Ends condition holds result)
    (second : ∀ queue, holds queue → Ends later final (next queue)) :
    Ends (condition ∧ later) final (result.bind next) := by
  obtain ⟨ends, held⟩ := first
  cases result with
  | none => exact ⟨⟨nofun, fun both => (nomatch ends.mpr both.1)⟩, nofun⟩
  | some queue =>
    obtain ⟨endsLater, heldLater⟩ := second queue (held queue rfl)
    exact ⟨endsLater.trans (and_iff_right (ends.mp rfl)).symm, heldLater⟩

theorem Ends.map {function : DiscoveryQueue → DiscoveryQueue} (first : Ends condition holds result)
    (second : ∀ queue, holds queue → final (function queue)) :
    Ends condition final (result.map function) := by
  refine ⟨by rw [isSome_map, first.ends_iff], fun queue member => ?_⟩
  obtain ⟨before, isBefore, rfl⟩ := map_eq_some_iff.mp member
  exact second before (first.holds before isBefore)

theorem Ends.congr (first : Ends condition holds result) (same : condition ↔ later) :
    Ends later holds result :=
  ⟨first.ends_iff.trans same, first.holds⟩

end

def AllEnd (rounds : Nat) (rules : DiscoveryQueue) (files : List DiscoveredFile) : Prop :=
  ∀ file ∈ files, rules.EndsWithin rounds file.relPath file.size

variable {rounds : Nat}

theorem Shows.createIntoQueueWithin (shows : Shows rules files finished count view queue)
    {file : DiscoveredFile} (present : files[count]? = some file) :
    Ends (rules.EndsWithin rounds file.relPath file.size)
      (Shows rules files finished (count + 1) (view.addFile rules file))
      (queue.createIntoQueueWithin rounds count) := by
  obtain ⟨metadata, isMetadata, rfl⟩ := shows.metadata present
  have created := shows.createIntoQueueInternal present
  have sameRules := shows.rules
  subst sameRules
  have ended (after : DiscoveryQueue) :=
    @createIntoQueueWithin_eq_some _ _ _ rounds after isMetadata
  constructor
  · rw [isSome_iff_exists]
    exact ⟨fun ⟨after, ends⟩ => ((ended after).mp ends).2,
      fun ends => ⟨_, (ended _).mpr ⟨rfl, ends⟩⟩⟩
  · intro after ends
    rw [((ended after).mp ends).1]
    exact created

theorem Shows.length (shows : Shows rules files finished count view queue) :
    queue.sharedFileData.length = files.length := by
  rw [← shows.files]
  exact (length_map _).symm

theorem Shows.createAll (shows : Shows rules files finished 0 view queue) {number : Nat}
    (within : number ≤ files.length) :
    Ends (AllEnd rounds rules (files.take number))
      (Shows rules files finished number ((files.take number).foldl (QueueView.addFile rules) view))
      ((List.range number).foldlM (DiscoveryQueue.createIntoQueueWithin rounds) queue) := by
  induction number with
  | zero => exact .pure nofun shows
  | succ number ih =>
    have present : files[number]? = some files[number] := List.getElem?_eq_getElem within
    rw [range_succ, foldlM_append, take_add_one, present, foldl_append, toList_some, AllEnd]
    simp only [foldlM_cons, foldlM_nil, bind_pure, forall_mem_append, forall_mem_singleton]
    exact (ih (Nat.le_of_lt within)).bind fun after showsAfter =>
      showsAfter.createIntoQueueWithin present

theorem Shows.createIntoQueue (shows : Shows rules files finished files.length view queue)
    (file : DiscoveredFile) :
    Ends (rules.EndsWithin rounds file.relPath file.size)
      (Shows rules (files ++ [file]) finished (files ++ [file]).length (view.addFile rules file))
      (queue.createIntoQueue rounds file.metadata) := by
  have length := shows.length
  obtain ⟨sameRules, sameFiles, sameFinished, dequeued, bounded, sameView⟩ := shows
  have appended : Shows rules (files ++ [file]) finished files.length view
      { queue with sharedFileData := queue.sharedFileData ++ [file.metadata] } := by
    refine ⟨sameRules, ?_, sameFinished, dequeued, bounded, ?_⟩
    · change (queue.sharedFileData ++ [file.metadata]).map SourceMetaData.file = _
      rw [map_append, ← sameFiles]
      rfl
    · have kept : queue.sourceQueue.map (seen (queue.sharedFileData ++ [file.metadata])) =
          queue.sourceQueue.map (seen queue.sharedFileData) := by
        apply seen_congr
        intro source member
        have before := bounded source member
        rw [List.getElem?_append_left (by omega)]
      rw [← sameView]
      unfold DiscoveryQueue.view
      rw [kept]
  have present : (files ++ [file])[files.length]? = some file := by
    rw [List.getElem?_append_right (Nat.le_refl _), Nat.sub_self]
    rfl
  unfold DiscoveryQueue.createIntoQueue
  rw [length, length_append]
  exact appended.createIntoQueueWithin present

theorem Shows.createIntoQueues (shows : Shows rules files finished files.length view queue)
    (more : List DiscoveredFile) :
    Ends (AllEnd rounds rules more)
      (Shows rules (files ++ more) finished (files ++ more).length
        (more.foldl (QueueView.addFile rules) view))
      (queue.run rounds (more.map .createIntoQueue)) := by
  induction more generalizing queue files view with
  | nil =>
    rw [append_nil]
    exact .pure nofun shows
  | cons file rest ih =>
    rw [AllEnd, forall_mem_cons, append_cons]
    exact (shows.createIntoQueue file).bind fun after showsAfter => ih showsAfter

theorem foldl_enqueueFileToBeDeleted (extra : List FileChunksInfo)
    (bounded : ∀ source ∈ queue.sourceQueue, source.metadata < queue.sharedFileData.length) :
    ∃ data sources, extra.foldl enqueueFileToBeDeleted queue =
        { queue with sharedFileData := data, sourceQueue := sources } ∧
      sources.map (seen data) = queue.sourceQueue.map (seen queue.sharedFileData) ++
        extra.map fun info => (some info.deletion, 0, 0) := by
  induction extra generalizing queue with
  | nil => exact ⟨queue.sharedFileData, queue.sourceQueue, rfl, (append_nil _).symm⟩
  | cons info rest ih =>
    have kept : queue.sourceQueue.map (seen (queue.sharedFileData ++ [info.deletion])) =
        queue.sourceQueue.map (seen queue.sharedFileData) := by
      apply seen_congr
      intro source member
      rw [List.getElem?_append_left (bounded source member)]
    have added : seen (queue.sharedFileData ++ [info.deletion])
        { metadata := queue.sharedFileData.length, size := 0, offset := 0 } =
        (some info.deletion, 0, 0) := by
      unfold seen
      rw [List.getElem?_append_right (Nat.le_refl _), Nat.sub_self]
      rfl
    have boundedAfter : ∀ source ∈ (queue.enqueueFileToBeDeleted info).sourceQueue,
        source.metadata < (queue.enqueueFileToBeDeleted info).sharedFileData.length := by
      intro source member
      change source.metadata < (queue.sharedFileData ++ [info.deletion]).length
      rw [length_append, length_singleton]
      rcases mem_append.mp member with old | new
      · have before := bounded source old
        omega
      · rw [mem_singleton.mp new]
        exact Nat.lt_succ_self _
    obtain ⟨data, sources, folded, sees⟩ := ih boundedAfter
    refine ⟨data, sources, folded, ?_⟩
    rw [sees]
    change map (seen (queue.sharedFileData ++ [info.deletion]))
      (queue.sourceQueue ++
        [{ metadata := queue.sharedFileData.length, size := 0, offset := 0 }]) ++ _ = _
    rw [map_append, kept, map_singleton, added, append_assoc]
    rfl

/-- Entries without a file are deleted once the list is there and discovery has ended. -/
def deletesExtra (rules : DiscoveryQueue) (finished : Bool) : Bool :=
  rules.deleteFiles && finished && !rules.previouslyTransferredChunks.isEmpty

theorem extraFiles_eq (sameFiles : queue.files = files) :
    queue.extraFiles = queue.previouslyTransferredChunks.filter fun info =>
      !(files.map DiscoveredFile.relPath).contains info.fileName := by
  rw [← sameFiles]
  unfold DiscoveryQueue.files
  rw [List.map_map]
  rfl

theorem Shows.enqueueFilesToBeDeleted (shows : Shows rules files finished files.length view queue) :
    queue.enqueueFilesToBeDeleted.view =
      if deletesExtra rules finished then view.addDeletions rules files else view := by
  have length := shows.length
  obtain ⟨sameRules, sameFiles, sameFinished, dequeued, bounded, sameView⟩ := shows
  subst sameRules
  subst sameView
  subst sameFinished
  unfold enqueueFilesToBeDeleted deletesExtra
  change _ = if (queue.deleteFiles && queue.initFinished &&
    !queue.previouslyTransferredChunks.isEmpty) = true then _ else _
  cases deleteFiles : queue.deleteFiles with
  | false => rfl
  | true =>
    cases finished : queue.initFinished with
    | false => rfl
    | true =>
      cases empty : queue.previouslyTransferredChunks.isEmpty with
      | true => rfl
      | false =>
        obtain ⟨data, sources, folded, sees⟩ := foldl_enqueueFileToBeDeleted queue.extraFiles
          (fun source member => by rw [length]; exact bounded source member)
        rw [extraFiles_eq sameFiles] at folded sees
        simp only [Bool.not_true, Bool.or_self, Bool.false_eq_true, if_false, Bool.not_false,
          Bool.and_self, if_true]
        rw [extraFiles_eq sameFiles, folded]
        exact QueueView.ext sees rfl rfl rfl rfl rfl

theorem foldl_addReceived (chunks : List FileChunksInfo) (queue : DiscoveryQueue) :
    chunks.foldl addReceived queue =
      { queue with
        nextSeqId := chunks.foldl nextFreeSeqId queue.nextSeqId
        previouslyTransferredChunks :=
          chunks.foldl insertEntry queue.previouslyTransferredChunks } := by
  induction chunks generalizing queue with
  | nil => rfl
  | cons info rest ih =>
    rw [foldl_cons, ih]
    rfl

def received (rules : DiscoveryQueue) (chunks : List FileChunksInfo) : DiscoveryQueue :=
  { rules with
    previouslyTransferredChunks := chunks.foldl insertEntry rules.previouslyTransferredChunks }

def emptyView (nextSeqId : Int64) : QueueView where
  sources := []
  nextSeqId := nextSeqId
  numEntries := 0
  numBlocks := 0
  totalFileSize := 0
  previouslySentBytes := 0

def queued (rules : DiscoveryQueue) (chunks : List FileChunksInfo)
    (files : List DiscoveredFile) : QueueView :=
  files.foldl (QueueView.addFile (received rules chunks)) (emptyView (chunks.foldl nextFreeSeqId 0))

theorem Shows.setPreviouslyReceivedChunks (shows : Shows rules files finished count view queue)
    (none : view.previouslySentBytes = 0) (chunks : List FileChunksInfo) :
    ∃ recreated, queue.setPreviouslyReceivedChunks rounds chunks =
        recreated.map DiscoveryQueue.enqueueFilesToBeDeleted ∧
      Ends (AllEnd rounds (received rules chunks) files)
        (Shows (received rules chunks) files finished files.length (queued rules chunks files))
        recreated := by
  have length := shows.length
  obtain ⟨sameRules, sameFiles, sameFinished, dequeued, bounded, sameView⟩ := shows
  subst sameRules
  subst sameView
  have showsCleared : Shows (received queue.rules chunks) files finished 0
      (emptyView (chunks.foldl nextFreeSeqId 0))
      { queue with
        nextSeqId := chunks.foldl nextFreeSeqId 0
        totalFileSize := 0
        numEntries := 0
        numBlocks := 0
        sourceQueue := []
        previouslyTransferredChunks :=
          chunks.foldl insertEntry queue.previouslyTransferredChunks } := by
    refine ⟨rfl, sameFiles, sameFinished, dequeued, nofun, ?_⟩
    exact QueueView.ext rfl rfl rfl rfl rfl none
  have recreated := @Shows.createAll _ _ _ _ _ rounds showsCleared _ (Nat.le_refl files.length)
  rw [take_length] at recreated
  refine ⟨_, ?_, recreated⟩
  unfold DiscoveryQueue.setPreviouslyReceivedChunks
  rw [if_neg (not_not.mpr dequeued)]
  dsimp only
  rw [foldl_addReceived, ← length]

/-! ### The same queue in the end -/

theorem run_append (queue : DiscoveryQueue) (events more : List DiscoveryEvent) :
    queue.run rounds (events ++ more) =
      (queue.run rounds events).bind fun after => after.run rounds more := by
  induction events generalizing queue with
  | nil => rfl
  | cons event rest ih =>
    change (queue.apply rounds event).bind _ = ((queue.apply rounds event).bind _).bind _
    rw [bind_assoc]
    congr 1
    funext after
    exact ih after

theorem foldl_addFile_sent (none : rules.previouslyTransferredChunks = [])
    (files : List DiscoveredFile) (view : QueueView) :
    (files.foldl (QueueView.addFile rules) view).previouslySentBytes =
      view.previouslySentBytes := by
  induction files generalizing view with
  | nil => rfl
  | cons file rest ih =>
    rw [foldl_cons, ih]
    unfold QueueView.addFile find planFile
    rw [none]
    exact Int64.add_zero _

def settled (rules : DiscoveryQueue) (chunks : List FileChunksInfo)
    (files : List DiscoveredFile) : QueueView :=
  if deletesExtra (received rules chunks) true then
    (queued rules chunks files).addDeletions (received rules chunks) files
  else queued rules chunks files

section Arrival

variable {start : DiscoveryQueue} (shows : Shows start [] false 0 (emptyView 1) start)
  (noEntries : start.previouslyTransferredChunks = [])

include shows noEntries

theorem run_early (earlier later : List DiscoveredFile) (chunks : List FileChunksInfo) :
    Ends (AllEnd rounds start earlier ∧ AllEnd rounds (received start chunks) (earlier ++ later))
      (fun final => final.view = settled start chunks (earlier ++ later))
      (start.run rounds (earlier.map .createIntoQueue ++ .setPreviouslyReceivedChunks chunks ::
        (later.map .createIntoQueue ++ [.finishDiscovery]))) := by
  rw [run_append, show AllEnd rounds (received start chunks) (earlier ++ later) ↔ _ from
    forall_mem_append]
  apply (shows.createIntoQueues earlier).bind
  intro before showsBefore
  obtain ⟨recreated, sets, recreates⟩ := @Shows.setPreviouslyReceivedChunks _ _ _ _ _ _ rounds
    showsBefore (foldl_addFile_sent noEntries earlier (emptyView 1)) chunks
  change Ends _ _ ((before.setPreviouslyReceivedChunks rounds chunks).bind _)
  rw [sets]
  have unfinished (queue : DiscoveryQueue) (finished : queue.initFinished = false) :
      queue.enqueueFilesToBeDeleted = queue := by
    unfold enqueueFilesToBeDeleted
    rw [finished]
    split <;> rfl
  have kept := recreates.map fun queue showsQueue =>
    (unfinished queue showsQueue.finished).symm ▸ showsQueue
  refine kept.bind fun after showsAfter => ?_
  rw [run_append]
  refine ((showsAfter.createIntoQueues later).bind fun queue showsQueue =>
    .pure trivial ?_).congr (and_iff_left trivial)
  obtain ⟨sameRules, sameFiles, _, dequeued, bounded, sameView⟩ := showsQueue
  have finished : Shows (received start chunks) (earlier ++ later) true (earlier ++ later).length
      (queued start chunks (earlier ++ later)) { queue with initFinished := true } := by
    refine ⟨sameRules, sameFiles, rfl, dequeued, bounded, ?_⟩
    unfold queued at sameView ⊢
    rw [foldl_append]
    exact sameView
  exact finished.enqueueFilesToBeDeleted

theorem run_late (files : List DiscoveredFile) (chunks : List FileChunksInfo) :
    Ends (AllEnd rounds start files ∧ AllEnd rounds (received start chunks) files)
      (fun final => final.view = settled start chunks files)
      (start.run rounds (files.map .createIntoQueue ++
        [.finishDiscovery, .setPreviouslyReceivedChunks chunks])) := by
  rw [run_append]
  apply (shows.createIntoQueues files).bind
  intro before showsBefore
  obtain ⟨sameRules, sameFiles, _, dequeued, bounded, sameView⟩ := showsBefore
  have showsFinished : Shows start files true files.length
      (files.foldl (QueueView.addFile start) (emptyView 1)) { before with initFinished := true } :=
    ⟨sameRules, sameFiles, rfl, dequeued, bounded, sameView⟩
  have none : before.previouslyTransferredChunks = [] :=
    (congrArg previouslyTransferredChunks sameRules).trans noEntries
  have nothingDeleted : before.finishDiscovery = { before with initFinished := true } := by
    unfold finishDiscovery enqueueFilesToBeDeleted
    rw [none]
    split <;> rfl
  obtain ⟨recreated, sets, recreates⟩ := @Shows.setPreviouslyReceivedChunks _ _ _ _ _ _ rounds
    showsFinished (foldl_addFile_sent noEntries files (emptyView 1)) chunks
  change Ends _ _ ((before.finishDiscovery.setPreviouslyReceivedChunks rounds chunks).bind some)
  rw [nothingDeleted, sets, bind_fun_some]
  exact recreates.map fun queue showsQueue => showsQueue.enqueueFilesToBeDeleted

/-- The files found before the list arrives are cut once as new files. -/
theorem run_arrivalAt
    (files : List DiscoveredFile) (chunks : List FileChunksInfo) (position : Nat) :
    Ends (AllEnd rounds start (files.take position) ∧ AllEnd rounds (received start chunks) files)
      (fun final => final.view = settled start chunks files)
      (start.run rounds (arrivalAt files chunks position)) := by
  unfold arrivalAt
  dsimp only
  by_cases early : position ≤ files.length
  · have room : position ≤ (files.map DiscoveryEvent.createIntoQueue).length := by
      rw [length_map]
      exact early
    rw [take_append_of_le_length room, drop_append_of_le_length room, ← map_take,
      ← map_drop]
    have runs := @run_early rounds start shows noEntries (files.take position)
      (files.drop position) chunks
    rw [take_append_drop] at runs
    exact runs
  · have all : (files.map DiscoveryEvent.createIntoQueue ++
        [DiscoveryEvent.finishDiscovery]).length ≤
        position := by
      rw [length_append, length_map, length_singleton]
      omega
    rw [take_of_length_le all, drop_of_length_le all, append_assoc, take_of_length_le (by omega)]
    exact run_late shows noEntries files chunks

end Arrival

/-- Each block of what is missing of a file takes bytes off it. -/
def Finishes (rules : DiscoveryQueue) (file : DiscoveredFile) : Prop :=
  ∀ chunk ∈ missingChunks (rules.find file.relPath) file.size,
    chunk.bytes = 0 ∨ 0 < rules.blockSize file.size

theorem allEnd_of_finishes (finishes : ∀ file ∈ files, Finishes rules file) :
    ∃ bound, ∀ rounds, bound ≤ rounds → AllEnd rounds rules files := by
  refine ⟨((files.flatMap fun file => missingChunks (rules.find file.relPath) file.size).map
    fun chunk => chunk.bytes + 1).sum, fun rounds enough file isFile chunk isChunk => ?_⟩
  have own : chunk.bytes + 1 ≤ rounds :=
    (single_le_sum (fun _ _ => Nat.zero_le _) _ (mem_map.mpr
      ⟨chunk, mem_flatMap.mpr ⟨file, isFile, isChunk⟩, rfl⟩)).trans enough
  refine ⟨by omega, ?_⟩
  rcases finishes file isFile chunk isChunk with nothing | positive
  · omega
  · exact (show chunk.bytes ≤ rounds by omega).trans (Nat.le_mul_of_pos_right rounds positive)

def fresh (blockSizeMbytes : Int64) (deleteFiles : Bool) : DiscoveryQueue where
  blockSizeMbytes := blockSizeMbytes
  deleteFiles := deleteFiles

variable (blockSizeMbytes : Int64) (deleteFiles : Bool)

theorem shows_fresh : Shows (fresh blockSizeMbytes deleteFiles) [] false 0 (emptyView 1)
      (fresh blockSizeMbytes deleteFiles) :=
  ⟨rfl, rfl, rfl, rfl, fun _ member => (nomatch member), rfl⟩

theorem ends_arrivalAt (files : List DiscoveredFile) (chunks : List FileChunksInfo)
    (position : Nat) :
    (∃ rounds final, (fresh blockSizeMbytes deleteFiles).run rounds
        (arrivalAt files chunks position) = some final) ↔
      ∀ file ∈ files, Finishes (received (fresh blockSizeMbytes deleteFiles) chunks) file := by
  simp only [← isSome_iff_exists, (run_arrivalAt (shows_fresh ..) rfl ..).ends_iff]
  constructor
  · rintro ⟨rounds, _, ends⟩ file isFile chunk isChunk
    have enough := (ends file isFile chunk isChunk).2
    refine (Nat.eq_zero_or_pos _).imp_left fun zero => ?_
    rw [zero] at enough
    exact Nat.le_zero.mp enough
  · intro finishes
    have news : ∀ file ∈ files.take position,
        Finishes (fresh blockSizeMbytes deleteFiles) file := by
      intro file _ chunk isChunk
      have whole : chunk = ⟨0, file.size⟩ := mem_singleton.mp isChunk
      exact @cuts _ file.metadata chunk (whole ▸ le_rfl)
    obtain ⟨bound, ends⟩ := allEnd_of_finishes finishes
    obtain ⟨newBound, newEnds⟩ := allEnd_of_finishes news
    exact ⟨max bound newBound, newEnds _ (le_max_right ..), ends _ (le_max_left ..)⟩

/-- Two arrivals of a list both end or both have a file cut for ever, and leave the same sources
with the same metadata, and the same totals. -/
theorem arrival_time_irrelevant (blockSizeMbytes : Int64) (deleteFiles : Bool)
    (files : List DiscoveredFile) (chunks : List FileChunksInfo) (position other : Nat) :
    ((∃ rounds final, (fresh blockSizeMbytes deleteFiles).run rounds
        (arrivalAt files chunks position) = some final) ↔
      ∃ rounds final, (fresh blockSizeMbytes deleteFiles).run rounds
        (arrivalAt files chunks other) = some final) ∧
    ∀ rounds otherRounds final otherFinal,
      (fresh blockSizeMbytes deleteFiles).run rounds (arrivalAt files chunks position) =
        some final →
      (fresh blockSizeMbytes deleteFiles).run otherRounds (arrivalAt files chunks other) =
        some otherFinal →
      final.view = otherFinal.view := by
  refine ⟨(ends_arrivalAt ..).trans (ends_arrivalAt ..).symm, ?_⟩
  intro rounds otherRounds final otherFinal runs otherRuns
  exact ((run_arrivalAt (shows_fresh ..) rfl ..).holds final runs).trans
    ((run_arrivalAt (shows_fresh ..) rfl ..).holds otherFinal otherRuns).symm

/-! ### Sequence ids -/

/-- The metadata of the blocks, and what would delete the files of the entries. -/
def labels (rules : DiscoveryQueue) (view : QueueView) : List SourceMetaData :=
  rules.previouslyTransferredChunks.map FileChunksInfo.deletion ++ view.sources.filterMap Prod.fst

/-- The ids in use tell the files apart, and the next one is free. -/
def Labelled (least : Int) (rules : DiscoveryQueue) (view : QueueView) : Prop :=
  least ≤ view.nextSeqId.toInt ∧ ∀ data ∈ labels rules view,
    least ≤ data.seqId.toInt ∧ data.seqId.toInt < view.nextSeqId.toInt ∧
      ∀ other ∈ labels rules view, data.seqId = other.seqId → data.relPath = other.relPath

variable {least : Int}

theorem toInt_succ {id : Int64} (room : id.toInt < int64Max) : (id + 1).toInt = id.toInt + 1 :=
  (@add_bytes_exact_iff id 1 (by decide)).mpr room

/-- A file takes the next id, or the one of its entry. -/
theorem addFile_labels (rules : DiscoveryQueue) (view : QueueView) (file : DiscoveredFile) :
    (view.addFile rules file).nextSeqId = view.nextSeqId + 1 ∧
        (∀ data ∈ labels rules (view.addFile rules file), data ∈ labels rules view ∨
          data.seqId = view.nextSeqId ∧ data.relPath = file.relPath) ∨
      (view.addFile rules file).nextSeqId = view.nextSeqId ∧
        ∀ data ∈ labels rules (view.addFile rules file), ∃ old ∈ labels rules view,
          data.seqId = old.seqId ∧ data.relPath = old.relPath := by
  unfold QueueView.addFile planFile labels FilePlan.metadata
  cases found : rules.find file.relPath with
  | none => grind
  | some info =>
    have name := find?_some found
    have entry := mem_map_of_mem (f := FileChunksInfo.deletion) (mem_of_find?_eq_some found)
    have own : info.deletion.seqId = Int64.ofNat info.seqId ∧
      info.deletion.relPath = info.fileName := ⟨rfl, rfl⟩
    dsimp only
    split <;> grind

theorem Labelled.addFiles (files : List DiscoveredFile) (labelled : Labelled least rules view)
    (room : view.nextSeqId.toInt + files.length ≤ int64Max) :
    Labelled least rules (files.foldl (QueueView.addFile rules) view) := by
  induction files generalizing view with
  | nil => exact labelled
  | cons file rest ih =>
    rw [length_cons] at room
    have next := @toInt_succ view.nextSeqId (by omega)
    obtain ⟨kept, more⟩ : Labelled least rules (view.addFile rules file) ∧
        (view.addFile rules file).nextSeqId.toInt ≤ view.nextSeqId.toInt + 1 := by
      unfold Labelled at *
      obtain grown | grown := addFile_labels rules view file <;> grind
    exact ih kept (by omega)

theorem Labelled.addDeletions (labelled : Labelled least rules view) :
    Labelled least rules (view.addDeletions rules files) := by
  unfold Labelled QueueView.addDeletions labels at *
  grind

theorem foldl_nextFreeSeqId {chunks : List FileChunksInfo} {next : Int64}
    (room : ∀ info ∈ chunks, info.seqId + 1 + count ≤ int64Max)
    (rest : next.toInt + count ≤ int64Max) :
    next.toInt ≤ (chunks.foldl nextFreeSeqId next).toInt ∧
      (chunks.foldl nextFreeSeqId next).toInt + count ≤ int64Max ∧
      ∀ info ∈ chunks, (Int64.ofNat info.seqId).toInt = info.seqId ∧
        info.seqId < (chunks.foldl nextFreeSeqId next).toInt := by
  induction chunks generalizing next with
  | nil => exact ⟨le_rfl, rest, nofun⟩
  | cons info others ih =>
    have own := room info mem_cons_self
    have id : (Int64.ofNat info.seqId).toInt = info.seqId :=
      Int64.toInt_ofNat_of_lt (by unfold int64Max at own; omega)
    have succ := @toInt_succ (Int64.ofNat info.seqId) (by omega)
    unfold nextFreeSeqId at *
    grind [Int64.lt_iff_toInt_lt]

theorem mem_insertEntries {info : FileChunksInfo} {chunks entries : List FileChunksInfo}
    (member : info ∈ chunks.foldl insertEntry entries) : info ∈ entries ∨ info ∈ chunks := by
  induction chunks generalizing entries with
  | nil => exact .inl member
  | cons first rest ih => grind [insertEntry]

/-- Wherever the list of chunks arrives, the ids tell the files apart, as those in it do, once no
file is cut for ever. Without an entry they begin with 0, which is no id. -/
theorem seqIds_tell_files_apart (chunks : List FileChunksInfo) (position least : Nat)
    (given : chunks ≠ [] ∨ least = 0) (small : files.length ≤ int64Max)
    (room : ∀ info ∈ chunks, info.seqId + 1 + files.length ≤ int64Max)
    (valid : ∀ info ∈ chunks, least ≤ info.seqId ∧ ∀ other ∈ chunks,
      info.seqId = other.seqId → info.fileName = other.fileName) :
    ((∃ rounds final, (fresh blockSizeMbytes deleteFiles).run rounds
        (arrivalAt files chunks position) = some final) ↔
      ∀ file ∈ files, Finishes (received (fresh blockSizeMbytes deleteFiles) chunks) file) ∧
    ∀ rounds final, (fresh blockSizeMbytes deleteFiles).run rounds
        (arrivalAt files chunks position) = some final →
      Labelled least (received (fresh blockSizeMbytes deleteFiles) chunks) final.view := by
  refine ⟨ends_arrivalAt .., fun rounds final runs => ?_⟩
  obtain ⟨low, high, above⟩ := @foldl_nextFreeSeqId _ chunks 0 room (by simpa using small)
  have start : Labelled least (received (fresh blockSizeMbytes deleteFiles) chunks)
      (emptyView (chunks.foldl nextFreeSeqId 0)) := by
    have kept (info : FileChunksInfo) (member : info ∈ chunks.foldl insertEntry []) :=
      (mem_insertEntries member).resolve_left nofun
    have first : least ≤ (chunks.foldl nextFreeSeqId 0).toInt := by
      obtain some | zero := given
      · obtain ⟨info, member⟩ := exists_mem_of_ne_nil chunks some
        grind
      · exact zero ▸ low
    unfold Labelled labels received fresh emptyView
    grind [FileChunksInfo.deletion]
  have filled := start.addFiles files high
  rw [(run_arrivalAt (shows_fresh ..) rfl ..).holds final runs]
  unfold settled
  split
  · exact filled.addDeletions
  · exact filled

theorem seqIds_tell_files_apart_resumed : ∃ rounds final, (fresh 1 true).run rounds
      (arrivalAt [⟨[0x61], 0, Nat.zero_le _⟩] [⟨4, [0x62], 0, []⟩] 1) = some final ∧
    Labelled 1 (received (fresh 1 true) [⟨4, [0x62], 0, []⟩]) final.view := by
  obtain ⟨ends, labelled⟩ := @seqIds_tell_files_apart [⟨[0x61], 0, Nat.zero_le _⟩] 1 true
    [⟨4, [0x62], 0, []⟩] 1 1 (by decide) (by decide) (by decide) (by decide)
  obtain ⟨rounds, final, runs⟩ := ends.mpr (by unfold Finishes; decide)
  exact ⟨rounds, final, runs, labelled rounds final runs⟩

end DiscoveryQueue

end Wdt
