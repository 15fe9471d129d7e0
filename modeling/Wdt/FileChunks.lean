/-
The list of files that a receiver already has, in part or whole, and the format in
which it is sent to a sender that resumes: entries packed into batches that fit the
receiver's buffer, each batch behind its length.
-/

import Mathlib.Data.List.Sort
import Wdt.Protocol
import Wdt.ReceiverThread

namespace Wdt

open List

/-! ### Entries -/

/-- The bytes from `start` up to `stop`, the source's `end_`. -/
structure Interval where
  start : Nat
  stop : Nat
  deriving DecidableEq

structure FileChunksInfo where
  seqId : Nat
  fileName : List Byte
  fileSize : Nat
  chunks : List Interval := []
  deriving DecidableEq

/-- Negative for a decoded chunk that ends before it starts. -/
def Interval.size (chunk : Interval) : Int := chunk.stop - chunk.start

def FileChunksInfo.getTotalChunkSize (info : FileChunksInfo) : Int :=
  (info.chunks.map Interval.size).sum

structure FileChunksInfo.InRange (info : FileChunksInfo) : Prop where
  seqId : info.seqId ≤ int64Max
  fileSize : info.fileSize ≤ int64Max
  start : ∀ chunk ∈ info.chunks, chunk.start ≤ int64Max
  stop : ∀ chunk ∈ info.chunks, chunk.stop ≤ int64Max

def kMaxChunkEncodeLen : Nat := 20

def chunkBytes (chunk : Interval) : List Byte := varU64 chunk.start ++ varU64 chunk.stop

variable (info : FileChunksInfo)

def fileChunksBytes : List Byte :=
  varU64 info.seqId ++ ((varU64 info.fileName.length ++ info.fileName) ++
    (varU64 info.fileSize ++ (varU64 info.chunks.length ++ (info.chunks.map chunkBytes).flatten)))

/-- The words that the encode calls of `encodeFileChunksInfo` write, one after the other. -/
def fileChunksWords : List (List Byte) :=
  [varU64 info.seqId, varU64 info.fileName.length, info.fileName, varU64 info.fileSize,
    varU64 info.chunks.length] ++
    info.chunks.flatMap (fun chunk => [varU64 chunk.start, varU64 chunk.stop])

def encodeFileChunksInfo (max : Nat) (info : FileChunksInfo) (written : List Byte) :
    Bool × List Byte :=
  encodeWords max (fileChunksWords info) written

def decodeChunkInfo : Decoder Byte Interval :=
  decodeInt64C.bind fun start => decodeInt64C.map (fun stop => { start, stop })

def decodeFileChunksInfo : Decoder Byte FileChunksInfo :=
  decodeInt64C.bind fun seqId =>
    decodeString.bind fun fileName =>
      decodeInt64C.bind fun fileSize =>
        decodeInt64C.bind fun numChunks =>
          (decodeChunkInfo.replicate numChunks).map
            (fun chunks => { seqId, fileName, fileSize, chunks })

def maxEncodeLen : Nat :=
  10 + 2 + info.fileName.length + 10 + 10 + info.chunks.length * kMaxChunkEncodeLen

theorem fileChunksWords_flatten (info : FileChunksInfo) :
    (fileChunksWords info).flatten = fileChunksBytes info := by
  have chunks : (info.chunks.flatMap (fun chunk => [varU64 chunk.start, varU64 chunk.stop])).flatten
      = (info.chunks.map chunkBytes).flatten := by
    induction info.chunks with
    | nil => rfl
    | cons chunk rest ih =>
      rw [flatMap_cons, flatten_append, ih]
      simp [chunkBytes]
  unfold fileChunksWords fileChunksBytes
  rw [flatten_append, chunks]
  simp

variable {written : List Byte}

theorem encodeWords_of_fits {max : Nat} {words : List (List Byte)}
    (fits : written.length + words.flatten.length ≤ max) :
    encodeWords max words written = (true, written ++ words.flatten) := by
  induction words generalizing written with
  | nil =>
    rw [flatten_nil, append_nil]
    rfl
  | cons word rest ih =>
    rw [flatten_cons, length_append] at fits
    have room : append max written word = some (written ++ word) :=
      append_eq_some_iff.mpr ⟨by omega, rfl⟩
    rw [encodeWords, room]
    dsimp only
    rw [ih (by rw [length_append]; omega), flatten_cons, append_assoc]

variable (chunks : List Interval)

theorem chunksBytes_length_le : (chunks.map chunkBytes).flatten.length ≤ chunks.length * 18 := by
  induction chunks with
  | nil => exact le_refl 0
  | cons chunk rest ih =>
    have start := varU64_length_le chunk.start
    have stop := varU64_length_le chunk.stop
    have both : (chunkBytes chunk).length ≤ 18 := by
      unfold chunkBytes
      rw [length_append]
      omega
    rw [map_cons, flatten_cons, length_append, length_cons, Nat.succ_mul]
    omega

/-- The bound that the packing uses. The two bytes for the length of the name are not enough for
a long one; the other fields need fewer than the ten that are counted for them. -/
theorem fileChunksBytes_length_le {info : FileChunksInfo}
    (nameShort : info.fileName.length < 2 ^ 31) :
    (fileChunksBytes info).length ≤ maxEncodeLen info := by
  have seqId := varU64_length_le info.seqId
  have nameLength : (varU64 info.fileName.length).length ≤ 5 :=
    varU64_length_le_of_lt (by norm_num; omega)
  have fileSize := varU64_length_le info.fileSize
  have numChunks := varU64_length_le info.chunks.length
  have chunks := chunksBytes_length_le info.chunks
  unfold fileChunksBytes maxEncodeLen kMaxChunkEncodeLen
  simp only [length_append]
  omega

theorem encodeFileChunksInfo_of_room {info : FileChunksInfo} {max : Nat} {written : List Byte}
    (nameShort : info.fileName.length < 2 ^ 31) (room : written.length + maxEncodeLen info ≤ max) :
    encodeFileChunksInfo max info written = (true, written ++ fileChunksBytes info) := by
  have bound := fileChunksBytes_length_le nameShort
  unfold encodeFileChunksInfo
  rw [encodeWords_of_fits (by rw [fileChunksWords_flatten]; omega), fileChunksWords_flatten]

theorem fileChunksBytes_ne_nil (info : FileChunksInfo) : fileChunksBytes info ≠ [] := by
  intro empty
  exact varU64_ne_nil _ (append_eq_nil_iff.mp empty).1

theorem lengths_of_maxEncodeLen_le {info : FileChunksInfo} {bufSize : Nat}
    (fits : maxEncodeLen info ≤ bufSize) :
    info.fileName.length ≤ bufSize ∧ info.chunks.length ≤ bufSize := by
  unfold maxEncodeLen kMaxChunkEncodeLen at fits
  omega

theorem decodeFileChunksInfo_reads {info : FileChunksInfo} (inRange : info.InRange)
    (fits : maxEncodeLen info ≤ int64Max) :
    decodeFileChunksInfo.Reads (fileChunksBytes info) info := by
  obtain ⟨nameShort, numChunks⟩ := lengths_of_maxEncodeLen_le fits
  have largest : int64Max = 2 ^ 63 - 1 := rfl
  have chunkReads : ∀ chunk ∈ info.chunks, decodeChunkInfo.Reads (chunkBytes chunk) chunk := by
    intro chunk member
    exact (decodeInt64C_reads (inRange.start chunk member)).bind
      ((decodeInt64C_reads (inRange.stop chunk member)).map _)
  have nameReads : decodeString.Reads (varU64 info.fileName.length ++ info.fileName)
      info.fileName := decodeString_reads (by omega)
  exact (decodeInt64C_reads inRange.seqId).bind (nameReads.bind
    ((decodeInt64C_reads inRange.fileSize).bind ((decodeInt64C_reads numChunks).bind
      ((Decoder.Reads.replicate chunkReads).map _))))

def Interval.Covers (chunk : Interval) (position : Nat) : Prop :=
  chunk.start ≤ position ∧ position < chunk.stop

/-- The chunks are in the order of their start; a chunk that begins behind the current one
closes it. -/
def mergeFrom (curChunk : Interval) : List Interval → List Interval
  | [] => [curChunk]
  | chunk :: rest =>
    if curChunk.stop < chunk.start then curChunk :: mergeFrom chunk rest
    else mergeFrom { curChunk with stop := max curChunk.stop chunk.stop } rest

def mergedChunks (chunks : List Interval) : List Interval :=
  match chunks.insertionSort (fun first second => first.start ≤ second.start) with
  | [] => []
  | chunk :: rest => mergeFrom chunk rest

def FileChunksInfo.mergeChunks : FileChunksInfo :=
  { info with chunks := mergedChunks info.chunks }

theorem mergeFrom_covers {chunk : Interval} {rest : List Interval}
    (sorted : (chunk :: rest).Pairwise (fun first second => first.start ≤ second.start))
    (position : Nat) :
    (∃ merged ∈ mergeFrom chunk rest, merged.Covers position) ↔
      ∃ part ∈ chunk :: rest, part.Covers position := by
  induction rest generalizing chunk with
  | nil => exact Iff.rfl
  | cons next rest ih =>
    obtain ⟨first, sortedRest⟩ := pairwise_cons.mp sorted
    obtain ⟨second, sortedTail⟩ := pairwise_cons.mp sortedRest
    have ordered : chunk.start ≤ next.start := first next mem_cons_self
    unfold mergeFrom
    by_cases gap : chunk.stop < next.start
    · rw [if_pos gap]
      simp only [exists_mem_cons_iff] at ih ⊢
      rw [ih sortedRest]
    have sortedMerged : ({ chunk with stop := max chunk.stop next.stop } :: rest).Pairwise
        (fun first second => first.start ≤ second.start) :=
      pairwise_cons.mpr
        ⟨(forall_mem_cons.mp first).2, sortedTail⟩
    rw [if_neg gap, ih sortedMerged]
    simp only [exists_mem_cons_iff, ← or_assoc]
    have joined : Interval.Covers { chunk with stop := max chunk.stop next.stop } position ↔
        chunk.Covers position ∨ next.Covers position := by
      unfold Interval.Covers
      dsimp only
      omega
    rw [joined]

theorem pairwise_insertionSort_start :
    (chunks.insertionSort (fun first second => first.start ≤ second.start)).Pairwise
      (fun first second => first.start ≤ second.start) := by
  exact pairwise_insertionSort _ chunks

theorem mergedChunks_covers (position : Nat) :
    (∃ merged ∈ mergedChunks chunks, merged.Covers position) ↔
      ∃ chunk ∈ chunks, chunk.Covers position := by
  have same : ∀ chunk, chunk ∈ chunks.insertionSort
      (fun first second => first.start ≤ second.start) ↔ chunk ∈ chunks :=
    fun chunk => (perm_insertionSort _ chunks).mem_iff
  have sorted := pairwise_insertionSort_start chunks
  simp only [← same]
  unfold mergedChunks
  cases shape : chunks.insertionSort (fun first second => first.start ≤ second.start) with
  | nil => exact Iff.rfl
  | cons chunk rest =>
    rw [shape] at sorted
    exact mergeFrom_covers sorted position

theorem mergeFrom_within {limit : Nat} {chunk : Interval} {rest : List Interval}
    (within : ∀ part ∈ chunk :: rest, part.start ≤ part.stop ∧ part.stop ≤ limit) :
    ∀ merged ∈ mergeFrom chunk rest, merged.start ≤ merged.stop ∧ merged.stop ≤ limit := by
  induction rest generalizing chunk with
  | nil => exact within
  | cons next rest ih =>
    have first := within chunk mem_cons_self
    have second := within next (mem_cons_of_mem _ mem_cons_self)
    have others : ∀ part ∈ rest, part.start ≤ part.stop ∧ part.stop ≤ limit :=
      fun part member => within part (mem_cons_of_mem _ (mem_cons_of_mem _ member))
    unfold mergeFrom
    by_cases gap : chunk.stop < next.start
    · rw [if_pos gap]
      intro merged member
      rcases mem_cons.mp member with rfl | later
      · exact first
      apply ih _ merged later
      exact forall_mem_cons.mpr ⟨second, others⟩
    · rw [if_neg gap]
      apply ih
      intro part present
      rcases mem_cons.mp present with rfl | other
      · dsimp only
        omega
      · exact others part other

theorem mergedChunks_within {limit : Nat} {chunks : List Interval}
    (within : ∀ chunk ∈ chunks, chunk.start ≤ chunk.stop ∧ chunk.stop ≤ limit) :
    ∀ merged ∈ mergedChunks chunks, merged.start ≤ merged.stop ∧ merged.stop ≤ limit := by
  have same : ∀ chunk, chunk ∈ chunks.insertionSort
      (fun first second => first.start ≤ second.start) ↔ chunk ∈ chunks :=
    fun chunk => (perm_insertionSort _ chunks).mem_iff
  simp only [← same] at within
  unfold mergedChunks
  cases shape : chunks.insertionSort (fun first second => first.start ≤ second.start) with
  | nil => exact nofun
  | cons chunk rest =>
    rw [shape] at within
    exact mergeFrom_within within

/-! ### Batches -/

/-- What the encoder has written, the places of the encoded entries in the list, of which the
source returns the number, and whether each encode call, whose answer the source drops, had
room. -/
structure EncodedChunks where
  written : List Byte
  indices : List Nat := []
  allFit : Bool := true

/-- An entry that no empty buffer can take is skipped; one that this buffer cannot take any more
ends the batch. -/
def encodeFileChunksInfoList (bufSize oldOffset : Nat) :
    (index : Nat) → List FileChunksInfo → (written : List Byte) → EncodedChunks
  | _, [], written => { written }
  | index, info :: rest, written =>
    let maxLength := maxEncodeLen info
    if bufSize < maxLength + oldOffset then
      encodeFileChunksInfoList bufSize oldOffset (index + 1) rest written
    else if bufSize ≤ maxLength + written.length then { written }
    else
      let (fit, written) := encodeFileChunksInfo bufSize info written
      let more := encodeFileChunksInfoList bufSize oldOffset (index + 1) rest written
      { more with indices := index :: more.indices, allFit := fit && more.allFit }

def decodeFileChunksInfoList (data : List Byte) : Option (List FileChunksInfo) :=
  decodeFileChunksInfo.untilEmpty data.length data

section Packing

variable {bufSize oldOffset : Nat}

theorem encodeWords_grows (max : Nat) (words : List (List Byte)) (written : List Byte) :
    written.length ≤ (encodeWords max words written).2.length := by
  induction words generalizing written with
  | nil => exact le_refl _
  | cons word rest ih =>
    unfold encodeWords
    cases appended : append max written word with
    | none => exact le_refl _
    | some longer =>
      obtain ⟨_, same⟩ := append_eq_some_iff.mp appended
      have grows := ih longer
      rw [same, length_append] at grows
      dsimp only
      rw [same]
      omega

theorem encodeWords_length_le {max : Nat} {words : List (List Byte)}
    (within : written.length ≤ max) : (encodeWords max words written).2.length ≤ max := by
  induction words generalizing written with
  | nil => exact within
  | cons word rest ih =>
    unfold encodeWords
    cases appended : append max written word with
    | none => exact within
    | some longer =>
      obtain ⟨fits, same⟩ := append_eq_some_iff.mp appended
      exact ih (by rw [same, length_append]; exact fits)

section

variable (index : Nat) (entries : List FileChunksInfo)

include index entries

theorem encodeFileChunksInfoList_length_le (within : written.length ≤ bufSize) :
    (encodeFileChunksInfoList bufSize oldOffset index entries written).written.length ≤
      bufSize := by
  induction entries generalizing index written with
  | nil => exact within
  | cons info rest ih =>
    unfold encodeFileChunksInfoList
    dsimp only
    split
    · exact ih (index + 1) within
    · split
      · exact within
      · exact ih (index + 1) (encodeWords_length_le within)

theorem encodeFileChunksInfoList_indices {list : List FileChunksInfo}
    (shape : list.drop index = entries) {written : List Byte}
    (started : oldOffset ≤ written.length) :
    (encodeFileChunksInfoList bufSize oldOffset index entries written).indices.length ≤
      entries.length ∧
    ∀ place ∈ (encodeFileChunksInfoList bufSize oldOffset index entries written).indices,
      ∃ info, list[place]? = some info ∧ maxEncodeLen info + oldOffset < bufSize := by
  induction entries generalizing index written with
  | nil => exact ⟨le_refl 0, nofun⟩
  | cons info rest ih =>
    have here : list[index]? = some info := by
      rw [← Nat.add_zero index, ← getElem?_drop, shape]
      rfl
    have behind : list.drop (index + 1) = rest := by
      rw [← drop_drop, shape]
      rfl
    unfold encodeFileChunksInfoList
    by_cases tooLarge : bufSize < maxEncodeLen info + oldOffset
    · rw [if_pos tooLarge]
      obtain ⟨fewer, places⟩ := ih (index + 1) behind started
      exact ⟨by rw [length_cons]; omega, places⟩
    rw [if_neg tooLarge]
    by_cases full : bufSize ≤ maxEncodeLen info + written.length
    · rw [if_pos full]
      exact ⟨Nat.zero_le _, nofun⟩
    rw [if_neg full]
    have grows := encodeWords_grows bufSize (fileChunksWords info) written
    obtain ⟨fewer, places⟩ := @ih (index + 1) behind
      (encodeFileChunksInfo bufSize info written).2 (started.trans grows)
    refine ⟨Nat.succ_le_succ fewer, ?_⟩
    intro place member
    rcases mem_cons.mp member with rfl | later
    · exact ⟨info, here, by omega⟩
    · exact places place later

theorem encodeFileChunksInfoList_packs {written : List Byte} (started : oldOffset ≤ written.length)
    (nameShort : ∀ info ∈ entries, info.fileName.length < 2 ^ 31)
    (leaveRoom : ∀ info ∈ entries, maxEncodeLen info + oldOffset < bufSize) :
    ∃ packed left, entries = packed ++ left ∧
      encodeFileChunksInfoList bufSize oldOffset index entries written =
        { written := written ++ (packed.map fileChunksBytes).flatten
          indices := List.range' index packed.length
          allFit := true } ∧
      (written.length = oldOffset → entries ≠ [] → packed ≠ []) := by
  induction entries generalizing index written with
  | nil =>
    refine ⟨[], [], rfl, ?_, fun _ nonempty => absurd rfl nonempty⟩
    rw [map_nil, flatten_nil, append_nil]
    rfl
  | cons info rest ih =>
    have room := leaveRoom info mem_cons_self
    have short := nameShort info mem_cons_self
    unfold encodeFileChunksInfoList
    rw [if_neg (by omega)]
    by_cases full : bufSize ≤ maxEncodeLen info + written.length
    · rw [if_pos full]
      refine ⟨[], info :: rest, rfl, ?_, ?_⟩
      · rw [map_nil, flatten_nil, append_nil]
        rfl
      · intro atStart _
        omega
    · have encoded := @encodeFileChunksInfo_of_room info bufSize written short (by omega)
      obtain ⟨packed, left, shape, result, _⟩ := @ih (index + 1)
        (written ++ fileChunksBytes info) (by rw [length_append]; omega)
        (forall_mem_cons.mp nameShort).2
        (forall_mem_cons.mp leaveRoom).2
      rw [if_neg full, encoded]
      dsimp only
      rw [result]
      refine ⟨info :: packed, left, by rw [shape, cons_append], ?_, fun _ _ =>
        cons_ne_nil _ _⟩
      rw [map_cons, flatten_cons, append_assoc, length_cons]
      rfl

end

end Packing

end Wdt
