/-
READ_FILE_CHUNKS and PROCESS_ERR_CMD of a sender thread, and the loop with which a
receiver thread sends its list of received files. Each read of the sender is noted
with the size of the buffer it goes to.
-/

import Wdt.FileChunks
import Wdt.SenderThread

namespace Wdt

open List EncodedChunks

def chunksCmd : Byte := 0x43

def localCheckpointCmd : Byte := 0x01

def kChunksCmdLen : Nat := 2 * 8

structure SocketRead where
  requested : Int
  capacity : Int
  deriving DecidableEq

def SocketRead.Within (read : SocketRead) : Prop :=
  0 ≤ read.requested ∧ read.requested ≤ read.capacity

instance (read : SocketRead) : Decidable read.Within := inferInstanceAs (Decidable (_ ∧ _))

inductive SenderState
  | connect | readFileChunks | sendBlocks | processAbortCmd | checkForAbort | stop

/-- How a state function ends: with the next state, in the socket's check that a read asks for
at least one byte, or with a read beyond its buffer, after which nothing is known. -/
inductive SenderOutcome
  | next (state : SenderState)
  /-- the list is handed over and acknowledged -/
  | received (list : List FileChunksInfo) (rest : List Byte)
  | handled (checkpoints : List Checkpoint) (rest : List Byte)
  | failedCheck
  | overrun

structure SenderRun where
  reads : List SocketRead := []
  outcome : SenderOutcome

def SenderRun.Within (run : SenderRun) : Prop :=
  ∀ read ∈ run.reads, read.Within

/-- A read of all the bytes it asks for, of what the peer still sends. -/
def SenderRun.read (requested capacity : Int) (stream : List Byte) (short : SenderState)
    (full : List Byte → List Byte → SenderRun) : SenderRun :=
  let run : SenderRun :=
    if requested ≤ 0 then { outcome := .failedCheck }
    else if capacity < requested then { outcome := .overrun }
    else if stream.length < requested.toNat then { outcome := .next short }
    else full (stream.take requested.toNat) (stream.drop requested.toNat)
  { run with reads := { requested, capacity } :: run.reads }

/-- The loop over the batches. Each round takes at least five bytes from the stream, so that
as many rounds as there are bytes are enough. -/
def readBatches (ownBufSize bufSize numFiles : Nat) :
    (rounds : Nat) → List FileChunksInfo → List Byte → SenderRun
  | 0, received, stream =>
    if numFiles < received.length then { outcome := .next .stop }
    else if received.length = numFiles then { outcome := .received received stream }
    else .read 4 ownBufSize stream .checkForAbort (fun _ _ => { outcome := .next .checkForAbort })
  | rounds + 1, received, stream =>
    if numFiles < received.length then { outcome := .next .stop }
    else if received.length = numFiles then { outcome := .received received stream }
    else
      .read 4 ownBufSize stream .checkForAbort fun field stream =>
        .read (loadSigned field) bufSize stream .checkForAbort fun data stream =>
          match decodeFileChunksInfoList data with
          | none => { outcome := .next .stop }
          | some entries =>
            readBatches ownBufSize bufSize numFiles rounds (received ++ entries) stream

/-- A local checkpoint that nobody asked for is skipped when it says that nothing was
received. -/
def readAndVerifySpuriousCheckpoint (ownBufSize version port : Nat) (stream : List Byte) :
    SenderRun :=
  let checkpointLen := getMaxLocalCheckpointLength version
  .read (checkpointLen - 1 : Nat) (ownBufSize - 1 : Nat) stream .connect fun bytes _ =>
    match (decodeCheckpoints version (localCheckpointCmd :: bytes)).1 with
    | some [checkpoint] =>
      if checkpoint.port = port ∧ checkpoint.numBlocks = 0 ∧
          checkpoint.lastBlockReceivedBytes = 0 then
        { outcome := .next .readFileChunks }
      else { outcome := .next .stop }
    | _ => { outcome := .next .stop }

/-- `chunksReceived`: another thread of the sender has the list already. -/
def readFileChunks (ownBufSize version port : Nat) (chunksReceived : Bool)
    (stream : List Byte) : SenderRun :=
  .read 1 ownBufSize stream .checkForAbort fun cmd stream =>
    if cmd = [abortCmd] then { outcome := .next .processAbortCmd }
    else if cmd = [waitCmd] then { outcome := .next .readFileChunks }
    else if cmd = [ackCmd] then
      { outcome := .next (if chunksReceived then .sendBlocks else .stop) }
    else if cmd = [localCheckpointCmd] then
      readAndVerifySpuriousCheckpoint ownBufSize version port stream
    else if cmd ≠ [chunksCmd] then { outcome := .next .stop }
    else
      .read kChunksCmdLen ownBufSize stream .checkForAbort fun sizes stream =>
        let bufSize := loadSigned (sizes.take 8)
        let numFiles := loadSigned (sizes.drop 8)
        if bufSize < 0 ∨ numFiles < 0 then { outcome := .next .stop }
        else readBatches ownBufSize bufSize.toNat numFiles.toNat stream.length [] stream

/-- The checkpoints go to an array on the stack that has the announced length. -/
def processErrCmd (ownBufSize version : Nat) (stream : List Byte) : SenderRun :=
  .read 2 ownBufSize stream .connect fun field stream =>
    .read (loadSigned field) (loadSigned field) stream .connect fun bytes stream =>
      match (decodeCheckpoints version bytes).1 with
      | none => { outcome := .next .stop }
      | some checkpoints => { outcome := .handled checkpoints stream }

/-! ### Which streams keep the reads within their buffers -/

variable {full : List Byte → List Byte → SenderRun}

theorem SenderRun.within_of_outcome (outcome : SenderOutcome) : SenderRun.Within { outcome } :=
  fun _ member => by cases member

theorem SenderRun.read_within_iff {requested capacity : Int} {stream : List Byte}
    {short : SenderState} :
    (SenderRun.read requested capacity stream short full).Within ↔
      (0 ≤ requested ∧ requested ≤ capacity) ∧ (0 < requested → requested.toNat ≤ stream.length →
          (full (stream.take requested.toNat) (stream.drop requested.toNat)).Within) := by
  unfold SenderRun.read SenderRun.Within
  rw [forall_mem_cons]
  apply and_congr_right
  intro within
  obtain ⟨_, bounded⟩ := (show 0 ≤ requested ∧ requested ≤ capacity from within)
  by_cases none : requested ≤ 0
  · rw [if_pos none]
    exact ⟨fun _ some _ => absurd some (by omega), fun _ => nofun⟩
  rw [if_neg none, if_neg (by omega)]
  by_cases missing : stream.length < requested.toNat
  · rw [if_pos missing]
    exact ⟨fun _ _ enough => absurd enough (by omega), fun _ => nofun⟩
  · rw [if_neg missing]
    exact ⟨fun reads _ _ => reads, fun reads => reads (by omega) (by omega)⟩

/-- A batch that a sender takes: its length, as announced, and entries that can be decoded. -/
structure ValidBatch (bufSize : Nat) (field data : List Byte) (entries : List FileChunksInfo) :
    Prop where
  fieldLength : field.length = 4
  announced : loadSigned field = data.length
  notEmpty : 0 < data.length
  fits : data.length ≤ bufSize
  decoded : decodeFileChunksInfoList data = some entries

/-- `AfterBatches bufSize numFiles received stream now rest`: behind some valid batches of the
stream, `now` has been received and `rest` is still to be read. -/
inductive AfterBatches (bufSize numFiles : Nat) :
    List FileChunksInfo → List Byte → List FileChunksInfo → List Byte → Prop
  | here (received : List FileChunksInfo) (stream : List Byte) :
      AfterBatches bufSize numFiles received stream received stream
  | batch {received entries now field data rest final}
      (missing : received.length < numFiles) (valid : ValidBatch bufSize field data entries)
      (more : AfterBatches bufSize numFiles (received ++ entries) rest now final) :
      AfterBatches bufSize numFiles received (field ++ data ++ rest) now final

/-- Whenever entries are missing behind valid batches, the next length is neither negative nor
larger than the buffer that was announced. -/
def LengthsInRange (bufSize numFiles : Nat) (received : List FileChunksInfo)
    (stream : List Byte) : Prop :=
  ∀ now rest, AfterBatches bufSize numFiles received stream now rest → now.length < numFiles →
    4 ≤ rest.length → 0 ≤ loadSigned (rest.take 4) ∧ loadSigned (rest.take 4) ≤ bufSize

variable {version rounds port : Nat}

section Lengths

variable {bufSize numFiles : Nat} {received : List FileChunksInfo} {stream : List Byte}

theorem LengthsInRange.next {field data rest : List Byte} {entries : List FileChunksInfo}
    (inRange : LengthsInRange bufSize numFiles received (field ++ data ++ rest))
    (missing : received.length < numFiles) (valid : ValidBatch bufSize field data entries) :
    LengthsInRange bufSize numFiles (received ++ entries) rest := by
  intro now final after
  exact inRange now final (.batch missing valid after)

theorem lengthsInRange_of_first (first : 4 ≤ stream.length → 0 ≤ loadSigned (stream.take 4) ∧
      loadSigned (stream.take 4) ≤ bufSize)
    (later : ∀ field data rest entries, stream = field ++ data ++ rest →
      ValidBatch bufSize field data entries →
      LengthsInRange bufSize numFiles (received ++ entries) rest) :
    LengthsInRange bufSize numFiles received stream := by
  intro now final after
  cases after with
  | here => exact fun _ long => first long
  | batch _ valid more => exact later _ _ _ _ rfl valid now final more

theorem lengthsInRange_of_complete (complete : numFiles ≤ received.length) :
    LengthsInRange bufSize numFiles received stream := by
  intro now final after
  cases after with
  | here => exact fun missing => absurd missing (by omega)
  | batch missing => exact absurd missing (by omega)

variable {ownBufSize : Nat}

theorem readBatches_complete (complete : numFiles ≤ received.length) :
    (readBatches ownBufSize bufSize numFiles rounds received stream).Within := by
  cases rounds with
  | zero | succ rounds =>
    unfold readBatches
    split
    · exact SenderRun.within_of_outcome _
    · rw [if_pos (by omega)]
      exact SenderRun.within_of_outcome _

theorem readBatches_within_iff (own : 4 ≤ ownBufSize) (enough : stream.length ≤ rounds) :
    (readBatches ownBufSize bufSize numFiles rounds received stream).Within ↔
      LengthsInRange bufSize numFiles received stream := by
  induction rounds generalizing received stream with
  | zero =>
    have empty : stream = [] := eq_nil_of_length_eq_zero (by omega)
    subst empty
    by_cases missing : received.length < numFiles
    · unfold readBatches
      rw [if_neg (by omega), if_neg (by omega), SenderRun.read_within_iff]
      constructor
      · intro _
        apply lengthsInRange_of_first
        · intro long
          exact absurd long (by decide)
        · intro field data rest entries shape valid
          have lengths := congrArg length shape
          rw [length_append, length_append, valid.fieldLength, length_nil]
            at lengths
          omega
      · intro _
        exact ⟨⟨by omega, by omega⟩, fun _ long => absurd long (by decide)⟩
    · exact iff_of_true (readBatches_complete (by omega)) (lengthsInRange_of_complete (by omega))
  | succ rounds ih =>
    by_cases missing : received.length < numFiles
    · have four : (4 : Int).toNat = 4 := rfl
      unfold readBatches
      rw [if_neg (by omega), if_neg (by omega), SenderRun.read_within_iff, four]
      simp only [SenderRun.read_within_iff]
      constructor
      · rintro ⟨_, second⟩
        apply lengthsInRange_of_first
        · intro long
          exact (second (by omega) long).1
        · intro field data rest entries shape valid
          have lengths := congrArg length shape
          rw [length_append, length_append, valid.fieldLength] at lengths
          have notEmpty := valid.notEmpty
          obtain ⟨_, goesOn⟩ := second (by omega) (by omega)
          rw [shape, append_assoc, take_left' valid.fieldLength,
            drop_left' valid.fieldLength, valid.announced, Int.toNat_natCast,
            take_left, drop_left, valid.decoded] at goesOn
          exact (ih (by omega)).mp
            (goesOn (by omega) (by rw [length_append]; exact Nat.le_add_right _ _))
      · intro inRange
        refine ⟨⟨by omega, by omega⟩, fun _ long => ?_⟩
        obtain ⟨notNegative, fits⟩ := inRange received stream (.here _ _) missing long
        refine ⟨⟨notNegative, fits⟩, fun positive complete => ?_⟩
        cases decoded : decodeFileChunksInfoList
            ((stream.drop 4).take (loadSigned (stream.take 4)).toNat) with
        | none => exact SenderRun.within_of_outcome _
        | some entries =>
          have dataLength : ((stream.drop 4).take (loadSigned (stream.take 4)).toNat).length =
              (loadSigned (stream.take 4)).toNat := by
            rw [length_take]
            exact Nat.min_eq_left complete
          have valid : ValidBatch bufSize (stream.take 4)
              ((stream.drop 4).take (loadSigned (stream.take 4)).toNat) entries :=
            ⟨by rw [length_take]; omega, by rw [dataLength]; omega,
              by rw [dataLength]; omega, by rw [dataLength]; omega, decoded⟩
          have shape : stream.take 4 ++ (stream.drop 4).take (loadSigned (stream.take 4)).toNat ++
              (stream.drop 4).drop (loadSigned (stream.take 4)).toNat = stream := by
            rw [append_assoc, take_append_drop, take_append_drop]
          apply (ih _).mpr
          · rw [← shape] at inRange
            exact inRange.next missing valid
          · rw [length_drop, length_drop]
            omega
    · exact iff_of_true (readBatches_complete (by omega)) (lengthsInRange_of_complete (by omega))

/-- If the stream starts with a CHUNKS command of legal sizes, the lengths of the batches behind
it are in range. -/
def ChunkLengthsInRange (stream : List Byte) : Prop :=
  ∀ sizes rest, stream = chunksCmd :: (sizes ++ rest) → sizes.length = kChunksCmdLen →
    0 ≤ loadSigned (sizes.take 8) → 0 ≤ loadSigned (sizes.drop 8) →
    LengthsInRange (loadSigned (sizes.take 8)).toNat (loadSigned (sizes.drop 8)).toNat [] rest

theorem getMaxLocalCheckpointLength_le (version : Nat) :
    getMaxLocalCheckpointLength version ≤ 60 := by
  unfold getMaxLocalCheckpointLength
  split <;> split <;> omega

theorem readAndVerifySpuriousCheckpoint_within
    (large : kMaxHeader ≤ ownBufSize) (stream : List Byte) :
    (readAndVerifySpuriousCheckpoint ownBufSize version port stream).Within := by
  have longest : kMaxHeader = 4150 := rfl
  have atMost := getMaxLocalCheckpointLength_le version
  apply SenderRun.read_within_iff.mpr
  refine ⟨⟨by omega, by omega⟩, fun _ _ => ?_⟩
  split
  · split <;> exact SenderRun.within_of_outcome _
  · exact SenderRun.within_of_outcome _

theorem readChunks_within_iff (large : kMaxHeader ≤ ownBufSize) (stream : List Byte) :
    (SenderRun.read kChunksCmdLen ownBufSize stream .checkForAbort fun sizes stream =>
      let bufSize := loadSigned (sizes.take 8)
      let numFiles := loadSigned (sizes.drop 8)
      if bufSize < 0 ∨ numFiles < 0 then { outcome := .next .stop }
      else readBatches ownBufSize bufSize.toNat numFiles.toNat stream.length [] stream).Within ↔
      ChunkLengthsInRange (chunksCmd :: stream) := by
  have longest : kMaxHeader = 4150 ∧ kChunksCmdLen = 16 := ⟨rfl, rfl⟩
  have whole : stream.take kChunksCmdLen ++ stream.drop kChunksCmdLen = stream :=
    take_append_drop _ _
  rw [SenderRun.read_within_iff, Int.toNat_natCast]
  constructor
  · rintro ⟨_, behind⟩ sizes rest shape sizesLength bufSize numFiles
    have same := (cons.inj shape).2
    have lengths := congrArg length same
    rw [length_append] at lengths
    have batches := behind (by omega) (by omega)
    rw [same, take_left' sizesLength, drop_left' sizesLength, if_neg (by omega)] at batches
    exact (readBatches_within_iff (by omega) (le_refl _)).mp batches
  · intro inRange
    refine ⟨⟨by omega, by omega⟩, fun _ enough => ?_⟩
    have sizesLength : (stream.take kChunksCmdLen).length = kChunksCmdLen := by
      rw [length_take]
      exact Nat.min_eq_left enough
    by_cases illegal : loadSigned ((stream.take kChunksCmdLen).take 8) < 0 ∨
        loadSigned ((stream.take kChunksCmdLen).drop 8) < 0
    · rw [if_pos illegal]
      exact SenderRun.within_of_outcome _
    rw [if_neg illegal]
    apply (readBatches_within_iff (by omega) (le_refl _)).mpr
    exact inRange (stream.take kChunksCmdLen) (stream.drop kChunksCmdLen) (by rw [whole])
      sizesLength (by omega) (by omega)

theorem readFileChunks_within_iff {chunksReceived : Bool}
    (large : kMaxHeader ≤ ownBufSize) (stream : List Byte) :
    (readFileChunks ownBufSize version port chunksReceived stream).Within ↔
      ChunkLengthsInRange stream := by
  have longest : kMaxHeader = 4150 := rfl
  have one : (1 : Int).toNat = 1 := rfl
  unfold readFileChunks
  rw [SenderRun.read_within_iff, one]
  cases stream with
  | nil =>
    constructor
    · rintro _ sizes rest shape
      cases shape
    · intro _
      exact ⟨⟨by omega, by omega⟩, fun _ long => absurd long (by decide)⟩
  | cons cmd stream =>
    have otherCmd : cmd ≠ chunksCmd → ChunkLengthsInRange (cmd :: stream) := by
      intro other sizes rest shape
      exact absurd (cons.inj shape).1 other
    have chosen : (0 ≤ (1 : Int) ∧ (1 : Int) ≤ ownBufSize) := ⟨by omega, by omega⟩
    have read : 0 < (1 : Int) ∧ 1 ≤ (cmd :: stream).length :=
      ⟨by omega, Nat.succ_le_succ (Nat.zero_le _)⟩
    have first : (cmd :: stream).take 1 = [cmd] ∧ (cmd :: stream).drop 1 = stream := ⟨rfl, rfl⟩
    simp only [chosen, read, first, forall_const, true_and, cons.injEq, and_true]
    by_cases isChunks : cmd = chunksCmd
    · have notAbort : chunksCmd ≠ abortCmd ∧ chunksCmd ≠ waitCmd ∧ chunksCmd ≠ ackCmd ∧
          chunksCmd ≠ localCheckpointCmd := by decide
      rw [isChunks, if_neg notAbort.1, if_neg notAbort.2.1, if_neg notAbort.2.2.1,
        if_neg notAbort.2.2.2, if_neg (by simp)]
      exact readChunks_within_iff large stream
    refine ⟨fun _ => otherCmd isChunks, fun _ => ?_⟩
    split
    · exact SenderRun.within_of_outcome _
    split
    · exact SenderRun.within_of_outcome _
    split
    · exact SenderRun.within_of_outcome _
    split
    · exact readAndVerifySpuriousCheckpoint_within large stream
    · rw [if_pos (by simp [isChunks])]
      exact SenderRun.within_of_outcome _

theorem processErrCmd_within_iff (large : kMaxHeader ≤ ownBufSize) (stream : List Byte) :
    (processErrCmd ownBufSize version stream).Within ↔
      (2 ≤ stream.length → 0 ≤ loadSigned (stream.take 2)) := by
  have longest : kMaxHeader = 4150 := rfl
  unfold processErrCmd
  simp only [SenderRun.read_within_iff]
  constructor
  · rintro ⟨_, second⟩ long
    exact (second (by omega) long).1.1
  · intro notNegative
    refine ⟨⟨by omega, by omega⟩, fun _ long => ⟨⟨notNegative long, le_refl _⟩, fun _ _ => ?_⟩⟩
    split <;> exact SenderRun.within_of_outcome _

/-- Both commands keep their reads within the buffers just for the streams whose length fields
are in range. -/
theorem sender_reads_within_iff_lengths_in_range {ownBufSize : Nat}
    (large : kMaxHeader ≤ ownBufSize) (version port : Nat) (chunksReceived : Bool)
    (stream : List Byte) :
    ((readFileChunks ownBufSize version port chunksReceived stream).Within ↔
      ChunkLengthsInRange stream) ∧
    ((processErrCmd ownBufSize version stream).Within ↔
      (2 ≤ stream.length → 0 ≤ loadSigned (stream.take 2))) :=
  ⟨readFileChunks_within_iff large stream, processErrCmd_within_iff large stream⟩

theorem sender_reads_within_iff_lengths_in_range_sample : kMaxHeader ≤ 8192 ∧
      ChunkLengthsInRange (chunksCmd :: leBytes 8 16 ++ leBytes 8 1 ++ leBytes 4 2 ++ [0, 0]) ∧
      (processErrCmd 8192 32 [1, 0, 0]).Within :=
  ⟨by decide, (@sender_reads_within_iff_lengths_in_range 8192 (by decide) 32 0 false _).1.mp
      (by unfold SenderRun.Within; decide +kernel),
    (sender_reads_within_iff_lengths_in_range (by decide) 32 0 false _).2.mpr (by decide)⟩

/-- A batch of two bytes for a buffer of one, and a negative length of checkpoints. -/
theorem length_fields_overrun : (readFileChunks 8192 32 0 false
      (chunksCmd :: leBytes 8 1 ++ leBytes 8 1 ++ leBytes 4 2 ++ [0, 0])).reads =
        [⟨1, 8192⟩, ⟨16, 8192⟩, ⟨4, 8192⟩, ⟨2, 1⟩] ∧
      ¬ (⟨2, 1⟩ : SocketRead).Within ∧
      (processErrCmd 8192 32 [0xff, 0xff]).reads = [⟨2, 8192⟩, ⟨-1, -1⟩] ∧
      ¬ (⟨-1, -1⟩ : SocketRead).Within := by
  decide +kernel

end Lengths

/-! ### The loop of SEND_FILE_CHUNKS -/

namespace EncodedChunks

def data (batch : EncodedChunks) : List Byte := batch.written.drop 4

/-- The length is stored in the four bytes that were left free for it. -/
def bytes (batch : EncodedChunks) : List Byte := leBytes 4 (batch.written.length - 4) ++ batch.data

end EncodedChunks

def encodeBatch (bufSize : Nat) (list : List FileChunksInfo) (numEntriesWritten : Nat) :
    EncodedChunks :=
  encodeFileChunksInfoList bufSize 4 numEntriesWritten (list.drop numEntriesWritten) (leBytes 4 0)

/-- The batches that the loop writes, or nothing if it needs more than so many rounds. -/
def sendBatches (bufSize : Nat) (list : List FileChunksInfo) :
    (rounds numEntriesWritten : Nat) → Option (List EncodedChunks)
  | 0, numEntriesWritten => if numEntriesWritten < list.length then none else some []
  | rounds + 1, numEntriesWritten =>
    if numEntriesWritten < list.length then
      let batch := encodeBatch bufSize list numEntriesWritten
      (sendBatches bufSize list rounds (numEntriesWritten + batch.indices.length)).map (batch :: ·)
    else some []

/-- CHUNKS_CMD with the size of the buffer and the number of entries. -/
def chunksMessage (bufSize : Nat) (list : List FileChunksInfo) : List Byte :=
  chunksCmd :: (leBytes 8 bufSize ++ leBytes 8 list.length)

section Exchange

variable {bufSize : Nat} {list : List FileChunksInfo}

def AllLeaveRoom (bufSize : Nat) (list : List FileChunksInfo) : Prop :=
  ∀ info ∈ list, maxEncodeLen info + 4 < bufSize

variable {start : Nat}

theorem encodeBatch_packs (leaveRoom : AllLeaveRoom bufSize list)
    (nameShort : ∀ info ∈ list, info.fileName.length < 2 ^ 31) (more : start < list.length) :
    ∃ packed left, list.drop start = packed ++ left ∧ packed ≠ [] ∧ encodeBatch bufSize list start =
        { written := leBytes 4 0 ++ (packed.map fileChunksBytes).flatten
          indices := List.range' start packed.length
          allFit := true } := by
  have ofList : ∀ info ∈ list.drop start, info ∈ list := fun _ member => mem_of_mem_drop member
  obtain ⟨packed, left, shape, result, progress⟩ := @encodeFileChunksInfoList_packs bufSize 4 start
    (list.drop start) (leBytes 4 0) (le_refl _)
    (fun info member => nameShort info (ofList info member))
    (fun info member => leaveRoom info (ofList info member))
  have notEmpty : list.drop start ≠ [] := by
    apply ne_nil_of_length_pos
    rw [length_drop]
    omega
  exact ⟨packed, left, shape, progress rfl notEmpty, result⟩

/-- Batches with the entries from some place on, in groups of at least one; no encode call ran
out of room. -/
structure Packs (bufSize : Nat) (list : List FileChunksInfo) (start : Nat)
    (batches : List EncodedChunks) (groups : List (List FileChunksInfo)) : Prop where
  data : batches.map EncodedChunks.data =
    groups.map (fun group => (group.map fileChunksBytes).flatten)
  fit : ∀ batch ∈ batches, batch.allFit = true
  lengthStored : ∀ batch ∈ batches, 4 ≤ batch.written.length
  inBuffer : ∀ batch ∈ batches, batch.written.length ≤ bufSize
  notEmpty : ∀ group ∈ groups, group ≠ []
  whole : groups.flatten = list.drop start
  places : (batches.map EncodedChunks.indices).flatten = List.range' start (list.length - start)

theorem packs_nil (ended : list.length ≤ start) : Packs bufSize list start [] [] where
  data := rfl
  fit := nofun
  lengthStored := nofun
  inBuffer := nofun
  notEmpty := nofun
  whole := by
    rw [drop_eq_nil_of_le ended]
    rfl
  places := by
    rw [Nat.sub_eq_zero_of_le ended]
    rfl

theorem Packs.cons {start : Nat} {packed left : List FileChunksInfo}
    {batches : List EncodedChunks} {groups : List (List FileChunksInfo)} {batch : EncodedChunks}
    (shape : list.drop start = packed ++ left) (notEmpty : packed ≠ [])
    (encoded : batch =
      { written := leBytes 4 0 ++ (packed.map fileChunksBytes).flatten
        indices := List.range' start packed.length
        allFit := true })
    (inBuffer : batch.written.length ≤ bufSize)
    (packs : Packs bufSize list (start + packed.length) batches groups) :
    Packs bufSize list start (batch :: batches) (packed :: groups) := by
  have lengths := congrArg length shape
  rw [length_drop, length_append] at lengths
  have behind : list.drop (start + packed.length) = left := by
    rw [← drop_drop, shape, drop_left]
  constructor
  · rw [map_cons, map_cons, packs.data, encoded]
    rfl
  · exact forall_mem_cons.mpr ⟨by rw [encoded], packs.fit⟩
  · refine forall_mem_cons.mpr ⟨?_, packs.lengthStored⟩
    rw [encoded, length_append, leBytes_length]
    omega
  · exact forall_mem_cons.mpr ⟨inBuffer, packs.inBuffer⟩
  · exact forall_mem_cons.mpr ⟨notEmpty, packs.notEmpty⟩
  · rw [flatten_cons, packs.whole, behind, shape]
  · rw [map_cons, flatten_cons, packs.places, encoded]
    rw [range'_append_1]
    congr 1
    omega

theorem sendBatches_packs (leaveRoom : AllLeaveRoom bufSize list)
    (nameShort : ∀ info ∈ list, info.fileName.length < 2 ^ 31) {rounds start : Nat}
    (enough : list.length - start ≤ rounds) :
    ∃ batches groups, sendBatches bufSize list rounds start = some batches ∧
      Packs bufSize list start batches groups := by
  induction rounds generalizing start with
  | zero =>
    refine ⟨[], [], ?_, packs_nil (by omega)⟩
    unfold sendBatches
    rw [if_neg (by omega)]
  | succ rounds ih =>
    unfold sendBatches
    by_cases more : start < list.length
    · obtain ⟨packed, left, shape, notEmpty, result⟩ := encodeBatch_packs leaveRoom nameShort more
      have positive := length_pos_of_ne_nil notEmpty
      have atLeast := leaveRoom (list.get ⟨start, more⟩) (get_mem _ _)
      have inBuffer : (encodeBatch bufSize list start).written.length ≤ bufSize := by
        apply encodeFileChunksInfoList_length_le
        rw [leBytes_length]
        omega
      obtain ⟨batches, groups, sent, packs⟩ := @ih (start + packed.length) (by omega)
      refine ⟨encodeBatch bufSize list start :: batches, packed :: groups, ?_,
        packs.cons shape notEmpty result inBuffer⟩
      rw [if_pos more]
      dsimp only
      rw [result, length_range', sent]
      rfl
    · exact ⟨[], [], if_neg more, packs_nil (by omega)⟩

/-! ### The list is preserved -/

structure Carried (bufSize : Nat) (list : List FileChunksInfo) : Prop where
  inRange : ∀ info ∈ list, info.InRange
  nameShort : ∀ info ∈ list, info.fileName.length < 2 ^ 31
  leaveRoom : AllLeaveRoom bufSize list

theorem flatten_length_ge (group : List FileChunksInfo) :
    group.length ≤ (group.map fileChunksBytes).flatten.length := by
  induction group with
  | nil => exact le_refl 0
  | cons info rest ih =>
    have positive := length_pos_of_ne_nil (fileChunksBytes_ne_nil info)
    rw [map_cons, flatten_cons, length_append, length_cons]
    omega

theorem decodeFileChunksInfoList_group {group : List FileChunksInfo}
    (inRange : ∀ info ∈ group, info.InRange) (fits : ∀ info ∈ group, maxEncodeLen info ≤ int64Max) :
    decodeFileChunksInfoList (group.map fileChunksBytes).flatten = some group :=
  Decoder.untilEmpty_reads
    (fun info member => decodeFileChunksInfo_reads (inRange info member) (fits info member))
    (fun info _ => fileChunksBytes_ne_nil info) (flatten_length_ge group)

/-- Decode batch by batch, each from the beginning, and put the entries together. -/
def decodeBatches (batches : List (List Byte)) : Option (List FileChunksInfo) :=
  (batches.mapM decodeFileChunksInfoList).map List.flatten

variable {groups : List (List FileChunksInfo)}

theorem decodeBatches_groups (inRange : ∀ group ∈ groups, ∀ info ∈ group, info.InRange)
    (fits : ∀ group ∈ groups, ∀ info ∈ group, maxEncodeLen info ≤ int64Max) :
    decodeBatches (groups.map (fun group => (group.map fileChunksBytes).flatten)) =
      some groups.flatten := by
  have each : (groups.map (fun group => (group.map fileChunksBytes).flatten)).mapM
      decodeFileChunksInfoList = some groups := by
    induction groups with
    | nil => rfl
    | cons group rest ih =>
      rw [map_cons, mapM_cons, decodeFileChunksInfoList_group
        (inRange group mem_cons_self) (fits group mem_cons_self),
        ih (forall_mem_cons.mp inRange).2
          (forall_mem_cons.mp fits).2]
      rfl
  unfold decodeBatches
  rw [each]
  rfl

/-- The loop ends, none of its encode calls runs out of room, and the batches decode to the list
that was sent. -/
theorem chunk_list_preserved (bufSizeSmall : bufSize ≤ int64Max) (carried : Carried bufSize list) :
    (∀ info ∈ list, ∀ max written, written.length + maxEncodeLen info ≤ max →
      (encodeFileChunksInfo max info written).1 = true ∧
        (encodeFileChunksInfo max info written).2.length ≤ written.length + maxEncodeLen info) ∧
      ∃ rounds batches, sendBatches bufSize list rounds 0 = some batches ∧
        (∀ batch ∈ batches, batch.allFit = true) ∧
        decodeBatches (batches.map EncodedChunks.data) = some list := by
  obtain ⟨batches, groups, sent, packs⟩ :=
    @sendBatches_packs bufSize list carried.leaveRoom carried.nameShort list.length 0
      (Nat.sub_le _ _)
  have inList : ∀ group ∈ groups, ∀ info ∈ group, info ∈ list := by
    intro group member info inGroup
    have present : info ∈ groups.flatten := mem_flatten.mpr ⟨group, member, inGroup⟩
    rw [packs.whole] at present
    exact present
  refine ⟨?_, list.length, batches, sent, packs.fit, ?_⟩
  · intro info member max written room
    have short := carried.nameShort info member
    have bound := fileChunksBytes_length_le short
    rw [encodeFileChunksInfo_of_room short room]
    refine ⟨rfl, ?_⟩
    rw [length_append]
    omega
  rw [packs.data, decodeBatches_groups, packs.whole, drop_zero]
  · exact fun group member info inGroup => carried.inRange info (inList group member info inGroup)
  · intro group member info inGroup
    have room := carried.leaveRoom info (inList group member info inGroup)
    omega

def sampleChunks : List FileChunksInfo :=
  [{ seqId := 1, fileName := [0x61], fileSize := 300, chunks := [⟨0, 100⟩, ⟨200, 300⟩] },
    { seqId := 2, fileName := [0x62], fileSize := 0 }]

theorem sampleChunks_carried : Carried 8192 sampleChunks where
  inRange := by
    refine forall_mem_cons.mpr ⟨?_, forall_mem_singleton.mpr ?_⟩ <;>
      exact ⟨by decide, by decide, by decide, by decide⟩
  nameShort := by decide
  leaveRoom := by
    unfold AllLeaveRoom
    decide

theorem chunk_list_preserved_sample :
    (∀ info ∈ sampleChunks, ∀ max written, written.length + maxEncodeLen info ≤ max →
      (encodeFileChunksInfo max info written).1 = true ∧
        (encodeFileChunksInfo max info written).2.length ≤ written.length + maxEncodeLen info) ∧
      ∃ rounds batches, sendBatches 8192 sampleChunks rounds 0 = some batches ∧
        (∀ batch ∈ batches, batch.allFit = true) ∧
        decodeBatches (batches.map EncodedChunks.data) = some sampleChunks :=
  chunk_list_preserved (by decide) sampleChunks_carried

/-! ### The counts agree -/

theorem SenderRun.read_full {requested : Nat} {capacity : Int} {word rest : List Byte}
    {short : SenderState} (length : word.length = requested) (positive : 0 < requested)
    (fits : (requested : Int) ≤ capacity) :
    (SenderRun.read requested capacity (word ++ rest) short full).outcome =
      (full word rest).outcome := by
  unfold SenderRun.read
  rw [if_neg (by omega), if_neg (by omega), if_neg (by rw [length_append]; omega),
    Int.toNat_natCast, take_left' length, drop_left' length]

def groupBytes (group : List FileChunksInfo) : List Byte :=
  leBytes 4 (group.map fileChunksBytes).flatten.length ++ (group.map fileChunksBytes).flatten

theorem readBatches_receives {ownBufSize numFiles : Nat} (own : 4 ≤ ownBufSize)
    (bufSizeSmall : bufSize ≤ int32Max) {received : List FileChunksInfo}
    (decodes : ∀ group ∈ groups,
      decodeFileChunksInfoList (group.map fileChunksBytes).flatten = some group)
    (notEmpty : ∀ group ∈ groups, group ≠ [])
    (fits : ∀ group ∈ groups, (group.map fileChunksBytes).flatten.length ≤ bufSize)
    (announced : received.length + groups.flatten.length = numFiles)
    (enough : groups.length ≤ rounds) (rest : List Byte) :
    (readBatches ownBufSize bufSize numFiles rounds received
      ((groups.map groupBytes).flatten ++ rest)).outcome =
      .received (received ++ groups.flatten) rest := by
  induction groups generalizing received rounds with
  | nil =>
    rw [flatten_nil, length_nil, Nat.add_zero] at announced
    rw [flatten_nil, append_nil]
    cases rounds with
    | zero | succ rounds =>
      unfold readBatches
      rw [if_neg (by omega), if_pos announced]
      rfl
  | cons group groups ih =>
    obtain ⟨fewer, rfl⟩ : ∃ fewer, rounds = fewer + 1 := by
      rw [length_cons] at enough
      exact ⟨rounds - 1, by omega⟩
    have largest : int32Max = 2147483647 := rfl
    have positive := length_pos_of_ne_nil (notEmpty group mem_cons_self)
    have longer := flatten_length_ge group
    have inBuffer := fits group mem_cons_self
    rw [flatten_cons, length_append] at announced
    have shape : ((group :: groups).map groupBytes).flatten ++ rest =
        leBytes 4 (group.map fileChunksBytes).flatten.length ++
          ((group.map fileChunksBytes).flatten ++ ((groups.map groupBytes).flatten ++ rest)) := by
      rw [map_cons, flatten_cons]
      unfold groupBytes
      simp only [append_assoc]
    have length := @loadSigned_leBytes 4 (group.map fileChunksBytes).flatten.length (by omega)
    have tail := @ih fewer (received ++ group)
      (forall_mem_cons.mp decodes).2
      (forall_mem_cons.mp notEmpty).2
      (forall_mem_cons.mp fits).2
      (by rw [length_append]; omega)
      (by rw [length_cons] at enough; omega)
    unfold readBatches
    rw [if_neg (by omega), if_neg (by omega), shape]
    change (SenderRun.read ((4 : Nat) : Int) _ _ _ _).outcome = _
    rw [SenderRun.read_full (leBytes_length _ _) (by omega) (by omega), length,
      SenderRun.read_full rfl (by omega) (by omega), decodes group mem_cons_self]
    rw [tail, flatten_cons, append_assoc]

variable {batches : List EncodedChunks}

theorem Packs.bytes (packs : Packs bufSize list start batches groups) :
    (batches.map bytes) = groups.map groupBytes := by
  have lengthStored := packs.lengthStored
  have data := packs.data
  clear packs
  induction batches generalizing groups with
  | nil =>
    cases groups with
    | nil => rfl
    | cons group groups => cases data
  | cons batch batches ih =>
    cases groups with
    | nil => cases data
    | cons group groups =>
      rw [map_cons, map_cons] at data
      obtain ⟨first, others⟩ := cons.inj data
      have length : (group.map fileChunksBytes).flatten.length = batch.written.length - 4 := by
        rw [← first]
        unfold EncodedChunks.data
        rw [length_drop]
      rw [map_cons, map_cons,
        ih (forall_mem_cons.mp lengthStored).2 others]
      unfold bytes groupBytes
      rw [first, length]

theorem Packs.group_fits (packs : Packs bufSize list start batches groups) :
    ∀ group ∈ groups, (group.map fileChunksBytes).flatten.length ≤ bufSize := by
  intro group member
  have encoded : (group.map fileChunksBytes).flatten ∈ batches.map EncodedChunks.data := by
    rw [packs.data]
    exact mem_map_of_mem member
  obtain ⟨batch, inBatches, same⟩ := mem_map.mp encoded
  have inBuffer := packs.inBuffer batch inBatches
  rw [← same]
  unfold EncodedChunks.data
  rw [length_drop]
  omega

theorem flatten_length_ge_groups : groups.length ≤ ((groups.map groupBytes).flatten).length := by
  induction groups with
  | nil => exact le_refl 0
  | cons group groups ih =>
    have atLeast : 4 ≤ (groupBytes group).length := by
      unfold groupBytes
      rw [length_append, leBytes_length]
      exact Nat.le_add_right _ _
    rw [map_cons, flatten_cons, length_append, length_cons]
    omega

theorem readFileChunks_receives {ownBufSize : Nat} {chunksReceived : Bool}
    (large : kMaxHeader ≤ ownBufSize) (bufSizeSmall : bufSize ≤ int32Max)
    (countSmall : list.length ≤ int64Max) (inRange : ∀ info ∈ list, info.InRange)
    (leaveRoom : AllLeaveRoom bufSize list) (packs : Packs bufSize list 0 batches groups) :
    (readFileChunks ownBufSize version port chunksReceived
      (chunksMessage bufSize list ++ (batches.map bytes).flatten)).outcome =
      .received list [] := by
  have largest : int32Max = 2147483647 ∧ int64Max = 9223372036854775807 := ⟨rfl, rfl⟩
  have longest : kMaxHeader = 4150 := rfl
  have whole : groups.flatten = list := packs.whole
  have inList : ∀ group ∈ groups, ∀ info ∈ group, info ∈ list := by
    intro group member info inGroup
    rw [← whole]
    exact mem_flatten.mpr ⟨group, member, inGroup⟩
  have decodes : ∀ group ∈ groups,
      decodeFileChunksInfoList (group.map fileChunksBytes).flatten = some group := by
    intro group member
    apply decodeFileChunksInfoList_group
    · exact fun info inGroup => inRange info (inList group member info inGroup)
    · intro info inGroup
      have room := leaveRoom info (inList group member info inGroup)
      omega
  have sizes : loadSigned (leBytes 8 bufSize) = bufSize ∧
      loadSigned (leBytes 8 list.length) = list.length :=
    ⟨loadSigned_leBytes (by norm_num; omega), loadSigned_leBytes (by norm_num; omega)⟩
  have parts : (leBytes 8 bufSize ++ leBytes 8 list.length).take 8 = leBytes 8 bufSize ∧
      (leBytes 8 bufSize ++ leBytes 8 list.length).drop 8 = leBytes 8 list.length :=
    ⟨take_left' (leBytes_length _ _), drop_left' (leBytes_length _ _)⟩
  have otherCmds : ([chunksCmd] : List Byte) ≠ [abortCmd] ∧ ([chunksCmd] : List Byte) ≠ [waitCmd] ∧
      ([chunksCmd] : List Byte) ≠ [ackCmd] ∧ ([chunksCmd] : List Byte) ≠ [localCheckpointCmd] := by
    decide
  have stream : chunksMessage bufSize list ++ (batches.map bytes).flatten =
      [chunksCmd] ++ ((leBytes 8 bufSize ++ leBytes 8 list.length) ++
        ((groups.map groupBytes).flatten ++ [])) := by
    rw [packs.bytes, append_nil]
    rfl
  rw [stream]
  change (SenderRun.read ((1 : Nat) : Int) _ _ _ _).outcome = _
  rw [SenderRun.read_full (length_singleton (a := chunksCmd)) (by omega) (by omega),
    if_neg otherCmds.1, if_neg otherCmds.2.1, if_neg otherCmds.2.2.1,
    if_neg otherCmds.2.2.2, if_neg (by simp),
    SenderRun.read_full (by rw [length_append, leBytes_length, leBytes_length]; rfl)
      (by decide) (by change (16 : Int) ≤ ownBufSize; omega)]
  rw [parts.1, parts.2, sizes.1, sizes.2, if_neg (by omega), Int.toNat_natCast, Int.toNat_natCast,
    readBatches_receives (by omega) bufSizeSmall decodes packs.notEmpty packs.group_fits
      (by rw [whole]; exact Nat.zero_add _)
      (by rw [append_nil]; exact flatten_length_ge_groups), whole]
  rfl

/-- A loop that ends has written as many entries as there are, counting one that it wrote twice
as two; each of them leaves room. -/
theorem sendBatches_places (started : start ≤ list.length)
    (sent : sendBatches bufSize list rounds start = some batches) :
    start + (batches.map indices).flatten.length = list.length ∧
      ∀ place ∈ (batches.map indices).flatten,
        ∃ info, list[place]? = some info ∧ maxEncodeLen info + 4 < bufSize := by
  induction rounds generalizing start batches with
  | zero =>
    obtain ⟨noMore, same⟩ := Option.ite_none_left_eq_some.mp sent
    cases same
    exact ⟨(by omega : start + 0 = list.length), nofun⟩
  | succ rounds ih =>
    unfold sendBatches at sent
    split at sent
    · obtain ⟨later, sentLater, rfl⟩ := Option.map_eq_some_iff.mp sent
      obtain ⟨fewer, places⟩ := @encodeFileChunksInfoList_indices bufSize 4 start
        (list.drop start) list rfl (leBytes 4 0) (le_refl _)
      change (encodeBatch bufSize list start).indices.length ≤ _ at fewer
      rw [length_drop] at fewer
      obtain ⟨counted, laterPlaces⟩ := ih (by omega) sentLater
      rw [map_cons, flatten_cons]
      refine ⟨by rw [length_append]; omega, ?_⟩
      exact forall_mem_append.mpr ⟨places, laterPlaces⟩
    · rename_i noMore
      cases sent
      exact ⟨(by omega : start + 0 = list.length), nofun⟩

theorem mem_of_nodup_of_length {places : List Nat} {count : Nat} (distinct : places.Nodup)
    (below : ∀ place ∈ places, place < count) (all : places.length = count) {place : Nat}
    (small : place < count) : place ∈ places := by
  have sub : List.Subperm places (range count) := subperm_of_subset distinct
      (fun place member => mem_range.mpr (below place member))
  have perm := sub.perm_of_length_le (by rw [length_range, all])
  exact perm.mem_iff.mpr (mem_range.mpr small)

/-- The loop ends, sends no entry twice, and the sender ends with as many entries as were
announced, just when every entry leaves room in the buffer. -/
theorem chunk_exchange_iff_all_leave_room {ownBufSize : Nat} (large : kMaxHeader ≤ ownBufSize)
    (bufSizeSmall : bufSize ≤ int32Max) (countSmall : list.length ≤ int64Max)
    (inRange : ∀ info ∈ list, info.InRange) (version port : Nat) (chunksReceived : Bool) :
    (∃ rounds batches, sendBatches bufSize list rounds 0 = some batches ∧
      (batches.map EncodedChunks.indices).flatten.Nodup ∧
      ∃ received rest, (readFileChunks ownBufSize version port chunksReceived
        (chunksMessage bufSize list ++ (batches.map EncodedChunks.bytes).flatten)).outcome =
          .received received rest ∧ received.length = list.length) ↔
      ∀ info ∈ list, maxEncodeLen info + 4 < bufSize := by
  constructor
  · rintro ⟨rounds, batches, sent, distinct, _⟩ info member
    obtain ⟨counted, places⟩ := sendBatches_places (Nat.zero_le _) sent
    obtain ⟨place, small, here⟩ := mem_iff_getElem.mp member
    have below : ∀ place ∈ (batches.map EncodedChunks.indices).flatten, place < list.length := by
      intro other sentPlace
      obtain ⟨_, found, _⟩ := places other sentPlace
      exact (List.getElem?_eq_some_iff.mp found).1
    obtain ⟨found, at_, room⟩ := places place
      (mem_of_nodup_of_length distinct below (by omega) small)
    obtain ⟨_, same⟩ := List.getElem?_eq_some_iff.mp at_
    rw [← here, same]
    exact room
  · intro leaveRoom
    have largest : int32Max = 2147483647 := rfl
    have nameShort : ∀ info ∈ list, info.fileName.length < 2 ^ 31 := by
      intro info member
      have room := leaveRoom info member
      obtain ⟨name, _⟩ := @lengths_of_maxEncodeLen_le info bufSize (by omega)
      omega
    obtain ⟨batches, groups, sent, packs⟩ := @sendBatches_packs bufSize list leaveRoom nameShort
      list.length 0 (Nat.sub_le _ _)
    refine ⟨list.length, batches, sent, ?_, list, [],
      readFileChunks_receives large bufSizeSmall countSmall inRange leaveRoom packs, rfl⟩
    rw [packs.places]
    exact nodup_range'

theorem chunk_exchange_iff_all_leave_room_sample :
    (∃ rounds batches, sendBatches 8192 sampleChunks rounds 0 = some batches ∧
      (batches.map EncodedChunks.indices).flatten.Nodup ∧
      ∃ received rest, (readFileChunks 8192 32 0 false
        (chunksMessage 8192 sampleChunks ++ (batches.map EncodedChunks.bytes).flatten)).outcome =
          .received received rest ∧ received.length = sampleChunks.length) ↔
      ∀ info ∈ sampleChunks, maxEncodeLen info + 4 < 8192 :=
  chunk_exchange_iff_all_leave_room (by decide) (by decide) (by decide)
    sampleChunks_carried.inRange 32 0 false

def scatteredFile (numChunks : Nat) (fileName : List Byte) : FileChunksInfo where
  seqId := 1
  fileName := fileName
  fileSize := 1000
  chunks := (List.range numChunks).map (fun index => ⟨2 * index, 2 * index + 1⟩)

theorem sendBatches_stuck (empty : (encodeBatch bufSize list 0).indices = [])
    (more : 0 < list.length) (rounds : Nat) : sendBatches bufSize list rounds 0 = none := by
  induction rounds with
  | zero =>
    unfold sendBatches
    rw [if_pos more]
  | succ rounds ih =>
    unfold sendBatches
    rw [if_pos more]
    dsimp only
    rw [empty, length_nil, Nat.add_zero, ih]
    rfl

/-- Buffers of 8192 bytes. A last entry whose bound exceeds the buffer, or is just as large, is
never written, and the loop does not end; behind one that exceeds it, entries are written
twice. -/
theorem large_entries_not_exchanged :
    (∀ rounds, sendBatches 8192 [scatteredFile 408 [0x61]] rounds 0 = none) ∧
      maxEncodeLen (scatteredFile 407 (List.replicate 16 0x61)) + 4 = 8192 ∧
      (∀ rounds, sendBatches 8192 [scatteredFile 407 (List.replicate 16 0x61)] rounds 0 = none) ∧
      (sendBatches 8192 (sampleChunks ++ [scatteredFile 408 [0x61]] ++ sampleChunks) 9 0).map
        (fun batches => batches.map EncodedChunks.indices) = some [[0, 1, 3, 4], [4]] := by
  refine ⟨?_, by decide +kernel, ?_, by decide +kernel⟩
  · exact sendBatches_stuck (by decide +kernel) (by decide)
  · exact sendBatches_stuck (by decide +kernel) (by decide)

end Exchange

end Wdt
