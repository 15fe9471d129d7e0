/-
The format of an encrypted stream, byte by byte: a tag, and sometimes a new IV, stands
before a data byte whose position is a positive multiple of the tag interval. The
writing half of the socket produces exactly this format, however its data is divided
into writes.
-/

import Wdt.WdtSocket

namespace Wdt

open List WriteSocket

/-- What the two ends of a connection share, and the IVs that the writer draws. The interval
travels as a 32 bit integer and is 0 for a type without tags. -/
structure Framing where
  cipher : Cipher
  params : EncryptionParams
  tagInterval : Nat
  ivChangeInterval : Nat
  ivs : Nat → AesBlock
  interval_le : tagInterval ≤ int32Max
  tag_of_interval : tagInterval ≠ 0 → encryptionTypeToTagLen params.type = kAESBlockSize

structure FrameState where
  total : Nat := 0
  context : CipherContext
  ivsUsed : Nat := 1

namespace Framing

variable (framing : Framing)

def initial : FrameState := { context := { iv := framing.ivs 0 } }

/-- A tag stands before the data byte at this position. -/
def Due (position : Nat) : Prop :=
  framing.tagInterval ≠ 0 ∧ position ≠ 0 ∧ position % framing.tagInterval = 0

instance (position : Nat) : Decidable (framing.Due position) := inferInstanceAs (Decidable (_ ∧ _))

def tagBytes (state : FrameState) : Wire :=
  labelled .tag (framing.cipher.computeCurrentTag framing.params state.context).val

def ivDue (state : FrameState) : Bool :=
  changesIv framing.ivChangeInterval framing.tagInterval state.context.getNumProcessed

def ivBytes (state : FrameState) : Wire :=
  if framing.ivDue state then labelled .iv (framing.ivs state.ivsUsed).val else []

def crossed (state : FrameState) : FrameState :=
  if framing.ivDue state then
    { state with context := { iv := framing.ivs state.ivsUsed }, ivsUsed := state.ivsUsed + 1 }
  else state

def segment : Transducer FrameState Byte (WirePart × Byte) where
  step state byte :=
    let (encrypted, context) := (framing.cipher.encrypt framing.params).step state.context byte
    (labelled .data encrypted, { state with total := state.total + 1, context })

/-- The data bytes with the tags and IVs between them. -/
def stream : Transducer FrameState Byte (WirePart × Byte) where
  step state byte :=
    if framing.Due state.total then
      let (data, after) := framing.segment.step (framing.crossed state) byte
      (framing.tagBytes state ++ framing.ivBytes state ++ data, after)
    else framing.segment.step state byte

def after (data : List Byte) : FrameState := framing.stream.after framing.initial data

def settingsBytes : Wire := labelled .settings
    (encryptionCmd :: encryptionFields framing.params.type (framing.ivs 0) framing.tagInterval)

def framed (data : List Byte) : Wire :=
  framing.settingsBytes ++ framing.stream.output framing.initial data

def finalTag (state : FrameState) : Wire :=
  if encryptionTypeToTagLen framing.params.type = 0 then [] else framing.tagBytes state

/-! ### Stretches without a tag -/

theorem segment_output (state : FrameState) (data : List Byte) : framing.segment.output state data =
      labelled .data
        ((framing.cipher.encrypt framing.params).output state.context data) := by
  induction data generalizing state with
  | nil => rfl
  | cons byte rest ih =>
    rw [Transducer.output, ih, Transducer.output]
    rfl

theorem segment_after (state : FrameState) (data : List Byte) : framing.segment.after state data =
      { state with
        total := state.total + data.length
        context := (framing.cipher.encrypt framing.params).after state.context data } := by
  induction data generalizing state with
  | nil => rfl
  | cons byte rest ih =>
    rw [Transducer.after, ih, Transducer.after, length_cons, Nat.add_comm rest.length]
    rw [← Nat.add_assoc]
    rfl

theorem crossed_total (state : FrameState) : (framing.crossed state).total = state.total := by
  unfold crossed
  split
  · rfl
  · rfl

theorem segment_step_total (state : FrameState) (byte : Byte) :
    (framing.segment.step state byte).2.total = state.total + 1 :=
  rfl

def Clear (total count : Nat) : Prop :=
  ∀ offset, offset < count → ¬ framing.Due (total + offset)

variable {framing}

variable {total count : Nat}

theorem Clear.tail (clear : framing.Clear total (count + 1)) : framing.Clear (total + 1) count := by
  intro offset within due
  rw [Nat.add_assoc, Nat.add_comm 1] at due
  exact clear (offset + 1) (by omega) due

theorem stream_clear {state : FrameState} {data : List Byte}
    (clear : framing.Clear state.total data.length) :
    framing.stream.output state data = framing.segment.output state data ∧
      framing.stream.after state data = framing.segment.after state data := by
  induction data generalizing state with
  | nil => exact ⟨rfl, rfl⟩
  | cons byte rest ih =>
    have notDue : ¬ framing.Due state.total := clear 0 (Nat.zero_lt_succ _)
    have step : framing.stream.step state byte = framing.segment.step state byte := if_neg notDue
    obtain ⟨outputs, states⟩ := @ih (framing.segment.step state byte).2 clear.tail
    rw [Transducer.output, Transducer.output, Transducer.after, Transducer.after, step, outputs,
      states]
    exact ⟨rfl, rfl⟩

variable {data : List Byte}

theorem stream_due {state : FrameState} (due : framing.Due state.total)
    (some_data : data ≠ []) (clear : framing.Clear (state.total + 1) (data.length - 1)) :
    framing.stream.output state data = framing.tagBytes state ++ framing.ivBytes state ++
          framing.segment.output (framing.crossed state) data ∧
      framing.stream.after state data =
        framing.segment.after (framing.crossed state) data := by
  cases data with
  | nil => exact absurd rfl some_data
  | cons byte rest =>
    have step : framing.stream.step state byte = (framing.tagBytes state ++ framing.ivBytes state ++
            (framing.segment.step (framing.crossed state) byte).1,
          (framing.segment.step (framing.crossed state) byte).2) := if_pos due
    have position : (framing.segment.step (framing.crossed state) byte).2.total =
        state.total + 1 := by
      rw [segment_step_total, crossed_total]
    rw [← position] at clear
    obtain ⟨outputs, states⟩ := stream_clear clear
    rw [Transducer.output, Transducer.output, Transducer.after, Transducer.after, step]
    rw [outputs, states, append_assoc]
    exact ⟨rfl, rfl⟩

theorem mod_add_of_lt {interval offset : Nat} (within : total % interval + offset < interval) :
    (total + offset) % interval = total % interval + offset := by
  rw [Nat.add_mod, Nat.mod_eq_of_lt (show offset < interval by omega), Nat.mod_eq_of_lt within]

theorem computeNextTagOffset_due (due : framing.Due total) :
    computeNextTagOffset total framing.tagInterval = 0 := by
  obtain ⟨_, positive, multiple⟩ := due
  unfold computeNextTagOffset
  rw [if_neg positive, multiple]
  exact if_pos rfl

theorem computeNextTagOffset_not_due (tags : framing.tagInterval ≠ 0)
    (notDue : ¬ framing.Due total) :
    computeNextTagOffset total framing.tagInterval =
      framing.tagInterval - total % framing.tagInterval := by
  unfold computeNextTagOffset
  by_cases start : total = 0
  · rw [if_pos start, start, Nat.zero_mod, Nat.sub_zero]
  have inside : total % framing.tagInterval ≠ 0 := fun multiple =>
    notDue ⟨tags, start, multiple⟩
  rw [if_neg start]
  exact if_neg (by omega)

theorem clear_of_lt (notDue : ¬ framing.Due total)
    (within : total % framing.tagInterval + count ≤ framing.tagInterval) :
    framing.Clear total count := by
  intro offset before due
  rcases Nat.eq_zero_or_pos offset with rfl | positive
  · exact notDue due
  · have position := due.2.2
    rw [mod_add_of_lt (by omega)] at position
    omega

theorem clear_to_offset {total count : Nat} (tags : framing.tagInterval ≠ 0)
    (notDue : ¬ framing.Due total)
    (within : count ≤ computeNextTagOffset total framing.tagInterval) :
    framing.Clear total count := by
  have below : total % framing.tagInterval < framing.tagInterval :=
    Nat.mod_lt _ (Nat.pos_of_ne_zero tags)
  rw [computeNextTagOffset_not_due tags notDue] at within
  exact clear_of_lt notDue (by omega)

theorem clear_behind (due : framing.Due total)
    (within : count < framing.tagInterval) : framing.Clear (total + 1) count := by
  intro offset before dueAgain
  have position := dueAgain.2.2
  have multiple := due.2.2
  rw [Nat.add_assoc, mod_add_of_lt (by omega)] at position
  omega

theorem due_at_offset (tags : framing.tagInterval ≠ 0) (notDue : ¬ framing.Due total) :
    framing.Due (total + computeNextTagOffset total framing.tagInterval) := by
  have below : total % framing.tagInterval < framing.tagInterval :=
    Nat.mod_lt _ (Nat.pos_of_ne_zero tags)
  rw [computeNextTagOffset_not_due tags notDue]
  refine ⟨tags, by omega, ?_⟩
  have rounded : total + (framing.tagInterval - total % framing.tagInterval) =
      framing.tagInterval * (total / framing.tagInterval + 1) := by
    have division := Nat.div_add_mod total framing.tagInterval
    rw [Nat.mul_add, Nat.mul_one]
    omega
  rw [rounded, Nat.mul_mod_right]

/-! ### The writing half -/

structure WriterAt (framing : Framing) (socket : WriteSocket) (state : FrameState) : Prop where
  params : socket.encryptionParams = some framing.params
  interval : socket.writeTagInterval = framing.tagInterval
  ivChange : socket.ivChangeInterval = framing.ivChangeInterval
  ivs : socket.ivs = framing.ivs
  started : socket.encryptionSettingsWritten = true
  context : socket.encryptor = state.context
  used : socket.ivsUsed = state.ivsUsed
  total : framing.tagInterval ≠ 0 → socket.totalWritten = state.total
  unfinished : socket.writesFinalized = false

variable {socket : WriteSocket} {state : FrameState}

section

variable (at_state : WriterAt framing socket state)

include at_state

theorem encryptAndCount_segment (data : List Byte) :
    (socket.encryptAndCount framing.cipher framing.params data).1 =
        framing.segment.output state data ∧
      WriterAt framing (socket.encryptAndCount framing.cipher framing.params data).2
        (framing.segment.after state data) := by
  have context := at_state.context
  constructor
  · rw [segment_output, ← context]
    rfl
  · rw [segment_after]
    exact { at_state with
      context := congrArg
        (fun context => (framing.cipher.encrypt framing.params).after context data) context
      total := fun tags => congrArg (· + data.length) (at_state.total tags) }

theorem checkAndChangeEncryptionIv_crosses :
    socket.checkAndChangeEncryptionIv.1 = framing.ivBytes state ∧
      WriterAt framing socket.checkAndChangeEncryptionIv.2 (framing.crossed state) := by
  have decision : changesIv socket.ivChangeInterval socket.writeTagInterval
      socket.encryptor.getNumProcessed = framing.ivDue state := by
    rw [at_state.ivChange, at_state.interval, at_state.context]
    rfl
  unfold checkAndChangeEncryptionIv ivBytes crossed
  rw [decision]
  cases framing.ivDue state with
  | false => exact ⟨rfl, at_state⟩
  | true =>
    have drawn : socket.ivs socket.ivsUsed = framing.ivs state.ivsUsed := by
      rw [at_state.ivs, at_state.used]
    constructor
    · exact congrArg (fun iv : AesBlock => labelled .iv iv.val) drawn
    · exact { at_state with
        context := congrArg (fun iv : AesBlock => ({ iv := iv } : CipherContext)) drawn
        used := congrArg (· + 1) at_state.used }

theorem encryptAndWriteWithTag_stream
    (tags : framing.tagInterval ≠ 0) (within : data.length ≤ framing.tagInterval) :
    (socket.encryptAndWriteWithTag framing.cipher framing.params data).1 =
        framing.stream.output state data ∧
      WriterAt framing (socket.encryptAndWriteWithTag framing.cipher framing.params data).2
        (framing.stream.after state data) := by
  have offset : computeNextTagOffset socket.totalWritten socket.writeTagInterval =
      computeNextTagOffset state.total framing.tagInterval := by
    rw [at_state.total tags, at_state.interval]
  unfold encryptAndWriteWithTag
  rw [offset]
  dsimp only
  generalize located : computeNextTagOffset state.total framing.tagInterval = nextTagOffset
  split
  · obtain ⟨frontBytes, atTag⟩ := encryptAndCount_segment at_state (data.take nextTagOffset)
    obtain ⟨ivOut, behindTag⟩ := checkAndChangeEncryptionIv_crosses atTag
    obtain ⟨restBytes, atEnd⟩ := encryptAndCount_segment behindTag (data.drop nextTagOffset)
    have tagOut : writeEncryptionTag framing.cipher framing.params
        (socket.encryptAndCount framing.cipher framing.params (data.take nextTagOffset)).2 =
        framing.tagBytes (framing.segment.after state (data.take nextTagOffset)) := by
      unfold writeEncryptionTag tagBytes
      rw [atTag.context]
    rw [frontBytes, tagOut, ivOut, restBytes]
    have split_data : data = data.take nextTagOffset ++ data.drop nextTagOffset :=
      (take_append_drop _ _).symm
    have frontLength : (data.take nextTagOffset).length = nextTagOffset := by
      rw [length_take]
      omega
    have some_rest : data.drop nextTagOffset ≠ [] := by
      intro none_left
      have := congrArg length none_left
      rw [length_drop, length_nil] at this
      omega
    have clear : framing.Clear state.total (data.take nextTagOffset).length := by
      by_cases due : framing.Due state.total
      · rw [frontLength, ← located, computeNextTagOffset_due due]
        exact fun offset before => absurd before (Nat.not_lt_zero _)
      · exact clear_to_offset tags due (by omega)
    obtain ⟨frontStream, frontState⟩ := stream_clear clear
    have tagPosition : (framing.segment.after state (data.take nextTagOffset)).total =
        state.total + nextTagOffset := by
      rw [segment_after, frontLength]
    have due : framing.Due (framing.segment.after state (data.take nextTagOffset)).total := by
      rw [tagPosition]
      by_cases due : framing.Due state.total
      · rw [computeNextTagOffset_due due] at located
        rw [← located]
        exact due
      · rw [← located]
        exact due_at_offset tags due
    obtain ⟨restStream, restState⟩ := stream_due due some_rest
      (clear_behind due (by rw [length_drop]; omega))
    constructor
    · conv => rhs; rw [split_data]
      rw [Transducer.output_append, frontStream, frontState, restStream]
      simp only [append_assoc]
    · conv => arg 3; rw [split_data]
      rw [Transducer.after_append, frontState, restState]
      exact atEnd
  · have notDue : ¬ framing.Due state.total ∨ data = [] := by
      by_cases due : framing.Due state.total
      · right
        rw [computeNextTagOffset_due due] at located
        exact eq_nil_of_length_eq_zero (by omega)
      · exact .inl due
    have clear : framing.Clear state.total data.length := by
      rcases notDue with notDue | rfl
      · exact clear_to_offset tags notDue (by omega)
      · exact fun offset before => absurd before (Nat.not_lt_zero _)
    obtain ⟨sameBytes, sameState⟩ := stream_clear clear
    rw [sameBytes, sameState]
    exact encryptAndCount_segment at_state data

end

theorem writeChunks_stream (tags : framing.tagInterval ≠ 0) {rounds : Nat}
    (enough : data.length ≤ rounds) (at_state : WriterAt framing socket state) :
    (socket.writeChunks framing.cipher framing.params rounds data).1 =
        framing.stream.output state data ∧
      WriterAt framing (socket.writeChunks framing.cipher framing.params rounds data).2
        (framing.stream.after state data) := by
  induction rounds generalizing socket state data with
  | zero =>
    rw [eq_nil_of_length_eq_zero (Nat.le_zero.mp enough)]
    exact ⟨rfl, at_state⟩
  | succ rounds ih =>
    unfold writeChunks
    by_cases none_left : data = []
    · rw [if_pos none_left, none_left]
      exact ⟨rfl, at_state⟩
    rw [if_neg none_left, at_state.interval]
    obtain ⟨chunkBytes, afterChunk⟩ := encryptAndWriteWithTag_stream at_state tags
      (length_take_le framing.tagInterval data)
    have shorter : (data.drop framing.tagInterval).length ≤ rounds := by
      rw [length_drop]
      omega
    obtain ⟨restBytes, afterRest⟩ := ih shorter afterChunk
    dsimp only
    rw [afterChunk.interval, chunkBytes, restBytes]
    have whole : data = data.take framing.tagInterval ++ data.drop framing.tagInterval :=
      (take_append_drop _ _).symm
    constructor
    · conv => rhs; rw [whole]
      rw [Transducer.output_append]
    · conv => arg 3; rw [whole]
      rw [Transducer.after_append]
      exact afterRest

theorem clear_untagged (untagged : framing.tagInterval = 0) (total count : Nat) :
    framing.Clear total count :=
  fun _ _ due => due.1 untagged

theorem write_stream (at_state : WriterAt framing socket state) (data : List Byte) :
    (socket.write framing.cipher data).1 = framing.stream.output state data ∧
      WriterAt framing (socket.write framing.cipher data).2
        (framing.stream.after state data) := by
  have settled : writeEncryptionSettingsOnce framing.params socket = ([], socket) :=
    if_pos at_state.started
  unfold write
  rw [at_state.params]
  dsimp only
  rw [settled]
  rw [at_state.interval]
  by_cases untagged : framing.tagInterval = 0
  · rw [if_pos untagged]
    obtain ⟨sameBytes, sameState⟩ := @stream_clear framing state data (clear_untagged untagged _ _)
    obtain ⟨segmentBytes, afterSegment⟩ := encryptAndCount_segment at_state data
    rw [sameBytes, sameState]
    exact ⟨segmentBytes, { afterSegment with total := fun tags => absurd untagged tags }⟩
  · rw [if_neg untagged, nil_append]
    exact writeChunks_stream untagged (le_refl _) at_state

structure FreshWriter (framing : Framing) (socket : WriteSocket) : Prop where
  params : socket.encryptionParams = some framing.params
  interval : socket.writeTagInterval = framing.tagInterval
  ivChange : socket.ivChangeInterval = framing.ivChangeInterval
  ivs : socket.ivs = framing.ivs
  notStarted : socket.encryptionSettingsWritten = false
  used : socket.ivsUsed = 0
  total : socket.totalWritten = 0
  unfinished : socket.writesFinalized = false

theorem writeEncryptionSettingsOnce_starts (fresh : FreshWriter framing socket) :
    (writeEncryptionSettingsOnce framing.params socket).1 = framing.settingsBytes ∧
      WriterAt framing (writeEncryptionSettingsOnce framing.params socket).2
        framing.initial := by
  have drawn : socket.ivs socket.ivsUsed = framing.ivs 0 := by
    rw [fresh.ivs, fresh.used]
  have encoded := @encodeEncryptionSettings_eq (1 + kEncryptionCmdLen) framing.params.type
    (framing.ivs 0) framing.tagInterval [encryptionCmd] (by decide)
  unfold writeEncryptionSettingsOnce startEncryptor
  rw [if_neg (by rw [fresh.notStarted]; decide)]
  dsimp only
  rw [drawn, fresh.interval, encoded]
  constructor
  · rfl
  · exact { fresh with
      interval := rfl
      started := rfl
      context := rfl
      used := congrArg (· + 1) fresh.used
      total := fun _ => fresh.total }

theorem write_first (fresh : FreshWriter framing socket) (data : List Byte) :
    (socket.write framing.cipher data).1 = framing.framed data ∧
      WriterAt framing (socket.write framing.cipher data).2 (framing.after data) := by
  obtain ⟨settings, started⟩ := writeEncryptionSettingsOnce_starts fresh
  obtain ⟨bytes, afterData⟩ := write_stream started data
  generalize once : writeEncryptionSettingsOnce framing.params socket = result
    at settings started bytes afterData
  obtain ⟨front, ready⟩ := result
  dsimp only at settings started bytes afterData
  have settled : writeEncryptionSettingsOnce framing.params ready = ([], ready) :=
    if_pos started.started
  have split_write : socket.write framing.cipher data =
      (front ++ (ready.write framing.cipher data).1, (ready.write framing.cipher data).2) := by
    unfold write
    rw [fresh.params, started.params]
    dsimp only
    rw [once, settled]
    split
    · rfl
    · rfl
  rw [split_write, bytes, settings]
  exact ⟨rfl, afterData⟩

theorem finalizeWrites_tag (at_state : WriterAt framing socket state) :
    (socket.finalizeWrites framing.cipher).1 = framing.finalTag state := by
  unfold finalizeWrites finalTag tagBytes
  rw [at_state.params]
  dsimp only
  rw [at_state.started, at_state.context]
  by_cases tagless : encryptionTypeToTagLen framing.params.type = 0
  · rw [if_neg (fun both => both.2 tagless), if_pos tagless]
  · rw [if_pos ⟨rfl, tagless⟩, if_neg tagless]

theorem finalizeWrites_fresh (fresh : FreshWriter framing socket) :
    (socket.finalizeWrites framing.cipher).1 = [] := by
  unfold finalizeWrites
  rw [fresh.params]
  dsimp only
  rw [if_neg (fun both => by rw [fresh.notStarted] at both; exact Bool.false_ne_true both.1)]

end Framing

end Wdt
