/-
The reading half on a link whose other end writes the encrypted format. From a position
between two data bytes a read takes data as data, a tag as a tag and an IV as an IV; each
lemma says what a function of the socket does from such a position, whatever arrives.
-/

import Wdt.SocketLink

namespace Wdt

open Link List ReadSocket Framing

variable {framing : Framing}

theorem readInternal_raw {socket : ReadSocket Link} (sound : socket.world.Sound framing)
    (part : WirePart) {nbyte : Nat} (positive : nbyte ≠ 0) :
    ∃ got link code, RawStep framing socket.world link part nbyte got ∧
      (readInternal (network framing.cipher) part nbyte socket).2 =
        { socket with world := link, readErrorCode := code } ∧
      (readInternal (network framing.cipher) part nbyte socket).1.bytes = got ∧
      (got ≠ [] → code = .ok) ∧ (got = [] → code = .wdtTimeout ∨ code = .socketReadError) := by
  obtain ⟨got, raw, answered⟩ := sound.receive part nbyte
  generalize received : socket.world.receive framing.cipher part nbyte = result at raw answered
  obtain ⟨answer, link⟩ := result
  dsimp only at raw answered
  have called : (network framing.cipher).receive socket.world part nbyte = (answer, link) :=
    received
  unfold readInternal
  rw [if_neg positive, called]
  by_cases silent : got = []
  · rw [if_pos silent] at answered
    rw [silent] at raw
    rcases answered with rfl | rfl | rfl
    · dsimp only
      rw [take_nil, if_pos rfl]
      exact ⟨[], link, .socketReadError, raw, rfl, rfl, fun impossible => absurd rfl impossible,
        fun _ => .inr rfl⟩
    · exact ⟨[], link, .wdtTimeout, raw, rfl, rfl, fun impossible => absurd rfl impossible,
        fun _ => .inl rfl⟩
    · exact ⟨[], link, .socketReadError, raw, rfl, rfl, fun impossible => absurd rfl impossible,
        fun _ => .inr rfl⟩
  · rw [if_neg silent] at answered
    rw [answered]
    dsimp only
    rw [take_of_length_le raw.within, if_neg silent]
    exact ⟨got, link, .ok, raw, rfl, rfl, fun _ => rfl, fun impossible => absurd impossible silent⟩

/-! ### Positions of the reading half -/

/-- The reading half has taken the stream of the delivered bytes and then the `gap`, and its
decryptor stands at `state`. -/
structure ReaderAt (framing : Framing) (socket : ReadSocket Link) (delivered : List Byte)
    (state : FrameState) (gap : Wire) : Prop where
  params : socket.encryptionParams = some framing.params
  ivChange : socket.ivChangeInterval = framing.ivChangeInterval
  interval : socket.readTagInterval = framing.tagInterval
  started : socket.encryptionSettingsRead = true
  context : socket.decryptor = state.context
  taken : socket.world.taken = framing.framed delivered ++ gap
  sound : socket.world.Sound framing
  front : delivered <+: socket.world.plaintext
  written : socket.world.plaintext ≠ []

/-- From the end of the gap the next `count` data bytes follow without a tag. -/
def DataAhead (framing : Framing) (delivered : List Byte) (state : FrameState) (gap : Wire)
    (count : Nat) : Prop :=
  ∀ data : List Byte, data ≠ [] → data.length ≤ count →
    framing.stream.output (framing.after delivered) data =
        gap ++ framing.segment.output state data ∧
      framing.stream.after (framing.after delivered) data = framing.segment.after state data

/-- By the end of the read call, data up to this position is written or the tag at the end is
not. -/
def AsksWithin (link : Link) (position : Nat) : Prop :=
  link.outlook.2 = true → position ≤ link.outlook.1.length

theorem AsksWithin.written {link after : Link} {position : Nat} (within : AsksWithin link position)
    (outlook : after.outlook = link.outlook) (finalized : after.writer.writesFinalized = true) :
    position ≤ after.plaintext.length := by
  have final := outlook_of_finalized finalized
  rw [outlook] at final
  have bound := within (by rw [final])
  rw [final] at bound
  exact bound

variable {after : Link}

theorem AsksWithin.mono {link : Link} {position smaller : Nat}
    (within : AsksWithin link position) (outlook : after.outlook = link.outlook)
    (le : smaller ≤ position) : AsksWithin after smaller := by
  intro finalized
  rw [outlook] at finalized ⊢
  exact le.trans (within finalized)

theorem labelled_bytes (part : WirePart) (bytes : List Byte) :
    (labelled part bytes).map Prod.snd = bytes := by
  unfold labelled
  rw [map_map]
  exact map_id _

theorem after_total (framing : Framing) (data : List Byte) :
    (framing.after data).total = data.length := by
  have count : ∀ (state : FrameState) (data : List Byte),
      (framing.stream.after state data).total = state.total + data.length := by
    intro state data
    induction data generalizing state with
    | nil => rfl
    | cons byte rest ih =>
      have step : (framing.stream.step state byte).2.total = state.total + 1 := by
        change (if _ then _ else _ : Wire × FrameState).2.total = _
        split
        · exact congrArg (· + 1) (framing.crossed_total state)
        · rfl
      rw [Transducer.after, ih, step, length_cons]
      omega
  exact (count _ _).trans (Nat.zero_add _)

variable {count : Nat}

theorem drop_framed {delivered rest : List Byte} {state : FrameState} {gap : Wire}
    (aheadData : DataAhead framing delivered state gap count) (positive : count ≠ 0)
    (some_rest : rest ≠ []) (tail : Wire) :
    ((framing.framed (delivered ++ rest) ++ tail).drop
        (framing.framed delivered ++ gap).length).map Prod.snd =
      (framing.cipher.encrypt framing.params).output state.context (rest.take count) ++
        (framing.stream.output (framing.after (delivered ++ rest.take count)) (rest.drop count) ++
          tail).map Prod.snd := by
  have some_front : rest.take count ≠ [] := by
    intro nothing
    rcases take_eq_nil_iff.mp nothing with zero | nil
    · exact positive zero
    · exact some_rest nil
  obtain ⟨bytes, _⟩ := aheadData (rest.take count) some_front (length_take_le _ _)
  have whole : framing.framed (delivered ++ rest) =
      framing.framed delivered ++ gap ++ framing.segment.output state (rest.take count) ++
        framing.stream.output (framing.after (delivered ++ rest.take count))
          (rest.drop count) := by
    conv => lhs; rw [← take_append_drop count rest, ← append_assoc]
    rw [framed_append, framed_append, bytes]
    simp only [append_assoc]
  rw [whole, append_assoc, append_assoc _ (framing.segment.output _ _),
    drop_left, map_append, segment_output, labelled_bytes]

variable {before : Link}

theorem open_of_short {delivered rest : List Byte}
    (within : AsksWithin before (delivered.length + count))
    (outlook : after.outlook = before.outlook) (written : delivered ++ rest = after.plaintext)
    (short : rest.length < count) : after.writer.writesFinalized = false := by
  cases finalized : after.writer.writesFinalized with
  | false => rfl
  | true =>
    have reach := within.written outlook finalized
    rw [← written, length_append] at reach
    omega

variable {got : List Byte} {part : WirePart}

theorem rest_written {delivered : List Byte} {gap : Wire} {nbyte : Nat} (positive : count ≠ 0)
    (within : AsksWithin before (delivered.length + count))
    (raw : RawStep framing before after part nbyte got)
    (position : before.taken = framing.framed delivered ++ gap)
    (front : delivered <+: before.plaintext) (some_bytes : got ≠ []) :
    ∃ rest, rest ≠ [] ∧ delivered ++ rest = after.plaintext := by
  obtain ⟨rest, written⟩ := front.trans raw.grows
  refine ⟨rest, ?_, written⟩
  intro none_left
  have opened := open_of_short within raw.outlook written (by
    rw [none_left]
    exact Nat.pos_of_ne_zero positive)
  have next := raw.next
  have nothing : after.put.drop before.taken.length = [] := by
    rw [raw.sound.put, opened, ← written, none_left, append_nil, position]
    by_cases empty : delivered = []
    · rw [wire, if_pos empty, drop_nil]
    · rw [wire_open empty]
      exact drop_eq_nil_of_le (by rw [length_append]; omega)
  rw [nothing] at next
  exact some_bytes (prefix_nil.mp next)

theorem taken_is_data {delivered : List Byte} {state : FrameState} {gap : Wire} {nbyte : Nat}
    (aheadData : DataAhead framing delivered state gap nbyte) (positive : nbyte ≠ 0)
    (within : AsksWithin before (delivered.length + nbyte))
    (raw : RawStep framing before after .data nbyte got)
    (position : before.taken = framing.framed delivered ++ gap)
    (front : delivered <+: before.plaintext) (some_bytes : got ≠ []) :
    ∃ data, data ≠ [] ∧ data.length ≤ nbyte ∧ delivered ++ data <+: after.plaintext ∧
      got = (framing.cipher.encrypt framing.params).output state.context data := by
  obtain ⟨rest, some_rest, written⟩ := rest_written positive within raw position front some_bytes
  have next := raw.next
  have undoes := framing.cipher.decrypt_undoes framing.params
  rw [position, raw.sound.put, ← written] at next
  have some_data : delivered ++ rest ≠ [] := append_ne_nil_of_right_ne_nil _ some_rest
  unfold wire at next
  rw [if_neg some_data, drop_framed aheadData positive some_rest] at next
  have frontLength := undoes.output_length state.context (rest.take nbyte)
  have inFront : got <+:
      (framing.cipher.encrypt framing.params).output state.context (rest.take nbyte) := by
    by_cases enough : nbyte ≤ rest.length
    · rw [length_take, Nat.min_eq_left enough] at frontLength
      exact prefix_of_prefix_length_le next (prefix_append _ _)
        (by rw [frontLength]; exact raw.within)
    have opened := open_of_short within raw.outlook written (by omega)
    rw [opened, drop_eq_nil_of_le (by omega)] at next
    rw [Transducer.output] at next
    have trimmed : (([] : Wire) ++ if false = true then
        framing.finalTag (framing.after (delivered ++ rest)) else []).map Prod.snd =
        ([] : List Byte) := rfl
    rw [trimmed, append_nil] at next
    exact next
  have lengths := inFront.length_le
  rw [frontLength, length_take] at lengths
  have same : got = (framing.cipher.encrypt framing.params).output state.context
      (rest.take got.length) := by
    have byTake := prefix_iff_eq_take.mp inFront
    rw [undoes.take_output, take_take, Nat.min_eq_left (by omega)] at byTake
    exact byTake
  refine ⟨rest.take got.length, ?_, ?_, ?_, same⟩
  · intro nothing
    rw [nothing] at same
    exact some_bytes same
  · rw [length_take]
    omega
  · rw [← written]
    exact (prefix_append_right_inj delivered).mpr <| take_prefix _ _

/-! ### Reading data -/

/-- What a read of data from a position between two data bytes does: the next data bytes, or
none. -/
structure DataRead (framing : Framing) (before : ReadSocket Link) (delivered : List Byte)
    (state : FrameState) (gap : Wire) (nbyte : Nat) (data : List Byte)
    (after : ReadSocket Link) : Prop where
  outlook : after.world.outlook = before.world.outlook
  noted : after.world.rawReads =
    before.world.rawReads ++ [{ part := .data, asked := nbyte, got := data.length }]
  within : data.length ≤ nbyte
  silent : data = [] → ReaderAt framing after delivered state gap ∧
    (after.readErrorCode = .wdtTimeout ∨ after.readErrorCode = .socketReadError)
  served : data ≠ [] →
    ReaderAt framing after (delivered ++ data) (framing.after (delivered ++ data)) [] ∧
      after.readErrorCode = .ok

variable {socket : ReadSocket Link} {delivered : List Byte} {state : FrameState} {gap : Wire}

theorem after_append (framing : Framing) (left right : List Byte) :
    framing.after (left ++ right) = framing.stream.after (framing.after left) right :=
  Transducer.after_append _ _ _ _

theorem ReaderAt.counted (reader : ReaderAt framing socket delivered state gap) (total : Nat) :
    ReaderAt framing { socket with totalRead := total } delivered state gap :=
  { reader with }

section

variable (reader : ReaderAt framing socket delivered state gap) {nbyte : Nat}
  (positive : nbyte ≠ 0) (aheadData : DataAhead framing delivered state gap nbyte)
  (within : AsksWithin socket.world (delivered.length + nbyte))

include reader positive aheadData within

theorem readAndDecrypt_data :
    ∃ data, (readAndDecrypt (network framing.cipher) framing.cipher framing.params nbyte
        socket).1.bytes = data ∧
      DataRead framing socket delivered state gap nbyte data
        (readAndDecrypt (network framing.cipher) framing.cipher framing.params nbyte
          socket).2 ∧
      (readAndDecrypt (network framing.cipher) framing.cipher framing.params nbyte
        socket).2.totalRead = socket.totalRead := by
  obtain ⟨got, link, code, raw, moved, returned, okCode, failCode⟩ :=
    readInternal_raw reader.sound .data positive
  generalize called : readInternal (network framing.cipher) .data nbyte socket = result
    at moved returned
  obtain ⟨ret, after⟩ := result
  subst moved
  unfold readAndDecrypt
  rw [called]
  dsimp only
  rw [returned]
  by_cases silent : got = []
  · rw [if_pos silent]
    refine ⟨[], returned.trans silent, ?_, rfl⟩
    have taken := raw.taken
    have noted := raw.noted
    rw [silent] at taken noted
    exact {
      outlook := raw.outlook
      noted := noted
      within := Nat.zero_le _
      silent := fun _ => ⟨{ reader with
          taken := taken.trans ((append_nil _).trans reader.taken)
          sound := raw.sound
          front := reader.front.trans raw.grows
          written := raw.grows.ne_nil reader.written }, failCode silent⟩
      served := fun impossible => absurd rfl impossible }
  · rw [if_neg silent]
    obtain ⟨data, some_data, short, written, encrypted⟩ :=
      taken_is_data aheadData positive within raw reader.taken reader.front silent
    obtain ⟨streamBytes, streamState⟩ := aheadData data some_data short
    have undoes := framing.cipher.decrypt_undoes framing.params
    have sameLength : got.length = data.length := by
      rw [encrypted, undoes.output_length]
    have decrypted :
        (framing.cipher.decrypt framing.params).output socket.decryptor got = data := by
      rw [reader.context, encrypted, undoes.output_output]
    have moved : (framing.cipher.decrypt framing.params).after socket.decryptor got =
        (framing.after (delivered ++ data)).context := by
      rw [reader.context, encrypted, undoes.after_output, after_append, streamState,
        segment_after]
    have taken : link.taken = framing.framed (delivered ++ data) ++ [] := by
      rw [raw.taken, reader.taken, framed_append, streamBytes, segment_output, encrypted,
        append_nil, append_assoc]
    refine ⟨data, decrypted, ?_, rfl⟩
    have noted := raw.noted
    rw [sameLength] at noted
    exact {
      outlook := raw.outlook
      noted := noted
      within := short
      silent := fun impossible => absurd impossible some_data
      served := fun _ => ⟨{ reader with
        context := moved
        taken := taken
        sound := raw.sound
        front := written
        written := raw.grows.ne_nil reader.written }, okCode silent⟩ }

theorem readAndCount_data :
    ∃ data, (readAndCount (network framing.cipher) framing.cipher framing.params nbyte
        socket).1.bytes = data ∧
      DataRead framing socket delivered state gap nbyte data
        (readAndCount (network framing.cipher) framing.cipher framing.params nbyte
          socket).2 ∧
      (readAndCount (network framing.cipher) framing.cipher framing.params nbyte
        socket).2.totalRead = socket.totalRead + data.length := by
  obtain ⟨data, returned, result, total⟩ := readAndDecrypt_data reader positive aheadData within
  unfold readAndCount
  dsimp only
  rw [returned, total]
  refine ⟨data, rfl, ?_, rfl⟩
  exact { result with
    silent := fun none_read =>
      ⟨(result.silent none_read).1.counted _, (result.silent none_read).2⟩
    served := fun some_read =>
      ⟨(result.served some_read).1.counted _, (result.served some_read).2⟩ }

end

/-! ### Reading a tag and an IV -/

/-- The read got something, and all of it unless it was for data. -/
def RawRead.Served (raw : RawRead) : Prop := 0 < raw.got ∧ (raw.part ≠ .data → raw.got = raw.asked)

instance (raw : RawRead) : Decidable raw.Served := inferInstanceAs (Decidable (_ ∧ _))

def RawRead.ClosesGap (raw : RawRead) : Prop :=
  (raw.part = .tag ∨ raw.part = .iv) ∧ raw.got = raw.asked

instance (raw : RawRead) : Decidable raw.ClosesGap := inferInstanceAs (Decidable (_ ∧ _))

structure Stopped (framing : Framing) (socket : ReadSocket Link) (delivered : List Byte) :
    Prop where
  sound : socket.world.Sound framing
  front : delivered <+: socket.world.plaintext

theorem ReaderAt.gap_written {gap : Wire} {link : Link}
    (reader : ReaderAt framing socket delivered state gap) (due : framing.Due delivered.length)
    (within : AsksWithin socket.world (delivered.length + 1))
    (raw : RawStep framing socket.world link part kAESBlockSize got)
    (whole : got.length = kAESBlockSize) :
    framing.framed delivered ++ (framing.tagBytes (framing.after delivered) ++
        framing.ivBytes (framing.after delivered)) <+: link.put := by
  have some_bytes : got ≠ [] := by
    intro nothing
    rw [nothing] at whole
    exact absurd whole (by decide)
  obtain ⟨rest, some_rest, written⟩ :=
    rest_written (by decide) within raw reader.taken reader.front some_bytes
  have sound := raw.sound
  cases rest with
  | nil => exact absurd rfl some_rest
  | cons byte rest =>
    have dueHere : framing.Due (framing.after delivered).total := by
      rw [after_total]
      exact due
    have some_data : delivered ++ byte :: rest ≠ [] :=
      append_ne_nil_of_right_ne_nil _ some_rest
    have step : (framing.stream.step (framing.after delivered) byte).1 =
        framing.tagBytes (framing.after delivered) ++ framing.ivBytes (framing.after delivered) ++
          (framing.segment.step (framing.crossed (framing.after delivered)) byte).1 := by
      change (if _ then _ else _ : Wire × FrameState).1 = _
      rw [if_pos dueHere]
    rw [sound.put, ← written]
    unfold wire
    rw [if_neg some_data, framed_append, Transducer.output, step, append_assoc,
      append_assoc, append_assoc]
    exact (prefix_append_right_inj _).mpr (prefix_append _ _)

theorem taken_is_block {nbyte : Nat}
    {block : List Byte} (raw : RawStep framing before after part nbyte got)
    (size : block.length = nbyte) (stands : before.taken ++ labelled part block <+: after.put)
    (whole : got.length = nbyte) : got = block := by
  obtain ⟨rest, put⟩ := stands
  have next := raw.next
  rw [← put, append_assoc, drop_left, map_append, labelled_bytes] at next
  have shorter : got <+: block :=
    prefix_of_prefix_length_le next (prefix_append _ _) (by omega)
  exact shorter.eq_of_length (by omega)

theorem readEncryptionTag_due (tagSize : encryptionTypeToTagLen framing.params.type = kAESBlockSize)
    (reader : ReaderAt framing socket delivered (framing.after delivered) [])
    (due : framing.Due delivered.length)
    (within : AsksWithin socket.world (delivered.length + 1)) {tag : Option (List Byte)}
    {after : ReadSocket Link}
    (called : readEncryptionTag (network framing.cipher) framing.params socket =
      (tag, after)) :
    ∃ raw : RawRead, after.world.rawReads = socket.world.rawReads ++ [raw] ∧
      after.world.outlook = socket.world.outlook ∧ after.totalRead = socket.totalRead ∧
      if tag = none then
        Stopped framing after delivered ∧ after.readErrorCode = .encryptionError ∧ ¬ raw.Served
      else
        tag = some (framing.cipher.computeCurrentTag framing.params
            (framing.after delivered).context).val ∧
          ReaderAt framing after delivered (framing.after delivered)
            (framing.tagBytes (framing.after delivered)) ∧
          raw.ClosesGap := by
  obtain ⟨got, link, code, raw, moved, returned, _, _⟩ :=
    @readInternal_raw framing socket reader.sound .tag kAESBlockSize (by decide)
  unfold readEncryptionTag at called
  rw [tagSize] at called
  dsimp only at called
  rw [moved, returned] at called
  refine ⟨{ part := .tag, asked := kAESBlockSize, got := got.length }, ?_⟩
  by_cases whole : got.length = kAESBlockSize
  · rw [if_neg (fun differs => differs whole)] at called
    cases called
    have stands := reader.gap_written due within raw whole
    rw [← append_assoc] at stands
    have tagStands : socket.world.taken ++
        labelled .tag (framing.cipher.computeCurrentTag framing.params
          (framing.after delivered).context).val <+: link.put := by
      rw [reader.taken, append_nil]
      exact (prefix_append _ _).trans stands
    have isTag := taken_is_block raw
      (framing.cipher.computeCurrentTag framing.params (framing.after delivered).context).property
      tagStands whole
    refine ⟨raw.noted, raw.outlook, rfl, ?_⟩
    refine ⟨congrArg some isTag, ?_, .inl rfl, whole⟩
    exact { reader with
      taken := by
        rw [raw.taken, reader.taken, append_nil, isTag]
        rfl
      sound := raw.sound
      front := reader.front.trans raw.grows
      written := raw.grows.ne_nil reader.written }
  · rw [if_pos whole] at called
    cases called
    refine ⟨raw.noted, raw.outlook, rfl, ?_⟩
    refine ⟨⟨raw.sound, reader.front.trans raw.grows⟩, rfl, ?_⟩
    intro served
    exact whole (served.2 nofun)

theorem ivBytes_pos (isDue : framing.ivDue state = true) :
    framing.ivBytes state = labelled .iv (framing.ivs state.ivsUsed).val :=
  if_pos isDue

theorem crossed_context (isDue : framing.ivDue state = true) :
    (framing.crossed state).context = { iv := framing.ivs state.ivsUsed } := by
  unfold crossed
  rw [if_pos isDue]

theorem checkAndChangeDecryptionIv_due
    (reader : ReaderAt framing socket delivered (framing.after delivered)
      (framing.tagBytes (framing.after delivered)))
    (due : framing.Due delivered.length)
    (within : AsksWithin socket.world (delivered.length + 1)) {changed : Bool}
    {after : ReadSocket Link}
    (called : checkAndChangeDecryptionIv (network framing.cipher) framing.cipher
      framing.params (framing.cipher.computeCurrentTag framing.params
        (framing.after delivered).context).val socket = (changed, after)) :
    ∃ reads, after.world.rawReads = socket.world.rawReads ++ reads ∧
      after.world.outlook = socket.world.outlook ∧ after.totalRead = socket.totalRead ∧
      if changed then
        ReaderAt framing after delivered (framing.crossed (framing.after delivered))
            (framing.tagBytes (framing.after delivered) ++
              framing.ivBytes (framing.after delivered)) ∧
          (reads = [] ∨ ∃ raw, reads = [raw] ∧ raw.ClosesGap)
      else Stopped framing after delivered ∧ ∃ raw ∈ reads, ¬ raw.Served := by
  have decision : changesIv socket.ivChangeInterval socket.readTagInterval
      socket.decryptor.getNumProcessed = framing.ivDue (framing.after delivered) := by
    rw [reader.ivChange, reader.interval, reader.context]
    rfl
  unfold checkAndChangeDecryptionIv at called
  rw [decision] at called
  cases isDue : framing.ivDue (framing.after delivered) with
  | false =>
    rw [isDue] at called
    cases called
    refine ⟨[], (append_nil _).symm, rfl, rfl, ?_⟩
    have noIv : framing.ivBytes (framing.after delivered) = [] := by
      unfold ivBytes
      rw [isDue]
      rfl
    have same : framing.crossed (framing.after delivered) = framing.after delivered := by
      unfold crossed
      rw [isDue]
      rfl
    rw [if_pos rfl, noIv, same, append_nil]
    exact ⟨reader, .inl rfl⟩
  | true =>
    obtain ⟨got, link, code, raw, moved, returned, _, _⟩ :=
      @readInternal_raw framing socket reader.sound .iv kAESBlockSize (by decide)
    rw [isDue, if_pos rfl] at called
    dsimp only at called
    generalize internal :
      readInternal (network framing.cipher) .iv kAESBlockSize socket = result
      at moved returned called
    obtain ⟨ret, moved_socket⟩ := result
    subst moved
    refine ⟨[{ part := .iv, asked := kAESBlockSize, got := got.length }], ?_⟩
    by_cases whole : ret.bytes.length = kAESBlockSize
    · rw [dif_pos whole] at called
      have verified : framing.cipher.finish framing.params socket.decryptor
          (framing.cipher.computeCurrentTag framing.params
            (framing.after delivered).context).val = true := by
        rw [reader.context]
        exact decide_eq_true (.inr rfl)
      rw [if_pos verified] at called
      cases called
      rw [returned] at whole
      have stands := reader.gap_written due within raw whole
      rw [← append_assoc, ← reader.taken, ivBytes_pos isDue] at stands
      have isIv := taken_is_block raw (framing.ivs _).property stands whole
      refine ⟨raw.noted, raw.outlook, rfl, ?_⟩
      refine ⟨?_, .inr ⟨_, rfl, .inr rfl, whole⟩⟩
      exact { reader with
        context := by
          rw [crossed_context isDue]
          exact congrArg (fun iv => ({ iv := iv } : CipherContext))
            (Subtype.ext (returned.trans isIv))
        taken := by
          rw [raw.taken, reader.taken, isIv, ivBytes_pos isDue, append_assoc]
        sound := raw.sound
        front := reader.front.trans raw.grows
        written := raw.grows.ne_nil reader.written }
    · rw [dif_neg whole] at called
      cases called
      refine ⟨raw.noted, raw.outlook, rfl, ?_⟩
      refine ⟨⟨raw.sound, reader.front.trans raw.grows⟩, _, mem_singleton_self _, ?_⟩
      intro served
      rw [returned] at whole
      exact whole (served.2 nofun)

theorem readTagAndIv_due (tags : framing.tagInterval ≠ 0)
    (reader : ReaderAt framing socket delivered (framing.after delivered) [])
    (due : framing.Due delivered.length)
    (within : AsksWithin socket.world (delivered.length + 1)) {passed : Bool}
    {after : ReadSocket Link}
    (called : readTagAndIv (network framing.cipher) framing.cipher framing.params
      socket = (passed, after)) :
    ∃ reads, after.world.rawReads = socket.world.rawReads ++ reads ∧
      after.world.outlook = socket.world.outlook ∧ after.totalRead = socket.totalRead ∧
      if passed then
        ReaderAt framing after delivered (framing.crossed (framing.after delivered))
            (framing.tagBytes (framing.after delivered) ++
              framing.ivBytes (framing.after delivered)) ∧
          ∃ earlier raw, reads = earlier ++ [raw] ∧ raw.ClosesGap
      else
        Stopped framing after delivered ∧ after.readErrorCode = .encryptionError ∧
          ∃ raw ∈ reads, ¬ raw.Served := by
  unfold readTagAndIv at called
  generalize tagRead : readEncryptionTag (network framing.cipher) framing.params
    socket = result at called
  obtain ⟨tag, atTag⟩ := result
  obtain ⟨tagRaw, noted, outlook, total, outcome⟩ :=
    readEncryptionTag_due (framing.tag_of_interval tags) reader due within tagRead
  cases tag with
  | none =>
    cases called
    obtain ⟨stopped, code, unserved⟩ := outcome
    refine ⟨[tagRaw], noted, outlook, total, ?_⟩
    exact ⟨stopped, code, tagRaw, mem_singleton_self _, unserved⟩
  | some tag =>
    obtain ⟨isTag, behindTag, closes⟩ := outcome
    have isTag := Option.some.inj isTag
    dsimp only at called
    have verified : framing.cipher.verifyTag framing.params atTag.decryptor tag = true := by
      rw [behindTag.context, isTag]
      exact decide_eq_true (.inr rfl)
    rw [if_pos verified] at called
    generalize ivRead : checkAndChangeDecryptionIv (network framing.cipher)
      framing.cipher framing.params tag atTag = result at called
    obtain ⟨changed, atData⟩ := result
    rw [isTag] at ivRead
    obtain ⟨reads, notedIv, outlookIv, totalIv, outcome⟩ :=
      checkAndChangeDecryptionIv_due behindTag due (within.mono outlook (le_refl _)) ivRead
    have notedBoth : atData.world.rawReads =
        socket.world.rawReads ++ (tagRaw :: reads) := by
      rw [notedIv, noted, append_assoc]
      rfl
    cases changed with
    | true =>
      cases called
      refine ⟨tagRaw :: reads, notedBoth, outlookIv.trans outlook, totalIv.trans total, ?_⟩
      refine ⟨outcome.1, ?_⟩
      rcases outcome.2 with rfl | ⟨raw, rfl, closesIv⟩
      · exact ⟨[], tagRaw, rfl, closes⟩
      · exact ⟨[tagRaw], raw, rfl, closesIv⟩
    | false =>
      cases called
      obtain ⟨stopped, raw, among, unserved⟩ := outcome
      refine ⟨tagRaw :: reads, notedBoth, outlookIv.trans outlook, totalIv.trans total, ?_⟩
      exact ⟨⟨stopped.sound, stopped.front⟩, rfl, raw, mem_cons_of_mem _ among, unserved⟩

end Wdt
