/-
The read calls of a socket on a link: the loop over chunks of the tag interval and the
settings in front. A call leaves the reader in step with the writer, or stops it for
good, or forgets a tag that it has taken; the last happens exactly when the data behind
a tag does not arrive in the same call.
-/

import Wdt.SocketReader

namespace Wdt

open Link List ReadSocket Framing

variable {framing : Framing} {socket : ReadSocket Link} {delivered : List Byte}
  {state : FrameState} {gap : Wire}

/-! ### Reading up to a tag interval -/

/-- Some data read directly behind a whole tag or IV got nothing. The socket does not keep
that it has the tag. -/
def lostBehindTag : List RawRead → Bool
  | first :: second :: rest =>
    (decide first.ClosesGap && decide (second.part = .data) && decide (second.got = 0)) ||
      lostBehindTag (second :: rest)
  | _ => false

variable {reads : List RawRead}

theorem lostBehindTag_cons (lost : lostBehindTag reads = true) (first : RawRead) :
    lostBehindTag (first :: reads) = true := by
  cases reads with
  | nil => exact absurd lost Bool.false_ne_true
  | cons second rest =>
    rw [lostBehindTag, lost]
    exact Bool.or_true _

theorem lostBehindTag_append (lost : lostBehindTag reads = true) (earlier later : List RawRead) :
    lostBehindTag (earlier ++ reads ++ later) = true := by
  have extended : lostBehindTag (reads ++ later) = true := by
    induction reads with
    | nil => exact absurd lost Bool.false_ne_true
    | cons first reads ih =>
      cases reads with
      | nil => exact absurd lost Bool.false_ne_true
      | cons second rest =>
        rw [lostBehindTag, Bool.or_eq_true] at lost
        change (_ || lostBehindTag (second :: rest ++ later)) = true
        rw [Bool.or_eq_true]
        rcases lost with here | further
        · exact .inl here
        · exact .inr (ih further)
  induction earlier with
  | nil => exact extended
  | cons first earlier ih => exact lostBehindTag_cons ih first

theorem lostBehindTag_pair {tagRead dataRead : RawRead} (closes : tagRead.ClosesGap)
    (isData : dataRead.part = .data) (silent : dataRead.got = 0) :
    lostBehindTag [tagRead, dataRead] = true := by
  rw [lostBehindTag, decide_eq_true closes, decide_eq_true isData, decide_eq_true silent]
  rfl

/-- Between two read calls: everything before the next data byte is taken, except a tag or IV
directly before it. -/
structure InSync (framing : Framing) (socket : ReadSocket Link) (delivered : List Byte) : Prop where
  reader : ReaderAt framing socket delivered (framing.after delivered) []
  total : framing.tagInterval ≠ 0 → socket.totalRead = delivered.length

/-- How a read of at most an interval ends: in step with the writer, stopped without having
given anything, or short with the tag forgotten. -/
inductive ChunkOutcome (framing : Framing) (after : ReadSocket Link) (delivered : List Byte)
    (nbyte : Nat) (data : List Byte) (reads : List RawRead) : Prop
  | synced (sync : InSync framing after (delivered ++ data))
      (gave : data ≠ [] → after.readErrorCode = .ok)
      (failed : data = [] → (after.readErrorCode = .wdtTimeout ∨
        after.readErrorCode = .socketReadError) ∧ ∃ raw ∈ reads, ¬ raw.Served)
  | stopped (stopped : Stopped framing after delivered) (nothing : data = [])
      (code : after.readErrorCode = .encryptionError) (failed : ∃ raw ∈ reads, ¬ raw.Served)
  | lost (short : data.length < nbyte) (lost : lostBehindTag reads = true)

variable {after : ReadSocket Link} {nbyte : Nat} {data : List Byte}

theorem ChunkOutcome.later (outcome : ChunkOutcome framing after delivered nbyte data reads)
    (first : RawRead) : ChunkOutcome framing after delivered nbyte data (first :: reads) := by
  cases outcome with
  | synced sync gave failed =>
    refine .synced sync gave (fun nothing => ⟨(failed nothing).1, ?_⟩)
    obtain ⟨raw, among, unserved⟩ := (failed nothing).2
    exact ⟨raw, mem_cons_of_mem _ among, unserved⟩
  | stopped stopped nothing code failed =>
    obtain ⟨raw, among, unserved⟩ := failed
    exact .stopped stopped nothing code ⟨raw, mem_cons_of_mem _ among, unserved⟩
  | lost short lost => exact .lost short (lostBehindTag_cons lost _)

theorem dataAhead_clear {count : Nat} (clear : framing.Clear delivered.length count) :
    DataAhead framing delivered (framing.after delivered) [] count := by
  intro data _ short
  apply stream_clear
  intro offset before
  rw [after_total]
  exact clear offset (by omega)

theorem dataAhead_crossed (due : framing.Due delivered.length) {count : Nat}
    (short : count ≤ framing.tagInterval) :
    DataAhead framing delivered (framing.crossed (framing.after delivered))
      (framing.tagBytes (framing.after delivered) ++ framing.ivBytes (framing.after delivered))
      count := by
  intro data some_data within
  have positive := length_pos_iff.mpr some_data
  have dueHere : framing.Due (framing.after delivered).total := by
    rw [after_total]
    exact due
  exact stream_due dueHere some_data (clear_behind dueHere (by omega))

theorem unserved_of_silent {reads : List RawRead} {nbyte : Nat} :
    ∃ raw ∈ reads ++ [({ part := .data, asked := nbyte, got := 0 } : RawRead)], ¬ raw.Served :=
  ⟨_, List.mem_append_right _ (List.mem_singleton_self _),
    fun served => absurd served.1 (lt_irrefl 0)⟩

variable {numRead : List Byte}

theorem readRest_data (reader : ReaderAt framing socket (delivered ++ numRead) state gap)
    (total : socket.totalRead = (delivered ++ numRead).length) (room : numRead.length < nbyte)
    (aheadData : DataAhead framing (delivered ++ numRead) state gap (nbyte - numRead.length))
    (within : AsksWithin socket.world (delivered.length + nbyte)) {ret : ReadReturn}
    (called : readRest (network framing.cipher) framing.cipher framing.params nbyte
      numRead socket = (ret, after)) :
    ∃ data, after.world.outlook = socket.world.outlook ∧
      after.world.rawReads = socket.world.rawReads ++
        [{ part := .data, asked := nbyte - numRead.length, got := data.length }] ∧
      ret.bytes = numRead ++ data ∧ data.length ≤ nbyte - numRead.length ∧
      if data = [] then
        ReaderAt framing after (delivered ++ numRead) state gap ∧
          after.totalRead = socket.totalRead ∧
          (after.readErrorCode = .wdtTimeout ∨ after.readErrorCode = .socketReadError)
      else InSync framing after (delivered ++ (numRead ++ data)) ∧ after.readErrorCode = .ok := by
  have asks : AsksWithin socket.world ((delivered ++ numRead).length + (nbyte - numRead.length)) :=
    within.mono rfl (by rw [length_append]; omega)
  obtain ⟨data, returned, result, counted⟩ := readAndCount_data reader (by omega) aheadData asks
  unfold readRest at called
  dsimp only at called
  rw [returned] at called
  refine ⟨data, ?_⟩
  by_cases silent : data = []
  · rw [if_pos silent] at called
    cases called
    refine ⟨result.outlook, result.noted, ?_, result.within, ?_⟩
    · rw [ReadReturn.bytes_orElse (returned.trans silent), silent, append_nil]
    · rw [if_pos silent]
      rw [silent] at counted
      exact ⟨(result.silent silent).1, counted, (result.silent silent).2⟩
  · rw [if_neg silent] at called
    cases called
    refine ⟨result.outlook, result.noted, rfl, result.within, ?_⟩
    rw [if_neg silent, ← append_assoc]
    refine ⟨⟨(result.served silent).1, fun _ => ?_⟩, (result.served silent).2⟩
    rw [counted, total]
    exact length_append.symm

theorem readAcrossTag_outcome (tags : framing.tagInterval ≠ 0)
    (sync : InSync framing socket (delivered ++ numRead))
    (due : framing.Due (delivered ++ numRead).length) (room : numRead.length < nbyte)
    (interval : nbyte ≤ framing.tagInterval)
    (within : AsksWithin socket.world (delivered.length + nbyte)) {ret : ReadReturn}
    (called : readAcrossTag (network framing.cipher) framing.cipher framing.params
      nbyte numRead socket = (ret, after)) :
    ∃ reads, after.world.rawReads = socket.world.rawReads ++ reads ∧
      after.world.outlook = socket.world.outlook ∧ ret.bytes.length ≤ nbyte ∧
      ChunkOutcome framing after delivered nbyte ret.bytes reads := by
  have asks : AsksWithin socket.world ((delivered ++ numRead).length + 1) :=
    within.mono rfl (by rw [length_append]; omega)
  unfold readAcrossTag at called
  generalize crossing : readTagAndIv (network framing.cipher) framing.cipher
    framing.params socket = result at called
  obtain ⟨passed, atData⟩ := result
  obtain ⟨reads, noted, outlook, total, outcome⟩ :=
    readTagAndIv_due tags sync.reader due asks crossing
  cases passed with
  | false =>
    cases called
    obtain ⟨stopped, code, unserved⟩ := outcome
    refine ⟨reads, noted, outlook, Nat.zero_le _, .stopped ?_ rfl code unserved⟩
    exact ⟨stopped.sound, (prefix_append _ _).trans stopped.front⟩
  | true =>
    obtain ⟨reader, earlier, closing, ends, closes⟩ := outcome
    obtain ⟨data, outlookRest, notedRest, bytes, short, outcome⟩ :=
      readRest_data reader (total.trans (sync.total tags)) room
        (dataAhead_crossed due (by omega)) (within.mono outlook (le_refl _)) called
    have notedBoth : after.world.rawReads = socket.world.rawReads ++ (reads ++
        [{ part := .data, asked := nbyte - numRead.length, got := data.length }]) := by
      rw [notedRest, noted, append_assoc]
    refine ⟨_, notedBoth, outlookRest.trans outlook, ?_, ?_⟩
    · rw [bytes, length_append]
      omega
    by_cases silent : data = []
    · rw [bytes, silent, append_nil]
      refine .lost room ?_
      have pair := lostBehindTag_append
        (@lostBehindTag_pair closing ⟨.data, nbyte - numRead.length, 0⟩ closes rfl rfl)
        earlier []
      rw [append_nil] at pair
      rw [ends, append_assoc]
      exact pair
    · rw [if_neg silent] at outcome
      rw [bytes]
      refine .synced outcome.1 (fun _ => outcome.2) (fun nothing => ?_)
      exact absurd (append_eq_nil_iff.mp nothing).2 silent

theorem offset_pos (tags : framing.tagInterval ≠ 0) {total : Nat} (notDue : ¬ framing.Due total) :
    0 < computeNextTagOffset total framing.tagInterval := by
  have below : total % framing.tagInterval < framing.tagInterval :=
    Nat.mod_lt _ (Nat.pos_of_ne_zero tags)
  rw [computeNextTagOffset_not_due tags notDue]
  omega

theorem readAndDecryptWithTag_outcome (tags : framing.tagInterval ≠ 0)
    (sync : InSync framing socket delivered) (positive : 0 < nbyte)
    (interval : nbyte ≤ framing.tagInterval)
    (within : AsksWithin socket.world (delivered.length + nbyte)) {ret : ReadReturn}
    (called : readAndDecryptWithTag (network framing.cipher) framing.cipher
      framing.params nbyte socket = (ret, after)) :
    ∃ reads, after.world.rawReads = socket.world.rawReads ++ reads ∧
      after.world.outlook = socket.world.outlook ∧ ret.bytes.length ≤ nbyte ∧
      ChunkOutcome framing after delivered nbyte ret.bytes reads := by
  have atStart : InSync framing socket (delivered ++ []) := by
    rw [append_nil]
    exact sync
  unfold readAndDecryptWithTag at called
  rw [sync.total tags, sync.reader.interval] at called
  dsimp only at called
  by_cases due : framing.Due delivered.length
  · rw [computeNextTagOffset_due due, if_pos positive, if_neg (lt_irrefl 0)] at called
    exact readAcrossTag_outcome tags atStart (by rw [append_nil]; exact due) positive interval
      within called
  have offsetPositive := offset_pos tags due
  have dueThere := due_at_offset tags due
  have clear := fun count => @clear_to_offset framing delivered.length count tags due
  generalize computeNextTagOffset delivered.length framing.tagInterval = nextTagOffset
    at called offsetPositive dueThere clear
  by_cases contained : nextTagOffset < nbyte
  · rw [if_pos contained, if_pos offsetPositive] at called
    obtain ⟨data, returned, result, counted⟩ := readAndCount_data sync.reader
      (Nat.pos_iff_ne_zero.mp offsetPositive) (dataAhead_clear (clear _ (le_refl _)))
      (within.mono rfl (by omega))
    generalize frontRead : readAndCount (network framing.cipher) framing.cipher
      framing.params nextTagOffset socket = step at called returned result counted
    obtain ⟨front, atTag⟩ := step
    rw [returned] at called
    have total : framing.tagInterval ≠ 0 → atTag.totalRead = (delivered ++ data).length := by
      intro _
      rw [counted, sync.total tags, length_append]
    by_cases short : data.length < nextTagOffset
    · rw [if_pos short] at called
      cases called
      refine ⟨_, result.noted, result.outlook, by rw [returned]; omega, ?_⟩
      rw [returned]
      by_cases silent : data = []
      · refine .synced ⟨?_, total⟩ (fun some_data => absurd silent some_data) (fun _ => ?_)
        · rw [silent, append_nil]
          exact (result.silent silent).1
        · rw [silent]
          exact ⟨(result.silent silent).2, @unserved_of_silent [] _⟩
      · exact .synced ⟨(result.served silent).1, total⟩ (fun _ => (result.served silent).2)
          (fun nothing => absurd nothing silent)
    · have full : data.length = nextTagOffset := by
        have := result.within
        omega
      have some_data : data ≠ [] := by
        intro nothing
        rw [nothing, length_nil] at full
        omega
      rw [if_neg short] at called
      obtain ⟨reads, noted, outlook, bounded, outcome⟩ := readAcrossTag_outcome tags
        ⟨(result.served some_data).1, total⟩
        (by rw [length_append, full]; exact dueThere) (by omega) interval
        (within.mono result.outlook (le_refl _)) called
      refine ⟨{ part := .data, asked := nextTagOffset, got := data.length } :: reads, ?_,
        outlook.trans result.outlook, bounded, outcome.later _⟩
      rw [noted, result.noted, append_assoc]
      rfl
  · rw [if_neg contained] at called
    obtain ⟨data, outlook, noted, bytes, short, outcome⟩ := readRest_data
      atStart.reader (atStart.total tags) positive
      (by rw [append_nil]; exact dataAhead_clear (clear _ (by rw [length_nil]; omega)))
      within called
    rw [nil_append] at bytes
    refine ⟨_, noted, outlook, by rw [bytes]; omega, ?_⟩
    rw [bytes]
    by_cases silent : data = []
    · rw [if_pos silent, append_nil] at outcome
      refine .synced ⟨?_, fun _ => ?_⟩ (fun some_data => absurd silent some_data) (fun _ => ?_)
      · rw [silent, append_nil]
        exact outcome.1
      · rw [outcome.2.1, sync.total tags, silent, append_nil]
      · rw [silent]
        exact ⟨outcome.2.2, @unserved_of_silent [] _⟩
    · rw [if_neg silent] at outcome
      exact .synced outcome.1 (fun _ => outcome.2) (fun nothing => absurd nothing silent)

structure Unstarted (framing : Framing) (socket : ReadSocket Link) : Prop where
  params : socket.encryptionParams = some framing.params
  ivChange : socket.ivChangeInterval = framing.ivChangeInterval
  notRead : socket.encryptionSettingsRead = false
  total : socket.totalRead = 0
  taken : socket.world.taken = []
  sound : socket.world.Sound framing

/-- The socket can read on: it has not begun, or it is in step with the writer. -/
def Listening (framing : Framing) (socket : ReadSocket Link) (delivered : List Byte) : Prop :=
  (Unstarted framing socket ∧ delivered = []) ∨ InSync framing socket delivered

inductive CallOutcome (framing : Framing) (after : ReadSocket Link) (delivered data : List Byte)
    (reads : List RawRead) : Prop
  | synced (listening : Listening framing after (delivered ++ data))
      (served : (∀ raw ∈ reads, raw.Served) → data ≠ [] ∧ after.readErrorCode = .ok)
  | stopped (stopped : Stopped framing after (delivered ++ data))
      (code : after.readErrorCode ≠ .ok ∧ after.readErrorCode ≠ .wdtTimeout)
      (failed : ∃ raw ∈ reads, ¬ raw.Served)
  | lost (lost : lostBehindTag reads = true)

theorem CallOutcome.afterReads (outcome : CallOutcome framing after delivered data reads)
    (earlier : List RawRead) : CallOutcome framing after delivered data (earlier ++ reads) := by
  cases outcome with
  | synced listening served =>
    exact .synced listening (fun all => served (fun raw among =>
      all raw (mem_append_right _ among)))
  | stopped stopped code failed =>
    obtain ⟨raw, among, unserved⟩ := failed
    exact .stopped stopped code ⟨raw, mem_append_right _ among, unserved⟩
  | lost lost =>
    have further := lostBehindTag_append lost earlier []
    rw [append_nil] at further
    exact .lost further

theorem ChunkOutcome.ends
    (outcome : ChunkOutcome framing after (delivered ++ numRead) nbyte data reads) :
    CallOutcome framing after delivered (numRead ++ data) reads := by
  cases outcome with
  | synced sync gave failed =>
    rw [append_assoc] at sync
    refine .synced (.inr sync) (fun all => ?_)
    by_cases nothing : data = []
    · obtain ⟨raw, among, unserved⟩ := (failed nothing).2
      exact absurd (all raw among) unserved
    · exact ⟨append_ne_nil_of_right_ne_nil _ nothing, gave nothing⟩
  | stopped stopped nothing code failed =>
    refine .stopped ?_ ?_ failed
    · rw [nothing, append_nil]
      exact stopped
    · rw [code]
      exact ⟨nofun, nofun⟩
  | lost _ lost => exact .lost lost

theorem CallOutcome.complete (sync : InSync framing socket (delivered ++ numRead))
    (some_read : 0 < numRead.length) (clean : socket.readErrorCode = .ok) :
    CallOutcome framing socket delivered numRead [] :=
  .synced (.inr sync) (fun _ => ⟨List.ne_nil_of_length_pos some_read, clean⟩)

theorem readChunks_outcome (tags : framing.tagInterval ≠ 0) {rounds : Nat}
    (sync : InSync framing socket (delivered ++ numRead)) (positive : 0 < nbyte)
    (bounded : numRead.length ≤ nbyte) (enough : nbyte - numRead.length ≤ rounds)
    (clean : socket.readErrorCode = .ok)
    (within : AsksWithin socket.world (delivered.length + nbyte)) {ret : ReadReturn}
    (called : readChunks (network framing.cipher) framing.cipher framing.params rounds
      nbyte numRead socket = (ret, after)) :
    ∃ reads, after.world.rawReads = socket.world.rawReads ++ reads ∧
      after.world.outlook = socket.world.outlook ∧
      CallOutcome framing after delivered ret.bytes reads := by
  induction rounds generalizing socket numRead with
  | zero =>
    cases called
    have some_read : 0 < numRead.length := by omega
    exact ⟨[], (append_nil _).symm, rfl, .complete sync some_read clean⟩
  | succ rounds ih =>
    unfold readChunks at called
    by_cases more : numRead.length < nbyte
    · rw [if_pos more, sync.reader.interval] at called
      dsimp only at called
      generalize asked : min (nbyte - numRead.length) framing.tagInterval = toRead at called
      generalize chunk : readAndDecryptWithTag (network framing.cipher)
        framing.cipher framing.params toRead socket = step at called
      obtain ⟨part, atChunk⟩ := step
      obtain ⟨reads, noted, outlook, short, outcome⟩ := readAndDecryptWithTag_outcome tags sync
        (by omega) (by omega) (within.mono rfl (by rw [length_append]; omega)) chunk
      by_cases silent : part.bytes = []
      · rw [if_pos silent] at called
        cases called
        refine ⟨reads, noted, outlook, ?_⟩
        have ended := outcome.ends
        rw [silent, append_nil] at ended
        rw [ReadReturn.bytes_orElse silent]
        exact ended
      · rw [if_neg silent] at called
        by_cases cut : part.bytes.length < toRead
        · rw [if_pos cut] at called
          cases called
          exact ⟨reads, noted, outlook, outcome.ends⟩
        rw [if_neg cut] at called
        cases outcome with
        | stopped _ nothing => exact absurd nothing silent
        | lost short => exact absurd short cut
        | synced syncAfter gave _ =>
          rw [append_assoc] at syncAfter
          have longer : (numRead ++ part.bytes).length = numRead.length + part.bytes.length :=
            length_append
          obtain ⟨further, notedFurther, outlookFurther, ended⟩ := ih syncAfter (by omega)
            (by omega) (gave silent) (within.mono outlook (le_refl _)) called
          refine ⟨reads ++ further, ?_, outlookFurther.trans outlook, ended.afterReads reads⟩
          rw [notedFurther, noted, append_assoc]
    · rw [if_neg more] at called
      cases called
      have some_read : 0 < numRead.length := by omega
      exact ⟨[], (append_nil _).symm, rfl, .complete sync some_read clean⟩

/-! ### The settings -/

theorem settings_written {link : Link} (sound : link.Sound framing)
    (some_data : link.plaintext ≠ []) : framing.settingsBytes <+: link.put := by
  rw [sound.put]
  unfold wire framed
  rw [if_neg some_data, append_assoc]
  exact prefix_append _ _

theorem data_written {before after : Link} {part : WirePart} {got : List Byte}
    (raw : RawStep framing before after part nbyte got) (some_bytes : got ≠ []) :
    after.plaintext ≠ [] := by
  intro nothing
  have next := raw.next
  rw [raw.sound.put, nothing] at next
  change got <+: (([] : Wire).drop _).map Prod.snd at next
  rw [drop_nil] at next
  exact some_bytes (prefix_nil.mp next)

theorem acceptEncryptionSettings_honest (framing : Framing) (socket : ReadSocket Link) :
    acceptEncryptionSettings framing.params
        (framing.params.type.toNat, (framing.ivs 0).val, framing.tagInterval) socket =
      { socket with
        readTagInterval := framing.tagInterval
        decryptor := framing.initial.context
        encryptionSettingsRead := true } := by
  have typeBound := framing.params.type.toNat_le
  unfold acceptEncryptionSettings
  dsimp only
  have tagged : ¬ (0 < framing.tagInterval ∧ encryptionTypeToTagLen framing.params.type = 0) := by
    rintro ⟨positive, tagless⟩
    rw [framing.tag_of_interval (by omega)] at tagless
    exact absurd tagless (by decide)
  rw [Nat.mod_eq_of_lt (by omega), if_neg (fun differs => differs rfl), if_neg tagged,
    dif_pos (framing.ivs 0).property]
  rfl

theorem readEncryptionSettingsOnce_outcome (unstarted : Unstarted framing socket) {cmd : Byte}
    (called : readEncryptionSettingsOnce (network framing.cipher) socket =
      (cmd, after)) :
    ∃ reads, after.world.rawReads = socket.world.rawReads ++ reads ∧
      after.world.outlook = socket.world.outlook ∧
      ((InSync framing after [] ∧ after.readErrorCode = .ok) ∨ ((Unstarted framing after ∨
            (Stopped framing after [] ∧ after.readErrorCode ≠ .wdtTimeout)) ∧
          (after.readErrorCode = .wdtTimeout ∨ after.readErrorCode = .socketReadError) ∧
          ∃ raw ∈ reads, ¬ raw.Served)) := by
  obtain ⟨first, link, code, raw, moved, returned, okCode, failCode⟩ :=
    @readInternal_raw framing socket unstarted.sound .settings 1 (by decide)
  unfold readEncryptionSettingsOnce at called
  rw [unstarted.params] at called
  dsimp only at called
  rw [if_neg (by rw [unstarted.notRead]; exact Bool.false_ne_true)] at called
  generalize cmdRead : readInternal (network framing.cipher) .settings 1 socket =
    result at moved returned called
  obtain ⟨ret, atCmd⟩ := result
  subst moved
  rw [returned] at called
  by_cases silent : first = []
  · rw [silent] at called
    cases called
    refine ⟨_, raw.noted, raw.outlook, .inr ⟨.inl ?_, failCode silent, ?_⟩⟩
    · have taken := raw.taken
      rw [silent, unstarted.taken] at taken
      exact { unstarted with taken := taken, sound := raw.sound }
    · rw [silent]
      exact ⟨_, mem_singleton_self _, fun served => absurd served.1 (lt_irrefl 0)⟩
  · have cmdStands : socket.world.taken ++ labelled .settings [encryptionCmd] <+: link.put := by
      rw [unstarted.taken]
      exact (prefix_append [(WirePart.settings, encryptionCmd)] _).trans
        (settings_written raw.sound (data_written raw silent))
    have oneByte : first.length = 1 := by
      have positive := length_pos_iff.mpr silent
      have := raw.within
      omega
    have isCmd := taken_is_block raw rfl cmdStands oneByte
    rw [isCmd] at called
    dsimp only at called
    rw [if_neg (fun differs => differs rfl)] at called
    unfold readSettingsFields at called
    dsimp only at called
    have cmdTaken : link.taken = labelled .settings [encryptionCmd] := by
      rw [raw.taken, unstarted.taken, isCmd]
      rfl
    obtain ⟨fields, atFields, fieldsCode, fieldsRaw, moved, returned, okFields, _⟩ :=
      @readInternal_raw framing { socket with world := link, readErrorCode := code } raw.sound
        .settings (kEncryptionCmdLen - 1) (by decide)
    rw [returned, moved] at called
    have noted : atFields.rawReads = socket.world.rawReads ++
        [{ part := .settings, asked := 1, got := first.length },
          { part := .settings, asked := kEncryptionCmdLen - 1, got := fields.length }] := by
      rw [fieldsRaw.noted]
      rw [raw.noted, append_assoc]
      rfl
    have outlook := fieldsRaw.outlook.trans raw.outlook
    by_cases whole : fields.length = kEncryptionCmdLen - 1
    · rw [if_neg (fun differs => differs whole)] at called
      have some_fields : fields ≠ [] := by
        intro nothing
        rw [nothing] at whole
        exact absurd whole (by decide)
      have fieldsStand : link.taken ++ labelled .settings (encryptionFields framing.params.type
          (framing.ivs 0) framing.tagInterval) <+: atFields.put := by
        rw [cmdTaken]
        exact settings_written fieldsRaw.sound (data_written fieldsRaw some_fields)
      have isFields := taken_is_block fieldsRaw (encryptionFields_length _ _ _) fieldsStand whole
      rw [isFields, decodeEncryptionSettings_reads framing.interval_le] at called
      dsimp only at called
      rw [acceptEncryptionSettings_honest] at called
      cases called
      refine ⟨_, noted, outlook, .inl ⟨⟨?_, fun _ => unstarted.total⟩, okFields some_fields⟩⟩
      exact { unstarted with
        interval := rfl
        started := rfl
        context := rfl
        taken := by
          rw [fieldsRaw.taken, isFields]
          rw [cmdTaken, append_nil]
          exact (append_nil framing.settingsBytes).symm
        sound := fieldsRaw.sound
        front := nil_prefix
        written := data_written fieldsRaw some_fields }
    · rw [if_pos whole] at called
      cases called
      refine ⟨_, noted, outlook, .inr ⟨.inr ⟨⟨fieldsRaw.sound, nil_prefix⟩, ?_⟩, .inr rfl, ?_⟩⟩
      · exact nofun
      · refine ⟨_, mem_cons_of_mem _ (mem_singleton_self _), ?_⟩
        intro served
        exact whole (served.2 nofun)

/-! ### A whole read call -/

theorem readEncrypted_outcome (sync : InSync framing socket delivered)
    (clean : socket.readErrorCode = .ok) (positive : 0 < nbyte)
    (within : AsksWithin socket.world (delivered.length + nbyte)) {ret : ReadReturn}
    (called : readEncrypted (network framing.cipher) framing.cipher framing.params
      nbyte socket = (ret, after)) :
    ∃ reads, after.world.rawReads = socket.world.rawReads ++ reads ∧
      after.world.outlook = socket.world.outlook ∧
      CallOutcome framing after delivered ret.bytes reads := by
  unfold readEncrypted at called
  rw [sync.reader.interval] at called
  by_cases untagged : framing.tagInterval = 0
  · rw [if_pos untagged] at called
    obtain ⟨data, returned, result, _⟩ := readAndDecrypt_data sync.reader
      (Nat.pos_iff_ne_zero.mp positive) (dataAhead_clear (clear_untagged untagged _ _))
      within
    rw [called] at returned result
    refine ⟨_, result.noted, result.outlook, ?_⟩
    rw [returned]
    have total : framing.tagInterval ≠ 0 → after.totalRead = (delivered ++ data).length :=
      fun tags => absurd untagged tags
    by_cases silent : data = []
    · refine .synced (.inr ⟨?_, total⟩) (fun all => ?_)
      · rw [silent, append_nil]
        exact (result.silent silent).1
      · have served := (all _ (mem_singleton_self _)).1
        rw [silent] at served
        exact absurd served (lt_irrefl 0)
    · exact .synced (.inr ⟨(result.served silent).1, total⟩)
        (fun _ => ⟨silent, (result.served silent).2⟩)
  · rw [if_neg untagged] at called
    have atStart : InSync framing socket (delivered ++ []) := by
      rw [append_nil]
      exact sync
    exact readChunks_outcome untagged atStart positive (Nat.zero_le _) (Nat.sub_le _ _) clean
      within called

theorem InSync.withCode (sync : InSync framing socket delivered) (code : ErrorCode) :
    InSync framing (socket.failWith code) delivered :=
  ⟨{ sync.reader with }, sync.total⟩

theorem Unstarted.withCode (unstarted : Unstarted framing socket) (code : ErrorCode) :
    Unstarted framing (socket.failWith code) :=
  { unstarted with }

theorem read_of_settings {nbyte : Nat} {cmd : Byte} {atData : ReadSocket Link}
    (retryable : socket.readErrorCode = .ok ∨ socket.readErrorCode = .wdtTimeout)
    (settings : ReadSocket.readEncryptionSettingsOnce (network framing.cipher)
      (socket.failWith .ok) = (cmd, atData)) :
    (atData.readErrorCode = .ok → atData.encryptionParams = some framing.params →
        ReadSocket.read (network framing.cipher) framing.cipher nbyte socket =
          ReadSocket.readEncrypted (network framing.cipher) framing.cipher framing.params nbyte
            atData) ∧
      (atData.readErrorCode ≠ .ok → atData.readErrorCode ≠ .unexpectedCmdError →
        ReadSocket.read (network framing.cipher) framing.cipher nbyte socket = (none, atData)) := by
  have open_socket : ¬ (socket.readErrorCode ≠ .ok ∧ socket.readErrorCode ≠ .wdtTimeout) := by
    rintro ⟨notOk, notTimeout⟩
    exact retryable.elim notOk notTimeout
  constructor
  · intro clean params
    unfold ReadSocket.read
    rw [if_neg open_socket, settings]
    dsimp only
    rw [clean, if_neg (fun both => nomatch both.2), if_neg (fun differs => differs rfl), params]
  · intro failed expected
    unfold ReadSocket.read
    rw [if_neg open_socket, settings]
    dsimp only
    rw [if_neg (fun both => expected both.2), if_pos failed]

theorem read_outcome (listening : Listening framing socket delivered)
    (retryable : socket.readErrorCode = .ok ∨ socket.readErrorCode = .wdtTimeout)
    (positive : 0 < nbyte) (within : AsksWithin socket.world (delivered.length + nbyte))
    {ret : ReadReturn}
    (called : read (network framing.cipher) framing.cipher nbyte socket =
      (ret, after)) :
    ∃ reads, after.world.rawReads = socket.world.rawReads ++ reads ∧
      after.world.outlook = socket.world.outlook ∧
      CallOutcome framing after delivered ret.bytes reads := by
  generalize settings : readEncryptionSettingsOnce (network framing.cipher)
    (socket.failWith .ok) = step
  obtain ⟨cmd, atData⟩ := step
  obtain ⟨goesOn, fails⟩ := @read_of_settings framing socket nbyte cmd atData retryable settings
  rcases listening with ⟨unstarted, nothing⟩ | sync
  · obtain ⟨reads, noted, outlook, outcome⟩ :=
      readEncryptionSettingsOnce_outcome (unstarted.withCode .ok) settings
    rcases outcome with ⟨sync, clean⟩ | ⟨state, code, unserved⟩
    · rw [goesOn clean sync.reader.params] at called
      subst nothing
      obtain ⟨further, notedFurther, outlookFurther, ended⟩ := readEncrypted_outcome sync clean
        positive (within.mono outlook (le_refl _)) called
      refine ⟨reads ++ further, ?_, outlookFurther.trans outlook, ended.afterReads reads⟩
      rw [notedFurther, noted, append_assoc]
      rfl
    · have failedCode : atData.readErrorCode ≠ .ok ∧
          atData.readErrorCode ≠ .unexpectedCmdError := by
        rcases code with code | code
        · rw [code]
          exact ⟨nofun, nofun⟩
        · rw [code]
          exact ⟨nofun, nofun⟩
      rw [fails failedCode.1 failedCode.2] at called
      cases called
      refine ⟨reads, noted, outlook, ?_⟩
      subst nothing
      rcases state with unstarted | ⟨stopped, notTimeout⟩
      · refine .synced (.inl ⟨unstarted, rfl⟩) (fun all => ?_)
        obtain ⟨raw, among, fail⟩ := unserved
        exact absurd (all raw among) fail
      · exact .stopped stopped ⟨failedCode.1, notTimeout⟩ unserved
  · have settled : readEncryptionSettingsOnce (network framing.cipher)
        (socket.failWith .ok) = (0, socket.failWith .ok) := by
      unfold readEncryptionSettingsOnce
      rw [(sync.withCode .ok).reader.params]
      dsimp only
      rw [if_pos (sync.withCode .ok).reader.started]
    rw [settled] at settings
    cases settings
    rw [goesOn rfl (sync.withCode .ok).reader.params] at called
    exact readEncrypted_outcome (sync.withCode .ok) rfl positive within called

end Wdt
