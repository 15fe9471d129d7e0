/-
Whole connections: the messages of a sender thread as a list of frames, what a
receiver thread makes of any part of them that arrives (`Reception.receiveFrames`),
and that its loop does just that, however the bytes are split into reads.
-/

import Wdt.FileReception

namespace Wdt

open List Outcome Reception

structure FileCommand where
  status : Byte := 0
  details : BlockDetails
  data : List Byte

structure FileCommand.Honest (version : Nat) (command : FileCommand) : Prop where
  details : command.details.Honest version
  data : command.data.length = command.details.dataSize

def FileCommand.header (version : Nat) (command : FileCommand) : List Byte :=
  headerBytes version command.status command.details

def FileCommand.bytes (version : Nat) (footerType : FooterType) (command : FileCommand) :
    List Byte :=
  command.header version ++ (command.data ++
    if footerType = .checksumFooter then footerMessage command.data else [])

inductive Frame
  | settings (settings : Settings)
  | size (totalNumBytes : Nat)
  | file (command : FileCommand)
  | done (status : Byte) (numBlocks totalNumBytes : Nat) (buf : Memory Byte)

def Settings.footerType (settings : Settings) : FooterType :=
  if settings.enableChecksum then .checksumFooter else .noFooter

/-- SETTINGS decides on the footers of the connection. -/
def framesBytes (version : Nat) : FooterType → List Frame → List Byte
  | _, [] => []
  | _, .settings settings :: rest =>
    settingsMessage version settings ++ framesBytes version settings.footerType rest
  | footerType, .size totalNumBytes :: rest =>
    sizeMessage totalNumBytes ++ framesBytes version footerType rest
  | footerType, .file command :: rest =>
    command.bytes version footerType ++ framesBytes version footerType rest
  | footerType, .done status numBlocks totalNumBytes buf :: rest =>
    doneMessage version status numBlocks totalNumBytes buf ++ framesBytes version footerType rest

/-- Frames of a sender that uses the receiver's version and transfer id. SETTINGS and FILE
headers have at most 256 bytes, and DONE is the last word. -/
def Frame.Receivable (config : ReceiverConfig) (version : Nat) : Frame → Prop
  | .settings sent =>
    sent.Honest version ∧ sent.transferId = config.transferId ∧ sent.sendFileChunks = false ∧
      (settingsMessage version sent).length ≤ kMinBufLength
  | .size totalNumBytes => totalNumBytes ≤ int64Max
  | .file command => command.Honest version ∧ (command.header version).length ≤ kMinBufLength
  | .done _ numBlocks totalNumBytes _ => numBlocks ≤ int64Max ∧ totalNumBytes ≤ int64Max

def Frame.isDone : Frame → Bool
  | .done .. => true
  | _ => false

/-- The bytes that no FILE command compacts away. -/
def Frame.smallLength (version : Nat) : Frame → Nat
  | .settings sent => (settingsMessage version sent).length
  | .size totalNumBytes => (sizeMessage totalNumBytes).length
  | .file _ => 0
  | .done .. => 0

structure Stream (config : ReceiverConfig) (version : Nat) (frames : List Frame) : Prop where
  receivable : ∀ frame ∈ frames, frame.Receivable config version
  doneLast : ∀ frame ∈ frames.dropLast, frame.isDone = false
  small : (frames.map (Frame.smallLength version)).sum ≤ 3000

theorem Stream.tail {config : ReceiverConfig} {version : Nat} {frame : Frame}
    {rest : List Frame} (stream : Stream config version (frame :: rest)) :
    Stream config version rest := by
  refine ⟨?_, ?_, ?_⟩
  · intro other member
    exact stream.receivable other (mem_cons_of_mem _ member)
  · intro other member
    cases rest with
    | nil => cases member
    | cons next more => exact stream.doneLast other (mem_cons_of_mem _ member)
  · have small := stream.small
    rw [map_cons, sum_cons] at small
    omega

theorem Stream.done_alone {config : ReceiverConfig} {version : Nat} {frame : Frame}
    {rest : List Frame} (stream : Stream config version (frame :: rest))
    (done : frame.isDone = true) : rest = [] := by
  cases rest with
  | nil => rfl
  | cons next more =>
    have notDone := stream.doneLast frame mem_cons_self
    rw [done] at notDone
    cases notDone

namespace Reception

def configure (reception : Reception) (settings : Settings) : Reception :=
  { reception with footerType := settings.footerType }

def done (reception : Reception) : Reception :=
  { reception with checkpointIndex := reception.pendingCheckpointIndex }

/-- The commands of a connection on which `arrived` came through, and the state in which the
thread waits afterwards. -/
def receiveFrames (version : Nat) :
    Reception → List Frame → (arrived : List Byte) → Reception × ReceiverState
  | reception, [], _ => (reception.fail .socketReadError, .acceptWithTimeout)
  | reception, frame :: rest, arrived =>
    if arrived.length < kMinBufLength then
      (reception.fail .socketReadError, .acceptWithTimeout)
    else
      match frame with
      | .settings settings =>
        receiveFrames version (reception.configure settings) rest
          (arrived.drop (settingsMessage version settings).length)
      | .size totalNumBytes =>
        receiveFrames version reception rest (arrived.drop (sizeMessage totalNumBytes).length)
      | .file command =>
        match reception.receiveFile command.details
          (arrived.drop (command.header version).length) with
        | (reception, none) => (reception, .acceptWithTimeout)
        | (reception, some left) => receiveFrames version reception rest left
      | .done .. => (reception.done, .waitForFinish)

theorem receiveFrames_short (version : Nat) (reception : Reception) (frames : List Frame)
    {arrived : List Byte} (short : arrived.length < kMinBufLength) :
    reception.receiveFrames version frames arrived =
      (reception.fail .socketReadError, .acceptWithTimeout) := by
  cases frames with
  | nil => rfl
  | cons frame rest =>
    unfold receiveFrames
    rw [if_pos short]

end Reception

/-! ### The small commands -/

variable {rest word : List Byte} {totalNumBytes : Nat}

namespace ReceiverThread

variable {config : ReceiverConfig} {thread : ReceiverThread}

theorem consumeCmd_receives (decoded : ReceiverThread)
    (inCommand : InCommand config thread (word ++ rest)) (small : word.length ≤ kMinBufLength)
    (sameBuf : decoded.buf = thread.buf) (sameConnection : decoded.connection = thread.connection)
    (sameNumRead : decoded.numRead = thread.numRead)
    (sameOldOffset : decoded.oldOffset = thread.oldOffset)
    (off : decoded.off = thread.oldOffset + word.length) :
    ∃ after, decoded.consumeCmd = (after, .readNextCmd) ∧ Receiving config after rest ∧
      after.off = thread.oldOffset + word.length ∧ after.reception = decoded.reception := by
  have enough := inCommand.enough
  have behind := inCommand.window.behind (by omega)
  refine ⟨_, rfl, ⟨?_, ?_⟩, off, rfl⟩
  · dsimp only [consume]
    rw [off, sameOldOffset, sameNumRead, Nat.add_sub_cancel_left]
    have left : (thread.numRead - (word.length : Nat)).toNat =
        thread.numRead.toNat - word.length := by omega
    rw [left]
    refine behind.congr sameBuf ?_ ?_ ?_
    · rw [sameConnection]
    · rw [sameConnection]
    · rw [sameConnection]
  · dsimp only [consume]
    omega

theorem InCommand.fields {cmd : Byte} (inCommand : InCommand config thread (cmd :: word ++ rest))
    (small : (cmd :: word).length ≤ kMinBufLength) :
    thread.buf.read thread.off word.length = word := by
  have enough := inCommand.enough
  have front := inCommand.window.front (by omega)
  have dropped := congrArg (drop 1) front
  rw [Memory.read_drop _ _ (by simp), length_cons, Nat.add_sub_cancel, ← inCommand.off]
    at dropped
  exact dropped

theorem processSizeCmd_receives (bounded : totalNumBytes ≤ int64Max)
    (inCommand : InCommand config thread (sizeMessage totalNumBytes ++ rest)) :
    ∃ after, thread.processSizeCmd = .go (after, .readNextCmd) ∧ Receiving config after rest ∧
      after.off = thread.oldOffset + (sizeMessage totalNumBytes).length ∧
      after.reception = thread.reception := by
  have number := varU64_length_le totalNumBytes
  have longest : kMaxSize = 11 := rfl
  have least : kMinBufLength = 256 := rfl
  have off := inCommand.off
  rw [sizeMessage_eq] at inCommand ⊢
  have small : (sizeCmd :: varU64 totalNumBytes).length ≤ kMinBufLength := by
    rw [length_cons]
    omega
  have decoded := decodeUpTo_reads (decodeSize_reads bounded) thread (thread.oldOffset + kMaxSize)
    (inCommand.fields small) (by omega)
  unfold processSizeCmd
  rw [decoded]
  dsimp only
  obtain ⟨after, result, receiving, afterOff, reception⟩ := consumeCmd_receives
    { thread with
      off := thread.off + (varU64 totalNumBytes).length
      threadStats := { thread.threadStats with totalSenderBytes := totalNumBytes } }
    inCommand small rfl rfl rfl rfl (by
      dsimp only
      rw [off, length_cons]
      omega)
  rw [result]
  exact ⟨after, rfl, receiving, afterOff, reception⟩

theorem processSettingsCmd_receives {settings : Settings}
    (honest : settings.Honest thread.threadProtocolVersion)
    (sameId : settings.transferId = config.transferId) (noChunks : settings.sendFileChunks = false)
    (small : (settingsMessage thread.threadProtocolVersion settings).length ≤ kMinBufLength)
    (inCommand : InCommand config thread
      (settingsMessage thread.threadProtocolVersion settings ++ rest)) :
    ∃ after, thread.processSettingsCmd config = .go (after, .readNextCmd) ∧
      Receiving config after rest ∧
      after.off = thread.oldOffset +
        (settingsMessage thread.threadProtocolVersion settings).length ∧
      after.reception = thread.reception.configure settings := by
  have least : kMinBufLength = 256 := rfl
  have longest : kMaxVersion = 10 ∧ kMaxSettings = 1056 := ⟨rfl, rfl⟩
  have number := varU64_length_le thread.threadProtocolVersion
  have off := inCommand.off
  rw [settingsMessage_eq honest] at inCommand small ⊢
  have fields : thread.buf.read thread.off (varU64 thread.threadProtocolVersion ++
      settingsFields thread.threadProtocolVersion settings).length =
      varU64 thread.threadProtocolVersion ++
        settingsFields thread.threadProtocolVersion settings := inCommand.fields small
  obtain ⟨versionField, settingsField⟩ := Memory.read_split fields
  have length := small
  simp only [cons_append, length_cons, length_append] at length
  have decodedVersion := decodeUpTo_reads (decodeInt32C_reads honest.versionSmall) thread
    (thread.oldOffset + kMaxVersion) versionField (by omega)
  have decodedSettings := decodeUpTo_reads (decodeSettings_reads honest)
    { thread with off := thread.off + (varU64 thread.threadProtocolVersion).length }
    (thread.oldOffset + kMaxVersion + kMaxSettings) settingsField (by dsimp only; omega)
  unfold processSettingsCmd decodeVersion
  rw [decodedVersion]
  dsimp only
  unfold negotiateVersion
  rw [if_pos rfl, go_bind]
  rw [decodedSettings]
  dsimp only
  rw [if_neg (not_not.mpr sameId.symm), noChunks, if_neg Bool.false_ne_true]
  obtain ⟨after, result, receiving, afterOff, reception⟩ := consumeCmd_receives
    { thread with
      off := thread.off + (varU64 thread.threadProtocolVersion).length +
        (settingsFields thread.threadProtocolVersion settings).length
      senderReadTimeout := settings.readTimeoutMillis
      senderWriteTimeout := settings.writeTimeoutMillis
      curConnectionVerified := true
      footerType := if settings.enableChecksum then .checksumFooter else .noFooter
      trace := thread.trace ++ [ReceiverEvent.acceptedSettings thread.threadProtocolVersion
        thread.threadProtocolVersion settings] }
    inCommand small rfl rfl rfl rfl (by
      dsimp only
      rw [off, cons_append, length_cons, length_append]
      omega)
  rw [result]
  refine ⟨after, rfl, receiving, afterOff, ?_⟩
  rw [reception]
  simp [ReceiverThread.reception, configure, Settings.footerType, ReceiverEvent.header,
    ReceiverEvent.writtenBytes, ReceiverEvent.verified]

theorem processDoneCmd_receives {status : Byte} {numBlocks : Nat}
    {buf : Memory Byte} (bounded : numBlocks ≤ int64Max) (boundedTotal : totalNumBytes ≤ int64Max)
    (inCommand : InCommand config thread
      (doneMessage thread.threadProtocolVersion status numBlocks totalNumBytes buf)) :
    ∃ after, thread.processDoneCmd = .go (after, .waitForFinish) ∧
      after.reception = thread.reception.done := by
  have least : kMinBufLength = 256 := rfl
  have longest : kMaxDone = 22 := rfl
  have enough := inCommand.enough
  have off := inCommand.off
  have short := doneFields_length_le thread.threadProtocolVersion numBlocks totalNumBytes
  obtain ⟨filler, shape, length⟩ := doneMessage_eq thread.threadProtocolVersion status numBlocks
    totalNumBytes buf
  have counted := inCommand.window.count_le_length
  have exactly : thread.numRead = kMinBufLength := by omega
  rw [shape] at inCommand
  have split : InCommand config thread (doneCmd :: ([status] ++
      doneFields thread.threadProtocolVersion numBlocks totalNumBytes) ++ filler) := inCommand
  obtain ⟨statusField, doneField⟩ := Memory.read_split (split.fields (by
    simp only [length_cons, length_append, length_nil]
    omega))
  obtain ⟨total, reads⟩ := decodeDone_reads thread.threadProtocolVersion bounded boundedTotal
  have decoded := decodeUpTo_reads reads { thread with off := thread.off + 1 }
    (thread.oldOffset + kMaxDone) doneField (by dsimp only; omega)
  unfold processDoneCmd
  dsimp only at decoded ⊢
  rw [if_neg (not_not.mpr exactly), decoded]
  refine ⟨_, rfl, ?_⟩
  simp [reception, done, consumeAll, consume, ReceiverEvent.header,
    ReceiverEvent.writtenBytes, ReceiverEvent.verified]

/-! ### The loop over the commands -/

end ReceiverThread

/-- The states between an accepted connection and its last word. -/
def ReceiverState.serves : ReceiverState → Bool
  | .readNextCmd => true
  | .processFileCmd => true
  | .processSettingsCmd => true
  | .processDoneCmd => true
  | .processSizeCmd => true
  | _ => false

namespace ReceiverThread

def serve (config : ReceiverConfig) (answers : ReceiverAnswers) :
    (rounds : Nat) → ReceiverAnswer → Except WdtCheck ReceiverAnswer
  | 0, current => .ok current
  | rounds + 1, current =>
    if current.2.serves then
      match step config answers current with
      | .ok next => serve config answers rounds next
      | .error check => .error check
    else .ok current

/-- The loop gets from the one to the other, where no command is being received. -/
def Serves (config : ReceiverConfig) (answers : ReceiverAnswers)
    (current final : ReceiverAnswer) : Prop :=
  ∃ rounds, serve config answers rounds current = .ok final ∧ final.2.serves = false

section Serve

variable {config : ReceiverConfig} {answers : ReceiverAnswers} {current next final : ReceiverAnswer}

theorem Serves.refl (stopped : final.2.serves = false) : Serves config answers final final :=
  ⟨0, rfl, stopped⟩

theorem Serves.of_next (serving : current.2.serves = true)
    (stepped : step config answers current = .ok next)
    (serves : Serves config answers next final) : Serves config answers current final := by
  obtain ⟨rounds, served, stopped⟩ := serves
  refine ⟨rounds + 1, ?_, stopped⟩
  unfold serve
  rw [if_pos serving, stepped]
  exact served

theorem serve_stopped (stopped : final.2.serves = false) (rounds : Nat) :
    serve config answers rounds final = .ok final := by
  cases rounds with
  | zero => rfl
  | succ rounds =>
    unfold serve
    rw [stopped, if_neg Bool.false_ne_true]

section

variable (serves : Serves config answers current final)

include serves

theorem Serves.step_inv (serving : current.2.serves = true) :
    ∃ next, step config answers current = .ok next ∧ Serves config answers next final := by
  obtain ⟨rounds, served, stopped⟩ := serves
  cases rounds with
  | zero =>
    cases served
    rw [serving] at stopped
    cases stopped
  | succ rounds =>
    unfold serve at served
    rw [if_pos serving] at served
    cases stepped : step config answers current with
    | error check =>
      rw [stepped] at served
      cases served
    | ok next =>
      rw [stepped] at served
      exact ⟨next, rfl, rounds, served, stopped⟩

theorem Serves.eq_of_stopped (stopped : current.2.serves = false) : final = current := by
  obtain ⟨rounds, served, _⟩ := serves
  rw [serve_stopped stopped] at served
  cases served
  rfl

theorem Serves.unique {other : ReceiverAnswer}
    (otherServes : Serves config answers current other) : final = other := by
  obtain ⟨rounds, served, stopped⟩ := serves
  induction rounds generalizing current with
  | zero =>
    cases served
    exact (otherServes.eq_of_stopped stopped).symm
  | succ rounds ih =>
    unfold serve at served
    by_cases serving : current.2.serves = true
    · rw [if_pos serving] at served
      obtain ⟨next, stepped, nextServes⟩ := otherServes.step_inv serving
      rw [stepped] at served
      exact ih nextServes served
    · rw [if_neg serving] at served
      cases served
      exact (otherServes.eq_of_stopped stopped).symm

end

theorem step_serving {thread : ReceiverThread} {state : ReceiverState}
    (running : answers.aborted = false) (serving : state.serves = true) :
    step config answers (thread, state) = (thread.stateFunction config answers state).settle := by
  unfold step
  rw [running]
  cases state with
  | ended => cases serving
  | _ => rfl

end Serve

end ReceiverThread

/-! ### Whole connections -/

theorem prefix_split {arrived : List Byte} (isPrefix : arrived <+: word ++ rest)
    (long : word.length ≤ arrived.length) : ∃ more, arrived = word ++ more ∧ more <+: rest := by
  obtain ⟨more, rfl⟩ := prefix_of_prefix_length_le (prefix_append word rest) isPrefix long
  exact ⟨more, rfl, (prefix_append_right_inj word).mp isPrefix⟩

theorem footerMessage_length_le (data : List Byte) : (footerMessage data).length ≤ 10 := by
  have number := varU64_length_le (encodeZigZag (toInt32 (crc32c 0 data)))
  rw [footerMessage_eq, length_cons]
  omega

theorem sizeMessage_length_le (totalNumBytes : Nat) : (sizeMessage totalNumBytes).length ≤ 11 := by
  have number := varU64_length_le totalNumBytes
  rw [sizeMessage_eq, length_cons]
  omega

theorem framesBytes_file (version : Nat) (footerType : FooterType) (command : FileCommand)
    (rest : List Frame) :
    framesBytes version footerType (.file command :: rest) = command.header version ++
      (command.data ++ ((if footerType = .checksumFooter then footerMessage command.data else []) ++
        framesBytes version footerType rest)) := by
  simp only [framesBytes, FileCommand.bytes, append_assoc]

theorem Reception.receiveFile_left {reception after : Reception} {details : BlockDetails}
    {data tail left : List Byte} (sized : data.length = details.dataSize)
    (isPrefix : tail <+: data ++
      ((if reception.footerType = .checksumFooter then footerMessage data else []) ++ rest))
    (received : reception.receiveFile details tail = (after, some left)) :
    left <+: rest ∧ after.footerType = reception.footerType ∧
      after.version = reception.version := by
  unfold receiveFile receiveBlock at received
  have sameFooters : ((reception.accept details).write details.fileName details.offset
      (tail.take details.dataSize)).footerType = reception.footerType := rfl
  dsimp only at received
  rw [sameFooters] at received
  split at received
  · cases received
  obtain ⟨behind, rfl, behindPrefix⟩ := prefix_split isPrefix (by omega)
  rw [← sized, drop_left, take_left] at received
  split at received
  · rename_i none
    cases received
    rw [none, if_neg (by simp)] at behindPrefix
    exact ⟨behindPrefix, rfl, rfl⟩
  rename_i footers
  rw [if_pos (FooterType.eq_checksumFooter footers)] at behindPrefix
  split at received
  · cases received
  cases received
  have least : kMinBufLength = 256 := rfl
  have short := footerMessage_length_le data
  obtain ⟨more, rfl, morePrefix⟩ := prefix_split behindPrefix (by omega)
  rw [drop_left]
  exact ⟨morePrefix, rfl, rfl⟩

theorem footed_of_arrived {footerType : FooterType} {details : BlockDetails}
    {data tail : List Byte} (sized : data.length = details.dataSize)
    (isPrefix : tail <+: data ++
      ((if footerType = .checksumFooter then footerMessage data else []) ++ rest)) :
    ReceiverThread.Footed footerType details tail := by
  intro footers long
  have least : kMinBufLength = 256 := rfl
  rw [length_drop] at long
  obtain ⟨behind, rfl, behindPrefix⟩ := prefix_split isPrefix (by omega)
  rw [← sized, drop_left, take_left]
  rw [if_pos footers] at behindPrefix
  have short := footerMessage_length_le data
  rw [length_append] at long
  obtain ⟨more, rfl, _⟩ := prefix_split behindPrefix (by omega)
  exact prefix_append _ _

namespace ReceiverThread

variable {config : ReceiverConfig} {answers : ReceiverAnswers} {thread : ReceiverThread}
  {version : Nat} {arrived : List Byte}

theorem serves_short (running : answers.aborted = false)
    (receiving : Receiving config thread arrived)
    (room : thread.off + kMinBufLength ≤ config.bufSize) (short : arrived.length < kMinBufLength) :
    ∃ after, Serves config answers (thread, .readNextCmd) (after, .acceptWithTimeout) ∧
      after.reception = thread.reception.fail .socketReadError := by
  obtain ⟨after, result, reception⟩ := readNextCmd_short receiving room short
  have stepped : step config answers (thread, .readNextCmd) = .ok (after, .acceptWithTimeout) := by
    rw [step_serving running rfl]
    exact congrArg settle result
  exact ⟨after, .of_next rfl stepped (.refl rfl), reception⟩

theorem serves_command {cmd : Byte} {state : ReceiverState}
    (running : answers.aborted = false) (receiving : Receiving config thread (cmd :: rest))
    (room : thread.off + kMinBufLength ≤ config.bufSize)
    (long : kMinBufLength ≤ (cmd :: rest).length) (known : dispatch cmd = some state)
    (serving : state.serves = true) :
    ∃ mid, InCommand config mid (cmd :: rest) ∧ mid.reception = thread.reception ∧
      mid.oldOffset = thread.off ∧
      ∀ next final, (mid.stateFunction config answers state).settle = .ok next →
        Serves config answers next final →
        Serves config answers (thread, .readNextCmd) final := by
  obtain ⟨mid, result, inCommand, reception, oldOffset⟩ :=
    readNextCmd_dispatches receiving room long known
  refine ⟨mid, inCommand, reception, oldOffset, fun next final answered serves => ?_⟩
  have dispatched : step config answers (thread, .readNextCmd) = .ok (mid, state) := by
    rw [step_serving running rfl]
    exact congrArg settle result
  have stepped : step config answers (mid, state) = .ok next := by
    rw [step_serving running serving]
    exact answered
  exact .of_next rfl dispatched (.of_next serving stepped serves)

/-- From one READ_NEXT_CMD to the next, over the bytes of `word`. -/
structure Passes (config : ReceiverConfig) (answers : ReceiverAnswers)
    (thread after : ReceiverThread) (word more : List Byte) : Prop where
  receiving : Receiving config after more
  off : after.off = thread.off + word.length
  serves : ∀ final, Serves config answers (after, .readNextCmd) final →
    Serves config answers (thread, .readNextCmd) final

section Commands

variable {more : List Byte} (running : answers.aborted = false)
  (room : thread.off + kMinBufLength ≤ config.bufSize)

include running room

theorem settings_passes {settings : Settings}
    (receivable : (Frame.settings settings).Receivable config thread.threadProtocolVersion)
    (receiving : Receiving config thread
      (settingsMessage thread.threadProtocolVersion settings ++ more))
    (long : kMinBufLength ≤
      (settingsMessage thread.threadProtocolVersion settings ++ more).length) :
    ∃ after, Passes config answers thread after
        (settingsMessage thread.threadProtocolVersion settings) more ∧
      after.reception = thread.reception.configure settings := by
  obtain ⟨honest, sameId, noChunks, small⟩ := receivable
  rw [settingsMessage_eq honest] at receiving long
  obtain ⟨mid, inCommand, reception, oldOffset, goOn⟩ :=
    serves_command running receiving room long rfl rfl
  have midVersion : mid.threadProtocolVersion = thread.threadProtocolVersion :=
    congrArg version reception
  rw [← midVersion] at honest small inCommand ⊢
  obtain ⟨after, result, afterReceiving, off, afterReception⟩ :=
    processSettingsCmd_receives honest sameId noChunks small
      (by rw [settingsMessage_eq honest]; exact inCommand)
  rw [reception] at afterReception
  rw [oldOffset] at off
  exact ⟨after, ⟨afterReceiving, off,
    fun final serves => goOn _ _ (congrArg settle result) serves⟩, afterReception⟩

theorem size_passes (bounded : totalNumBytes ≤ int64Max)
    (receiving : Receiving config thread (sizeMessage totalNumBytes ++ more))
    (long : kMinBufLength ≤ (sizeMessage totalNumBytes ++ more).length) :
    ∃ after, Passes config answers thread after (sizeMessage totalNumBytes) more ∧
      after.reception = thread.reception := by
  have shape := sizeMessage_eq totalNumBytes
  rw [shape] at receiving long
  obtain ⟨mid, inCommand, reception, oldOffset, goOn⟩ :=
    serves_command running receiving room long rfl rfl
  obtain ⟨after, result, afterReceiving, off, afterReception⟩ :=
    processSizeCmd_receives bounded (by rw [shape]; exact inCommand)
  rw [reception] at afterReception
  rw [oldOffset] at off
  exact ⟨after, ⟨afterReceiving, off,
    fun final serves => goOn _ _ (congrArg settle result) serves⟩, afterReception⟩

theorem done_serves {status : Byte} {numBlocks : Nat} {buf : Memory Byte}
    (bounded : numBlocks ≤ int64Max) (boundedTotal : totalNumBytes ≤ int64Max)
    (receiving : Receiving config thread
      (doneMessage thread.threadProtocolVersion status numBlocks totalNumBytes buf)) :
    ∃ after, Serves config answers (thread, .readNextCmd) (after, .waitForFinish) ∧
      after.reception = thread.reception.done := by
  obtain ⟨filler, shape, length⟩ := doneMessage_eq thread.threadProtocolVersion status numBlocks
    totalNumBytes buf
  rw [shape] at receiving length
  obtain ⟨mid, inCommand, reception, _, goOn⟩ :=
    serves_command running receiving room length.ge rfl rfl
  have midVersion : mid.threadProtocolVersion = thread.threadProtocolVersion :=
    congrArg version reception
  obtain ⟨after, result, afterReception⟩ := processDoneCmd_receives bounded boundedTotal
    (by rw [midVersion, shape]; exact inCommand)
  rw [reception] at afterReception
  exact ⟨after, goOn _ _ (congrArg settle result) (.refl rfl), afterReception⟩

theorem file_serves {command : FileCommand} (succeed : answers.file.Succeed)
    (writes : config.options.skipWrites = false)
    (honest : command.Honest thread.threadProtocolVersion)
    (small : (command.header thread.threadProtocolVersion).length ≤ kMinBufLength)
    (receiving : Receiving config thread (command.header thread.threadProtocolVersion ++ more))
    (long : kMinBufLength ≤ (command.header thread.threadProtocolVersion ++ more).length)
    (footed : Footed thread.footerType command.details more) :
    match thread.reception.receiveFile command.details more with
    | (reception, none) =>
      ∃ after, Serves config answers (thread, .readNextCmd) (after, .acceptWithTimeout) ∧
        after.reception = reception
    | (reception, some left) =>
      ∃ after, Receiving config after left ∧ after.off + 4086 ≤ config.bufSize ∧
        after.reception = reception ∧
        ∀ final, Serves config answers (after, .readNextCmd) final →
          Serves config answers (thread, .readNextCmd) final := by
  obtain ⟨mid, inCommand, reception, _, goOn⟩ := serves_command running receiving room long rfl rfl
  have midVersion : mid.threadProtocolVersion = thread.threadProtocolVersion :=
    congrArg Reception.version reception
  have midFooters : mid.footerType = thread.footerType := congrArg Reception.footerType reception
  have reached := processFileCmd_receives (midVersion.symm ▸ honest.details) succeed
    (fun _ => writes)
    (by rw [midVersion]; exact inCommand) (by rw [midVersion]; exact small)
    (midFooters.symm ▸ footed)
  rw [reception] at reached
  cases received : thread.reception.receiveFile command.details more with
  | mk result left =>
    rw [received] at reached
    cases left with
    | none =>
      obtain ⟨after, answered, afterReception⟩ := reached
      exact ⟨after, goOn _ _ answered (.refl rfl), afterReception⟩
    | some left =>
      obtain ⟨after, answered, afterReception, afterReceiving, near⟩ := reached
      exact ⟨after, afterReceiving, near, afterReception,
        fun final serves => goOn _ _ answered serves⟩

end Commands

theorem receiveFrames_serves (running : answers.aborted = false) (succeed : answers.file.Succeed)
    (writes : config.options.skipWrites = false) (frames : List Frame)
    (stream : Stream config version frames) (sameVersion : thread.threadProtocolVersion = version)
    (receiving : Receiving config thread arrived)
    (room : thread.off + (frames.map (Frame.smallLength version)).sum + kMinBufLength ≤
      config.bufSize)
    (isPrefix : arrived <+: framesBytes version thread.footerType frames) :
    ∃ after, Serves config answers (thread, .readNextCmd)
        (after, (thread.reception.receiveFrames version frames arrived).2) ∧
      after.reception = (thread.reception.receiveFrames version frames arrived).1 := by
  have least : kMinBufLength = 256 := rfl
  induction frames generalizing thread arrived with
  | nil =>
    have none : arrived = [] := prefix_nil.mp isPrefix
    exact serves_short running receiving (by omega) (by rw [none]; decide)
  | cons frame rest ih =>
    have budget := stream.tail.small
    rw [map_cons, sum_cons] at room
    by_cases short : arrived.length < kMinBufLength
    · rw [Reception.receiveFrames_short _ _ _ short]
      exact serves_short running receiving (by omega) short
    have receivable := stream.receivable frame mem_cons_self
    subst sameVersion
    cases frame with
    | settings settings =>
      have small := receivable.2.2.2
      obtain ⟨more, rfl, morePrefix⟩ := prefix_split isPrefix (by omega)
      obtain ⟨after, passes, reception⟩ := settings_passes running (by omega) receivable
        receiving (not_lt.mp short)
      have footers : after.footerType = settings.footerType :=
        congrArg Reception.footerType reception
      have off := passes.off
      have length : Frame.smallLength thread.threadProtocolVersion (.settings settings) =
        (settingsMessage thread.threadProtocolVersion settings).length := rfl
      obtain ⟨final, serves, finalReception⟩ := ih stream.tail
        (congrArg Reception.version reception) passes.receiving (by omega)
        (by rw [footers]; exact morePrefix)
      simp only [Reception.receiveFrames, if_neg short, drop_left]
      rw [← reception]
      exact ⟨final, passes.serves _ serves, finalReception⟩
    | size totalNumBytes =>
      have length := sizeMessage_length_le totalNumBytes
      obtain ⟨more, rfl, morePrefix⟩ := prefix_split isPrefix (by omega)
      obtain ⟨after, passes, reception⟩ := size_passes running (by omega) receivable
        receiving (not_lt.mp short)
      have footers : after.footerType = thread.footerType :=
        congrArg Reception.footerType reception
      have off := passes.off
      have counted : Frame.smallLength thread.threadProtocolVersion (.size totalNumBytes) =
        (sizeMessage totalNumBytes).length := rfl
      obtain ⟨final, serves, finalReception⟩ := ih stream.tail
        (congrArg Reception.version reception) passes.receiving (by omega)
        (by rw [footers]; exact morePrefix)
      simp only [Reception.receiveFrames, if_neg short, drop_left]
      rw [← reception]
      exact ⟨final, passes.serves _ serves, finalReception⟩
    | file command =>
      obtain ⟨honest, small⟩ := receivable
      rw [framesBytes_file] at isPrefix
      obtain ⟨more, rfl, morePrefix⟩ := prefix_split isPrefix (by omega)
      have served := file_serves running (by omega) succeed writes honest small receiving
        (not_lt.mp short) (footed_of_arrived honest.data morePrefix)
      simp only [Reception.receiveFrames, if_neg short, drop_left]
      cases received : thread.reception.receiveFile command.details more with
      | mk result left =>
        rw [received] at served
        cases left with
        | none => exact served
        | some left =>
          obtain ⟨after, afterReceiving, near, rfl, goOn⟩ := served
          obtain ⟨leftPrefix, footers, sameVersion⟩ :=
            Reception.receiveFile_left honest.data morePrefix received
          have sameFooters : after.footerType = thread.footerType := footers
          obtain ⟨final, serves, finalReception⟩ := ih stream.tail sameVersion
            afterReceiving (by omega) (by rw [sameFooters]; exact leftPrefix)
          exact ⟨final, goOn _ serves, finalReception⟩
    | done status numBlocks totalNumBytes buf =>
      have last := stream.done_alone rfl
      subst last
      obtain ⟨filler, shape, length⟩ := doneMessage_eq thread.threadProtocolVersion status
        numBlocks totalNumBytes buf
      obtain ⟨more, rfl, morePrefix⟩ := prefix_split isPrefix (by omega)
      have none : more = [] := prefix_nil.mp morePrefix
      subst none
      rw [append_nil] at receiving
      exact done_serves running (by omega) receivable.1 receivable.2 receiving

end ReceiverThread

end Wdt
