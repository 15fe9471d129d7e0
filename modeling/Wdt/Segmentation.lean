/-
Parsing and segmentation. A stream of honest FILE commands and a DONE is received
faithfully, whatever reads it arrives in, exactly when no header is longer than 256
bytes: a longer header that arrives in two pieces is read to the wrong place.
-/

import Wdt.StreamReception
import Wdt.ReceiverSkeleton

namespace Wdt

open List Outcome Memory

/-! ### A header whose last byte is a stale one -/

/-- A continuation byte, and as flags the status of a file that is too large. -/
def staleByte : Byte := 0x82

theorem decodeInt64C_spoiled (value : Nat) :
    (decodeInt64C ((varU64 value).dropLast ++ [staleByte])).1 = none := by
  unfold decodeInt64C Decoder.filter Decoder.bind
  cases decoded : decodeUInt64 ((varU64 value).dropLast ++ [staleByte]) with
  | mk result rest =>
    cases result with
    | none => rfl
    | some result =>
      have large : 128 ^ 9 ≤ result :=
        VarInt.le_of_decode_spoiled (by decide) 8 value (congrArg Prod.fst decoded)
      have rejected : decide (result ≤ int64Max) = false := by
        unfold int64Max
        rw [decide_eq_false_iff_not]
        omega
      simp only [rejected]
      rfl

theorem decodeBlock_spoiled {version : Nat} {details : BlockDetails}
    (honest : details.Honest version) :
    (decodeBlock (varU64 details.fileName.length ++ details.fileName ++ varU64 details.seqId ++
      varU64 details.dataSize ++ varU64 details.offset ++
      ((varU64 details.fileSize).dropLast ++ [staleByte]))).1 = none := by
  have short : details.fileName.length < 2 ^ 64 := by
    have fits := honest.fits
    unfold headerFields kMaxHeader pathMax at fits
    simp only [length_append] at fits
    omega
  have spoiled := decodeInt64C_spoiled details.fileSize
  unfold decodeBlock Decoder.bind
  simp only [append_assoc]
  rw [← append_assoc (varU64 details.fileName.length), decodeString_reads short]
  dsimp only
  rw [decodeInt64C_reads honest.seqId]
  dsimp only
  rw [decodeInt64C_reads honest.dataSize]
  dsimp only
  rw [decodeInt64C_reads honest.offset]
  dsimp only
  cases decoded : decodeInt64C ((varU64 details.fileSize).dropLast ++ [staleByte]) with
  | mk result rest =>
    rw [decoded] at spoiled
    cases spoiled
    rfl

theorem decodePrevSeqId_spoiled {details : BlockDetails}
    (carries : details.allocationStatus.carriesPrevSeqId = true) {range : List Byte}
    (spoiled : (decodeInt64C range).1 = none) : (decodePrevSeqId details range).1 = none := by
  unfold decodePrevSeqId
  rw [if_pos carries]
  unfold Decoder.map Decoder.bind
  cases decoded : decodeInt64C range with
  | mk result rest =>
    rw [decoded] at spoiled
    cases spoiled
    rfl

theorem decodeHeader_spoiled {version : Nat} {details : BlockDetails}
    (honest : details.Honest version) :
    (decodeHeader version ((headerFields version details).dropLast ++ [staleByte])).1 = none := by
  unfold decodeHeader headerFields
  by_cases flags : headerFlagAndPrevSeqIdVersion ≤ version
  · rw [if_pos flags, dropLast_append_of_ne_nil (cons_ne_nil _ _), append_assoc,
      decodeBlock_reads honest.inRange]
    dsimp only
    rw [if_pos flags]
    by_cases carries : details.allocationStatus.carriesPrevSeqId = true
    · rw [if_pos carries, dropLast_cons_of_ne_nil (varU64_ne_nil _), cons_append]
      have status : FileAllocationStatus.ofFlags details.allocationStatus.toFlags =
          details.allocationStatus := FileAllocationStatus.ofFlags_toFlags honest.named
      apply decodePrevSeqId_spoiled
      · rw [status]
        exact carries
      · exact decodeInt64C_spoiled _
    · -- the flags byte itself is stale, and announces a number that is not there
      rw [if_neg carries, dropLast_singleton, nil_append]
      apply decodePrevSeqId_spoiled
      · rfl
      · rfl
  · rw [if_neg flags, append_nil, dropLast_append_of_ne_nil (varU64_ne_nil _),
      append_assoc]
    have spoiled := decodeBlock_spoiled honest
    cases decoded : decodeBlock (varU64 details.fileName.length ++ details.fileName ++
        varU64 details.seqId ++ varU64 details.dataSize ++ varU64 details.offset ++
        ((varU64 details.fileSize).dropLast ++ [staleByte])) with
    | mk result rest =>
      rw [decoded] at spoiled
      cases spoiled
      rfl

/-! ### Faithful reception -/

def fileStream (version : Nat) (footerType : FooterType) (commands : List FileCommand)
    (done : List Byte) : List Byte :=
  (commands.map (FileCommand.bytes version footerType)).flatten ++ done

namespace ReceiverThread

/-- A thread at READ_NEXT_CMD to which `stream` is delivered, in reads of any sizes and into
whatever the buffer holds; some of it may have come with an earlier command. -/
structure Handed (config : ReceiverConfig) (version : Nat) (footerType : FooterType)
    (stream : List Byte) (thread : ReceiverThread) : Prop where
  receiving : Receiving config thread stream
  room : thread.off + kMinBufLength ≤ config.bufSize
  sameVersion : thread.threadProtocolVersion = version
  sameFooters : thread.footerType = footerType
  noError : thread.threadStats.localErrCode = .ok

/-- The thread gets to the end of the stream without an error, having decoded the headers and
written the bytes that were sent. -/
def ReceivesFaithfully (config : ReceiverConfig) (answers : ReceiverAnswers)
    (thread : ReceiverThread) (commands : List FileCommand) : Prop :=
  ∃ after, Serves config answers (thread, .readNextCmd) (after, .waitForFinish) ∧
    after.threadStats.localErrCode = .ok ∧
    after.reception.headers = thread.reception.headers ++ commands.map FileCommand.details ∧
    after.reception.written = thread.reception.written ++
      (commands.map fun command =>
        bytesAt command.details.fileName command.details.offset command.data).flatten

end ReceiverThread

namespace Reception

theorem receiveFile_complete (reception : Reception) {details : BlockDetails}
    {data rest : List Byte} (sized : data.length = details.dataSize)
    (long : kMinBufLength ≤ rest.length) :
    reception.receiveFile details (data ++
        ((if reception.footerType = .checksumFooter then footerMessage data else []) ++ rest)) =
      (((reception.accept details).write details.fileName details.offset data).verify details,
        some rest) := by
  unfold receiveFile receiveBlock
  have sameFooters : ((reception.accept details).write details.fileName details.offset
      data).footerType = reception.footerType := rfl
  rw [← sized, take_left, drop_left, if_neg (by rw [length_append]; omega),
    sameFooters]
  cases kind : reception.footerType with
  | noFooter =>
    rw [if_pos rfl, if_neg (by simp), nil_append]
  | checksumFooter =>
    rw [if_neg (by simp), if_pos rfl, if_neg (by rw [length_append]; omega), drop_left]

theorem receiveFrames_whole {version : Nat} {commands : List FileCommand}
    (honest : ∀ command ∈ commands, command.Honest version)
    (status : Byte) (numBlocks totalNumBytes : Nat) (buf : Memory Byte) (reception : Reception) :
    ∃ after, reception.receiveFrames version
        (commands.map Frame.file ++ [.done status numBlocks totalNumBytes buf])
        (fileStream version reception.footerType commands
          (doneMessage version status numBlocks totalNumBytes buf)) = (after, .waitForFinish) ∧
      after.localErrCode = reception.localErrCode ∧
      after.headers = reception.headers ++ commands.map FileCommand.details ∧
      after.written = reception.written ++
        (commands.map fun command =>
          bytesAt command.details.fileName command.details.offset command.data).flatten := by
  obtain ⟨filler, _, length⟩ := doneMessage_eq version status numBlocks totalNumBytes buf
  induction commands generalizing reception with
  | nil =>
    refine ⟨reception.done, ?_, rfl, ?_, ?_⟩
    · simp only [map_nil, nil_append, fileStream, flatten_nil, receiveFrames,
        length, if_neg (lt_irrefl kMinBufLength)]
    · simp [done]
    · simp [done]
  | cons command commands ih =>
    have commandHonest := honest command mem_cons_self
    have shape : fileStream version reception.footerType (command :: commands)
        (doneMessage version status numBlocks totalNumBytes buf) =
        command.header version ++ (command.data ++
          ((if reception.footerType = .checksumFooter then footerMessage command.data else []) ++
            fileStream version reception.footerType commands
              (doneMessage version status numBlocks totalNumBytes buf))) := by
      simp only [fileStream, FileCommand.bytes, map_cons, flatten_cons, append_assoc]
    have restLong : kMinBufLength ≤ (fileStream version reception.footerType commands
        (doneMessage version status numBlocks totalNumBytes buf)).length := by
      rw [fileStream, length_append, length]
      exact Nat.le_add_left _ _
    have long : ¬ (fileStream version reception.footerType (command :: commands)
        (doneMessage version status numBlocks totalNumBytes buf)).length < kMinBufLength := by
      rw [shape]
      simp only [length_append]
      omega
    obtain ⟨after, result, code, headers, written⟩ := ih
      (forall_mem_cons.mp honest).2
      (((reception.accept command.details).write command.details.fileName
        command.details.offset command.data).verify command.details)
    refine ⟨after, ?_, code, ?_, ?_⟩
    · simp only [map_cons, cons_append, receiveFrames, if_neg long]
      rw [shape, drop_left, receiveFile_complete reception commandHonest.data restLong]
      exact result
    · rw [headers]
      simp [verify, write, accept]
    · rw [written]
      simp [verify, write, accept]

end Reception

section Files

variable {config : ReceiverConfig} {version : Nat} {footerType : FooterType}
  {commands : List FileCommand} {status : Byte} {numBlocks totalNumBytes : Nat}
  {buf : Memory Byte}

theorem framesBytes_files (commands : List FileCommand) : framesBytes version footerType
        (commands.map Frame.file ++ [.done status numBlocks totalNumBytes buf]) =
      fileStream version footerType commands
        (doneMessage version status numBlocks totalNumBytes buf) := by
  induction commands with
  | nil => simp [framesBytes, fileStream]
  | cons command commands ih =>
    simp only [map_cons, cons_append, framesBytes, ih, fileStream, flatten_cons,
      append_assoc]

theorem smallLength_files (commands : List FileCommand) :
    ((commands.map Frame.file ++ [Frame.done status numBlocks totalNumBytes buf]).map
      (Frame.smallLength version)).sum = 0 := by
  induction commands with
  | nil => rfl
  | cons command commands ih =>
    rw [map_cons, cons_append, map_cons, sum_cons, ih]
    rfl

theorem stream_files (honest : ∀ command ∈ commands, command.Honest version)
    (small : ∀ command ∈ commands, (command.header version).length ≤ kMinBufLength)
    (bounded : numBlocks ≤ int64Max) (boundedTotal : totalNumBytes ≤ int64Max) :
    Stream config version
      (commands.map Frame.file ++ [.done status numBlocks totalNumBytes buf]) := by
  refine ⟨?_, ?_, ?_⟩
  · intro frame member
    rcases mem_append.mp member with file | done
    · obtain ⟨command, commandMember, rfl⟩ := mem_map.mp file
      exact ⟨honest command commandMember, small command commandMember⟩
    · cases mem_singleton.mp done
      exact ⟨bounded, boundedTotal⟩
  · intro frame member
    rw [dropLast_concat] at member
    obtain ⟨command, _, rfl⟩ := mem_map.mp member
    rfl
  · rw [smallLength_files]
    exact Nat.zero_le _

theorem ReceiverThread.short_headers_receive_faithfully {answers : ReceiverAnswers}
    {thread : ReceiverThread} (running : answers.aborted = false) (succeed : answers.file.Succeed)
    (writes : config.options.skipWrites = false)
    (honest : ∀ command ∈ commands, command.Honest version)
    (small : ∀ command ∈ commands, (command.header version).length ≤ kMinBufLength)
    (bounded : numBlocks ≤ int64Max) (boundedTotal : totalNumBytes ≤ int64Max)
    (handed : Handed config version footerType (fileStream version footerType commands
      (doneMessage version status numBlocks totalNumBytes buf)) thread) :
    ReceivesFaithfully config answers thread commands := by
  obtain ⟨receiving, room, rfl, rfl, noError⟩ := handed
  have stream : Stream config thread.threadProtocolVersion
      (commands.map Frame.file ++ [.done status numBlocks totalNumBytes buf]) :=
    stream_files honest small bounded boundedTotal
  obtain ⟨after, serves, reception⟩ := receiveFrames_serves running succeed writes _ stream rfl
    receiving (by rw [smallLength_files]; exact room)
    (by rewrite [framesBytes_files]; exact prefix_rfl)
  obtain ⟨result, received, code, headers, written⟩ := Reception.receiveFrames_whole honest status
    numBlocks totalNumBytes buf thread.reception
  have sameFooters : thread.reception.footerType = thread.footerType := rfl
  rw [sameFooters] at received
  rw [received] at serves reception
  subst reception
  exact ⟨after, serves, code.trans noError, headers, written⟩

end Files

/-! ### A long header in two pieces -/

/-- The header comes without its last byte, which arrives alone. -/
def splitBeforeLast (header rest : List Byte) : List Segment :=
  [{ bytes := header.dropLast }, { bytes := header.drop (header.length - 1) }, { bytes := rest }]

/-- A thread with a stale buffer that receives a header in two pieces. -/
def staleThread (version : Nat) (footerType : FooterType) (header rest : List Byte) :
    ReceiverThread where
  buf := fun _ => staleByte
  connection := { segments := splitBeforeLast header rest }
  threadProtocolVersion := version
  footerType := footerType

namespace ReceiverThread

section Stale

variable {config : ReceiverConfig} {version : Nat} {footerType : FooterType} {status : Byte}
  {details : BlockDetails} {rest : List Byte}

theorem headerFields_ne_nil (version : Nat) (details : BlockDetails) :
    headerFields version details ≠ [] := by
  unfold headerFields
  have nonempty := varU64_ne_nil details.fileName.length
  simp [nonempty]

theorem readAtLeast_once {thread after : ReceiverThread} {count : Nat}
    (start max atLeast len : Nat) (missing : len < atLeast) (room : atLeast ≤ max)
    (enough : atLeast ≤ len + count)
    (read : thread.socketRead (start + len) (max - len) = (((count : Nat) : Int), after)) :
    thread.readAtLeast start max atLeast len = .go (((len + count : Nat) : Int), after) := by
  obtain ⟨rounds, counted⟩ : ∃ rounds, ((atLeast : Int) - len).toNat = rounds + 1 :=
    ⟨atLeast - len - 1, by omega⟩
  have looped : readAtLeastLoop start max atLeast (rounds + 1) thread len =
      (((len + count : Nat) : Int), after) := by
    unfold readAtLeastLoop
    rw [if_pos missing, read]
    dsimp only
    rw [if_neg (by omega), if_neg (by omega), Int.toNat_natCast]
    cases rounds with
    | zero => rfl
    | succ rounds =>
      unfold readAtLeastLoop
      rw [if_neg (by omega)]
  have positive : 0 < atLeast := by omega
  unfold readAtLeast
  simp only [check, Int.natCast_nonneg, decide_true, if_true, Int.natCast_pos, positive,
    Int.ofNat_le, room, Int.toNat_natCast, counted, looped]

theorem headerBytes_dropLast (version : Nat) (status : Byte) (details : BlockDetails) :
    (headerBytes version status details).dropLast =
      (fileCmd :: status :: leBytes 2 (headerBytes version status details).length) ++
        (headerFields version details).dropLast := by
  rw [headerBytes_length]
  unfold headerBytes
  rw [dropLast_append_of_ne_nil (headerFields_ne_nil version details)]

/-- In PROCESS_FILE_CMD, one byte short of the header. -/
def staleCommand (version : Nat) (footerType : FooterType) (header rest : List Byte) :
    ReceiverThread :=
  { staleThread version footerType header rest with
    buf := (staleThread version footerType header rest).buf.store 0 header.dropLast
    connection :=
      { segments := [{ bytes := header.drop (header.length - 1) }, { bytes := rest }]
        delivered := header.dropLast }
    numRead := (header.length - 1 : Nat)
    off := 1 }

theorem staleThread_dispatches (honest : details.Honest version)
    (long : kMinBufLength < (headerBytes version status details).length) :
    (staleThread version footerType (headerBytes version status details) rest).readNextCmd config =
      .go (staleCommand version footerType (headerBytes version status details) rest,
        .processFileCmd) := by
  have least : kMinBufLength = 256 := rfl
  have bufSize := config.bufSize_ge
  have fits : (headerBytes version status details).length ≤ 4150 := by
    rw [headerBytes_length]
    exact honest.fits
  have front := headerBytes_dropLast version status details
  generalize headerBytes version status details = header at *
  have length : header.dropLast.length = header.length - 1 := length_dropLast
  have all : header.dropLast.take config.bufSize = header.dropLast := by
    apply take_of_length_le
    omega
  have none : header.dropLast.drop config.bufSize = [] := by
    apply drop_eq_nil_of_le
    omega
  have first : (staleThread version footerType header rest).socketRead 0 config.bufSize =
      (((header.length - 1 : Nat) : Int), (staleThread version footerType header rest).withReads
          ((staleThread version footerType header rest).buf.store 0 header.dropLast)
          { segments := [{ bytes := header.drop (header.length - 1) }, { bytes := rest }]
            delivered := header.dropLast }) := by
    unfold socketRead staleThread splitBeforeLast
    dsimp only
    rw [all, none, length]
    rfl
  have read := readAtLeast_once 0 config.bufSize kMinBufLength 0 (by omega) (by omega) (by omega)
    first
  have cmd : (staleThread version footerType header rest).buf.store 0 header.dropLast 0 =
      fileCmd := by
    have content := read_store (staleThread version footerType header rest).buf 0
      header.dropLast
    rw [front] at content ⊢
    exact apply_eq_of_read content
  change ((staleThread version footerType header rest).readAtLeast 0 (config.bufSize - (0 : Nat))
    kMinBufLength (0 : Nat)).bind _ = _
  rw [show (config.bufSize : Int) - ((0 : Nat) : Int) = config.bufSize by omega, read,
    go_bind, Nat.zero_add]
  dsimp only
  rw [if_neg (by omega)]
  have dispatched : (staleThread version footerType header rest).off = 0 := rfl
  simp only [dispatched, cmd]
  rfl

/-- In PROCESS_FILE_CMD at the front of the buffer, with a stale byte where the last one of the
header should be, which is the next to arrive. -/
structure LacksLastByte (thread : ReceiverThread) (header : List Byte) : Prop where
  numRead : thread.numRead = (header.length - 1 : Nat)
  oldOffset : thread.oldOffset = 0
  content : thread.buf.read 0 (header.length - 1) = header.dropLast
  stale : thread.buf (header.length - 1) = staleByte
  arrives : ∃ byte more, thread.connection.segments = { bytes := [byte] } :: more

variable {thread : ReceiverThread}

variable {header : List Byte}

theorem fetchHeader_gap (lacks : LacksLastByte thread header) (long : kMinBufLength < header.length)
    (room : (header.length : Int) ≤ config.bufSize - (header.length - 1 : Nat)) :
    ∃ after, thread.fetchHeader config header.length = .go after ∧
      after.numRead = header.length ∧ after.oldOffset = 0 ∧ after.off = thread.off ∧
      after.threadProtocolVersion = thread.threadProtocolVersion ∧
      after.buf.read 0 header.length = header.dropLast ++ [staleByte] := by
  have least : kMinBufLength = 256 := rfl
  obtain ⟨byte, more, arrives⟩ := lacks.arrives
  obtain ⟨space, exactly, bounded⟩ : ∃ space : Nat,
      (config.bufSize : Int) - (header.length - 1 : Nat) = space ∧ header.length ≤ space :=
    ⟨config.bufSize - (header.length - 1), by omega, by omega⟩
  have taken : [byte].take (space - (header.length - 1)) = [byte] := by
    apply take_of_length_le
    rw [length_singleton]
    omega
  have left : [byte].drop (space - (header.length - 1)) = [] := by
    apply drop_eq_nil_of_le
    rw [length_singleton]
    omega
  have read : thread.socketRead (header.length - 1 + (header.length - 1))
      (space - (header.length - 1)) = (((1 : Nat) : Int),
        { thread with
          buf := thread.buf.store (header.length - 1 + (header.length - 1)) [byte]
          connection :=
            { thread.connection with
              segments := more
              delivered := thread.connection.delivered ++ [byte] } }) := by
    unfold socketRead
    rw [arrives]
    dsimp only
    rw [taken, left]
    rfl
  have once := readAtLeast_once (header.length - 1) space header.length (header.length - 1)
    (by omega) bounded (by omega) read
  have start : ((0 : Nat) + ((header.length - 1 : Nat) : Int)).toNat = header.length - 1 := by omega
  have stop : (config.bufSize : Int) - ((0 : Nat) + ((header.length - 1 : Nat) : Int)) = space := by
    omega
  unfold fetchHeader
  dsimp only
  rw [lacks.numRead, lacks.oldOffset, if_pos (by omega), start, stop, once, go_bind]
  refine ⟨_, rfl, ?_, lacks.oldOffset, rfl, rfl, ?_⟩
  · dsimp only
    omega
  · rw [read_store_before _ _ (by omega)]
    have split : header.length = header.length - 1 + 1 := by omega
    rw [split, read_add, lacks.content]
    simp only [Memory.read, Nat.zero_add, lacks.stale]

theorem decodeFileHeader_gap (honest : details.Honest thread.threadProtocolVersion)
    (headerLen : Nat)
    (numRead : thread.numRead = (headerBytes thread.threadProtocolVersion status details).length)
    (oldOffset : thread.oldOffset = 0) (off : thread.off = 4)
    (content : thread.buf.read 0 (headerBytes thread.threadProtocolVersion status details).length =
      (headerBytes thread.threadProtocolVersion status details).dropLast ++ [staleByte]) :
    ∃ after, thread.decodeFileHeader headerLen = .leave (after, .finishWithError) := by
  have spoiled := decodeHeader_spoiled honest
  have length := headerBytes_length thread.threadProtocolVersion status details
  have range : thread.buf.read 4
      ((headerBytes thread.threadProtocolVersion status details).length - 4) =
      (headerFields thread.threadProtocolVersion details).dropLast ++ [staleByte] := by
    have back := congrArg (drop 4) content
    rw [read_drop _ _ (by omega), headerBytes_dropLast] at back
    exact back
  have stop : (thread.numRead + thread.oldOffset).toNat - thread.off =
      (headerBytes thread.threadProtocolVersion status details).length - 4 := by omega
  unfold decodeFileHeader decodeUpTo
  rw [stop, off, range]
  dsimp only
  cases decoded : decodeHeader thread.threadProtocolVersion
      ((headerFields thread.threadProtocolVersion details).dropLast ++ [staleByte]) with
  | mk result rest =>
    rw [decoded] at spoiled
    cases spoiled
    split
    · exact ⟨_, rfl⟩
    · exact ⟨_, rfl⟩

theorem fetchHeader_crashes (lacks : LacksLastByte thread header)
    (long : kMinBufLength < header.length)
    (noRoom : ¬ (header.length : Int) ≤ config.bufSize - (header.length - 1 : Nat)) :
    ∃ check, thread.fetchHeader config header.length = .crash check := by
  have stop : (config.bufSize : Int) - ((0 : Nat) + ((header.length - 1 : Nat) : Int)) =
      config.bufSize - (header.length - 1 : Nat) := by omega
  have positive : 0 < header.length := by omega
  unfold fetchHeader
  dsimp only
  rw [lacks.numRead, lacks.oldOffset, if_pos (by omega), stop]
  unfold readAtLeast
  simp only [check, Int.natCast_nonneg, decide_true, if_true, Int.natCast_pos, positive,
    noRoom, decide_false, Bool.false_eq_true, if_false, crash_bind]
  exact ⟨_, rfl⟩

theorem processFileCmd_gap {answers : FileAnswers}
    (honest : details.Honest thread.threadProtocolVersion)
    (lacks : LacksLastByte thread (headerBytes thread.threadProtocolVersion status details))
    (off : thread.off = 1)
    (long : kMinBufLength < (headerBytes thread.threadProtocolVersion status details).length)
    {next : ReceiverAnswer} (answered : (thread.processFileCmd config answers).settle = .ok next) :
    next.2 = .finishWithError := by
  have least : kMinBufLength = 256 := rfl
  have fits : (headerBytes thread.threadProtocolVersion status details).length ≤ 4150 := by
    rw [headerBytes_length]
    exact honest.fits
  have lengthBytes : thread.buf.read 2 2 =
      leBytes 2 (headerBytes thread.threadProtocolVersion status details).length := by
    have middle := congrArg (fun word => (drop 2 word).take 2) lacks.content
    rw [read_drop _ _ (by omega), read_take _ _ (by omega), headerBytes_dropLast]
      at middle
    exact middle
  have loaded := loadInt16_leBytes lengthBytes (by omega)
  have moved : LacksLastByte { thread with
      checkpoint := thread.checkpoint.resetLastBlockDetails, off := 2 }
      (headerBytes thread.threadProtocolVersion status details) := { lacks with }
  unfold processFileCmd readFileHeader at answered
  dsimp only at answered
  rw [off, loaded, if_neg (by omega)] at answered
  by_cases room : ((headerBytes thread.threadProtocolVersion status details).length : Int) ≤
      config.bufSize - ((headerBytes thread.threadProtocolVersion status details).length - 1 : Nat)
  · obtain ⟨after, fetched, numRead, oldOffset, afterOff, version, content⟩ :=
      fetchHeader_gap moved long room
    rw [fetched] at answered
    simp only [go_bind] at answered
    rw [if_neg (by omega), go_bind, Int.toNat_natCast] at answered
    rw [afterOff] at answered
    rw [← version] at honest numRead content answered
    obtain ⟨final, failed⟩ := @decodeFileHeader_gap status details { after with off := 4 } honest
      (headerBytes after.threadProtocolVersion status details).length numRead oldOffset rfl content
    rw [failed] at answered
    cases answered
    rfl
  · obtain ⟨check, crashed⟩ := fetchHeader_crashes moved long room
    rw [crashed] at answered
    cases answered

theorem staleCommand_lacks (long : kMinBufLength < header.length) :
    LacksLastByte (staleCommand version footerType header rest) header := by
  have length : header.dropLast.length = header.length - 1 := length_dropLast
  refine ⟨rfl, rfl, ?_, ?_, ?_⟩
  · have stored := read_store (staleThread version footerType header rest).buf 0
      header.dropLast
    rw [length] at stored
    exact stored
  · exact store_apply_of_le _ _ (by rw [length, Nat.zero_add])
  · have single : (header.drop (header.length - 1)).length = 1 := by
      rw [length_drop]
      omega
    obtain ⟨byte, last⟩ := length_eq_one_iff.mp single
    refine ⟨byte, [{ bytes := rest }], ?_⟩
    rw [← last]
    rfl

theorem staleThread_handed (long : kMinBufLength < header.length) (more : rest ≠ []) :
    Handed config version footerType (header ++ rest)
      (staleThread version footerType header rest) := by
  have least : kMinBufLength = 256 := rfl
  have bufSize := config.bufSize_ge
  have whole : header.dropLast ++ header.drop (header.length - 1) = header := by
    rw [dropLast_eq_take, take_append_drop]
  have front : header.dropLast ≠ [] := by
    apply ne_nil_of_length_pos
    rw [length_dropLast]
    omega
  have last : header.drop (header.length - 1) ≠ [] := by
    apply ne_nil_of_length_pos
    rw [length_drop]
    omega
  refine ⟨⟨⟨⟨rfl, ?_, ?_, rfl⟩, Nat.zero_le _, ?_⟩, le_refl _⟩, ?_, rfl, rfl, rfl⟩
  · intro segment member
    simp only [staleThread, splitBeforeLast, mem_cons, not_mem_nil, or_false] at member
    rcases member with rfl | rfl | rfl
    · rfl
    · rfl
    · rfl
  · intro segment member
    simp only [staleThread, splitBeforeLast, mem_cons, not_mem_nil, or_false] at member
    rcases member with rfl | rfl | rfl
    · exact front
    · exact last
    · exact more
  · change [] ++ ([header.dropLast, header.drop (header.length - 1), rest]).flatten = header ++ rest
    simp only [nil_append, flatten_cons, flatten_nil, append_nil]
    rw [← append_assoc, whole]
  · change 0 + kMinBufLength ≤ config.bufSize
    omega

theorem long_header_not_received {answers : ReceiverAnswers} {commands : List FileCommand}
    (running : answers.aborted = false) (honest : details.Honest version)
    (long : kMinBufLength < (headerBytes version status details).length) :
    ¬ ReceivesFaithfully config answers
      (staleThread version footerType (headerBytes version status details) rest) commands := by
  rintro ⟨after, serves, _⟩
  obtain ⟨mid, dispatched, servesMid⟩ := serves.step_inv rfl
  rw [step_serving running rfl] at dispatched
  change ((staleThread version footerType (headerBytes version status details) rest).readNextCmd
    config).settle = .ok mid at dispatched
  rw [staleThread_dispatches honest long] at dispatched
  cases dispatched
  obtain ⟨next, answered, servesNext⟩ := servesMid.step_inv rfl
  rw [step_serving running rfl] at answered
  have stopped := @processFileCmd_gap config status details
    (staleCommand version footerType (headerBytes version status details) rest) answers.file
    honest (staleCommand_lacks long) rfl long next answered
  have final := servesNext.eq_of_stopped (by rw [stopped]; rfl)
  rw [← final] at stopped
  cases stopped

/-- The result of this module: for every class of honest FILE commands, parsing does not depend
on segmentation just when no header of the class is longer than 256 bytes. -/
theorem received_faithfully_iff_headers_short (writes : config.options.skipWrites = false)
    {answers : ReceiverAnswers} (running : answers.aborted = false)
    (succeed : answers.file.Succeed) (version : Nat) (footerType : FooterType)
    (allowed : FileCommand → Prop) (honest : ∀ command, allowed command → command.Honest version) :
    (∀ commands : List FileCommand, (∀ command ∈ commands, allowed command) →
      ∀ (status : Byte) (numBlocks totalNumBytes : Nat) (buf : Memory Byte),
        numBlocks ≤ int64Max → totalNumBytes ≤ int64Max →
        ∀ thread, Handed config version footerType (fileStream version footerType commands
              (doneMessage version status numBlocks totalNumBytes buf)) thread →
          ReceivesFaithfully config answers thread commands) ↔
      ∀ command, allowed command → (command.header version).length ≤ kMinBufLength := by
  constructor
  · intro received command isAllowed
    by_contra long
    have commandHonest := honest command isAllowed
    obtain ⟨filler, shape, _⟩ := doneMessage_eq version 0 0 0 (fun _ => 0)
    have stream : fileStream version footerType [command]
        (doneMessage version 0 0 0 (fun _ => 0)) = command.header version ++
          (command.data ++ (if footerType = .checksumFooter then footerMessage command.data
            else []) ++ doneMessage version 0 0 0 (fun _ => 0)) := by
      simp only [fileStream, FileCommand.bytes, map_cons, map_nil, flatten_cons,
        flatten_nil, append_assoc, append_nil]
    have more : command.data ++ (if footerType = .checksumFooter then footerMessage command.data
        else []) ++ doneMessage version 0 0 0 (fun _ => 0) ≠ [] := by
      rw [shape]
      simp
    have only : ∀ other ∈ [command], allowed other := by
      intro other member
      cases mem_singleton.mp member
      exact isAllowed
    apply long_header_not_received running commandHonest.details (not_le.mp long)
    apply received [command] only 0 0 0 (fun _ => 0) (Nat.zero_le _) (Nat.zero_le _)
    rw [stream]
    exact staleThread_handed (not_le.mp long) more
  · intro small commands areAllowed status numBlocks totalNumBytes buf bounded boundedTotal thread
      handed
    exact short_headers_receive_faithfully running succeed writes
      (fun command member => honest command (areAllowed command member))
      (fun command member => small command (areAllowed command member)) bounded boundedTotal handed

end Stale

def namedCommand (length : Nat) : FileCommand where
  details := { fileName := samplePath length, seqId := 1, fileSize := 2, dataSize := 2 }
  data := [0x62, 0x63]

theorem namedCommand_honest {length : Nat}
    (safe : isSafeRelativePath (samplePath length) = true)
    (fits : 4 + (headerFields 32 (namedCommand length).details).length ≤ kMaxHeader) :
    (namedCommand length).Honest 32 where
  details :=
    { safe := safe
      seqId := by change 1 ≤ int64Max; decide
      dataSize := by change 2 ≤ int64Max; decide
      offset := Nat.zero_le _
      fileSize := by change 2 ≤ int64Max; decide
      prevSeqId := Nat.zero_le _
      named := by intro value same; cases same
      deleted := by intro same; cases same
      unsentStatus := fun _ => rfl
      unsentPrevSeqId := fun _ => rfl
      fits := fits }
  data := rfl

theorem received_faithfully_iff_headers_short_sample :
    ((namedCommand 3).header 32).length ≤ kMinBufLength ∧
    ∀ commands : List FileCommand, (∀ command ∈ commands, command = namedCommand 3) →
      ∀ (status : Byte) (numBlocks totalNumBytes : Nat) (buf : Memory Byte),
        numBlocks ≤ int64Max → totalNumBytes ≤ int64Max →
        ∀ thread, Handed sampleConfig 32 .checksumFooter (fileStream 32 .checksumFooter commands
              (doneMessage 32 status numBlocks totalNumBytes buf)) thread →
          ReceivesFaithfully sampleConfig {} thread commands := by
  have short : ((namedCommand 3).header 32).length ≤ kMinBufLength := by decide
  have honest : ∀ command, command = namedCommand 3 → command.Honest 32 := by
    rintro command rfl
    exact namedCommand_honest (by decide) (by decide)
  have shortAll : ∀ command, command = namedCommand 3 →
      (command.header 32).length ≤ kMinBufLength := by
    rintro command rfl
    exact short
  exact ⟨short, (received_faithfully_iff_headers_short rfl rfl FileAnswers.default_succeed 32
    .checksumFooter (fun command => command = namedCommand 3) honest).mpr shortAll⟩

def receivedAs (rounds : Nat) (thread : ReceiverThread) : Option (ReceiverState × ErrorCode) :=
  match serve sampleConfig {} rounds (thread, .readNextCmd) with
  | .ok after => some (after.2, after.1.threadStats.localErrCode)
  | .error _ => none

def behindHeader (command : FileCommand) : List Byte :=
  command.data ++ doneMessage 32 0 1 2 (fun _ => 0)

/-- A path of 300 bytes: in one read the stream gets through, with the last byte of the header
in a read of its own it is a protocol error. -/
theorem long_header_depends_on_segmentation : (namedCommand 300).Honest 32 ∧
      fileStream 32 .noFooter [namedCommand 300] (doneMessage 32 0 1 2 (fun _ => 0)) =
        (namedCommand 300).header 32 ++ behindHeader (namedCommand 300) ∧
      Handed sampleConfig 32 .noFooter
        ((namedCommand 300).header 32 ++ behindHeader (namedCommand 300))
        (staleThread 32 .noFooter ((namedCommand 300).header 32)
          (behindHeader (namedCommand 300))) ∧
      receivedAs 2 (staleThread 32 .noFooter ((namedCommand 300).header 32)
        (behindHeader (namedCommand 300))) = some (.finishWithError, .protocolError) ∧
      receivedAs 4 { buf := fun _ => staleByte
                     threadProtocolVersion := 32
                     connection := { segments :=
                       [{ bytes := (namedCommand 300).header 32 ++
                            behindHeader (namedCommand 300) }] } } =
        some (.waitForFinish, .ok) := by
  refine ⟨namedCommand_honest (by decide +kernel) (by decide +kernel), ?_, ?_, ?_, ?_⟩
  · decide +kernel
  · exact staleThread_handed (by decide +kernel) (by decide +kernel)
  · decide +kernel
  · decide +kernel

end ReceiverThread

end Wdt
