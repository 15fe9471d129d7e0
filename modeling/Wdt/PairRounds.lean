/-
What one connection does to a pair of threads: which blocks have become verified,
what is recorded of the one that was cut, and what the sender made of the checkpoint.
-/

import Wdt.ThreadPair

namespace Wdt

open List Wdt.Frame Checkpoint

/-! ### What arrives -/

def Checkpoint.lastBlock (checkpoint : Checkpoint) : Int × Nat × Nat :=
  (checkpoint.lastBlockSeqId, checkpoint.lastBlockOffset, checkpoint.lastBlockReceivedBytes)

def FileCommand.fileBytes (command : FileCommand) : List FileByte :=
  bytesAt command.details.fileName command.details.offset command.data

def frameFiles : List Frame → List FileCommand
  | [] => []
  | .file command :: rest => command :: frameFiles rest
  | _ :: rest => frameFiles rest

/-- Where the connection broke, with respect to the first block that was not verified. -/
inductive Cut (version : Nat) (before after : Reception) :
    (verified unverified : List FileCommand) → (last : List FileByte) → Prop
  | between {verified unverified}
      (lastBlock : after.checkpoint.lastBlock =
        if verified = [] then before.checkpoint.lastBlock else (0, 0, 0)) :
      Cut version before after verified unverified []
  | within {verified rest} {command : FileCommand} {received : Nat}
      (noFooter : after.footerType = .noFooter) (less : received < command.details.dataSize)
      (arrived : kMinBufLength ≤ (command.header version).length + received)
      (lastBlock : after.checkpoint.lastBlock =
        ((command.details.seqId : Int), command.details.offset, received)) :
      Cut version before after verified (command :: rest)
        (bytesAt command.details.fileName command.details.offset (command.data.take received))
  | unchecked {verified rest command last} (footers : after.footerType = .checksumFooter)
      (lastBlock : after.checkpoint.lastBlock = (0, 0, 0)) :
      Cut version before after verified (command :: rest) last

/-- A front part of the blocks has become verified, and all of its bytes are written. -/
structure Arrival (version : Nat) (before after : Reception)
    (verified unverified : List FileCommand) (last : List FileByte) : Prop where
  blocks : after.verified = before.verified ++ verified.map FileCommand.details
  written : after.written = before.written ++ (verified.map FileCommand.fileBytes).flatten ++ last
  numBlocks : after.checkpoint.numBlocks = before.checkpoint.numBlocks + verified.length
  port : after.checkpoint.port = before.checkpoint.port
  sameVersion : after.version = before.version
  sameFooters : after.footerType = before.footerType
  waiting : after.blocksWaitingVerification = before.blocksWaitingVerification
  cut : Cut version before after verified unverified last

namespace Reception

variable {version : Nat} {reception : Reception}

theorem arrival_nothing {after : Reception} (unverified : List FileCommand)
    (sameCheckpoint : after.checkpoint = reception.checkpoint)
    (sameBlocks : after.verified = reception.verified)
    (sameWritten : after.written = reception.written)
    (sameVersion : after.version = reception.version)
    (sameFooters : after.footerType = reception.footerType)
    (sameWaiting : after.blocksWaitingVerification = reception.blocksWaitingVerification) :
    Arrival version reception after [] unverified [] where
  blocks := by simp [sameBlocks]
  written := by simp [sameWritten]
  numBlocks := by simp [sameCheckpoint]
  port := by rw [sameCheckpoint]
  sameVersion := sameVersion
  sameFooters := sameFooters
  waiting := sameWaiting
  cut := .between (by rw [sameCheckpoint, if_pos rfl])

theorem Arrival.cons {after : Reception} {command : FileCommand}
    {verified unverified : List FileCommand} {last : List FileByte}
    (arrival : Arrival version (((reception.accept command.details).write command.details.fileName
        command.details.offset command.data).verify command.details)
      after verified unverified last) :
    Arrival version reception after (command :: verified) unverified last where
  __ := arrival
  blocks := by
    rw [arrival.blocks]
    simp [verify, write, accept]
  written := by
    rw [arrival.written]
    simp [verify, write, accept, FileCommand.fileBytes]
  numBlocks := by
    rw [arrival.numBlocks]
    simp [verify, write, accept, incrNumBlocks, resetLastBlockDetails]
    omega
  cut := by
    cases arrival.cut with
    | between lastBlock =>
      refine .between ?_
      rw [if_neg (cons_ne_nil _ _), lastBlock]
      split
      · rfl
      · rfl
    | within noFooter less arrived lastBlock => exact .within noFooter less arrived lastBlock
    | unchecked footers lastBlock => exact .unchecked footers lastBlock

theorem arrival_unchecked {command : FileCommand} {unsent : List FileCommand}
    (footers : reception.footerType = .checksumFooter) (data : List Byte) :
    Arrival version reception (((reception.accept command.details).write command.details.fileName
        command.details.offset data).fail .socketReadError)
      [] (command :: unsent) (bytesAt command.details.fileName command.details.offset data) where
  blocks := by simp [fail, write, accept]
  written := by simp [fail, write, accept]
  numBlocks := by simp [fail, write, accept, resetLastBlockDetails]
  port := rfl
  sameVersion := rfl
  sameFooters := rfl
  waiting := rfl
  cut := .unchecked footers rfl

theorem receiveFile_arrival {command : FileCommand} (honest : command.Honest version)
    {tail rest : List Byte} (unsent : List FileCommand)
    (isPrefix : tail <+: command.data ++
      ((if reception.footerType = .checksumFooter then footerMessage command.data else []) ++ rest))
    (arrived : kMinBufLength ≤ (command.header version).length + tail.length) :
    match reception.receiveFile command.details tail with
    | (after, some _) => after = ((reception.accept command.details).write
        command.details.fileName command.details.offset command.data).verify command.details
    | (after, none) => ∃ last, Arrival version reception after [] (command :: unsent) last := by
  have sized := honest.data
  unfold receiveFile receiveBlock
  dsimp only
  have sameFooters : ((reception.accept command.details).write command.details.fileName
      command.details.offset (tail.take command.details.dataSize)).footerType =
      reception.footerType := rfl
  rw [sameFooters]
  by_cases short : tail.length < command.details.dataSize
  · rw [if_pos short]
    have part : tail = command.data.take tail.length := by
      obtain ⟨missing, shape⟩ := isPrefix
      have front := congrArg (take tail.length) shape
      rw [take_left, take_append_of_le_length (by omega)] at front
      exact front
    have all : tail.take command.details.dataSize = tail := take_of_length_le short.le
    rw [all]
    unfold record
    have sameKind : ((reception.accept command.details).write command.details.fileName
        command.details.offset tail).footerType = reception.footerType := rfl
    rw [sameKind]
    by_cases noFooter : reception.footerType = .noFooter
    · rw [if_pos noFooter]
      refine ⟨bytesAt command.details.fileName command.details.offset
        (command.data.take tail.length), ?_⟩
      constructor
      · simp [fail, write, accept]
      · rw [← part]
        simp [fail, write, accept]
      · simp [fail, write, accept, setLastBlockDetails, resetLastBlockDetails]
      · rfl
      · rfl
      · rfl
      · rfl
      · exact .within noFooter short arrived rfl
    · rw [if_neg noFooter]
      exact ⟨_, arrival_unchecked (FooterType.eq_checksumFooter noFooter) tail⟩
  · rw [if_neg short]
    obtain ⟨behind, rfl, _⟩ := prefix_split isPrefix (by omega)
    rw [← sized, take_left, drop_left]
    by_cases noFooter : reception.footerType = .noFooter
    · rw [if_pos noFooter]
    rw [if_neg noFooter]
    by_cases cut : behind.length < kMinBufLength
    · rw [if_pos cut]
      exact ⟨_, arrival_unchecked (FooterType.eq_checksumFooter noFooter) command.data⟩
    · rw [if_neg cut]

theorem receiveFrames_arrival {config : ReceiverConfig} {frames : List Frame}
    (stream : Stream config version frames)
    (settled : ∀ frame ∈ frames, ∀ settings, frame ≠ .settings settings) {arrived : List Byte}
    (isPrefix : arrived <+: framesBytes version reception.footerType frames) :
    ∃ verified unverified last, frameFiles frames = verified ++ unverified ∧
      Arrival version reception (reception.receiveFrames version frames arrived).1 verified
        unverified last := by
  have least : kMinBufLength = 256 := rfl
  induction frames generalizing reception arrived with
  | nil => exact ⟨[], [], [], rfl, arrival_nothing [] rfl rfl rfl rfl rfl rfl⟩
  | cons frame rest ih =>
    by_cases short : arrived.length < kMinBufLength
    · rw [receiveFrames_short _ _ _ short]
      exact ⟨[], _, [], rfl, arrival_nothing _ rfl rfl rfl rfl rfl rfl⟩
    have receivable := stream.receivable frame mem_cons_self
    have restSettled : ∀ other ∈ rest, ∀ settings, other ≠ .settings settings :=
      (forall_mem_cons.mp settled).2
    cases frame with
    | settings settings => exact absurd rfl (settled _ mem_cons_self settings)
    | size totalNumBytes =>
      have length := sizeMessage_length_le totalNumBytes
      obtain ⟨more, rfl, morePrefix⟩ := prefix_split isPrefix (by omega)
      simp only [receiveFrames, if_neg short, drop_left]
      exact ih stream.tail restSettled morePrefix
    | file command =>
      obtain ⟨honest, small⟩ := receivable
      rw [framesBytes_file] at isPrefix
      obtain ⟨more, rfl, morePrefix⟩ := prefix_split isPrefix (by omega)
      have one := receiveFile_arrival honest (frameFiles rest) morePrefix
        (by rw [length_append] at short; omega)
      simp only [receiveFrames, if_neg short, drop_left]
      cases received : reception.receiveFile command.details more with
      | mk after left =>
        rw [received] at one
        cases left with
        | none =>
          obtain ⟨last, arrival⟩ := one
          exact ⟨[], command :: frameFiles rest, last, rfl, arrival⟩
        | some left =>
          obtain ⟨leftPrefix, footers, _⟩ := receiveFile_left honest.data morePrefix received
          rw [← footers] at leftPrefix
          obtain ⟨verified, unverified, last, split, arrival⟩ :=
            ih stream.tail restSettled leftPrefix
          subst one
          refine ⟨command :: verified, unverified, last, ?_, Arrival.cons arrival⟩
          rw [frameFiles, split, cons_append]
    | done status numBlocks totalNumBytes buf =>
      simp only [receiveFrames, if_neg short]
      exact ⟨[], _, [], rfl, arrival_nothing _ rfl rfl rfl rfl rfl rfl⟩

theorem receiveFrames_state (version : Nat) (reception : Reception) (frames : List Frame)
    (arrived : List Byte) :
    (reception.receiveFrames version frames arrived).2 = .acceptWithTimeout ∨
      (reception.receiveFrames version frames arrived).2 = .waitForFinish := by
  induction frames generalizing reception arrived with
  | nil => exact .inl rfl
  | cons frame rest ih =>
    unfold receiveFrames
    split
    · exact .inl rfl
    cases frame with
    | settings settings => exact ih _ _
    | size totalNumBytes => exact ih _ _
    | file command =>
      dsimp only
      split
      · exact .inl rfl
      · exact ih _ _
    | done status numBlocks totalNumBytes buf => exact .inr rfl

end Reception

/-! ### The frames of a round -/

/-- The length of a source's FILE header; the status byte in it does not matter. -/
def PairSetup.headerLength (setup : PairSetup) (source : ByteSource) : Nat :=
  ((source.command setup.files 0).header setup.version).length

theorem PairSetup.header_length (setup : PairSetup) (source : ByteSource) (status : Byte) :
    ((source.command setup.files status).header setup.version).length =
      setup.headerLength source := by
  rfl

theorem frameFiles_append (first second : List Frame) :
    frameFiles (first ++ second) = frameFiles first ++ frameFiles second := by
  induction first with
  | nil => rfl
  | cons frame rest ih =>
    cases frame with
    | file command => rw [cons_append, frameFiles, frameFiles, ih, cons_append]
    | settings | size | done => exact ih

namespace Round

variable {setup : PairSetup} {round : Round} {taken : List ByteSource}

theorem frameFiles_fileFrames (setup : PairSetup) (round : Round) (taken : List ByteSource) :
    frameFiles (round.fileFrames setup taken) =
      taken.map (ByteSource.command setup.files round.status) := by
  induction taken with
  | nil => rfl
  | cons source rest ih => exact congrArg _ ih

theorem frameFiles_sizedFrames (round : Round) (files : List Frame) :
    frameFiles (round.sizedFrames files) = frameFiles files := by
  unfold sizedFrames
  split
  · rfl
  rename_i after total _
  have dropped : frameFiles (.size total :: files.drop after) = frameFiles (files.drop after) :=
    rfl
  rw [frameFiles_append, dropped, ← frameFiles_append, take_append_drop]

/-- Behind SETTINGS. -/
def commands (setup : PairSetup) (round : Round) (taken : List ByteSource) : List Frame :=
  round.sizedFrames (round.fileFrames setup taken) ++ round.doneFrames

theorem frameFiles_commands : frameFiles (round.commands setup taken) =
      taken.map (ByteSource.command setup.files round.status) := by
  have noFiles : frameFiles round.doneFrames = [] := by
    unfold doneFrames
    split
    · rfl
    · rfl
  unfold commands
  rw [frameFiles_append, frameFiles_sizedFrames, frameFiles_fileFrames, noFiles, append_nil]

theorem mem_sizedFrames {files : List Frame} {frame : Frame}
    (member : frame ∈ round.sizedFrames files) :
    frame ∈ files ∨ ∃ after total, round.size = some (after, total) ∧ frame = .size total := by
  unfold sizedFrames at member
  split at member
  · exact .inl member
  rename_i after total sized
  rcases mem_append.mp member with before | behind
  · exact .inl (mem_of_mem_take before)
  · rcases mem_cons.mp behind with same | later
    · exact .inr ⟨after, total, sized, same⟩
    · exact .inl (mem_of_mem_drop later)

theorem mem_fileFrames {frame : Frame} (member : frame ∈ round.fileFrames setup taken) :
    ∃ source ∈ taken, frame = .file (source.command setup.files round.status) := by
  obtain ⟨source, isTaken, same⟩ := mem_map.mp member
  exact ⟨source, isTaken, same.symm⟩

theorem smallLength_commands :
    ((round.commands setup taken).map (smallLength setup.version)).sum ≤ 11 := by
  have files : ∀ sources : List ByteSource,
      ((round.fileFrames setup sources).map (smallLength setup.version)).sum = 0 := by
    intro sources
    induction sources with
    | nil => rfl
    | cons source rest ih => simpa [fileFrames, smallLength] using ih
  have done : (round.doneFrames.map (smallLength setup.version)).sum = 0 := by
    unfold doneFrames
    split
    · rfl
    · rfl
  unfold commands sizedFrames
  rw [map_append, sum_append, done, Nat.add_zero]
  split
  · rw [files]
    exact Nat.zero_le _
  rename_i after total _
  have number := varU64_length_le total
  have front := files (taken.take after)
  have back := files (taken.drop after)
  unfold fileFrames at front back ⊢
  rw [← map_take, ← map_drop, map_append, sum_append, map_cons,
    sum_cons, front, back]
  simp only [smallLength, sizeMessage_eq, length_cons]
  omega

theorem frames_stream (setupSound : setup.Sound) (sound : round.Sound)
    (within : ∀ source ∈ taken, source.Within setup.files)
    (fit : ∀ source ∈ taken, setup.headerLength source ≤ kMinBufLength) :
    Stream setup.config setup.version (round.frames setup taken) := by
  have fromFiles : ∀ frame ∈ round.sizedFrames (round.fileFrames setup taken),
      frame.Receivable setup.config setup.version ∧ frame.isDone = false := by
    intro frame member
    rcases mem_sizedFrames member with isFile | ⟨after, total, sized, rfl⟩
    · obtain ⟨source, isTaken, rfl⟩ := mem_fileFrames isFile
      have small := fit source isTaken
      exact ⟨⟨ByteSource.command_honest (setupSound.sendable _) (within source isTaken)
        round.status small, small⟩, rfl⟩
    · exact ⟨sound.size after total sized, rfl⟩
  have front : ∀ frame ∈ Frame.settings setup.settings ::
      round.sizedFrames (round.fileFrames setup taken),
      frame.Receivable setup.config setup.version ∧ frame.isDone = false := by
    exact forall_mem_cons.mpr ⟨⟨setupSound.settings, rfl⟩, fromFiles⟩
  have shape : round.frames setup taken = (Frame.settings setup.settings ::
      round.sizedFrames (round.fileFrames setup taken)) ++ round.doneFrames := rfl
  refine ⟨?_, ?_, ?_⟩
  · intro frame member
    rw [shape] at member
    rcases mem_append.mp member with isFront | isDone
    · exact (front frame isFront).1
    unfold doneFrames at isDone
    split at isDone
    · cases isDone
    rename_i done finished
    rw [mem_singleton] at isDone
    subst isDone
    exact sound.done done finished
  · intro frame member
    rw [shape] at member
    unfold doneFrames at member
    split at member
    · rw [append_nil] at member
      exact (front frame (dropLast_subset _ member)).2
    · rw [dropLast_concat] at member
      exact (front frame member).2
  · have commands := @smallLength_commands setup round taken
    have settings := setupSound.settings.2.2.2
    have least : kMinBufLength = 256 := rfl
    have first : (round.frames setup taken).map (smallLength setup.version) =
        (settingsMessage setup.version setup.settings).length ::
          (round.commands setup taken).map (smallLength setup.version) := rfl
    rw [first, sum_cons]
    omega

theorem arrives (reception : Reception) {arrived : List Byte}
    (stream : Stream setup.config setup.version (round.frames setup taken))
    (isPrefix : arrived <+: round.stream setup taken) :
    (reception.receiveFrames setup.version (round.frames setup taken) arrived).1 =
        reception.fail .socketReadError ∨
      kMinBufLength ≤ arrived.length ∧ ∃ verified unverified last, taken = verified ++ unverified ∧
        Arrival setup.version (reception.configure setup.settings)
          (reception.receiveFrames setup.version (round.frames setup taken) arrived).1
          (verified.map (ByteSource.command setup.files round.status))
          (unverified.map (ByteSource.command setup.files round.status)) last := by
  by_cases short : arrived.length < kMinBufLength
  · left
    rw [Reception.receiveFrames_short _ _ _ short]
  right
  have small := (stream.receivable _ mem_cons_self : (Frame.settings
    setup.settings).Receivable setup.config setup.version).2.2.2
  obtain ⟨more, rfl, morePrefix⟩ := prefix_split isPrefix (by omega)
  have behind : reception.receiveFrames setup.version (round.frames setup taken)
      (settingsMessage setup.version setup.settings ++ more) =
      (reception.configure setup.settings).receiveFrames setup.version
        (round.commands setup taken) more := by
    unfold frames
    rw [Reception.receiveFrames, if_neg short, drop_left]
    rfl
  have settled : ∀ frame ∈ round.commands setup taken, ∀ settings,
      frame ≠ .settings settings := by
    intro frame member settings isSettings
    subst isSettings
    rcases mem_append.mp member with isSized | isDone
    · rcases mem_sizedFrames isSized with isFile | ⟨_, _, _, same⟩
      · obtain ⟨_, _, same⟩ := mem_fileFrames isFile
        cases same
      · cases same
    unfold doneFrames at isDone
    split at isDone
    · cases isDone
    · rw [mem_singleton] at isDone
      cases isDone
  obtain ⟨verified, unverified, last, files, arrival⟩ :=
    @Reception.receiveFrames_arrival _ (reception.configure setup.settings) _
      (round.commands setup taken) stream.tail settled _ morePrefix
  rw [frameFiles_commands] at files
  obtain ⟨front, back, rfl, rfl, rfl⟩ := map_eq_append_iff.mp files
  rw [behind]
  exact ⟨Nat.not_lt.mp short, front, back, last, rfl, arrival⟩

end Round

end Wdt
