/-
Local checkpoints over whole runs of a pair of threads. Any relation that the moves of
the pair keep holds in every state, and what `Synced` then says about a checkpoint
that the sender accepts: it acknowledges the verified blocks, and credits bytes that
are written.
-/

import Wdt.PairSync
import Wdt.ReceiverSkeleton

namespace Wdt

open List Option Transition

/-! ### Runs of the pair -/

/-- Relations between a history, the queue and a receiver, with the sources of the history that
are verified and those that are not. -/
abbrev PairRelation :=
  ThreadTransferHistory → List ByteSource → Reception → List ByteSource → List ByteSource → Prop

/-- The moves of a pair whose sender sends sources that fit. -/
structure PairRelation.Closed (linked : PairRelation) (setup : PairSetup)
    (fits : ByteSource → Prop) : Prop where
  synced : ∀ {history queue reception verified unverified},
    linked history queue reception verified unverified →
      Synced setup history queue reception verified unverified
  untouched : ∀ {history queue reception after verified unverified},
    linked history queue reception verified unverified → reception.Untouched after →
      linked history queue after verified unverified
  reset : ∀ {history queue} {reception : Reception} {verified unverified},
    linked history queue reception verified unverified → reception.checkpoint = {} →
      linked history queue { reception with checkpoint := { port := setup.config.port } } verified
        unverified
  send : ∀ {history queue reception verified unverified positions taken left},
    linked history queue reception verified unverified →
      takeSources positions queue = some (taken, left) →
        linked (history.addSources taken) left reception verified (unverified ++ taken)
  accept : ∀ {history queue reception verified unverified code cut returned},
    linked history queue reception verified unverified →
      history.rejects reception.checkpoint.decoded false = false →
        history.setLocalCheckpoint reception.checkpoint.decoded = (code, cut, returned) →
          linked cut (queue ++ returned) reception verified []
  arrive : ∀ {history queue reception after verified front back status last},
    linked history queue reception verified (front ++ back) →
      (∀ source ∈ front ++ back, fits source) →
        Arrival setup.version (reception.configure setup.settings) after
          (front.map (ByteSource.command setup.files status))
          (back.map (ByteSource.command setup.files status)) last →
            linked history queue after (verified ++ front) back
  fits : ∀ source, fits source → setup.headerLength source ≤ kMinBufLength

theorem Synced.closed {setup : PairSetup} (setupSound : setup.Sound) :
    PairRelation.Closed (Synced setup) setup
      (fun source => setup.headerLength source ≤ kMinBufLength) where
  synced := fun synced => synced
  untouched := fun synced same => synced.untouched same
  reset := fun synced empty =>
    synced.reset (congrArg Checkpoint.numBlocks empty) setupSound.port
  send := fun synced took => synced.send took
  accept := fun synced accepted result => synced.accept accepted result
  arrive := fun synced _ arrival => synced.arrive setupSound arrival
  fits := fun _ => id

namespace Pair

structure InStep (setup : PairSetup) (linked : PairRelation) (pair : Pair) : Prop where
  related : ∃ verified unverified,
    linked pair.history pair.queue pair.receiver.1.reception verified unverified
  place : pair.receiver.2 = .acceptFirstConnection ∧ pair.receiver.1.checkpoint = {} ∨
    pair.receiver.1.checkpoint.port = setup.config.port ∧
      (pair.receiver.2 = .acceptWithTimeout ∨ pair.receiver.2.waits = true ∨
        pair.receiver.2 = .ended)
  first : pair.reconnecting = false → pair.history.history = []

/-- The sender only sends sources that fit. -/
def Sends (setup : PairSetup) (fits : ByteSource → Prop) (pair : Pair) : PairEvent → Prop
  | .connection round => ∀ source ∈ pair.sent setup round, fits source
  | .receiver _ => True

variable {setup : PairSetup} {fits : ByteSource → Prop} {linked : PairRelation} {round : Round}
  {pair after : Pair} {opened : ReceiverAnswer} {message : Option (List Byte)}

/-- What accepting a connection leaves of the receiver, and the message that it may send. -/
structure Accepts (setup : PairSetup) (linked : PairRelation) (round : Round) (pair : Pair)
    (opened : ReceiverAnswer) (message : Option (List Byte)) (base : Reception) : Prop where
  opens : Opened round base opened
  port : base.checkpoint.port = setup.config.port
  keeps : ∀ history queue verified unverified,
    linked history queue pair.receiver.1.reception verified unverified →
      linked history queue base verified unverified
  message : ∀ bytes, message = some bytes → pair.receiver.1.checkpoint.port = setup.config.port ∧
      ∃ rest, bytes = varU64 1 ++ checkpointFields pair.receiver.1.checkpoint ++ rest

section Moves

variable (setupSound : setup.Sound) (closed : linked.Closed setup fits)
  (inStep : pair.InStep setup linked)

include setupSound closed inStep

theorem InStep.accepts (accepts : pair.accepts = true)
    (opens : openConnection setup.config round.answers pair.receiver = .ok (opened, message)) :
    ∃ base, Accepts setup linked round pair opened message base := by
  obtain ⟨verified, unverified, related⟩ := inStep.related
  have synced := closed.synced related
  cases receiver : pair.receiver with
  | mk thread state =>
    have place := inStep.place
    rw [receiver] at opens place synced
    rcases place with ⟨isFirst, empty⟩ | ⟨port, isLater⟩
    · subst isFirst
      obtain ⟨noMessage, opened⟩ := openConnection_first synced.noneWaiting opens
      refine ⟨_, opened, rfl, ?_, ?_⟩
      · intro history queue verified unverified related
        rw [receiver] at related
        exact closed.reset related empty
      · intro bytes isSent
        rw [noMessage] at isSent
        cases isSent
    · have isWaiting : state = .acceptWithTimeout := by
        have accepting : state = .acceptFirstConnection ∨ state = .acceptWithTimeout := by
          simpa [Pair.accepts, receiver] using accepts
        rcases accepting with rfl | isWaiting
        · rcases isLater with other | other | other
          · cases other
          · cases other
          · cases other
        · exact isWaiting
      subst isWaiting
      have version : thread.threadProtocolVersion = setup.version := synced.sameVersion
      obtain ⟨opened, sent⟩ := openConnection_again (version.symm ▸ setupSound.withSeqId) opens
      refine ⟨_, opened, port, ?_, ?_⟩
      · intro history queue verified unverified related
        rw [receiver] at related
        exact related
      · intro bytes isSent
        rw [receiver]
        exact ⟨port, sent bytes isSent⟩

theorem InStep.exchanges {checkpoint : Checkpoint} {code : ErrorCode}
    {history : ThreadTransferHistory} {returned : List ByteSource}
    (exchanged : pair.exchange setup round = some (checkpoint, code, history, returned)) :
    checkpoint = pair.receiver.1.checkpoint.decoded ∧
      pair.history.setLocalCheckpoint checkpoint = (code, history, returned) := by
  obtain ⟨bytes, sent, read⟩ := bind_eq_some_iff.mp exchanged
  obtain ⟨accepting, opened, opens⟩ := checkpointBytes_opens sent
  obtain ⟨base, accepted⟩ := inStep.accepts setupSound closed accepting opens
  obtain ⟨port, rest, rfl⟩ := accepted.message bytes rfl
  obtain ⟨verified, unverified, related⟩ := inStep.related
  have reads := (closed.synced related).reads setupSound port rest
  have same := read.symm.trans reads
  obtain ⟨rfl, result⟩ := Prod.mk.inj (some.inj same)
  exact ⟨rfl, result.symm⟩

theorem InStep.resumes {resumed : Pair} (resumes : pair.resume setup round = some resumed) :
    resumed.receiver = pair.receiver ∧ ∃ verified,
      linked resumed.history resumed.queue pair.receiver.1.reception verified [] := by
  cases waits : pair.reconnecting with
  | false =>
    unfold resume at resumes
    rw [waits, if_neg Bool.false_ne_true] at resumes
    cases resumes
    obtain ⟨verified, unverified, related⟩ := inStep.related
    have split := (closed.synced related).split
    rw [inStep.first waits] at split
    obtain ⟨rfl, rfl⟩ := append_eq_nil_iff.mp split.symm
    exact ⟨rfl, [], related⟩
  | true =>
    obtain ⟨checkpoint, code, history, returned, exchanged, accepted, rfl⟩ :=
      resume_reconnecting waits resumes
    obtain ⟨rfl, result⟩ := inStep.exchanges setupSound closed exchanged
    obtain ⟨verified, unverified, related⟩ := inStep.related
    exact ⟨rfl, verified, closed.accept related (not_rejects_of_code result accepted) result⟩

omit setupSound closed inStep in
theorem place_of_left {taken : List ByteSource} {before : Reception} {final : ReceiverAnswer}
    (left : Round.Left setup round before taken final)
    (port : before.checkpoint.port = setup.config.port) :
    final.1.checkpoint.port = setup.config.port ∧
      (final.2 = .acceptWithTimeout ∨ final.2.waits = true ∨ final.2 = .ended) := by
  have samePort : final.1.reception.checkpoint.port = before.checkpoint.port := by
    rcases left.received with untouched | ⟨_, _, _, _, _, arrival⟩
    · rw [untouched.sameCheckpoint]
    · exact arrival.port
  refine ⟨samePort.trans port, ?_⟩
  rcases left.state with accepting | waiting
  · exact .inl accepting
  · rw [waiting]
    exact .inr (.inl rfl)

theorem InStep.connection (sound : round.Sound)
    (sends : ∀ source ∈ pair.sent setup round, fits source)
    (connected : pair.connection setup round = some after) : after.InStep setup linked := by
  cases connection_connects connected with
  | lost waits => exact inStep
  | unseen first sends =>
    obtain ⟨left, took, rfl⟩ := send_eq sends
    obtain ⟨verified, unverified, related⟩ := inStep.related
    exact ⟨⟨verified, _, closed.send related took⟩, inStep.place, nofun⟩
  | idle accepting opens waits nothing serves =>
    obtain ⟨verified, unverified, related⟩ := inStep.related
    obtain ⟨base, accepted⟩ := inStep.accepts setupSound closed accepting opens
    have opened := closed.untouched (accepted.keeps _ _ _ _ related) accepted.opens.untouched
    have left : Round.Left setup round _ [] _ := serves_round setupSound sound
      (fun source none => absurd none not_mem_nil)
      (fun source none => absurd none not_mem_nil) accepted.opens
      (closed.synced (accepted.keeps _ _ _ _ related)).sameVersion
      (by rw [nothing]; exact nil_prefix) serves
    refine ⟨⟨verified, unverified, ?_⟩, .inr (place_of_left left ?_), inStep.first⟩
    · rcases left.received with untouched | ⟨long, _⟩
      · exact closed.untouched opened untouched
      · rw [nothing] at long
        cases long
    · rw [accepted.opens.untouched.sameCheckpoint]
      exact accepted.port
  | @sending opened final message resumed sent taken accepting opens resumes resumedSends isPrefix
      serves =>
      obtain ⟨sameReceiver, verified, related⟩ := inStep.resumes setupSound closed resumes
      obtain ⟨base, accepted⟩ := inStep.accepts setupSound closed accepting opens
      obtain ⟨left, took, rfl⟩ := send_eq resumedSends
      have isSent : pair.sent setup round = taken := by
        unfold Pair.sent
        rw [resumes, bind_some, resumedSends]
      rw [isSent] at sends
      have sentRelated := closed.untouched
        (accepted.keeps _ _ _ _ (closed.send related took)) accepted.opens.untouched
      have synced := closed.synced sentRelated
      have within : ∀ source ∈ taken, source.Within setup.files := by
        intro source member
        apply synced.separate.within source
        rw [synced.split]
        simp [member]
      have received := serves_round setupSound sound within
        (fun source member => closed.fits source (sends source member)) accepted.opens
        (closed.synced (accepted.keeps _ _ _ _ related)).sameVersion isPrefix serves
      refine ⟨?_, .inr (place_of_left received ?_), nofun⟩
      · rcases received.received with untouched | ⟨_, front, back, last, rfl, arrival⟩
        · exact ⟨_, _, closed.untouched sentRelated untouched⟩
        · exact ⟨_, _, @closed.arrive _ _ _ _ _ front back _ _ sentRelated sends arrival⟩
      · rw [accepted.opens.untouched.sameCheckpoint]
        exact accepted.port

theorem InStep.step {event : PairEvent} (sends : pair.Sends setup fits event)
    (stepped : Pair.Step setup pair event after) : after.InStep setup linked := by
  cases stepped with
  | connection sound connected => exact inStep.connection setupSound closed sound sends connected
  | @waiting answers answer next waits running unpublished stepped =>
    obtain ⟨verified, unverified, related⟩ := inStep.related
    have noneWaiting := (closed.synced related).noneWaiting
    obtain ⟨untouched, state⟩ := waiting_untouched
      (show (pair.receiver.1.answered answer).blocksWaitingVerification = [] from noneWaiting)
      waits running unpublished stepped
    have same : pair.receiver.1.reception.Untouched next.1.reception := untouched
    refine ⟨⟨verified, unverified, closed.untouched related same⟩, .inr ⟨?_, ?_⟩, inStep.first⟩
    · have port : next.1.checkpoint = pair.receiver.1.checkpoint := same.sameCheckpoint
      rw [port]
      rcases inStep.place with ⟨isFirst, _⟩ | ⟨port, _⟩
      · rw [isFirst] at waits
        cases waits
      · exact port
    · rcases state with waits | accepting | hasEnded
      · exact .inr (.inl waits)
      · exact .inl accepting
      · exact .inr (.inr hasEnded)
  | @otherThreadStarted answers next isFirst running started stepped =>
    obtain ⟨verified, unverified, related⟩ := inStep.related
    have noneWaiting := (closed.synced related).noneWaiting
    cases receiver : pair.receiver with
    | mk thread state =>
      rw [receiver] at isFirst stepped related noneWaiting
      subst isFirst
      have result : ReceiverThread.step setup.config answers (thread, .acceptFirstConnection) =
          .ok (thread.reset setup.config, .acceptWithTimeout) := by
        unfold ReceiverThread.step
        rw [running]
        change ((thread.acceptFirstConnection setup.config answers).settle : Except _ _) = _
        unfold ReceiverThread.acceptFirstConnection
        rw [started]
        rfl
      rw [result] at stepped
      cases stepped
      have empty : thread.reception.checkpoint = {} := by
        rcases inStep.place with ⟨_, empty⟩ | ⟨_, other⟩
        · rw [receiver] at empty
          exact empty
        rw [receiver] at other
        rcases other with other | other | other
        · cases other
        · cases other
        · cases other
      refine ⟨⟨verified, unverified, ?_⟩, .inr ⟨rfl, .inl rfl⟩, inStep.first⟩
      exact closed.untouched (closed.reset related empty) ⟨rfl, rfl, rfl, rfl, rfl, noneWaiting⟩

end Moves

variable {start : Pair}

theorem inStep_of_path (setupSound : setup.Sound) (closed : linked.Closed setup fits)
    (initially : start.InStep setup linked)
    (path : Path (Pair.Step setup) (Pair.Sends setup fits) start pair) :
    pair.InStep setup linked := by
  apply path.invariant (fun pair => pair.InStep setup linked) initially
  intro before event after inStep sends stepped
  exact inStep.step setupSound closed sends stepped

theorem path_connection (path : Path (Pair.Step setup) (Pair.Sends setup fits) start pair)
    (sends : ∀ source ∈ pair.sent setup round, fits source) (sound : round.Sound)
    (connected : pair.connection setup round = some after) :
    Path (Pair.Step setup) (Pair.Sends setup fits) start after := by
  have meets : pair.Sends setup fits (.connection round) := sends
  exact .next path meets (.connection sound connected)

theorem Initial.synced (initial : start.Initial setup) :
    start.history.lastCheckpoint = none ∧
      Synced setup start.history start.queue start.receiver.1.reception [] [] := by
  obtain ⟨buf, receiver⟩ := initial.receiver
  rw [initial.history, receiver]
  refine ⟨rfl, ?_⟩
  constructor
  · rfl
  · rfl
  · exact { initial with }
  · rfl
  · rfl
  · rfl
  · intro source member
    cases member
  · rfl
  · exact ⟨Nat.zero_le _, Nat.zero_le _, Nat.zero_le _, le_refl _, Int.natCast_nonneg _,
      Nat.zero_le _⟩
  · exact .nothing rfl

theorem Initial.inStep (initial : start.Initial setup)
    (related : linked start.history start.queue start.receiver.1.reception [] []) :
    start.InStep setup linked := by
  obtain ⟨buf, receiver⟩ := initial.receiver
  refine ⟨⟨[], [], related⟩, ?_, fun _ => by rw [initial.history]⟩
  rw [receiver]
  exact .inl ⟨rfl, rfl⟩

end Pair

/-! ### Sample pairs -/

def samplePairSettings : Settings where
  readTimeoutMillis := 5000
  writeTimeoutMillis := 5000
  transferId := [0x69]

theorem samplePairSettings_receivable :
    (Frame.settings samplePairSettings).Receivable sampleConfig 32 :=
  ⟨⟨by decide, by decide, by decide, by decide, by decide⟩, rfl, rfl, by decide⟩

def sampleSetup (nameLength : Nat) (content : List Byte) : PairSetup where
  config := sampleConfig
  version := 32
  settings := samplePairSettings
  files := fun _ => { fileName := samplePath nameLength, content := content }

def samplePair (queue : List ByteSource) : Pair where
  queue := queue
  receiver := (sampleThread, .acceptFirstConnection)

/-- The receiver reads the first `first` bytes at once, and then all that follows to the end of
the `count` bytes that arrive. -/
def sampleRound (setup : PairSetup) (taken : List ByteSource) (first count : Nat) : Round where
  positions := taken.map fun _ => 0
  segments := [(({ rounds := 0 } : Round).stream setup taken).take first,
    ((({ rounds := 0 } : Round).stream setup taken).take count).drop first].filterMap
      fun bytes => if bytes.isEmpty then none else some { bytes := bytes }
  rounds := 9

theorem sampleSetup_sound {nameLength : Nat} {content : List Byte}
    (safe : isSafeRelativePath (samplePath nameLength) = true)
    (small : content.length ≤ int64Max) : (sampleSetup nameLength content).Sound where
  withSeqId := by
    change 21 ≤ 32
    omega
  port := Nat.zero_le _
  settings := samplePairSettings_receivable
  writes := rfl
  sendable := fun seqId =>
    { safe := safe
      fileSize := small
      prevSeqId := Nat.zero_le _
      named := nofun
      deleted := nofun
      unsentStatus := fun _ => rfl
      unsentPrevSeqId := fun _ => rfl }

theorem sampleRound_sound (setup : PairSetup) (taken : List ByteSource) (first count : Nat) :
    (sampleRound setup taken first count).Sound where
  untagged := by
    intro segment member
    obtain ⟨bytes, _, kept⟩ := mem_filterMap.mp member
    split at kept
    · cases kept
    · cases kept
      rfl
  nonempty := by
    intro segment member
    obtain ⟨bytes, _, kept⟩ := mem_filterMap.mp member
    split at kept
    · cases kept
    rename_i nonempty
    cases kept
    intro isEmpty
    exact nonempty (isEmpty_iff.mpr isEmpty)
  size := nofun
  done := nofun
  file := FileAnswers.default_succeed

theorem samplePair_initial {setup : PairSetup} (version : setup.version = 32)
    {queue : List ByteSource} (separate : Separate setup.files queue) :
    (samplePair queue).Initial setup where
  __ := separate
  history := rfl
  notReconnecting := rfl
  running := rfl
  receiver := ⟨fun _ => 0, by rw [version]; rfl⟩

theorem separate_one {files : Nat → SourceFile} {source : ByteSource}
    (within : source.Within files) (bounded : source.range.reserve ≤ int64Max) :
    Separate files [source] where
  within := by
    intro other member
    rw [mem_singleton] at member
    rw [member]
    exact within
  disjoint := pairwise_singleton _ _
  bounded := by
    simpa [Range.total] using bounded

/-! ### Accepted checkpoints -/

def Checkpoint.credit (checkpoint : Checkpoint) (source : ByteSource) : Nat :=
  if checkpoint.lastBlockSeqId = source.seqId ∧ checkpoint.lastBlockOffset = source.offset then
    checkpoint.lastBlockReceivedBytes
  else 0

/-- What an accepted checkpoint should do: the history becomes the blocks that the receiver has
verified, in their order; the source behind them goes back without the bytes that are
credited, which the receiver has written; all others go back as they are. -/
structure Agreement (setup : PairSetup) (pair : Pair) (checkpoint : Checkpoint)
    (history : ThreadTransferHistory) (returned : List ByteSource) : Prop where
  kept : history.history = pair.history.history.take checkpoint.numBlocks
  verified : history.history.map (ByteSource.details setup.files) =
    pair.receiver.1.reception.verified
  written : ∀ source ∈ history.history,
    source.bytesOf setup.files source.size.toNat ⊆ pair.receiver.1.reception.written
  noneReturned : pair.history.history.drop checkpoint.numBlocks = [] → returned = []
  goesBack : ∀ oldest newer, pair.history.history.drop checkpoint.numBlocks = oldest :: newer →
    returned.map ByteSource.block =
        (newer.reverse ++ [oldest.advanceOffset (checkpoint.credit oldest)]).map ByteSource.block ∧
      (checkpoint.credit oldest : Int) ≤ oldest.size ∧
      oldest.bytesOf setup.files (checkpoint.credit oldest) <:+ pair.receiver.1.reception.written
  apart : Range.Disjoint ((history.history ++ (pair.queue ++ returned)).map ByteSource.range)

theorem Checkpoint.credit_decoded (checkpoint : Checkpoint) (source : ByteSource) :
    receivedBytes source (some checkpoint.decoded) = checkpoint.decoded.credit source := by
  unfold receivedBytes Checkpoint.validFor credit decoded
  simp

/-- As long as no FILE header is longer than 256 bytes, the threads agree on every local
checkpoint that the sender accepts. -/
theorem accepted_local_checkpoints_agree {setup : PairSetup} (setupSound : setup.Sound)
    {start pair : Pair} (initial : start.Initial setup)
    (path : Path (Pair.Step setup)
      (Pair.Sends setup fun source => setup.headerLength source ≤ kMinBufLength) start pair)
    {round : Round} {checkpoint : Checkpoint} {code : ErrorCode}
    {history : ThreadTransferHistory} {returned : List ByteSource}
    (exchanged : pair.exchange setup round = some (checkpoint, code, history, returned))
    (accepted : code ≠ .invalidCheckpoint) :
    Agreement setup pair checkpoint history returned := by
  have closed := Synced.closed setupSound
  have inStep := Pair.inStep_of_path setupSound closed (initial.inStep initial.synced.2) path
  obtain ⟨rfl, result⟩ := inStep.exchanges setupSound closed exchanged
  obtain ⟨verified, unverified, synced⟩ := inStep.related
  have notRejected := not_rejects_of_code result accepted
  have after := synced.accept notRejected result
  obtain ⟨threadStats, others, accepts, blocks⟩ := setCheckpointAndReturnToQueue_accepts notRejected
  have same := result.symm.trans accepts
  cases same
  have numBlocks : pair.receiver.1.checkpoint.decoded.numBlocks = verified.length :=
    synced.numBlocks
  have behind : pair.history.history.drop pair.receiver.1.checkpoint.decoded.numBlocks =
      unverified := by
    rw [numBlocks, synced.split, drop_left]
  have split := after.split
  rw [append_nil] at split
  constructor
  · rfl
  · rw [split]
    exact after.blocks.symm
  · rw [split]
    exact after.written
  · intro none
    rw [none] at blocks
    exact map_eq_nil_iff.mp blocks
  · intro oldest newer shape
    rw [shape] at blocks
    have isUnverified := behind.symm.trans shape
    subst isUnverified
    have member : oldest ∈ pair.history.history ++ pair.queue := by
      rw [synced.split]
      simp
    have size := (synced.separate.within oldest member).size
    obtain ⟨less, written⟩ := synced.lastBlock.credit member
    have credit := Checkpoint.credit_decoded pair.receiver.1.checkpoint oldest
    change receivedBytes oldest (some pair.receiver.1.reception.checkpoint.decoded) = _ at credit
    rw [credit] at less written
    refine ⟨?_, ?_, written⟩
    · rw [blocks, ← credit]
      rfl
    · omega
  · exact after.separate.disjoint

theorem accepted_local_checkpoints_agree_sample : ∃ pair round checkpoint code history returned,
      Pair.exchange (sampleSetup 3 (List.replicate 300 7)) pair round =
          some (checkpoint, code, history, returned) ∧
        code ≠ .invalidCheckpoint ∧ checkpoint.lastBlockReceivedBytes = 250 ∧
        Agreement (sampleSetup 3 (List.replicate 300 7)) pair checkpoint history returned := by
  have sound := sampleSetup_sound (show isSafeRelativePath (samplePath 3) = true by
    decide) (show (replicate 300 7).length ≤ int64Max by decide +kernel)
  have initial : (samplePair [{ seqId := 1, offset := 0, size := 300 }]).Initial
      (sampleSetup 3 (replicate 300 7)) :=
    samplePair_initial rfl (separate_one ⟨by decide, by decide, by decide +kernel⟩ (by decide))
  have computed : ((samplePair [{ seqId := 1, offset := 0, size := 300 }]).connection
      (sampleSetup 3 (replicate 300 7)) (sampleRound (sampleSetup 3 (replicate 300 7))
        [{ seqId := 1, offset := 0, size := 300 }] 100 274)).map (fun pair =>
          (pair.exchange (sampleSetup 3 (replicate 300 7)) { rounds := 9 }).map
            (fun result => (result.1.lastBlockReceivedBytes, result.2.1))) =
      some (some (250, .ok)) := by
    decide +kernel
  obtain ⟨pair, connected, exchanges⟩ := map_eq_some_iff.mp computed
  obtain ⟨⟨checkpoint, code, history, returned⟩, exchanged, outcome⟩ :=
    map_eq_some_iff.mp exchanges
  obtain ⟨received, rfl⟩ := Prod.mk.inj outcome
  have fit : ∀ source ∈ (samplePair [{ seqId := 1, offset := 0, size := 300 }]).sent
      (sampleSetup 3 (replicate 300 7)) (sampleRound (sampleSetup 3 (replicate 300 7))
        [{ seqId := 1, offset := 0, size := 300 }] 100 274),
      (sampleSetup 3 (replicate 300 7)).headerLength source ≤ kMinBufLength := by
    decide +kernel
  exact ⟨pair, { rounds := 9 }, checkpoint, .ok, history, returned, exchanged, by decide, received,
    accepted_local_checkpoints_agree sound initial
      (Pair.path_connection .refl fit (sampleRound_sound _ _ _ _) connected) exchanged (by decide)⟩

/-- The name of the file has 300 bytes, and the header is split behind it. The receiver takes the
rest of the header from its buffer, which holds zeros there, and verifies an empty block with
seq-id 0; the sender then counts the block that it sent as acknowledged. -/
theorem split_header_breaks_agreement : (sampleSetup 300 [1, 2, 3]).Sound ∧
      (samplePair [{ seqId := 1, offset := 0, size := 3 }]).Initial (sampleSetup 300 [1, 2, 3]) ∧
      ∃ pair round checkpoint code history returned,
        Path (Pair.Step (sampleSetup 300 [1, 2, 3])) (fun _ _ => True)
            (samplePair [{ seqId := 1, offset := 0, size := 3 }]) pair ∧
          pair.exchange (sampleSetup 300 [1, 2, 3]) round =
            some (checkpoint, code, history, returned) ∧
          code ≠ .invalidCheckpoint ∧
          ¬ Agreement (sampleSetup 300 [1, 2, 3]) pair checkpoint history returned := by
  have sound := sampleSetup_sound (show isSafeRelativePath (samplePath 300) = true by
    decide +kernel) (show [1, 2, 3].length ≤ int64Max by decide)
  refine ⟨sound, samplePair_initial rfl (separate_one ⟨by decide, by decide, by decide⟩
    (by decide)), ?_⟩
  have computed : ((samplePair [{ seqId := 1, offset := 0, size := 3 }]).connection
      (sampleSetup 300 [1, 2, 3]) (sampleRound (sampleSetup 300 [1, 2, 3])
        [{ seqId := 1, offset := 0, size := 3 }] 315 323)).map (fun pair =>
          ((pair.exchange (sampleSetup 300 [1, 2, 3]) { rounds := 9 }).map
            (fun result => (result.2.1, result.2.2.1.history)),
            pair.receiver.1.reception.verified.map BlockDetails.seqId)) =
      some (some (.ok, [{ seqId := 1, offset := 0, size := 3 }]), [0]) := by
    decide +kernel
  obtain ⟨pair, connected, result⟩ := map_eq_some_iff.mp computed
  obtain ⟨exchanges, verified⟩ := Prod.mk.inj result
  obtain ⟨⟨checkpoint, code, history, returned⟩, exchanged, outcome⟩ :=
    map_eq_some_iff.mp exchanges
  obtain ⟨rfl, sources⟩ := Prod.mk.inj outcome
  refine ⟨pair, { rounds := 9 }, checkpoint, .ok, history, returned,
    .next .refl trivial (.connection (sampleRound_sound _ _ _ _) connected), exchanged,
    by decide, fun agreement => ?_⟩
  have same := congrArg (map BlockDetails.seqId) agreement.verified
  rw [sources, verified] at same
  cases same

end Wdt
