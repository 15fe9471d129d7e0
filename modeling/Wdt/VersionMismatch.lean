/-
PROCESS_VERSION_MISMATCH on all threads of a sender. A receiver of an older version
answers SETTINGS with ABORT and its version; the threads of the sender meet at a
barrier, one of them changes the version in a funnel, and those that continue send
their settings again.
-/

import Wdt.SettingsDelivery
import Wdt.ThreadTransferHistory
import Wdt.Lib.Transition

namespace Wdt

open Transition Function List Option ReceiverThread

def checksumVersion : Nat := 12

def downloadResumptionVersion : Nat := 13

def heartBeatVersion : Nat := 29

structure Barrier where
  numThreads : Int
  numHits : Int := 0
  isComplete : Bool := false

namespace Barrier

variable (barrier : Barrier)

/-- `none` is a failed WDT_CHECK, here and below. -/
def checkForFinish : Option Barrier :=
  if barrier.numThreads < barrier.numHits then none
  else if barrier.numHits = barrier.numThreads then some { barrier with isComplete := true }
  else some barrier

/-- The part in front of the wait for completion. -/
def execute : Option Barrier :=
  if barrier.isComplete then none
  else checkForFinish { barrier with numHits := barrier.numHits + 1 }

def deRegister : Option Barrier :=
  if barrier.isComplete then some barrier
  else checkForFinish { barrier with numThreads := barrier.numThreads - 1 }

end Barrier

def FunnelStatus.getStatus : FunnelStatus → FunnelStatus × FunnelStatus
  | .start => (.start, .progress)
  | .progress => (.progress, .progress)
  | .finished => (.finished, .finished)

/-! ### The sender -/

inductive ProtoNegotiationStatus
  | wait
  | resolved
  | failed

inductive FunnelStage
  | started
  | markedFailed
  | historiesHandled
  | versionChanged
  | markedResolved
  /-- the funnel is to be notified, and the thread continues or not -/
  | leaving (continues : Bool)
  deriving DecidableEq

/-- Where a thread is in the loop of `start`; `transferring` is any state before the first
PROCESS_VERSION_MISMATCH, `connect` any state behind a successful one. -/
inductive MismatchPhase
  | transferring
  | processVersionMismatch
  | atBarrier
  | waiting
  | atFunnel
  | inFunnel (stage : FunnelStage)
  | connect
  | ended
  | deRegistered
  deriving DecidableEq

structure NegotiatingThread where
  phase : MismatchPhase := .transferring
  threadProtocolVersion : Nat
  negotiatedProtocol : Int := -1
  footerType : FooterType

structure SenderOptions where
  enableChecksum : Bool
  readTimeoutMillis : Nat
  writeTimeoutMillis : Nat
  transferId : List Byte
  downloadResumption : Bool := false
  blockModeDisabled : Bool := false
  enableHeartBeat : Bool := false
  readTimeout : readTimeoutMillis ≤ int32Max
  writeTimeout : writeTimeoutMillis ≤ int32Max
  transferIdShort : transferId.length ≤ kMaxTransferIdLength

def SenderOptions.setFooterType (options : SenderOptions) (protocolVersion : Nat) : FooterType :=
  if checksumVersion ≤ protocolVersion ∧ options.enableChecksum = true then .checksumFooter
  else .noFooter

structure MismatchSetup where
  numThreads : Nat
  senderVersion : Nat
  receiverVersion : Nat
  options : SenderOptions
  versionSmall : senderVersion ≤ int32Max

structure Negotiation (numThreads : Nat) where
  threads : Fin numThreads → NegotiatingThread
  protocolVersion : Nat
  negotiationStatus : ProtoNegotiationStatus := .wait
  funnel : FunnelStatus := .start

structure NegotiatingSender (numThreads : Nat) extends Negotiation numThreads where
  abortCode : ErrorCode := .ok
  barrier : Barrier
  histories : Fin numThreads → ThreadTransferHistory := fun _ => {}
  checkFailed : Bool := false

def NegotiatingThread.settings (options : SenderOptions) (protocolVersion : Nat)
    (thread : NegotiatingThread) : Settings where
  readTimeoutMillis := options.readTimeoutMillis
  writeTimeoutMillis := options.writeTimeoutMillis
  transferId := options.transferId
  enableChecksum := decide (thread.footerType = .checksumFooter)
  sendFileChunks :=
    options.downloadResumption && decide (downloadResumptionVersion ≤ protocolVersion)
  blockModeDisabled := options.blockModeDisabled
  enableHeartBeat :=
    decide (heartBeatVersion ≤ thread.threadProtocolVersion) && options.enableHeartBeat

/-- The version and the error in the ABORT with which a receiver answers settings, if it does. -/
def abortAnswer (receiverVersion senderVersion : Nat) : Option (Nat × ErrorCode) :=
  if senderVersion = receiverVersion then none
  else
    let negotiated := negotiateProtocol senderVersion receiverVersion
    if negotiated = 0 then some (receiverVersion, .versionIncompatible)
    else if negotiated ≠ senderVersion then some (negotiated, .versionMismatch)
    else none

/-- Every thread's history, one after the other, up to the first with an acknowledged block. -/
def handleVersionMismatch {numThreads : Nat} :
    List (Fin numThreads) → (Fin numThreads → ThreadTransferHistory) →
      Bool × (Fin numThreads → ThreadTransferHistory)
  | [], histories => (true, histories)
  | i :: rest, histories =>
    if 0 < (histories i).numAcknowledged then (false, histories)
    else
      handleVersionMismatch rest
        (Function.update histories i (histories i).returnUnackedSourcesToQueue.1)

/-- The one positive version among those of the threads; `none` if two of them differ. -/
def commonProtocol : Int → List Int → Option Int
  | negotiatedProtocol, [] => some negotiatedProtocol
  | negotiatedProtocol, threadProtocolVersion :: rest =>
    if 0 < threadProtocolVersion then
      if 0 < negotiatedProtocol ∧ negotiatedProtocol ≠ threadProtocolVersion then none
      else commonProtocol threadProtocolVersion rest
    else commonProtocol negotiatedProtocol rest

namespace Negotiation

variable {numThreads : Nat} (state : Negotiation numThreads)

def setThread (i : Fin numThreads) (thread : NegotiatingThread) : Negotiation numThreads :=
  { state with threads := Function.update state.threads i thread }

def moveTo (i : Fin numThreads) (phase : MismatchPhase) : Negotiation numThreads :=
  state.setThread i { state.threads i with phase }

def getNegotiatedProtocols : List Int :=
  (List.finRange numThreads).map fun i => (state.threads i).negotiatedProtocol

end Negotiation

namespace NegotiatingSender

variable {numThreads : Nat}

def setThread (sender : NegotiatingSender numThreads) (i : Fin numThreads)
    (thread : NegotiatingThread) : NegotiatingSender numThreads :=
  { sender with toNegotiation := sender.toNegotiation.setThread i thread }

variable (sender : NegotiatingSender numThreads) (i : Fin numThreads)

def moveTo (phase : MismatchPhase) : NegotiatingSender numThreads :=
  sender.setThread i { sender.threads i with phase }

/-- A failed WDT_CHECK ends the process. -/
def failCheck : NegotiatingSender numThreads :=
  { sender with checkFailed := true }

/-- VERSION_MISMATCH overrides nothing. -/
def abort (code : ErrorCode) : NegotiatingSender numThreads :=
  if code = .versionMismatch ∧ sender.abortCode ≠ .ok then sender
  else { sender with abortCode := code }

def clearAbort : NegotiatingSender numThreads :=
  if sender.abortCode ≠ .versionMismatch then sender else { sender with abortCode := .ok }

/-- ABORT arrived, with a version and the receiver's error. -/
def processAbortCmd
    (negotiatedProtocol : Nat) (remoteError : ErrorCode) : NegotiatingSender numThreads :=
  let thread := sender.threads i
  let sender := sender.abort remoteError
  if remoteError = .versionMismatch ∧
      negotiateProtocol negotiatedProtocol thread.threadProtocolVersion = negotiatedProtocol then
    sender.setThread i
      { thread with negotiatedProtocol := negotiatedProtocol, phase := .processVersionMismatch }
  else sender.moveTo i .ended

/-- The part of `processVersionMismatch` in front of the barrier. -/
def enterMismatch : NegotiatingSender numThreads :=
  match sender.negotiationStatus with
  | .failed => sender.failCheck
  | .resolved => sender.moveTo i .ended
  | .wait => sender.moveTo i .atBarrier

def hitBarrier : NegotiatingSender numThreads :=
  match sender.barrier.execute with
  | none => sender.failCheck
  | some barrier =>
    ({ sender with barrier }).moveTo i (if barrier.isComplete then .atFunnel else .waiting)

/-- One round of the loop around the funnel. Its FUNNEL_END branch takes the version from the
parent and leaves the footer type. -/
def pollFunnel : NegotiatingSender numThreads :=
  let (status, funnel) := sender.funnel.getStatus
  let sender := { sender with funnel }
  match status with
  | .start => sender.moveTo i (.inFunnel .started)
  | .progress => sender
  | .finished =>
    match sender.negotiationStatus with
    | .wait => sender.failCheck
    | .failed => sender.moveTo i .ended
    | .resolved =>
      sender.setThread i
        { sender.threads i with
          threadProtocolVersion := sender.protocolVersion
          phase := .connect }

/-- The FUNNEL_START branch, statement by statement. -/
def runFunnel (options : SenderOptions) (sender : NegotiatingSender numThreads)
    (i : Fin numThreads) : FunnelStage → NegotiatingSender numThreads
  | .started =>
    ({ sender with negotiationStatus := .failed }).moveTo i (.inFunnel .markedFailed)
  | .markedFailed =>
    let (handled, histories) := handleVersionMismatch (List.finRange numThreads) sender.histories
    ({ sender with histories }).moveTo i
      (.inFunnel (if handled then .historiesHandled else .leaving false))
  | .historiesHandled =>
    match commonProtocol 0 sender.getNegotiatedProtocols with
    | none => sender.moveTo i (.inFunnel (.leaving false))
    | some negotiatedProtocol =>
      if negotiatedProtocol ≤ 0 then sender.failCheck
      else
        let sender := { sender with protocolVersion := negotiatedProtocol.toNat }
        sender.setThread i
          { sender.threads i with
            threadProtocolVersion := sender.protocolVersion
            footerType := options.setFooterType sender.protocolVersion
            phase := .inFunnel .versionChanged }
  | .versionChanged =>
    ({ sender with negotiationStatus := .resolved }).moveTo i (.inFunnel .markedResolved)
  | .markedResolved => sender.clearAbort.moveTo i (.inFunnel (.leaving true))
  | .leaving continues =>
    ({ sender with funnel := .finished }).moveTo i (if continues then .connect else .ended)

end NegotiatingSender

inductive MismatchEvent (numThreads : Nat)
  /-- the receiver answered the thread's settings with ABORT -/
  | abortCmd (i : Fin numThreads)
  /-- the thread is at the head of the loop in `start` -/
  | checkAbort (i : Fin numThreads)
  /-- the thread sends sources or has them acknowledged -/
  | transfer (i : Fin numThreads) (history : ThreadTransferHistory)
  /-- the thread leaves the loop for a reason of its own -/
  | stop (i : Fin numThreads)
  /-- the application or another thread aborts the transfer -/
  | abort (code : ErrorCode)
  /-- the thread runs on in PROCESS_VERSION_MISMATCH or behind the loop -/
  | proceed (i : Fin numThreads)

def MismatchPhase.inTransfer : MismatchPhase → Bool
  | .transferring | .connect => true
  | _ => false

def MismatchPhase.atLoopHead (phase : MismatchPhase) : Bool :=
  phase.inTransfer || decide (phase = .processVersionMismatch)

namespace MismatchSetup

variable (setup : MismatchSetup)

/-- Every thread has set its footer type at the start of `start`. -/
def create : NegotiatingSender setup.numThreads where
  threads _ :=
    { threadProtocolVersion := setup.senderVersion
      footerType := setup.options.setFooterType setup.senderVersion }
  protocolVersion := setup.senderVersion
  barrier := { numThreads := setup.numThreads }

variable (sender : NegotiatingSender setup.numThreads)

def proceed (i : Fin setup.numThreads) : Option (NegotiatingSender setup.numThreads) :=
  match (sender.threads i).phase with
  | .processVersionMismatch => some (sender.enterMismatch i)
  | .atBarrier => some (sender.hitBarrier i)
  | .waiting => if sender.barrier.isComplete then some (sender.moveTo i .atFunnel) else none
  | .atFunnel => some (sender.pollFunnel i)
  | .inFunnel stage => some (sender.runFunnel setup.options i stage)
  | .ended =>
    match sender.barrier.deRegister with
    | none => some sender.failCheck
    | some barrier => some (({ sender with barrier }).moveTo i .deRegistered)
  | .transferring | .connect | .deRegistered => none

def next : MismatchEvent setup.numThreads → Option (NegotiatingSender setup.numThreads)
  | .abortCmd i =>
    if sender.checkFailed = false ∧ (sender.threads i).phase.inTransfer = true then
      (abortAnswer setup.receiverVersion (sender.threads i).threadProtocolVersion).map
        fun (negotiatedProtocol, remoteError) =>
          sender.processAbortCmd i negotiatedProtocol remoteError
    else none
  | .checkAbort i =>
    if sender.checkFailed = false ∧ (sender.threads i).phase.atLoopHead = true ∧
        sender.abortCode ≠ .ok then
      some (sender.moveTo i
        (if sender.abortCode = .versionMismatch then .processVersionMismatch else .ended))
    else none
  | .transfer i history =>
    if sender.checkFailed = false ∧ (sender.threads i).phase.inTransfer = true then
      some { sender with histories := Function.update sender.histories i history }
    else none
  | .stop i =>
    if sender.checkFailed = false ∧ (sender.threads i).phase.inTransfer = true then
      some (sender.moveTo i .ended)
    else none
  | .abort code => if sender.checkFailed = false then some (sender.abort code) else none
  | .proceed i => if sender.checkFailed = false then setup.proceed sender i else none

def Reaches : Prop :=
  Path (fun before event after => setup.next before event = some after) (fun _ _ => True)
    setup.create sender

end MismatchSetup

/-! ### What one event can do to the negotiation -/

inductive MismatchPhase.Walks (status : ProtoNegotiationStatus) (funnel : FunnelStatus) :
    MismatchPhase → MismatchPhase → Prop
  | interrupted {phase : MismatchPhase} (atHead : phase.atLoopHead = true) :
      Walks status funnel phase .processVersionMismatch
  | stopped {phase : MismatchPhase} (atHead : phase.atLoopHead = true) :
      Walks status funnel phase .ended
  | alreadyNegotiated (resolved : status = .resolved) :
      Walks status funnel .processVersionMismatch .ended
  | enters (waits : status = .wait) : Walks status funnel .processVersionMismatch .atBarrier
  | hits (complete : Bool) :
      Walks status funnel .atBarrier (if complete then .atFunnel else .waiting)
  | wakes : Walks status funnel .waiting .atFunnel
  | negotiationFailed (finished : funnel = .finished) : Walks status funnel .atFunnel .ended
  | deRegisters : Walks status funnel .ended .deRegistered
  | handles (handled : Bool) : Walks status funnel (.inFunnel .markedFailed)
      (.inFunnel (if handled then .historiesHandled else .leaving false))
  | disagrees : Walks status funnel (.inFunnel .historiesHandled) (.inFunnel (.leaving false))
  | clears : Walks status funnel (.inFunnel .markedResolved) (.inFunnel (.leaving true))

theorem MismatchPhase.atLoopHead_of_inTransfer {phase : MismatchPhase}
    (inTransfer : phase.inTransfer = true) : phase.atLoopHead = true := by
  unfold atLoopHead
  rw [inTransfer]
  rfl

namespace MismatchSetup

inductive Moves (setup : MismatchSetup) (before : Negotiation setup.numThreads) :
    Negotiation setup.numThreads → Prop
  | stays : Moves setup before before
  | walks {i phase} (walk : MismatchPhase.Walks before.negotiationStatus before.funnel
        (before.threads i).phase phase) : Moves setup before (before.moveTo i phase)
  | accepts {i version} (inTransfer : (before.threads i).phase.inTransfer = true)
      (answer : abortAnswer setup.receiverVersion (before.threads i).threadProtocolVersion =
        some (version, .versionMismatch))
      (supported : negotiateProtocol version (before.threads i).threadProtocolVersion = version) :
      Moves setup before (before.setThread i
        { before.threads i with
          negotiatedProtocol := version
          phase := .processVersionMismatch })
  | connects {i} (atFunnel : (before.threads i).phase = .atFunnel)
      (finished : before.funnel = .finished) (resolved : before.negotiationStatus = .resolved) :
      Moves setup before (before.setThread i
        { before.threads i with
          threadProtocolVersion := before.protocolVersion
          phase := .connect })
  | starts {i} (atFunnel : (before.threads i).phase = .atFunnel)
      (start : before.funnel = .start) :
      Moves setup before (({ before with funnel := .progress }).moveTo i (.inFunnel .started))
  | marksFailed {i} (started : (before.threads i).phase = .inFunnel .started) :
      Moves setup before
        (({ before with negotiationStatus := .failed }).moveTo i (.inFunnel .markedFailed))
  | changes {i version} (handled : (before.threads i).phase = .inFunnel .historiesHandled)
      (common : commonProtocol 0 before.getNegotiatedProtocols = some version)
      (positive : 0 < version) :
      Moves setup before (({ before with protocolVersion := version.toNat }).setThread i
        { before.threads i with
          threadProtocolVersion := version.toNat
          footerType := setup.options.setFooterType version.toNat
          phase := .inFunnel .versionChanged })
  | marksResolved {i} (changed : (before.threads i).phase = .inFunnel .versionChanged) :
      Moves setup before
        (({ before with negotiationStatus := .resolved }).moveTo i (.inFunnel .markedResolved))
  | leaves {i continues} (leaving : (before.threads i).phase = .inFunnel (.leaving continues)) :
      Moves setup before (({ before with funnel := .finished }).moveTo i
        (if continues then .connect else .ended))

variable {setup : MismatchSetup} {sender after : NegotiatingSender setup.numThreads}
  {i : Fin setup.numThreads}

theorem Moves.walk {before : Negotiation setup.numThreads} {phase next : MismatchPhase}
    (stands : (before.threads i).phase = phase)
    (walk : phase.Walks before.negotiationStatus before.funnel next) :
    setup.Moves before (before.moveTo i next) :=
  .walks (stands ▸ walk)

theorem abort_toNegotiation (sender : NegotiatingSender setup.numThreads) (code : ErrorCode) :
    (sender.abort code).toNegotiation = sender.toNegotiation := by
  unfold NegotiatingSender.abort
  split <;> rfl

theorem clearAbort_toNegotiation (sender : NegotiatingSender setup.numThreads) :
    sender.clearAbort.toNegotiation = sender.toNegotiation := by
  unfold NegotiatingSender.clearAbort
  split <;> rfl

theorem processAbortCmd_moves {version : Nat} {code : ErrorCode}
    (inTransfer : (sender.threads i).phase.inTransfer = true)
    (answer : abortAnswer setup.receiverVersion (sender.threads i).threadProtocolVersion =
      some (version, code)) :
    setup.Moves sender.toNegotiation (sender.processAbortCmd i version code).toNegotiation := by
  unfold NegotiatingSender.processAbortCmd NegotiatingSender.moveTo NegotiatingSender.setThread
  dsimp only
  rw [abort_toNegotiation]
  split
  · rename_i accepted
    obtain ⟨mismatch, supported⟩ := accepted
    rw [mismatch] at answer
    exact .accepts inTransfer answer supported
  · exact .walks (.stopped (MismatchPhase.atLoopHead_of_inTransfer inTransfer))

theorem pollFunnel_moves (atFunnel : (sender.threads i).phase = .atFunnel) :
    setup.Moves sender.toNegotiation (sender.pollFunnel i).toNegotiation := by
  obtain ⟨⟨threads, protocolVersion, status, funnel⟩, abortCode, barrier, histories, failed⟩ :=
    sender
  cases funnel with
  | start => exact .starts atFunnel rfl
  | progress => exact .stays
  | finished =>
    cases status with
    | wait => exact .stays
    | failed => exact .walk atFunnel (.negotiationFailed rfl)
    | resolved => exact .connects atFunnel rfl rfl

theorem runFunnel_moves {stage : FunnelStage}
    (inFunnel : (sender.threads i).phase = .inFunnel stage) :
    setup.Moves sender.toNegotiation
      (sender.runFunnel setup.options i stage).toNegotiation := by
  unfold NegotiatingSender.runFunnel
  cases stage with
  | started => exact .marksFailed inFunnel
  | markedFailed => exact .walk inFunnel (.handles _)
  | historiesHandled =>
    dsimp only
    split
    · exact .walk inFunnel .disagrees
    rename_i version common
    split
    · exact .stays
    · exact .changes inFunnel common (by omega)
  | versionChanged => exact .marksResolved inFunnel
  | markedResolved =>
    unfold NegotiatingSender.moveTo NegotiatingSender.setThread
    rw [clearAbort_toNegotiation]
    exact .walk inFunnel .clears
  | leaving continues => exact .leaves inFunnel

theorem proceed_moves (proceeds : setup.proceed sender i = some after) :
    setup.Moves sender.toNegotiation after.toNegotiation := by
  unfold proceed at proceeds
  cases phase : (sender.threads i).phase <;> rw [phase] at proceeds
  case waiting =>
    obtain ⟨_, moved⟩ := ite_none_right_eq_some.mp proceeds
    cases moved
    exact .walk phase .wakes
  case ended =>
    dsimp only at proceeds
    split at proceeds <;> cases proceeds
    · exact .stays
    · exact .walk phase .deRegisters
  all_goals cases proceeds
  case processVersionMismatch =>
    unfold NegotiatingSender.enterMismatch
    split
    · exact .stays
    · rename_i status
      exact .walk phase (.alreadyNegotiated status)
    · rename_i status
      exact .walk phase (.enters status)
  case atBarrier =>
    unfold NegotiatingSender.hitBarrier
    split
    · exact .stays
    · exact .walk phase (.hits _)
  case atFunnel => exact pollFunnel_moves phase
  case inFunnel => exact runFunnel_moves phase

theorem next_moves {event : MismatchEvent setup.numThreads}
    (steps : setup.next sender event = some after) :
    setup.Moves sender.toNegotiation after.toNegotiation := by
  cases event with
  | abortCmd i =>
    obtain ⟨enabled, answered⟩ := ite_none_right_eq_some.mp steps
    obtain ⟨⟨version, code⟩, answer, rfl⟩ := map_eq_some_iff.mp answered
    exact processAbortCmd_moves enabled.2 answer
  | checkAbort i =>
    obtain ⟨enabled, moved⟩ := ite_none_right_eq_some.mp steps
    cases moved
    apply Moves.walks
    split
    · exact .interrupted enabled.2.1
    · exact .stopped enabled.2.1
  | transfer i history =>
    obtain ⟨_, moved⟩ := ite_none_right_eq_some.mp steps
    cases moved
    exact .stays
  | stop i =>
    obtain ⟨enabled, moved⟩ := ite_none_right_eq_some.mp steps
    cases moved
    exact .walks (.stopped (MismatchPhase.atLoopHead_of_inTransfer enabled.2))
  | abort code =>
    obtain ⟨_, moved⟩ := ite_none_right_eq_some.mp steps
    cases moved
    rw [abort_toNegotiation]
    exact .stays
  | proceed i => exact proceed_moves (ite_none_right_eq_some.mp steps).2

/-! ### Threads that continue have the receiver's version -/

def Accepted (setup : MismatchSetup) : Prop :=
  10 ≤ setup.receiverVersion ∧ setup.receiverVersion < setup.senderVersion

theorem abortAnswer_same (version : Nat) : abortAnswer version version = none := by
  unfold abortAnswer
  rw [if_pos rfl]

theorem accepted_of_answer {version : Nat}
    (answer : abortAnswer setup.receiverVersion setup.senderVersion =
      some (version, .versionMismatch))
    (supported : negotiateProtocol version setup.senderVersion = version) :
    version = setup.receiverVersion ∧ setup.Accepted := by
  simp only [abortAnswer] at answer
  split_ifs at answer with same none kept <;> cases answer
  unfold Accepted
  unfold negotiateProtocol at none kept supported ⊢
  split_ifs at * <;> omega

end MismatchSetup

def MismatchPhase.hasChanged : MismatchPhase → Bool
  | .connect | .inFunnel .versionChanged | .inFunnel .markedResolved
  | .inFunnel (.leaving true) => true
  | _ => false

namespace MismatchSetup

variable {setup : MismatchSetup} {i : Fin setup.numThreads}

structure ThreadSound (setup : MismatchSetup) (thread : NegotiatingThread) : Prop where
  negotiated : thread.negotiatedProtocol = -1 ∨
    thread.negotiatedProtocol = setup.receiverVersion ∧ setup.Accepted
  footer : thread.footerType = setup.options.setFooterType setup.senderVersion ∨
    thread.footerType = setup.options.setFooterType setup.receiverVersion
  unchanged : thread.phase = .transferring → thread.threadProtocolVersion = setup.senderVersion
  changed : thread.phase.hasChanged = true →
    thread.threadProtocolVersion = setup.receiverVersion ∧ setup.Accepted

/-- In front of the first change there is the sender's version, behind it the receiver's. -/
structure Sound (setup : MismatchSetup) (state : Negotiation setup.numThreads) : Prop where
  threads : ∀ i, setup.ThreadSound (state.threads i)
  changed : ∀ i, (state.threads i).phase.hasChanged = true →
    state.protocolVersion = setup.receiverVersion
  resolved : state.negotiationStatus = .resolved →
    state.protocolVersion = setup.receiverVersion ∧ setup.Accepted

variable {thread : NegotiatingThread}

theorem ThreadSound.moveTo (sound : setup.ThreadSound thread)
    {phase : MismatchPhase} (behind : phase ≠ .transferring)
    (same : phase.hasChanged = true → thread.phase.hasChanged = true) :
    setup.ThreadSound { thread with phase } where
  __ := sound
  unchanged transferring := absurd transferring behind
  changed phaseChanged := sound.changed (same phaseChanged)

variable {status : ProtoNegotiationStatus}

theorem walks_not_transferring {funnel : FunnelStatus}
    {phase next : MismatchPhase} (walk : phase.Walks status funnel next) :
    next ≠ .transferring ∧ (next.hasChanged = true → phase.hasChanged = true) := by
  cases walk with
  | interrupted | stopped | alreadyNegotiated | enters | wakes | negotiationFailed | deRegisters
    | disagrees | clears => simp [MismatchPhase.hasChanged]
  | hits complete => cases complete <;> simp [MismatchPhase.hasChanged]
  | handles handled => cases handled <;> simp [MismatchPhase.hasChanged]

theorem commonProtocol_eq {protocols : List Int} {acc version : Int}
    (negotiated : ∀ protocol ∈ protocols, protocol = -1 ∨
      protocol = setup.receiverVersion ∧ setup.Accepted)
    (initially : acc = 0 ∨ acc = setup.receiverVersion ∧ setup.Accepted)
    (common : commonProtocol acc protocols = some version) (positive : 0 < version) :
    version = setup.receiverVersion ∧ setup.Accepted := by
  induction protocols generalizing acc with
  | nil =>
    cases common
    rcases initially with zero | accepted
    · omega
    · exact accepted
  | cons protocol rest ih =>
    have negotiatedRest := (forall_mem_cons.mp negotiated).2
    unfold commonProtocol at common
    by_cases sent : 0 < protocol
    · rw [if_pos sent] at common
      split at common
      · cases common
      apply ih negotiatedRest _ common
      right
      rcases negotiated protocol mem_cons_self with unsent | accepted
      · omega
      · exact accepted
    · rw [if_neg sent] at common
      exact ih negotiatedRest initially common

theorem Sound.setThread {state : Negotiation setup.numThreads} (sound : setup.Sound state)
    {protocolVersion : Nat} {funnel : FunnelStatus} (threadSound : setup.ThreadSound thread)
    (kept : protocolVersion = state.protocolVersion ∨ protocolVersion = setup.receiverVersion)
    (changed : thread.phase.hasChanged = true → protocolVersion = setup.receiverVersion)
    (resolved : status = .resolved → protocolVersion = setup.receiverVersion ∧ setup.Accepted) :
    setup.Sound
      { threads := Function.update state.threads i thread
        protocolVersion
        negotiationStatus := status
        funnel } where
  threads := (Function.forall_update_iff _ fun _ thread => setup.ThreadSound thread).mpr
    ⟨threadSound, fun j _ => sound.threads j⟩
  changed := (Function.forall_update_iff _ fun _ (thread : NegotiatingThread) =>
      thread.phase.hasChanged = true →
      protocolVersion = setup.receiverVersion).mpr
    ⟨changed, fun j _ phase => kept.elim (fun same => same.trans (sound.changed j phase)) id⟩
  resolved := resolved

theorem Sound.moves {before after : Negotiation setup.numThreads} (sound : setup.Sound before)
    (moves : setup.Moves before after) : setup.Sound after := by
  cases moves with
  | stays => exact sound
  | @walks i phase walk =>
    obtain ⟨behind, same⟩ := walks_not_transferring walk
    exact sound.setThread ((sound.threads i).moveTo behind same) (.inl rfl)
      (fun phaseChanged => sound.changed i (same phaseChanged)) sound.resolved
  | @accepts i version inTransfer answer supported =>
    have threadSound := sound.threads i
    have first : (before.threads i).threadProtocolVersion = setup.senderVersion := by
      cases phase : (before.threads i).phase <;> rw [phase] at inTransfer <;> cases inTransfer
      case transferring => exact threadSound.unchanged phase
      case connect =>
        obtain ⟨same, _⟩ := threadSound.changed (by rw [phase]; rfl)
        rw [same, abortAnswer_same] at answer
        cases answer
    rw [first] at answer supported
    obtain ⟨same, accepted⟩ := accepted_of_answer answer supported
    exact sound.setThread
      { negotiated := .inr ⟨by rw [same], accepted⟩
        footer := threadSound.footer
        unchanged := nofun
        changed := nofun } (.inl rfl) nofun sound.resolved
  | @connects i atFunnel finished resolved =>
    have negotiated := sound.resolved resolved
    apply sound.setThread _ (.inl rfl) (fun _ => negotiated.1) sound.resolved
    exact
      { negotiated := (sound.threads i).negotiated
        footer := (sound.threads i).footer
        unchanged := nofun
        changed := fun _ => negotiated }
  | @starts i atFunnel start =>
    exact sound.setThread ((sound.threads i).moveTo nofun nofun) (.inl rfl) nofun sound.resolved
  | @marksFailed i started =>
    exact sound.setThread ((sound.threads i).moveTo nofun nofun) (.inl rfl) nofun nofun
  | @changes i version handled common positive =>
    have negotiated : ∀ protocol ∈ before.getNegotiatedProtocols, protocol = -1 ∨
        protocol = setup.receiverVersion ∧ setup.Accepted := by
      intro protocol member
      obtain ⟨j, _, same⟩ := mem_map.mp member
      rw [← same]
      exact (sound.threads j).negotiated
    obtain ⟨same, accepted⟩ := commonProtocol_eq negotiated (.inl rfl) common positive
    have toNat : version.toNat = setup.receiverVersion := by omega
    rw [toNat]
    apply sound.setThread _ (.inr rfl) (fun _ => rfl) (fun _ => ⟨rfl, accepted⟩)
    exact
      { negotiated := (sound.threads i).negotiated
        footer := .inr rfl
        unchanged := nofun
        changed := fun _ => ⟨rfl, accepted⟩ }
  | @marksResolved i changed =>
    have phaseChanged : (before.threads i).phase.hasChanged = true := by
      rw [changed]
      rfl
    have received := sound.changed i phaseChanged
    apply sound.setThread _ (.inl rfl) (fun _ => received)
      (fun _ => ⟨received, ((sound.threads i).changed phaseChanged).2⟩)
    exact (sound.threads i).moveTo nofun (fun _ => phaseChanged)
  | @leaves i continues leaving =>
    cases continues with
    | false =>
      exact sound.setThread ((sound.threads i).moveTo nofun nofun) (.inl rfl) nofun sound.resolved
    | true =>
      have phaseChanged : (before.threads i).phase.hasChanged = true := by
        rw [leaving]
        rfl
      apply sound.setThread _ (.inl rfl) (fun _ => sound.changed i phaseChanged) sound.resolved
      exact (sound.threads i).moveTo nofun (fun _ => phaseChanged)

theorem Reaches.sound {sender : NegotiatingSender setup.numThreads}
    (reaches : setup.Reaches sender) : setup.Sound sender.toNegotiation := by
  apply reaches.invariant (fun sender => setup.Sound sender.toNegotiation)
  · exact
      { threads := fun _ =>
          { negotiated := .inl rfl
            footer := .inl rfl
            unchanged := fun _ => rfl
            changed := nofun }
        changed := nofun
        resolved := nofun }
  · intro before event after sound _ steps
    exact sound.moves (next_moves steps)

end MismatchSetup

/-! ### A sender with one thread -/

def MismatchPhase.beforeFunnel : MismatchPhase → Bool
  | .inFunnel _ | .connect => false
  | _ => true

def MismatchPhase.behindFunnel : MismatchPhase → Bool
  | .connect | .processVersionMismatch | .ended | .deRegistered => true
  | _ => false

namespace MismatchSetup

variable {setup : MismatchSetup} {i : Fin setup.numThreads}

/-- What the only thread and the shared state can be together. The thread went through the
funnel itself, so that its footer type is the one of the version it then has. -/
def AloneAt (setup : MismatchSetup) (funnel : FunnelStatus) (status : ProtoNegotiationStatus)
    (phase : MismatchPhase) (footerType : FooterType) : Prop :=
  match funnel with
  | .start => phase.beforeFunnel = true
  | .progress => ∃ stage, phase = .inFunnel stage ∧
      (phase.hasChanged = true → footerType = setup.options.setFooterType setup.receiverVersion) ∧
      (stage = .markedResolved ∨ stage = .leaving true → status = .resolved)
  | .finished => phase.behindFunnel = true ∧
      (phase = .connect ∨ phase = .processVersionMismatch → status = .resolved ∧
        footerType = setup.options.setFooterType setup.receiverVersion)

variable {status : ProtoNegotiationStatus}

theorem aloneAt_early {stage : FunnelStage}
    {footerType : FooterType} (early : (MismatchPhase.inFunnel stage).hasChanged = false) :
    setup.AloneAt .progress status (.inFunnel stage) footerType := by
  refine ⟨stage, rfl, ?_, ?_⟩
  · intro changed
    rw [early] at changed
    cases changed
  · rintro (rfl | rfl) <;> cases early

theorem AloneAt.walks {funnel : FunnelStatus} {status : ProtoNegotiationStatus}
    {phase next : MismatchPhase} {footerType : FooterType}
    (alone : setup.AloneAt funnel status phase footerType)
    (walk : phase.Walks status funnel next) : setup.AloneAt funnel status next footerType := by
  cases funnel with
  | start =>
    cases walk with
    | interrupted | stopped | alreadyNegotiated | enters | wakes | negotiationFailed
      | deRegisters => rfl
    | hits complete => cases complete <;> rfl
    | handles | disagrees | clears => cases alone
  | progress =>
    obtain ⟨stage, inFunnel, footer, resolved⟩ := alone
    subst inFunnel
    cases walk with
    | interrupted atHead | stopped atHead => cases atHead
    | handles handled => cases handled <;> exact aloneAt_early rfl
    | disagrees => exact aloneAt_early rfl
    | clears => exact ⟨_, rfl, fun _ => footer rfl, fun _ => resolved (.inl rfl)⟩
  | finished =>
    obtain ⟨behind, continued⟩ := alone
    cases walk with
    | interrupted atHead =>
      cases phase with
      | connect => exact ⟨rfl, fun _ => continued (.inl rfl)⟩
      | processVersionMismatch => exact ⟨rfl, continued⟩
      | transferring => cases behind
      | atBarrier | waiting | atFunnel | ended | deRegistered | inFunnel => cases atHead
    | stopped | alreadyNegotiated | negotiationFailed | deRegisters =>
      exact ⟨rfl, fun phase => by simp at phase⟩
    | enters waits =>
      -- the status is RESOLVED by now
      obtain ⟨resolved, _⟩ := continued (.inr rfl)
      rw [waits] at resolved
      cases resolved
    | hits | wakes | handles | disagrees | clears => cases behind

theorem alone_update {threads : Fin setup.numThreads → NegotiatingThread}
    (one : setup.numThreads ≤ 1) (thread : NegotiatingThread) (j : Fin setup.numThreads) :
    Function.update threads i thread j = thread := by
  have same : j = i := Fin.ext (by have := i.isLt; have := j.isLt; omega)
  rw [same, update_self]

def Alone (setup : MismatchSetup) (state : Negotiation setup.numThreads) : Prop :=
  ∀ i, setup.AloneAt state.funnel state.negotiationStatus (state.threads i).phase
    (state.threads i).footerType

theorem Alone.setThread (one : setup.numThreads ≤ 1) {state : Negotiation setup.numThreads}
    {thread : NegotiatingThread} {protocolVersion : Nat} {funnel : FunnelStatus}
    (alone : setup.AloneAt funnel status thread.phase thread.footerType) :
    setup.Alone
      { threads := Function.update state.threads i thread
        protocolVersion
        negotiationStatus := status
        funnel } := by
  intro j
  change setup.AloneAt funnel status (update state.threads i thread j).phase
    (update state.threads i thread j).footerType
  rw [alone_update one]
  exact alone

theorem AloneAt.inFunnel {funnel : FunnelStatus} {stage : FunnelStage} {footerType : FooterType}
    (alone : setup.AloneAt funnel status (.inFunnel stage) footerType) :
    funnel = .progress ∧ ((MismatchPhase.inFunnel stage).hasChanged = true →
        footerType = setup.options.setFooterType setup.receiverVersion) ∧
      (stage = .markedResolved ∨ stage = .leaving true → status = .resolved) := by
  cases funnel with
  | start => cases alone
  | finished => cases alone.1
  | progress =>
    obtain ⟨own, same, footer, resolved⟩ := alone
    cases same
    exact ⟨rfl, footer, resolved⟩

theorem Alone.moves (one : setup.numThreads ≤ 1) {before after : Negotiation setup.numThreads}
    (sound : setup.Sound before) (alone : setup.Alone before)
    (moves : setup.Moves before after) : setup.Alone after := by
  have soundAfter := sound.moves moves
  cases moves with
  | stays => exact alone
  | @walks i phase walk => exact Alone.setThread one ((alone i).walks walk)
  | @accepts i version inTransfer answer supported =>
    have atHead := MismatchPhase.atLoopHead_of_inTransfer inTransfer
    exact Alone.setThread one ((alone i).walks (.interrupted atHead))
  | @connects i atFunnel finished resolved =>
    have behind := alone i
    rw [atFunnel, finished] at behind
    cases behind.1
  | @starts i atFunnel start =>
    exact Alone.setThread one (aloneAt_early rfl)
  | @marksFailed i started =>
    have own := alone i
    rw [started] at own
    obtain ⟨progress, _⟩ := own.inFunnel
    apply Alone.setThread one
    rw [progress]
    exact aloneAt_early rfl
  | @changes i version handled common positive =>
    have own := alone i
    rw [handled] at own
    obtain ⟨progress, _⟩ := own.inFunnel
    have received := soundAfter.changed i (by
      change (update before.threads i _ i).phase.hasChanged = true
      rw [update_self]
      rfl)
    change version.toNat = setup.receiverVersion at received
    apply Alone.setThread one
    rw [progress, received]
    exact ⟨_, rfl, fun _ => rfl, fun last => by simp at last⟩
  | @marksResolved i changed =>
    have own := alone i
    rw [changed] at own
    obtain ⟨progress, footer, _⟩ := own.inFunnel
    apply Alone.setThread one
    rw [progress]
    exact ⟨_, rfl, fun _ => footer rfl, fun _ => rfl⟩
  | @leaves i continues leaving =>
    have own := alone i
    rw [leaving] at own
    obtain ⟨_, footer, resolved⟩ := own.inFunnel
    apply Alone.setThread one
    cases continues with
    | false => exact ⟨rfl, fun phase => by simp at phase⟩
    | true => exact ⟨rfl, fun _ => ⟨resolved (.inr rfl), footer rfl⟩⟩

theorem Reaches.alone (one : setup.numThreads ≤ 1)
    {sender : NegotiatingSender setup.numThreads} (reaches : setup.Reaches sender) :
    setup.Alone sender.toNegotiation := by
  have both : setup.Sound sender.toNegotiation ∧ setup.Alone sender.toNegotiation := by
    apply reaches.invariant
      (fun sender => setup.Sound sender.toNegotiation ∧ setup.Alone sender.toNegotiation)
    · exact ⟨Reaches.sound .refl, fun _ => rfl⟩
    · intro before event after holds _ steps
      exact ⟨holds.1.moves (next_moves steps), holds.2.moves one holds.1 (next_moves steps)⟩
  exact both.2

end MismatchSetup

/-! ### What the receiver answers and expects -/

/-- In the state function of SETTINGS, with a message in the buffer. -/
structure ReceiverThread.HoldsSettings (thread : ReceiverThread) (message : List Byte) : Prop where
  off : thread.off = thread.oldOffset + 1
  content : thread.buf.read thread.oldOffset message.length = message

namespace NegotiatingSender

variable {numThreads : Nat}

def settingsMessage (options : SenderOptions) (sender : NegotiatingSender numThreads)
    (i : Fin numThreads) : List Byte :=
  Wdt.settingsMessage (sender.threads i).threadProtocolVersion
    ((sender.threads i).settings options sender.protocolVersion)

/-- Every thread of the receiver that takes the settings of the sender's thread then expects a
checksum footer exactly if the sender's thread writes them. -/
def FramesAlike (options : SenderOptions) (receiverVersion : Nat)
    (sender : NegotiatingSender numThreads) (i : Fin numThreads) : Prop :=
  ∀ (config : ReceiverConfig) (peer : ReceiverThread),
    config.transferId = options.transferId → peer.threadProtocolVersion = receiverVersion →
    peer.HoldsSettings (sender.settingsMessage options i) →
    ∃ after, (peer.processSettingsCmd config).settle = .ok after ∧
      ((sender.threads i).footerType = .checksumFooter ↔ after.1.footerType = .checksumFooter)

end NegotiatingSender

namespace MismatchSetup

variable {setup : MismatchSetup} {i : Fin setup.numThreads}

theorem processSettingsCmd_expects {sender : NegotiatingSender setup.numThreads}
    (accepted : setup.Accepted)
    (version : (sender.threads i).threadProtocolVersion = setup.receiverVersion)
    {config : ReceiverConfig} {peer : ReceiverThread}
    (sameId : config.transferId = setup.options.transferId)
    (sameVersion : peer.threadProtocolVersion = setup.receiverVersion)
    (holds : peer.HoldsSettings (sender.settingsMessage setup.options i)) :
    ∃ after, (peer.processSettingsCmd config).settle = .ok after ∧
      (after.1.footerType = .checksumFooter ↔ settingsFlagVersion ≤ setup.receiverVersion ∧
        (sender.threads i).footerType = .checksumFooter) := by
  obtain ⟨supported, older⟩ := accepted
  have small : (sender.threads i).threadProtocolVersion ≤ int32Max := by
    have bound := setup.versionSmall
    omega
  have fits := @settingsFields_fit _
    ((sender.threads i).settings setup.options sender.protocolVersion) small
    setup.options.readTimeout setup.options.writeTimeout setup.options.transferIdShort
  have content := holds.content
  unfold NegotiatingSender.settingsMessage at content
  rw [settingsMessage_of_fits fits] at content
  have short : setup.options.transferId.length < 2 ^ 64 := by
    have bound := setup.options.transferIdShort
    have longest : kMaxTransferIdLength = 1024 := rfl
    omega
  have reads := @decodeSettings_reads_received (sender.threads i).threadProtocolVersion
    ((sender.threads i).settings setup.options sender.protocolVersion)
    setup.options.readTimeout setup.options.writeTimeout short
  have receivedId : (((sender.threads i).settings setup.options sender.protocolVersion).received
      (sender.threads i).threadProtocolVersion).transferId = setup.options.transferId := by
    unfold Settings.received
    split <;> rfl
  obtain ⟨after, answered, _, footer⟩ := @processSettingsCmd_reads config peer _ _ _
    small (by omega) (by omega) holds.off reads fits content
  refine ⟨after, answered, ?_⟩
  rw [footer (by rw [sameId, receivedId])]
  unfold Settings.received
  rw [version]
  by_cases flags : settingsFlagVersion ≤ setup.receiverVersion
  · simp [flags, NegotiatingThread.settings]
  · simp [flags]

def sampleConfig (options : SenderOptions) : ReceiverConfig :=
  { Wdt.sampleConfig with transferId := options.transferId }

def samplePeer (version : Nat) (message : List Byte) : ReceiverThread where
  buf := (filledWith 0).store 0 message
  off := 1
  threadProtocolVersion := version

theorem samplePeer_holds (version : Nat) (message : List Byte) :
    (samplePeer version message).HoldsSettings message where
  off := rfl
  content := by
    change ((filledWith 0).store 0 message).read 0 message.length = message
    rw [Memory.read_store]

theorem framesAlike_iff {sender : NegotiatingSender setup.numThreads} (accepted : setup.Accepted)
    (version : (sender.threads i).threadProtocolVersion = setup.receiverVersion) :
    sender.FramesAlike setup.options setup.receiverVersion i ↔
      ((sender.threads i).footerType = .checksumFooter →
        settingsFlagVersion ≤ setup.receiverVersion) := by
  constructor
  · intro alike writes
    have holds := samplePeer_holds setup.receiverVersion (sender.settingsMessage setup.options i)
    obtain ⟨after, answered, agree⟩ := alike (sampleConfig setup.options) _ rfl rfl holds
    obtain ⟨expected, sameAnswer, expects⟩ := @processSettingsCmd_expects setup i sender accepted
      version (sampleConfig setup.options) _ rfl rfl holds
    rw [answered] at sameAnswer
    cases sameAnswer
    exact (expects.mp (agree.mp writes)).1
  · intro flagged config peer sameId sameVersion holds
    obtain ⟨after, answered, expects⟩ := processSettingsCmd_expects accepted version sameId
      sameVersion holds
    refine ⟨after, answered, ?_⟩
    rw [expects]
    exact ⟨fun writes => ⟨flagged writes, writes⟩, fun both => both.2⟩

theorem framesAlike_of_condition {sender : NegotiatingSender setup.numThreads}
    (reaches : setup.Reaches sender) (continues : (sender.threads i).phase = .connect)
    (condition : setup.numThreads ≤ 1 ∨ setup.options.enableChecksum = false ∨
      setup.senderVersion < checksumVersion ∨ settingsFlagVersion ≤ setup.receiverVersion) :
    sender.FramesAlike setup.options setup.receiverVersion i := by
  have sound := reaches.sound
  obtain ⟨version, accepted⟩ := (sound.threads i).changed (by rw [continues]; rfl)
  rw [framesAlike_iff accepted version]
  intro writes
  have sameConstant : checksumVersion = settingsFlagVersion := rfl
  have writesAt {protocolVersion : Nat}
      (same : (sender.threads i).footerType = setup.options.setFooterType protocolVersion) :
      checksumVersion ≤ protocolVersion ∧ setup.options.enableChecksum = true := by
    rw [same] at writes
    unfold SenderOptions.setFooterType at writes
    split at writes
    · assumption
    · cases writes
  rcases condition with one | disabled | old | flagged
  · have alone := reaches.alone one i
    rw [continues] at alone
    cases funnel : sender.funnel with
    | start =>
      rw [funnel] at alone
      cases alone
    | progress =>
      rw [funnel] at alone
      obtain ⟨stage, phase, _⟩ := alone
      cases phase
    | finished =>
      rw [funnel] at alone
      have later := (writesAt (alone.2 (.inl rfl)).2).1
      omega
  · rcases (sound.threads i).footer with same | same
    · have enabled := (writesAt same).2
      rw [disabled] at enabled
      cases enabled
    · exact (writesAt same).1
  · rcases (sound.threads i).footer with same | same
    · have later := (writesAt same).1
      omega
    · exact (writesAt same).1
  · exact flagged

/-! ### A run in which every thread continues or waits to -/

variable {sender : NegotiatingSender setup.numThreads}

variable {after : NegotiatingSender setup.numThreads}

theorem Reaches.then {event : MismatchEvent setup.numThreads} (reaches : setup.Reaches sender)
    (steps : setup.next sender event = some after) : setup.Reaches after :=
  .next reaches trivial steps

theorem next_proceed (runs : sender.checkFailed = false) (i : Fin setup.numThreads) :
    setup.next sender (.proceed i) = setup.proceed sender i := by
  exact if_pos runs

theorem abortAnswer_accepted (accepted : setup.Accepted) :
    abortAnswer setup.receiverVersion setup.senderVersion =
      some (setup.receiverVersion, .versionMismatch) ∧
    negotiateProtocol setup.receiverVersion setup.senderVersion = setup.receiverVersion := by
  obtain ⟨supported, older⟩ := accepted
  have negotiated : negotiateProtocol setup.senderVersion setup.receiverVersion =
      setup.receiverVersion := by
    unfold negotiateProtocol
    rw [if_neg (by omega)]
    omega
  refine ⟨?_, ?_⟩
  · unfold abortAnswer
    rw [if_neg (by omega)]
    rw [negotiated, if_neg (by omega), if_pos (by omega)]
  · unfold negotiateProtocol
    rw [if_neg (by omega)]
    omega

def abortedThread (setup : MismatchSetup) (phase : MismatchPhase) : NegotiatingThread where
  phase := phase
  threadProtocolVersion := setup.senderVersion
  negotiatedProtocol := setup.receiverVersion
  footerType := setup.options.setFooterType setup.senderVersion

def hitTimes (setup : MismatchSetup) (count : Nat) : Barrier where
  numThreads := setup.numThreads
  numHits := count
  isComplete := decide (count = setup.numThreads)

/-- The first threads have got ABORT and wait at the barrier. -/
def arrived (setup : MismatchSetup) (count : Nat) : NegotiatingSender setup.numThreads :=
  { setup.create with
    threads := fun i =>
      if i.val < count then setup.abortedThread .waiting else setup.create.threads i
    abortCode := if count = 0 then .ok else .versionMismatch
    barrier := setup.hitTimes count }

def arriving (setup : MismatchSetup) (i : Fin setup.numThreads) (phase : MismatchPhase) :
    NegotiatingSender setup.numThreads :=
  { (setup.arrived i.val).setThread i (setup.abortedThread phase) with
    abortCode := .versionMismatch }

theorem arrived_thread (i : Fin setup.numThreads) : (setup.arrived i.val).threads i =
      { threadProtocolVersion := setup.senderVersion
        footerType := setup.options.setFooterType setup.senderVersion } := by
  change (if i.val < i.val then _ else _) = _
  rw [if_neg (Nat.lt_irrefl _)]
  rfl

theorem arriving_thread (i : Fin setup.numThreads) (phase : MismatchPhase) :
    (setup.arriving i phase).threads i = setup.abortedThread phase := by
  change update (setup.arrived i.val).threads i _ i = _
  rw [update_self]

theorem arriving_moveTo (i : Fin setup.numThreads) (phase next : MismatchPhase) :
    (setup.arriving i phase).moveTo i next = setup.arriving i next := by
  unfold NegotiatingSender.moveTo NegotiatingSender.setThread Negotiation.setThread
  rw [arriving_thread]
  unfold arriving NegotiatingSender.setThread Negotiation.setThread
  rw [update_idem]
  rfl

theorem next_abortCmd (accepted : setup.Accepted) (i : Fin setup.numThreads) :
    setup.next (setup.arrived i.val) (.abortCmd i) =
      some (setup.arriving i .processVersionMismatch) := by
  obtain ⟨answer, supported⟩ := abortAnswer_accepted accepted
  have phase : ((setup.arrived i.val).threads i).phase.inTransfer = true := by
    rw [arrived_thread]
    rfl
  unfold next
  dsimp only
  rw [if_pos ⟨rfl, phase⟩, arrived_thread]
  rw [answer, map_some]
  unfold NegotiatingSender.processAbortCmd
  rw [arrived_thread]
  rw [if_pos ⟨rfl, supported⟩]
  unfold arriving NegotiatingSender.setThread NegotiatingSender.abort abortedThread
  by_cases first : i.val = 0
  · have ok : (setup.arrived i.val).abortCode = .ok := if_pos first
    rw [if_neg (by rw [ok]; simp)]
  · have mismatch : (setup.arrived i.val).abortCode = .versionMismatch := if_neg first
    rw [if_pos ⟨rfl, by rw [mismatch]; simp⟩, ← mismatch]

theorem next_enter (i : Fin setup.numThreads) :
    setup.next (setup.arriving i .processVersionMismatch) (.proceed i) =
      some (setup.arriving i .atBarrier) := by
  rw [next_proceed rfl]
  unfold proceed
  rw [arriving_thread]
  change some ((setup.arriving i .processVersionMismatch).moveTo i .atBarrier) = _
  rw [arriving_moveTo]

theorem next_hit (i : Fin setup.numThreads) :
    setup.next (setup.arriving i .atBarrier) (.proceed i) =
      some { setup.arriving i (if i.val + 1 = setup.numThreads then .atFunnel else .waiting) with
        barrier := setup.hitTimes (i.val + 1) } := by
  have executes : (setup.arriving i .atBarrier).barrier.execute =
      some (setup.hitTimes (i.val + 1)) := by
    change (setup.hitTimes i.val).execute = _
    have more : i.val ≠ setup.numThreads := by omega
    unfold hitTimes Barrier.execute Barrier.checkForFinish
    dsimp only
    rw [decide_eq_false more, if_neg Bool.false_ne_true, if_neg (by omega)]
    by_cases last : i.val + 1 = setup.numThreads
    · rw [if_pos (by omega), decide_eq_true last]
      rfl
    · rw [if_neg (by omega), decide_eq_false last]
      rfl
  rw [next_proceed rfl]
  unfold proceed
  rw [arriving_thread]
  unfold NegotiatingSender.hitBarrier
  rw [executes]
  have moved := arriving_moveTo i .atBarrier
    (if i.val + 1 = setup.numThreads then .atFunnel else .waiting)
  rw [← moved]
  simp only [hitTimes, decide_eq_true_eq]
  rfl

theorem arrived_succ (i : Fin setup.numThreads) :
    { setup.arriving i .waiting with barrier := setup.hitTimes (i.val + 1) } =
      setup.arrived (i.val + 1) := by
  have threads : update (setup.arrived i.val).threads i (setup.abortedThread .waiting) =
      (setup.arrived (i.val + 1)).threads := by
    funext j
    rw [update_apply]
    change _ = if j.val < i.val + 1 then _ else _
    by_cases self : j = i
    · rw [if_pos self, if_pos (by rw [self]; omega)]
    rw [if_neg self]
    change (if j.val < i.val then _ else _) = _
    by_cases earlier : j.val < i.val
    · rw [if_pos earlier, if_pos (by omega)]
    · rw [if_neg earlier, if_neg (by omega)]
  unfold arriving NegotiatingSender.setThread Negotiation.setThread
  rw [threads]
  rfl

theorem reaches_arrived (accepted : setup.Accepted) {count : Nat}
    (fewer : count < setup.numThreads) : setup.Reaches (setup.arrived count) := by
  induction count with
  | zero =>
    have none : setup.arrived 0 = setup.create := by
      unfold arrived hitTimes
      rw [decide_eq_false (by omega)]
      rfl
    rw [none]
    exact .refl
  | succ count ih =>
    have before := ih (by omega)
    let i : Fin setup.numThreads := ⟨count, by omega⟩
    have aborted : setup.Reaches (setup.arriving i .processVersionMismatch) :=
      Reaches.then before (next_abortCmd accepted i)
    have atBarrier := aborted.then (next_enter i)
    have hit := atBarrier.then (next_hit i)
    have more : i.val + 1 ≠ setup.numThreads := by
      change count + 1 ≠ _
      omega
    rw [if_neg more, arrived_succ i] at hit
    exact hit

def ledBy (setup : MismatchSetup) (last : Fin setup.numThreads) (thread : NegotiatingThread)
    (protocolVersion : Nat) (status : ProtoNegotiationStatus) (funnel : FunnelStatus)
    (abortCode : ErrorCode) (histories : Fin setup.numThreads → ThreadTransferHistory) :
    NegotiatingSender setup.numThreads where
  threads := Function.update (fun _ => setup.abortedThread .waiting) last thread
  protocolVersion := protocolVersion
  negotiationStatus := status
  funnel := funnel
  abortCode := abortCode
  barrier := setup.hitTimes setup.numThreads
  histories := histories

section LedBy

variable {last : Fin setup.numThreads} {thread : NegotiatingThread} {protocolVersion : Nat}
  {status : ProtoNegotiationStatus} {funnel : FunnelStatus} {abortCode : ErrorCode}
  {histories : Fin setup.numThreads → ThreadTransferHistory}

theorem ledBy_setThread (thread' : NegotiatingThread) :
    (setup.ledBy last thread protocolVersion status funnel abortCode histories).setThread last
        thread' =
      setup.ledBy last thread' protocolVersion status funnel abortCode histories := by
  unfold NegotiatingSender.setThread Negotiation.setThread ledBy
  rw [update_idem]

theorem ledBy_thread :
    (setup.ledBy last thread protocolVersion status funnel abortCode histories).threads last =
      thread := by
  change update (fun _ => setup.abortedThread .waiting) last thread last = thread
  rw [update_self]

theorem ledBy_moveTo (phase : MismatchPhase) :
    (setup.ledBy last thread protocolVersion status funnel abortCode histories).moveTo last phase =
      setup.ledBy last { thread with phase } protocolVersion status funnel abortCode
        histories := by
  unfold NegotiatingSender.moveTo
  rw [ledBy_setThread, ledBy_thread]

theorem Reaches.runs {stage : FunnelStage}
    (reaches : setup.Reaches
      (setup.ledBy last thread protocolVersion status funnel abortCode histories))
    (inFunnel : thread.phase = .inFunnel stage)
    (runs : (setup.ledBy last thread protocolVersion status funnel abortCode
      histories).runFunnel setup.options last stage = after) : setup.Reaches after := by
  have steps : setup.next (setup.ledBy last thread protocolVersion status funnel abortCode
      histories) (.proceed last) = some after := by
    rw [next_proceed rfl]
    unfold proceed
    rw [ledBy_thread, inFunnel, ← runs]
  exact reaches.then steps

theorem hit_last (last : Fin setup.numThreads) (isLast : last.val + 1 = setup.numThreads) :
    { setup.arriving last .atFunnel with barrier := setup.hitTimes (last.val + 1) } =
      setup.ledBy last (setup.abortedThread .atFunnel) setup.senderVersion .wait .start
        .versionMismatch (fun _ => {}) := by
  have threads : update (setup.arrived last.val).threads last
      (setup.abortedThread .atFunnel) =
      update (fun _ => setup.abortedThread .waiting) last
        (setup.abortedThread .atFunnel) := by
    funext j
    rw [update_apply, update_apply]
    by_cases self : j = last
    · rw [if_pos self, if_pos self]
    · rw [if_neg self, if_neg self]
      exact if_pos (by omega)
  unfold arriving NegotiatingSender.setThread Negotiation.setThread ledBy
  rw [threads, isLast]
  rfl

theorem returnUnackedSourcesToQueue_numAcknowledged (history : ThreadTransferHistory) :
    history.returnUnackedSourcesToQueue.1.numAcknowledged = history.numAcknowledged := by
  unfold ThreadTransferHistory.returnUnackedSourcesToQueue
    ThreadTransferHistory.setCheckpointAndReturnToQueue
  split <;> rfl

theorem handleVersionMismatch_unacknowledged {numThreads : Nat} (threads : List (Fin numThreads))
    {histories : Fin numThreads → ThreadTransferHistory}
    (none : ∀ i, (histories i).numAcknowledged = 0) :
    (handleVersionMismatch threads histories).1 = true := by
  induction threads generalizing histories with
  | nil => rfl
  | cons i rest ih =>
    unfold handleVersionMismatch
    rw [if_neg (by rw [none i]; omega)]
    apply ih
    intro j
    rw [update_apply]
    split
    · rw [returnUnackedSourcesToQueue_numAcknowledged]
      exact none i
    · exact none j

theorem commonProtocol_same {version : Int} (positive : 0 < version) {protocols : List Int}
    (same : ∀ protocol ∈ protocols, protocol = version) :
    commonProtocol version protocols = some version := by
  induction protocols with
  | nil => rfl
  | cons protocol rest ih =>
    unfold commonProtocol
    rw [same protocol mem_cons_self, if_pos positive, if_neg (by simp)]
    exact ih (forall_mem_cons.mp same).2

theorem commonProtocol_ledBy (accepted : setup.Accepted)
    (own : thread.negotiatedProtocol = setup.receiverVersion) :
    commonProtocol 0 (setup.ledBy last thread protocolVersion status funnel abortCode
      histories).getNegotiatedProtocols = some (setup.receiverVersion : Int) := by
  have supported := accepted.1
  have positive : (0 : Int) < setup.receiverVersion := by omega
  generalize shape : (setup.ledBy last thread protocolVersion status funnel abortCode
    histories).getNegotiatedProtocols = protocols
  have same : ∀ protocol ∈ protocols, protocol = (setup.receiverVersion : Int) := by
    rw [← shape]
    intro protocol member
    obtain ⟨j, _, read⟩ := mem_map.mp member
    rw [← read]
    change (update (fun _ => setup.abortedThread .waiting) last thread
      j).negotiatedProtocol = _
    rw [update_apply]
    split
    · exact own
    · rfl
  have length : protocols.length = setup.numThreads := by
    rw [← shape, Negotiation.getNegotiatedProtocols, length_map, length_finRange]
  cases protocols with
  | nil =>
    rw [length_nil] at length
    have inside := last.isLt
    omega
  | cons protocol rest =>
    unfold commonProtocol
    rw [same protocol mem_cons_self, if_pos positive, if_neg (by omega)]
    exact commonProtocol_same positive
      (forall_mem_cons.mp same).2

end LedBy

def changedThread (setup : MismatchSetup) (phase : MismatchPhase) : NegotiatingThread where
  phase := phase
  threadProtocolVersion := setup.receiverVersion
  negotiatedProtocol := setup.receiverVersion
  footerType := setup.options.setFooterType setup.receiverVersion

theorem reaches_resolved (accepted : setup.Accepted) (last : Fin setup.numThreads)
    (isLast : last.val + 1 = setup.numThreads) :
    setup.Reaches (setup.ledBy last (setup.changedThread .connect) setup.receiverVersion .resolved
      .finished .ok
      (handleVersionMismatch (List.finRange setup.numThreads) (fun _ => {})).2) := by
  generalize returned :
    (handleVersionMismatch (finRange setup.numThreads) (fun _ => {})).2 = histories
  have supported := accepted.1
  have aborted := (reaches_arrived accepted last.isLt).then (next_abortCmd accepted last)
  have hit := (aborted.then (next_enter last)).then (next_hit last)
  rw [if_pos isLast, hit_last last isLast] at hit
  have polls : setup.next (setup.ledBy last (setup.abortedThread .atFunnel) setup.senderVersion
      .wait .start .versionMismatch (fun _ => {})) (.proceed last) =
      some (setup.ledBy last (setup.abortedThread (.inFunnel .started)) setup.senderVersion .wait
        .progress .versionMismatch (fun _ => {})) := by
    rw [next_proceed rfl]
    unfold proceed
    rw [ledBy_thread]
    exact congrArg some (ledBy_moveTo _)
  have started := hit.then polls
  have markedFailed : setup.Reaches (setup.ledBy last (setup.abortedThread (.inFunnel
      .markedFailed)) setup.senderVersion .failed .progress .versionMismatch (fun _ => {})) :=
    started.runs rfl (ledBy_moveTo _)
  have handled : setup.Reaches (setup.ledBy last (setup.abortedThread (.inFunnel
      .historiesHandled)) setup.senderVersion .failed .progress .versionMismatch histories) := by
    apply markedFailed.runs rfl
    have unacknowledged := handleVersionMismatch_unacknowledged (finRange setup.numThreads)
      (fun i => (rfl : ((fun _ => {} : Fin setup.numThreads → ThreadTransferHistory)
        i).numAcknowledged = 0))
    rw [← returned]
    change ((setup.ledBy last (setup.abortedThread (.inFunnel .markedFailed)) setup.senderVersion
      .failed .progress .versionMismatch _).moveTo last (.inFunnel (if
        (handleVersionMismatch (finRange setup.numThreads) (fun _ => {})).1 = true then
        .historiesHandled else .leaving false))) = _
    rw [unacknowledged, if_pos rfl]
    exact ledBy_moveTo _
  have changed : setup.Reaches (setup.ledBy last
      (setup.changedThread (.inFunnel .versionChanged)) setup.receiverVersion .failed .progress
      .versionMismatch histories) := by
    apply handled.runs rfl
    unfold NegotiatingSender.runFunnel
    rw [commonProtocol_ledBy accepted rfl]
    dsimp only
    rw [if_neg (by omega), ledBy_thread]
    exact ledBy_setThread _
  have markedResolved : setup.Reaches (setup.ledBy last
      (setup.changedThread (.inFunnel .markedResolved)) setup.receiverVersion .resolved .progress
      .versionMismatch histories) := changed.runs rfl (ledBy_moveTo _)
  have leaving : setup.Reaches (setup.ledBy last
      (setup.changedThread (.inFunnel (.leaving true))) setup.receiverVersion .resolved .progress
      .ok histories) := markedResolved.runs rfl (ledBy_moveTo _)
  exact leaving.runs rfl (ledBy_moveTo _)

theorem pollFunnel_resolved (finished : sender.funnel = .finished)
    (resolved : sender.negotiationStatus = .resolved) :
    (sender.pollFunnel i).threads i =
      { sender.threads i with
        threadProtocolVersion := sender.protocolVersion
        phase := .connect } := by
  obtain ⟨⟨threads, protocolVersion, status, funnel⟩, abortCode, barrier, histories, failed⟩ :=
    sender
  cases finished
  cases resolved
  change update threads i
    { threads i with threadProtocolVersion := protocolVersion, phase := .connect } i = _
  rw [update_self]

theorem reaches_follower (accepted : setup.Accepted) {first last : Fin setup.numThreads}
    (isLast : last.val + 1 = setup.numThreads) (other : first ≠ last) :
    ∃ sender, setup.Reaches sender ∧ (sender.threads first).phase = .connect ∧
      (sender.threads first).footerType =
        setup.options.setFooterType setup.senderVersion := by
  have resolved := reaches_resolved accepted last isLast
  generalize (handleVersionMismatch (finRange setup.numThreads) (fun _ => {})).2 =
    histories at resolved
  generalize led : setup.ledBy last (setup.changedThread .connect) setup.receiverVersion
    .resolved .finished .ok histories = sender at resolved
  have waits : sender.threads first = setup.abortedThread .waiting := by
    rw [← led]
    change update (fun _ => setup.abortedThread .waiting) last _ first = _
    rw [update_of_ne other]
  have shared : sender.checkFailed = false ∧ sender.barrier.isComplete = true ∧
      sender.funnel = .finished ∧ sender.negotiationStatus = .resolved := by
    rw [← led]
    exact ⟨rfl, decide_eq_true rfl, rfl, rfl⟩
  obtain ⟨runs, complete, finished, negotiated⟩ := shared
  have wakes : setup.next sender (.proceed first) = some (sender.moveTo first .atFunnel) := by
    rw [next_proceed runs]
    unfold proceed
    rw [waits]
    exact if_pos complete
  have atFunnel : (sender.moveTo first .atFunnel).threads first =
      setup.abortedThread .atFunnel := by
    change update sender.threads first _ first = _
    rw [update_self, waits]
    rfl
  have polls : setup.next (sender.moveTo first .atFunnel) (.proceed first) =
      some ((sender.moveTo first .atFunnel).pollFunnel first) := by
    have stillRuns : (sender.moveTo first .atFunnel).checkFailed = false := runs
    rw [next_proceed stillRuns]
    unfold proceed
    rw [atFunnel]
    rfl
  have follows := @pollFunnel_resolved setup first (sender.moveTo first .atFunnel) finished
    negotiated
  rw [atFunnel] at follows
  refine ⟨_, (resolved.then wakes).then polls, ?_, ?_⟩
  · rw [follows]
  · rw [follows]
    rfl

/-- The version is the negotiated one on every thread that continues, and in the parent. The
footer types fit for every order of the threads exactly if there is one thread only, checksums
are off, the sender is too old for them, or the receiver can be told. -/
theorem continued_framing_iff (setup : MismatchSetup) (accepted : setup.Accepted) :
    (∀ sender, setup.Reaches sender → ∀ i, (sender.threads i).phase = .connect →
      (sender.threads i).threadProtocolVersion = setup.receiverVersion ∧
      sender.protocolVersion = setup.receiverVersion ∧
      (sender.threads i).threadProtocolVersion ≤ setup.senderVersion) ∧
    ((∀ sender, setup.Reaches sender → ∀ i, (sender.threads i).phase = .connect →
        sender.FramesAlike setup.options setup.receiverVersion i) ↔
      setup.numThreads ≤ 1 ∨ setup.options.enableChecksum = false ∨
      setup.senderVersion < checksumVersion ∨ settingsFlagVersion ≤ setup.receiverVersion) := by
  refine ⟨?_, ?_, ?_⟩
  · intro sender reaches i continues
    have sound := reaches.sound
    have phaseChanged : (sender.threads i).phase.hasChanged = true := by
      rw [continues]
      rfl
    obtain ⟨version, _⟩ := (sound.threads i).changed phaseChanged
    have older := accepted.2
    exact ⟨version, sound.changed i phaseChanged, by omega⟩
  · intro alike
    by_contra unmet
    simp only [not_or, not_le, not_lt, Bool.not_eq_false] at unmet
    obtain ⟨several, enabled, later, unflagged⟩ := unmet
    let first : Fin setup.numThreads := ⟨0, by omega⟩
    let last : Fin setup.numThreads := ⟨setup.numThreads - 1, by omega⟩
    have other : first ≠ last := by
      intro same
      have zero : 0 = setup.numThreads - 1 := congrArg Fin.val same
      omega
    have isLast : last.val + 1 = setup.numThreads := by
      change setup.numThreads - 1 + 1 = setup.numThreads
      omega
    obtain ⟨sender, reaches, continues, footer⟩ := reaches_follower accepted isLast other
    obtain ⟨version, _⟩ := (reaches.sound.threads first).changed (by rw [continues]; rfl)
    have flagged := (framesAlike_iff accepted version).mp (alike sender reaches first continues) (by
      rw [footer]
      exact if_pos ⟨later, enabled⟩)
    omega
  · intro condition sender reaches i continues
    exact framesAlike_of_condition reaches continues condition

/-! ### A sender with two threads and a receiver of version 11 -/

def sampleOptions : SenderOptions where
  enableChecksum := true
  readTimeoutMillis := 5000
  writeTimeoutMillis := 5000
  transferId := [49]
  readTimeout := by decide
  writeTimeout := by decide
  transferIdShort := by decide

def sampleMismatch (receiverVersion : Nat) : MismatchSetup where
  numThreads := 2
  senderVersion := 32
  receiverVersion := receiverVersion
  options := sampleOptions
  versionSmall := by decide

theorem continued_framing_iff_sample : (sampleMismatch 20).Accepted ∧
    ∀ sender, (sampleMismatch 20).Reaches sender → ∀ i, (sender.threads i).phase = .connect →
      sender.FramesAlike sampleOptions 20 i := by
  have accepted : (sampleMismatch 20).Accepted := by
    unfold Accepted
    decide
  have settled := ((sampleMismatch 20).continued_framing_iff accepted).2.mpr
    (.inr (.inr (.inr (by decide))))
  exact ⟨accepted, settled⟩

/-- The thread that did not run the funnel writes footers to a receiver that expects none. -/
theorem follower_keeps_footer : ∃ sender, (sampleMismatch 11).Reaches sender ∧
    (sender.threads (0 : Fin 2)).phase = .connect ∧
    ¬ sender.FramesAlike sampleOptions 11 (0 : Fin 2) := by
  have accepted : (sampleMismatch 11).Accepted := by
    unfold Accepted
    decide
  have different : (0 : Fin 2) ≠ 1 := by decide
  obtain ⟨sender, reaches, continues, footer⟩ := @reaches_follower (sampleMismatch 11) accepted
    (0 : Fin 2) (1 : Fin 2) rfl different
  obtain ⟨version, _⟩ := (reaches.sound.threads (0 : Fin 2)).changed (by rw [continues]; rfl)
  refine ⟨sender, reaches, continues, ?_⟩
  intro alike
  have flagged := (framesAlike_iff accepted version).mp alike (by rw [footer]; decide)
  exact absurd flagged (by decide)

end MismatchSetup

end Wdt
