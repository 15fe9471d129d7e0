/-
The life of the receiver's transfer log, from `init` to the destructor, as far as the
checks that end the process look at it: the descriptor and the resumption status. What
the disk and the sender do is an input: the outcome of each write, what a parse returns,
and which calls a session makes.
-/

import Wdt.LogDurability

namespace Wdt

structure LogOptions where
  enableDownloadResumption : Bool := true
  resumeUsingDirTree : Bool := false
  disableSenderVerificationDuringResumption : Bool := false
  enableTransferLogCompaction : Bool := false
  keepTransferLog : Bool := true

inductive HandleCheck
  | fsyncLog
  | fixAndCloseTransferLog
  | renameBuggyLog
  | unlink
  | destructor
  deriving DecidableEq

structure LogHandle where
  isOpen : Bool
  resumptionStatus : ErrorCode
  senderIp : List Byte := []
  deriving DecidableEq

namespace LogHandle

abbrev Checked := Except HandleCheck LogHandle

variable (handle : LogHandle)

def closeLog : LogHandle := { handle with isOpen := false }

def fsyncLog (handle : LogHandle) : Checked :=
  if handle.isOpen then .ok handle else .error .fsyncLog

/-- A write that fails closes the log, and the call goes on to `fsyncLog`. -/
def invalidateDirectory (written : Bool) : Checked :=
  if !handle.isOpen then .ok handle
  else
    let handle := { handle with resumptionStatus := .inconsistentDirectory }
    if written then handle.fsyncLog else handle.closeLog.fsyncLog

def writeLogHeader (written : Bool) : Checked :=
  if !handle.isOpen then .ok handle
  else if !written then .ok handle.closeLog
  else handle.fsyncLog.map fun handle => { handle with resumptionStatus := .ok }

/-- The ip of the log is verified unless it has none. -/
def refusesSender (options : LogOptions) (senderIp curSenderIp : List Byte) : Bool :=
  !options.disableSenderVerificationDuringResumption && senderIp != [] && senderIp != curSenderIp

def verifySenderIp (options : LogOptions) (handle : LogHandle) (curSenderIp : List Byte)
    (written : Bool) : Checked :=
  if !handle.isOpen then .ok handle
  else if refusesSender options handle.senderIp curSenderIp then
    (handle.invalidateDirectory written).map fun handle =>
      { handle with senderIp := curSenderIp }
  else .ok { handle with senderIp := curSenderIp }

structure ParseOutcome where
  code : ErrorCode
  senderIp : List Byte := []

def parseAndMatch (parse : ParseOutcome) (written : Bool) : Checked :=
  if !handle.isOpen then .ok handle
  else
    let handle := { handle with resumptionStatus := parse.code, senderIp := parse.senderIp }
    if parse.code = .invalidLog then .ok handle.closeLog
    else if parse.code = .inconsistentDirectory then handle.invalidateDirectory written
    else .ok handle

def renameBuggyLog (handle : LogHandle) : Checked :=
  if handle.isOpen then .error .renameBuggyLog else .ok handle

def unlink (handle : LogHandle) : Checked :=
  if handle.isOpen then .error .unlink else .ok handle

def destructor (handle : LogHandle) : Checked :=
  if handle.isOpen then .error .destructor else .ok handle

/-- How a compaction goes: its parse, the write of an invalidation that this may call for, and
the write of the new header if it comes to that. -/
structure CompactionInput where
  parse : ParseOutcome
  invalidationWritten : Bool := true
  headerWritten : Option Bool := none

def compactLog (input : CompactionInput) : Checked :=
  if !handle.isOpen then .ok handle
  else do
    let handle ← handle.fsyncLog
    let handle ← handle.parseAndMatch input.parse input.invalidationWritten
    if input.parse.code ≠ .ok then .ok handle
    else
      match input.headerWritten with
      | none => .ok handle
      | some written => handle.writeLogHeader written

end LogHandle

/-! ### The receiver's calls -/

open LogHandle

/-- The call of `addTransferLogHeader`, by the first thread that has exchanged the chunks with a
resuming sender, or that gets a file command. -/
structure HeaderCall where
  isBlockMode : Bool
  isSenderResuming : Bool
  invalidationWritten : Bool := true
  headerWritten : Bool := true

def HeaderCall.invalidates (options : LogOptions) (call : HeaderCall) : Bool :=
  !call.isSenderResuming || (options.resumeUsingDirTree && call.isBlockMode)

/-- A session. A sender that does not resume and has no files leads to no header call. -/
structure PeerSession where
  peerIp : List Byte
  invalidationWritten : Bool := true
  headerCall : Option HeaderCall := none

/-- A receiver that was started: whether a peer connected, and how the transfer ended. -/
structure LogTransfer where
  session : Option PeerSession
  transferSuccess : Bool
  /-- outcome of the header that validates a directory in the end -/
  headerWritten : Bool := true
  compaction : CompactionInput

/-- `memory` is the status before it is set for the first time. A receiver that is never started
has no transfer. -/
structure ReceiverLife where
  options : LogOptions
  memory : ErrorCode := .ok
  /-- `openLog` returned OK -/
  opened : Bool := true
  parse : ParseOutcome
  invalidationWritten : Bool := true
  transfer : Option LogTransfer

namespace ReceiverLife

def init (life : ReceiverLife) : Checked :=
  let handle : LogHandle :=
    { isOpen := life.options.enableDownloadResumption && life.opened
      resumptionStatus := life.memory }
  handle.parseAndMatch life.parse life.invalidationWritten

variable (options : LogOptions)

def startNewGlobalSession (session : PeerSession) (handle : LogHandle) : Checked :=
  if options.enableDownloadResumption then
    handle.verifySenderIp options session.peerIp session.invalidationWritten
  else .ok handle

def addTransferLogHeader (call : HeaderCall) (handle : LogHandle) : Checked := do
  if !options.enableDownloadResumption then .ok handle
  else
    let handle ← if call.invalidates options then
      handle.invalidateDirectory call.invalidationWritten else .ok handle
    let isInconsistentDirectory := handle.resumptionStatus == .inconsistentDirectory
    if !options.resumeUsingDirTree || !isInconsistentDirectory then
      handle.writeLogHeader call.headerWritten
    else .ok handle

def fixAndCloseTransferLog (options : LogOptions) (transfer : LogTransfer) (handle : LogHandle) :
    Checked :=
  if !options.enableDownloadResumption then .ok handle
  else
    let isInconsistentDirectory := handle.resumptionStatus == .inconsistentDirectory
    let isInvalidLog := handle.resumptionStatus == .invalidLog
    (if transfer.transferSuccess && isInconsistentDirectory then
        if !options.resumeUsingDirTree then .error .fixAndCloseTransferLog
        else handle.writeLogHeader transfer.headerWritten
      else .ok handle).bind fun handle =>
    (if options.enableTransferLogCompaction && transfer.transferSuccess && !isInvalidLog &&
        options.keepTransferLog && !options.resumeUsingDirTree then
      handle.compactLog transfer.compaction else .ok handle).bind fun handle =>
    let handle := handle.closeLog
    if !transfer.transferSuccess then .ok handle
    else
      (if isInvalidLog then handle.renameBuggyLog else .ok handle).bind fun handle =>
      if !options.keepTransferLog then handle.unlink else .ok handle

def serve (session : PeerSession) (handle : LogHandle) : Checked := do
  let handle ← startNewGlobalSession options session handle
  match session.headerCall with
  | none => .ok handle
  | some call => addTransferLogHeader options call handle

def serveAny (session : Option PeerSession) (handle : LogHandle) : Checked :=
  match session with
  | none => .ok handle
  | some session => serve options session handle

def transferLog (transfer : LogTransfer) (handle : LogHandle) : Checked :=
  (serveAny options transfer.session handle).bind (fixAndCloseTransferLog options transfer)

/-- The destructor finishes a receiver that was started. -/
def finish (transfer : Option LogTransfer) (handle : LogHandle) : Checked :=
  match transfer with
  | none => .ok handle
  | some transfer => transferLog options transfer handle

def run (life : ReceiverLife) : Checked :=
  life.init.bind fun handle =>
    (finish life.options life.transfer handle).bind LogHandle.destructor

end ReceiverLife

/-! ### What each call does -/

namespace LogHandle

variable {options : LogOptions} {handle : LogHandle}

@[simp]
theorem ok_of_check_iff {fails : Prop} [Decidable fails] (check : HandleCheck) :
    (∃ after, (if fails then .error check else .ok handle : Checked) = .ok after) ↔ ¬ fails := by
  split <;> simp [*]

@[simp]
theorem ok_of_map_iff {checked : Checked} (after : LogHandle → LogHandle) :
    (∃ handle, checked.map after = .ok handle) ↔ ∃ handle, checked = .ok handle := by
  cases checked <;> simp [Except.map]

theorem invalidateDirectory_closed (closed : handle.isOpen = false) (written : Bool) :
    handle.invalidateDirectory written = .ok handle := by
  unfold invalidateDirectory
  rw [closed]
  rfl

theorem invalidateDirectory_open (isOpen : handle.isOpen = true) (written : Bool) :
    handle.invalidateDirectory written =
      if written then .ok { handle with resumptionStatus := .inconsistentDirectory }
      else .error .fsyncLog := by
  unfold invalidateDirectory fsyncLog closeLog
  rw [isOpen]
  rfl

theorem writeLogHeader_closed (closed : handle.isOpen = false) (written : Bool) :
    handle.writeLogHeader written = .ok handle := by
  unfold writeLogHeader
  rw [closed]
  rfl

theorem writeLogHeader_open (isOpen : handle.isOpen = true) (written : Bool) :
    handle.writeLogHeader written =
      .ok { handle with
        isOpen := written
        resumptionStatus := if written then .ok else handle.resumptionStatus } := by
  cases written <;> simp [writeLogHeader, fsyncLog, closeLog, isOpen, Except.map]

theorem writeLogHeader_ok (handle : LogHandle) (written : Bool) :
    ∃ after, handle.writeLogHeader written = .ok after := by
  cases isOpen : handle.isOpen with
  | true => exact ⟨_, writeLogHeader_open isOpen written⟩
  | false => exact ⟨handle, writeLogHeader_closed isOpen written⟩

theorem verifySenderIp_closed (closed : handle.isOpen = false) (curSenderIp : List Byte)
    (written : Bool) : handle.verifySenderIp options curSenderIp written = .ok handle := by
  unfold verifySenderIp
  rw [closed]
  rfl

theorem verifySenderIp_open (isOpen : handle.isOpen = true) (curSenderIp : List Byte)
    (written : Bool) :
    handle.verifySenderIp options curSenderIp written =
      if refusesSender options handle.senderIp curSenderIp && !written then .error .fsyncLog
      else .ok
        { isOpen := true
          resumptionStatus := if refusesSender options handle.senderIp curSenderIp then
            .inconsistentDirectory else handle.resumptionStatus
          senderIp := curSenderIp } := by
  unfold verifySenderIp
  rw [invalidateDirectory_open isOpen, isOpen]
  cases refusesSender options handle.senderIp curSenderIp <;> cases written <;> rfl

theorem parseAndMatch_open (isOpen : handle.isOpen = true) (parse : ParseOutcome) (written : Bool) :
    handle.parseAndMatch parse written =
      if parse.code = .inconsistentDirectory ∧ written = false then .error .fsyncLog
      else .ok
        { isOpen := decide (parse.code ≠ .invalidLog)
          resumptionStatus := parse.code
          senderIp := parse.senderIp } := by
  rcases handle with ⟨_, status, senderIp⟩
  cases isOpen
  rcases parse with ⟨code, ip⟩
  unfold parseAndMatch
  dsimp only
  rw [invalidateDirectory_open rfl]
  by_cases invalid : code = .invalidLog
  · cases invalid
    rfl
  · cases written <;> by_cases inconsistent : code = .inconsistentDirectory <;>
      simp [invalid, inconsistent]

theorem compactLog_ok_iff (input : CompactionInput) :
    (∃ after, handle.compactLog input = .ok after) ↔
      (handle.isOpen = true → input.parse.code = .inconsistentDirectory →
        input.invalidationWritten = true) := by
  unfold compactLog fsyncLog
  cases isOpen : handle.isOpen with
  | false => simp
  | true =>
    simp only [Bool.not_true, Bool.false_eq_true, if_false, if_true, bind, Except.bind,
      parseAndMatch_open isOpen, forall_const]
    by_cases ok : input.parse.code = .ok
    · rw [ok]
      cases input.headerWritten with
      | none => simp
      | some written => simpa using writeLogHeader_ok _ written
    · cases input.invalidationWritten <;>
        by_cases inconsistent : input.parse.code = .inconsistentDirectory <;>
        simp [ok, inconsistent]

end LogHandle

namespace ReceiverLife

variable {options : LogOptions} {handle : LogHandle}

theorem addTransferLogHeader_closed (call : HeaderCall) (closed : handle.isOpen = false) :
    addTransferLogHeader options call handle = .ok handle := by
  unfold addTransferLogHeader
  rw [invalidateDirectory_closed closed, ite_self]
  simp only [bind, Except.bind, writeLogHeader_closed closed, ite_self]

theorem serve_closed (session : PeerSession) (closed : handle.isOpen = false) :
    serve options session handle = .ok handle := by
  unfold serve startNewGlobalSession
  rw [verifySenderIp_closed closed, ite_self]
  cases session.headerCall with
  | none => rfl
  | some call => exact addTransferLogHeader_closed call closed

theorem addTransferLogHeader_open (enabled : options.enableDownloadResumption = true)
    (call : HeaderCall) (isOpen : handle.isOpen = true) :
    addTransferLogHeader options call handle =
      if call.invalidates options && !call.invalidationWritten then .error .fsyncLog
      else
        let status : ErrorCode := if call.invalidates options then .inconsistentDirectory
          else handle.resumptionStatus
        .ok (if !options.resumeUsingDirTree || !(status == .inconsistentDirectory) then
            { handle with
              isOpen := call.headerWritten
              resumptionStatus := if call.headerWritten then .ok else status }
          else { handle with resumptionStatus := status }) := by
  rcases handle with ⟨_, status, senderIp⟩
  cases isOpen
  unfold addTransferLogHeader
  rw [enabled, invalidateDirectory_open rfl]
  cases call.invalidates options <;> cases call.invalidationWritten <;>
    simp [bind, Except.bind, writeLogHeader_open, ← apply_ite Except.ok]

/-! ### A session on an open log -/

section Serving

variable {session : PeerSession} {after : LogHandle}

theorem startNewGlobalSession_enabled (enabled : options.enableDownloadResumption = true) :
    startNewGlobalSession options session handle =
      handle.verifySenderIp options session.peerIp session.invalidationWritten :=
  if_pos enabled

/-- The invalidations that a session calls for are written. -/
@[mk_iff]
structure SessionWrites (options : LogOptions) (senderIp : List Byte) (session : PeerSession) :
    Prop where
  verified : refusesSender options senderIp session.peerIp = true →
    session.invalidationWritten = true
  invalidated : ∀ call, session.headerCall = some call → call.invalidates options = true →
    call.invalidationWritten = true

theorem serve_ok_iff (enabled : options.enableDownloadResumption = true)
    (isOpen : handle.isOpen = true) :
    (∃ after, serve options session handle = .ok after) ↔
      SessionWrites options handle.senderIp session := by
  rw [sessionWrites_iff]
  unfold serve
  rw [startNewGlobalSession_enabled enabled, verifySenderIp_open isOpen]
  cases refusesSender options handle.senderIp session.peerIp <;>
    cases session.invalidationWritten <;> cases session.headerCall <;>
    simp [bind, Except.bind, addTransferLogHeader_open enabled _]

/-- The directory is found or made inconsistent before the header. -/
def Inconsistent (options : LogOptions) (parse : ParseOutcome) (session : Option PeerSession) :
    Prop :=
  parse.code = .inconsistentDirectory ∨ ∃ peer, session = some peer ∧
    (refusesSender options parse.senderIp peer.peerIp = true ∨
      ∃ call, peer.headerCall = some call ∧ call.invalidates options = true)

def HeaderWritten (session : Option PeerSession) : Prop :=
  ∃ peer call, session = some peer ∧ peer.headerCall = some call ∧ call.headerWritten = true

def HeaderFails (session : Option PeerSession) : Prop :=
  ∃ peer call, session = some peer ∧ peer.headerCall = some call ∧ call.headerWritten = false

theorem serve_result (enabled : options.enableDownloadResumption = true)
    (byLog : options.resumeUsingDirTree = false) (isOpen : handle.isOpen = true)
    (valid : handle.resumptionStatus ≠ .invalidLog)
    (served : serve options session handle = .ok after) :
    (after.isOpen = false ↔ HeaderFails (some session)) ∧
    (after.resumptionStatus = .inconsistentDirectory ↔
      Inconsistent options { code := handle.resumptionStatus, senderIp := handle.senderIp }
        (some session) ∧ ¬ HeaderWritten (some session)) ∧
    after.resumptionStatus ≠ .invalidLog := by
  unfold serve at served
  rw [startNewGlobalSession_enabled enabled, verifySenderIp_open isOpen] at served
  cases fails : refusesSender options handle.senderIp session.peerIp &&
      !session.invalidationWritten with
  | true =>
    rw [fails] at served
    cases served
  | false =>
    rw [fails] at served
    dsimp only [bind, Except.bind] at served
    simp only [Bool.false_eq_true, if_false] at served
    cases calls : session.headerCall with
    | none =>
      rw [calls] at served
      cases served
      cases refuses : refusesSender options handle.senderIp session.peerIp <;>
        simp [HeaderFails, HeaderWritten, Inconsistent, calls, refuses, valid]
    | some call =>
      rw [calls] at served
      dsimp only at served
      rw [addTransferLogHeader_open enabled call rfl, byLog] at served
      split at served
      · cases served
      cases served
      cases written : call.headerWritten <;>
        cases invalidates : call.invalidates options <;>
        cases refuses : refusesSender options handle.senderIp session.peerIp <;>
        simp [HeaderFails, HeaderWritten, Inconsistent, calls, written, invalidates, refuses,
          valid]

end Serving

def Compacts (options : LogOptions) (transfer : LogTransfer) : Prop :=
  options.enableTransferLogCompaction = true ∧ transfer.transferSuccess = true ∧
    options.keepTransferLog = true ∧ options.resumeUsingDirTree = false

variable {transfer : LogTransfer}

section

variable (enabled : options.enableDownloadResumption = true)

include enabled

theorem fixAndCloseTransferLog_eq :
    fixAndCloseTransferLog options transfer handle =
      (if transfer.transferSuccess && handle.resumptionStatus == .inconsistentDirectory then
          if !options.resumeUsingDirTree then .error .fixAndCloseTransferLog
          else handle.writeLogHeader transfer.headerWritten
        else .ok handle).bind fun fixed =>
      (if options.enableTransferLogCompaction && transfer.transferSuccess &&
          !(handle.resumptionStatus == .invalidLog) && options.keepTransferLog &&
          !options.resumeUsingDirTree then
        fixed.compactLog transfer.compaction else .ok fixed).map LogHandle.closeLog := by
  have mapped (checked : Checked) :
      checked.bind (fun handle => .ok handle.closeLog) = checked.map LogHandle.closeLog := by
    cases checked <;> rfl
  have last (closed : LogHandle) : (if !transfer.transferSuccess then .ok closed.closeLog
      else (if handle.resumptionStatus == .invalidLog then closed.closeLog.renameBuggyLog
          else .ok closed.closeLog).bind fun handle =>
        if !options.keepTransferLog then handle.unlink else .ok handle) =
      (.ok closed.closeLog : Checked) := by
    simp [LogHandle.renameBuggyLog, LogHandle.unlink, LogHandle.closeLog, Except.bind]
  unfold fixAndCloseTransferLog
  simp only [enabled, last, mapped]
  rfl

theorem fixAndCloseTransferLog_closes {after : LogHandle}
    (closes : fixAndCloseTransferLog options transfer handle = .ok after) :
    after.isOpen = false := by
  rw [fixAndCloseTransferLog_eq enabled] at closes
  obtain ⟨fixed, _, compacts⟩ := Except.bind_eq_ok_iff.mp closes
  obtain ⟨compacted, _, rfl⟩ := Except.map_eq_ok_iff.mp compacts
  rfl

theorem fixAndCloseTransferLog_ok_iff :
    (∃ after, fixAndCloseTransferLog options transfer handle = .ok after) ↔
      (transfer.transferSuccess = true → handle.resumptionStatus = .inconsistentDirectory →
        options.resumeUsingDirTree = true) ∧
      (Compacts options transfer → handle.isOpen = true → handle.resumptionStatus ≠ .invalidLog →
        transfer.compaction.parse.code = .inconsistentDirectory →
          transfer.compaction.invalidationWritten = true) := by
  obtain ⟨fixed, written⟩ := writeLogHeader_ok handle transfer.headerWritten
  rw [fixAndCloseTransferLog_eq enabled, Compacts]
  cases transfer.transferSuccess <;> cases options.resumeUsingDirTree <;>
    cases options.enableTransferLogCompaction <;> cases options.keepTransferLog <;>
    by_cases inconsistent : handle.resumptionStatus = .inconsistentDirectory <;>
    by_cases invalid : handle.resumptionStatus = .invalidLog <;>
    simp [Except.bind, inconsistent, invalid, written, compactLog_ok_iff]

end

/-! ### Whole lives -/

theorem transferLog_closed_iff (enabled : options.enableDownloadResumption = true)
    (closed : handle.isOpen = false) :
    (∃ after, transferLog options transfer handle = .ok after) ↔
      (transfer.transferSuccess = true → handle.resumptionStatus = .inconsistentDirectory →
        options.resumeUsingDirTree = true) := by
  have served : serveAny options transfer.session handle = .ok handle := by
    cases transfer.session with
    | none => rfl
    | some session => exact serve_closed session closed
  unfold transferLog
  rw [served]
  dsimp only [Except.bind]
  rw [fixAndCloseTransferLog_ok_iff enabled, closed]
  exact ⟨fun holds => holds.1, fun holds => ⟨holds, nofun⟩⟩

theorem transferLog_open_iff (enabled : options.enableDownloadResumption = true)
    (isOpen : handle.isOpen = true) (valid : handle.resumptionStatus ≠ .invalidLog) :
    (∃ after, transferLog options transfer handle = .ok after) ↔
      (∀ session, transfer.session = some session → SessionWrites options handle.senderIp session) ∧
      (transfer.transferSuccess = true → options.resumeUsingDirTree = false →
        Inconsistent options { code := handle.resumptionStatus, senderIp := handle.senderIp }
          transfer.session → HeaderWritten transfer.session) ∧
      (Compacts options transfer → ¬ HeaderFails transfer.session →
        transfer.compaction.parse.code = .inconsistentDirectory →
          transfer.compaction.invalidationWritten = true) := by
  unfold transferLog
  cases connects : transfer.session with
  | none =>
    simp only [serveAny, Except.bind, fixAndCloseTransferLog_ok_iff enabled, isOpen]
    cases tree : options.resumeUsingDirTree <;>
      simp [Inconsistent, HeaderWritten, HeaderFails, valid]
  | some session =>
    have writes := @serve_ok_iff options handle session enabled isOpen
    dsimp only [serveAny]
    cases served : serve options session handle with
    | error check =>
      rw [served] at writes
      simpa [Except.bind] using fun writes' => absurd writes' (by simpa using writes)
    | ok after =>
      rw [served] at writes
      have written := writes.mp ⟨after, rfl⟩
      simp only [Except.bind, fixAndCloseTransferLog_ok_iff enabled]
      cases tree : options.resumeUsingDirTree with
      | true => simp [Compacts, tree, written]
      | false =>
        obtain ⟨closes, inconsistent, kept⟩ := serve_result enabled tree isOpen valid served
        simp [inconsistent, kept, written, ← closes]

def LogOpens (life : ReceiverLife) : Prop :=
  life.options.enableDownloadResumption = true ∧ life.opened = true ∧ life.parse.code ≠ .invalidLog

/-- What has to hold for no check to fail: the writes of directory invalidations succeed, a
receiver whose log is open is started, a transfer that succeeds in the mode that resumes by the
log has written the header that an inconsistent directory needs, and no status is read before it
is set. -/
@[mk_iff]
structure ChecksHold (life : ReceiverLife) : Prop where
  parsed : life.LogOpens → life.parse.code = .inconsistentDirectory →
    life.invalidationWritten = true
  started : life.LogOpens → life.transfer ≠ none
  session : life.LogOpens → ∀ transfer session, life.transfer = some transfer →
    transfer.session = some session → SessionWrites life.options life.parse.senderIp session
  validated : life.LogOpens → ∀ transfer, life.transfer = some transfer →
    transfer.transferSuccess = true → life.options.resumeUsingDirTree = false →
      Inconsistent life.options life.parse transfer.session → HeaderWritten transfer.session
  compacted : life.LogOpens → ∀ transfer, life.transfer = some transfer →
    Compacts life.options transfer → ¬ HeaderFails transfer.session →
      transfer.compaction.parse.code = .inconsistentDirectory →
        transfer.compaction.invalidationWritten = true
  initialised : life.options.enableDownloadResumption = true → life.opened = false →
    ∀ transfer, life.transfer = some transfer → transfer.transferSuccess = true →
      life.memory = .inconsistentDirectory → life.options.resumeUsingDirTree = true

theorem transferLog_destructor {transfer : LogTransfer}
    (enabled : options.enableDownloadResumption = true) :
    (∃ after, (transferLog options transfer handle).bind LogHandle.destructor = .ok after) ↔
      ∃ after, transferLog options transfer handle = .ok after := by
  cases ends : transferLog options transfer handle with
  | error check => simp [Except.bind]
  | ok closed =>
    obtain ⟨served, _, fixed⟩ := Except.bind_eq_ok_iff.mp ends
    simp [Except.bind, LogHandle.destructor, fixAndCloseTransferLog_closes enabled fixed]

variable {life : ReceiverLife}

theorem run_disabled (disabled : life.options.enableDownloadResumption = false) :
    ∃ handle, life.run = .ok handle := by
  have starts : life.init = .ok { isOpen := false, resumptionStatus := life.memory } := by
    simp [init, LogHandle.parseAndMatch, disabled]
  have served (session : Option PeerSession) : serveAny life.options session
      { isOpen := false, resumptionStatus := life.memory } =
        .ok { isOpen := false, resumptionStatus := life.memory } := by
    cases session with
    | none => rfl
    | some session => exact serve_closed session rfl
  unfold run
  cases life.transfer <;>
    simp [starts, Except.bind, finish, transferLog, served, fixAndCloseTransferLog, disabled,
      LogHandle.destructor]

theorem run_closed_iff {status : ErrorCode} {senderIp : List Byte}
    (enabled : life.options.enableDownloadResumption = true)
    (starts : life.init = .ok { isOpen := false, resumptionStatus := status, senderIp }) :
    (∃ handle, life.run = .ok handle) ↔
      ∀ transfer, life.transfer = some transfer → transfer.transferSuccess = true →
        status = .inconsistentDirectory → life.options.resumeUsingDirTree = true := by
  unfold run
  rw [starts]
  cases runs : life.transfer with
  | none => exact ⟨(fun _ _ same => nomatch same), fun _ => ⟨_, rfl⟩⟩
  | some transfer =>
    have ends := @transferLog_destructor life.options
      { isOpen := false, resumptionStatus := status, senderIp } transfer enabled
    rw [transferLog_closed_iff enabled rfl] at ends
    constructor
    · intro ok other same
      cases same
      exact ends.mp ok
    · intro holds
      exact ends.mpr (holds transfer rfl)

theorem run_open_iff (enabled : life.options.enableDownloadResumption = true)
    (starts : life.init = .ok
      { isOpen := true, resumptionStatus := life.parse.code, senderIp := life.parse.senderIp })
    (valid : life.parse.code ≠ .invalidLog) (runs : life.transfer = some transfer) :
    (∃ handle, life.run = .ok handle) ↔ (∀ session, transfer.session = some session →
        SessionWrites life.options life.parse.senderIp session) ∧
      (transfer.transferSuccess = true → life.options.resumeUsingDirTree = false →
        Inconsistent life.options life.parse transfer.session → HeaderWritten transfer.session) ∧
      (Compacts life.options transfer → ¬ HeaderFails transfer.session →
        transfer.compaction.parse.code = .inconsistentDirectory →
          transfer.compaction.invalidationWritten = true) := by
  have ends := @transferLog_destructor life.options
    { isOpen := true, resumptionStatus := life.parse.code, senderIp := life.parse.senderIp }
    transfer enabled
  rw [transferLog_open_iff enabled rfl valid] at ends
  unfold run
  rw [starts, runs]
  exact ends

/-- The checks fail for exactly the lives that do not meet the conditions. -/
theorem run_ok_iff (life : ReceiverLife) : (∃ handle, life.run = .ok handle) ↔ life.ChecksHold := by
  rw [checksHold_iff, LogOpens]
  cases enabled : life.options.enableDownloadResumption with
  | false => simpa using run_disabled enabled
  | true =>
    cases opened : life.opened with
    | false =>
      have starts : life.init = .ok { isOpen := false, resumptionStatus := life.memory } := by
        simp [init, LogHandle.parseAndMatch, opened]
      rw [run_closed_iff enabled starts]
      simp
    | true =>
      have starts := @LogHandle.parseAndMatch_open
        { isOpen := life.options.enableDownloadResumption && life.opened
          resumptionStatus := life.memory } (by rw [enabled, opened]; rfl) life.parse
        life.invalidationWritten
      change life.init = _ at starts
      by_cases fails : life.parse.code = .inconsistentDirectory ∧ life.invalidationWritten = false
      · simp [run, starts, Except.bind, fails]
      rw [if_neg fails] at starts
      rw [not_and, Bool.not_eq_false] at fails
      by_cases invalid : life.parse.code = .invalidLog
      · rw [invalid] at starts
        rw [run_closed_iff enabled starts]
        simp [invalid]
      rw [decide_eq_true invalid] at starts
      cases runs : life.transfer with
      | none => simp [run, starts, runs, Except.bind, finish, LogHandle.destructor, invalid]
      | some transfer =>
        rw [run_open_iff enabled starts invalid runs]
        constructor
        · rintro ⟨session, validated, compacted⟩
          refine ⟨fun _ => fails, by simp, ?_, ?_, ?_, by simp⟩ <;> rintro _ _
          · rintro peer ⟨⟩
            exact session peer
          · rintro ⟨⟩
            exact validated
          · rintro ⟨⟩
            exact compacted
        · rintro ⟨_, _, session, validated, compacted, _⟩
          have opens : true = true ∧ true = true ∧ life.parse.code ≠ .invalidLog :=
            ⟨rfl, rfl, invalid⟩
          exact ⟨fun peer => session opens transfer peer rfl,
            validated opens transfer rfl, compacted opens transfer rfl⟩

/-- With every write succeeding: a sender that does not resume and has no files, after a log of
another transfer; a directory invalidation that cannot be written; and a receiver that is
initialised and never started. -/
theorem checks_fail : ReceiverLife.run
      { options := {}
        parse := { code := .inconsistentDirectory }
        transfer := some
          { session := some { peerIp := [0x73] }
            transferSuccess := true
            compaction := { parse := { code := .ok } } } } = .error .fixAndCloseTransferLog ∧
    ReceiverLife.run
      { options := {}
        parse := { code := .inconsistentDirectory }
        invalidationWritten := false
        transfer := none } = .error .fsyncLog ∧
    ReceiverLife.run { options := {}, parse := { code := .ok }, transfer := none } =
      .error .destructor := by
  decide

end ReceiverLife

end Wdt
