/-
Whole connections: writes, the end of the writes, read calls with any schedule, and the
end of the reads. The stream does not say where its data ends, so a reader that asks for
more than the data once the tag at the end is written takes this tag for data. Apart from
that the two ends agree; and a timeout can be retried unless it strikes between a tag and
the data behind it.
-/

import Wdt.SocketCalls
import Wdt.Lib.Transition

namespace Wdt

open Link Transition List Option ReadSocket

/-- The reading half with its link, what its calls gave, and what the end of the reads
reported. -/
structure Session where
  socket : ReadSocket Link
  delivered : List Byte := []
  ended : Option ErrorCode := none

inductive SessionEvent
  | perform (call : WriterCall)
  | read (nbyte : Nat) (turns : List Turn)
  | finalizeReads (turns : List Turn)

namespace Session

variable (framing : Framing) (supportUnencryptedPeer : Bool)

def start (spare : Byte) : Session where
  socket := {
    encryptionParams := some framing.params
    ivChangeInterval := framing.ivChangeInterval
    supportUnencryptedPeer, spare
    decryptor := { iv := zeroBlock }
    world := { writer := {
      encryptionParams := some framing.params
      writeTagInterval := framing.tagInterval
      ivChangeInterval := framing.ivChangeInterval
      ivs := framing.ivs } } }

def scheduled (session : Session) (turns : List Turn) : ReadSocket Link :=
  { session.socket with world := { session.socket.world with turns, rawReads := [] } }

def readCall (session : Session) (nbyte : Nat) (turns : List Turn) : ReadReturn × ReadSocket Link :=
  (session.scheduled turns).read (network framing.cipher) framing.cipher nbyte

def endCall (session : Session) (turns : List Turn) : ErrorCode × ReadSocket Link :=
  (session.scheduled turns).finalizeReads (network framing.cipher) framing.cipher

def rawReads (session : Session) : SessionEvent → List RawRead
  | .perform _ => []
  | .read nbyte turns => (session.readCall framing nbyte turns).2.world.rawReads
  | .finalizeReads turns => (session.endCall framing turns).2.world.rawReads

def settled (socket : ReadSocket Link) : ReadSocket Link :=
  { socket with world := socket.world.settle framing.cipher }

/-- A read asks for at least one byte, and none follows the end of the reads: the source
checks both. -/
def next (session : Session) (event : SessionEvent) : Option Session :=
  match event with
  | .perform call =>
    some { session with socket := { session.socket with
      world := session.socket.world.perform framing.cipher call } }
  | .read nbyte turns =>
    if nbyte = 0 ∨ session.ended.isSome then none
    else
      let (ret, socket) := session.readCall framing nbyte turns
      some { session with
        socket := settled framing socket
        delivered := session.delivered ++ ret.bytes }
  | .finalizeReads turns =>
    if session.ended.isSome then none
    else
      let (code, socket) := session.endCall framing turns
      some { session with socket := settled framing socket, ended := some code }

def Step (session : Session) (event : SessionEvent) (after : Session) : Prop :=
  session.next framing event = some after

/-- A read that is going on when the tag at the end is written, or begins later, asks for no
more than the data that is left. -/
def LeavesFinalTag (session : Session) : SessionEvent → Prop
  | .read nbyte turns =>
    AsksWithin (session.scheduled turns).world (session.delivered.length + nbyte)
  | _ => True

/-- The end of the reads comes when the writes are finalized and all of some data is
delivered. -/
def EndsWithData (session : Session) : SessionEvent → Prop
  | .finalizeReads _ =>
    session.socket.world.writer.writesFinalized = true ∧
      session.delivered = session.socket.world.plaintext ∧ session.delivered ≠ []
  | _ => True

/-- Each raw read gets at least a byte, and a whole tag or IV or the whole settings. -/
def AllServed (session : Session) (event : SessionEvent) : Prop :=
  ∀ raw ∈ session.rawReads framing event, raw.Served

/-- The data behind a tag arrives in the call that takes the tag. -/
def KeepsTags (session : Session) (event : SessionEvent) : Prop :=
  lostBehindTag (session.rawReads framing event) = false

instance (link : Link) (position : Nat) : Decidable (AsksWithin link position) :=
  inferInstanceAs (Decidable (_ → _))

instance (session : Session) : (event : SessionEvent) → Decidable (session.LeavesFinalTag event)
  | .read _ _ => inferInstanceAs (Decidable (AsksWithin _ _))
  | .perform _ => inferInstanceAs (Decidable True)
  | .finalizeReads _ => inferInstanceAs (Decidable True)

instance (session : Session) : (event : SessionEvent) → Decidable (session.EndsWithData event)
  | .finalizeReads _ => inferInstanceAs (Decidable (_ ∧ _ ∧ _))
  | .perform _ => inferInstanceAs (Decidable True)
  | .read _ _ => inferInstanceAs (Decidable True)

instance (session : Session) (event : SessionEvent) : Decidable (session.AllServed framing event) :=
  inferInstanceAs (Decidable (∀ raw ∈ _, _))

instance (session : Session) (event : SessionEvent) : Decidable (session.KeepsTags framing event) :=
  inferInstanceAs (Decidable (_ = _))

/-! ### What holds along every run -/

variable {framing}

/-- The link is sound, the caller has a front of the data, and a socket that will read again
can. -/
structure Agreed (framing : Framing) (session : Session) : Prop where
  sound : session.socket.world.Sound framing
  front : session.delivered <+: session.socket.world.plaintext
  listening : session.ended = none →
    session.socket.readErrorCode = .ok ∨ session.socket.readErrorCode = .wdtTimeout →
    Listening framing session.socket session.delivered

theorem agreed_start (spare : Byte) :
    Agreed framing (start framing supportUnencryptedPeer spare) := by
  have sound : (start framing supportUnencryptedPeer spare).socket.world.Sound framing := {
    put := rfl
    fresh := fun _ _ => ⟨rfl, rfl, rfl, rfl, rfl, rfl, rfl, rfl⟩
    started := fun _ some_data => absurd rfl some_data }
  exact {
    sound := sound
    front := nil_prefix
    listening := fun _ _ => .inl ⟨⟨rfl, rfl, rfl, rfl, rfl, sound⟩, rfl⟩ }

variable {session after : Session}

variable {socket : ReadSocket Link} {delivered : List Byte}

theorem listening_moved {link : Link} (listening : Listening framing socket delivered)
    (sound : link.Sound framing) (taken : link.taken = socket.world.taken)
    (grows : socket.world.plaintext <+: link.plaintext) :
    Listening framing { socket with world := link } delivered := by
  rcases listening with ⟨unstarted, nothing⟩ | sync
  · exact .inl ⟨{ unstarted with taken := taken.trans unstarted.taken, sound := sound }, nothing⟩
  exact .inr ⟨{ sync.reader with
    taken := taken.trans sync.reader.taken
    sound := sound
    front := sync.reader.front.trans grows
    written := grows.ne_nil sync.reader.written }, sync.total⟩

theorem settle_moves {link : Link} (sound : link.Sound framing) :
    (link.settle framing.cipher).Sound framing ∧ (link.settle framing.cipher).taken = link.taken ∧
      link.plaintext <+: (link.settle framing.cipher).plaintext ∧
      ((link.settle framing.cipher).plaintext,
        (link.settle framing.cipher).writer.writesFinalized) = link.outlook := by
  obtain ⟨stays, status⟩ := sound.performAll (link.turns.flatMap Turn.calls)
  obtain ⟨taken, _, _⟩ := performAll_keeps framing.cipher link (link.turns.flatMap Turn.calls)
  have grows := progressAll_grows (link.plaintext, link.writer.writesFinalized)
    (link.turns.flatMap Turn.calls)
  rw [← status] at grows
  exact ⟨{ stays with }, taken, grows, status⟩

theorem Agreed.settle {socket : ReadSocket Link} {delivered : List Byte}
    {ended : Option ErrorCode} (sound : socket.world.Sound framing)
    (front : delivered <+: socket.world.plaintext)
    (listening : ended = none → socket.readErrorCode = .ok ∨ socket.readErrorCode = .wdtTimeout →
      Listening framing socket delivered) :
    Agreed framing { socket := settled framing socket, delivered, ended } := by
  obtain ⟨stays, taken, grows, _⟩ := settle_moves sound
  exact {
    sound := stays
    front := front.trans grows
    listening := fun open_session retryable =>
      listening_moved (listening open_session retryable) stays taken grows }

theorem Agreed.scheduled (agreed : Agreed framing session) (turns : List Turn) :
    (session.scheduled turns).world.Sound framing ∧ (session.ended = none →
        session.socket.readErrorCode = .ok ∨ session.socket.readErrorCode = .wdtTimeout →
        Listening framing (session.scheduled turns) session.delivered) := by
  have sound : (session.scheduled turns).world.Sound framing :=
    ⟨agreed.sound.put, agreed.sound.fresh, agreed.sound.started⟩
  exact ⟨sound, fun open_session retryable =>
    listening_moved (agreed.listening open_session retryable) sound rfl (prefix_refl _)⟩

variable {turns : List Turn}

variable {nbyte : Nat}

theorem readCall_outcome (agreed : Agreed framing session) (open_session : session.ended = none)
    (retryable : session.socket.readErrorCode = .ok ∨ session.socket.readErrorCode = .wdtTimeout)
    (positive : nbyte ≠ 0) (leaves : session.LeavesFinalTag (.read nbyte turns))
    {ret : ReadReturn} (called : session.readCall framing nbyte turns = (ret, socket)) :
    CallOutcome framing socket session.delivered ret.bytes
      (session.rawReads framing (.read nbyte turns)) := by
  obtain ⟨reads, noted, _, outcome⟩ := read_outcome
    ((agreed.scheduled turns).2 open_session retryable) retryable (Nat.pos_of_ne_zero positive)
    leaves called
  have same : session.rawReads framing (.read nbyte turns) = reads := by
    change (session.readCall framing nbyte turns).2.world.rawReads = _
    rw [called, noted]
    rfl
  rw [same]
  exact outcome

theorem readCall_refused
    (refuses : ¬ (session.socket.readErrorCode = .ok ∨ session.socket.readErrorCode = .wdtTimeout))
    (nbyte : Nat) (turns : List Turn) :
    session.readCall framing nbyte turns = (none, session.scheduled turns) :=
  if_pos ⟨fun isOk => refuses (.inl isOk), fun isTimeout => refuses (.inr isTimeout)⟩

theorem listening_sound (listening : Listening framing socket delivered) :
    socket.world.Sound framing ∧ delivered <+: socket.world.plaintext := by
  rcases listening with ⟨unstarted, nothing⟩ | sync
  · rw [nothing]
    exact ⟨unstarted.sound, nil_prefix⟩
  · exact ⟨sync.reader.sound, sync.reader.front⟩

theorem read_called (moves : Step framing session (.read nbyte turns) after) :
    nbyte ≠ 0 ∧ session.ended = none ∧ ∃ ret socket,
      session.readCall framing nbyte turns = (ret, socket) ∧
      after = { session with
        socket := settled framing socket
        delivered := session.delivered ++ ret.bytes } := by
  obtain ⟨guard, moves⟩ := ite_none_left_eq_some.mp moves
  rw [not_or, not_isSome_iff_eq_none] at guard
  exact ⟨guard.1, guard.2, _, _, rfl, (some.inj moves).symm⟩

theorem finalizeReads_called (moves : Step framing session (.finalizeReads turns) after) :
    session.ended = none ∧ ∃ code socket, session.endCall framing turns = (code, socket) ∧
      after = { session with socket := settled framing socket, ended := some code } := by
  obtain ⟨guard, moves⟩ := ite_none_left_eq_some.mp moves
  exact ⟨not_isSome_iff_eq_none.mp guard, _, _, rfl, (some.inj moves).symm⟩

theorem Agreed.read (agreed : Agreed framing session)
    (leaves : session.LeavesFinalTag (.read nbyte turns))
    (keeps : session.KeepsTags framing (.read nbyte turns))
    (moves : Step framing session (.read nbyte turns) after) : Agreed framing after := by
  obtain ⟨positive, open_session, ret, socket, called, rfl⟩ := read_called moves
  obtain ⟨sound, _⟩ := agreed.scheduled turns
  by_cases retryable :
      session.socket.readErrorCode = .ok ∨ session.socket.readErrorCode = .wdtTimeout
  · cases readCall_outcome agreed open_session retryable positive leaves called with
    | synced listening _ =>
      obtain ⟨soundAfter, front⟩ := listening_sound listening
      exact .settle soundAfter front (fun _ _ => listening)
    | stopped stopped code _ =>
      exact .settle stopped.sound stopped.front (fun _ open_socket =>
        (open_socket.elim code.1 code.2).elim)
    | lost lost => exact absurd (lost.symm.trans keeps) nofun
  · rw [readCall_refused retryable] at called
    cases called
    refine .settle sound ?_ (fun _ open_socket => absurd open_socket retryable)
    change session.delivered ++ [] <+: _
    rw [append_nil]
    exact agreed.front

theorem served_keeps_tags {reads : List RawRead} (served : ∀ raw ∈ reads, raw.Served) :
    lostBehindTag reads = false := by
  induction reads with
  | nil => rfl
  | cons first reads ih =>
    cases reads with
    | nil => rfl
    | cons second rest =>
      have further := ih (forall_mem_cons.mp served).2
      have got := (served second (mem_cons_of_mem _ mem_cons_self)).1
      rw [lostBehindTag, further, Bool.or_false, decide_eq_false (show ¬ second.got = 0 by omega)]
      exact Bool.and_false _

theorem Agreed.perform (agreed : Agreed framing session) (call : WriterCall) :
    Agreed framing { session with socket := { session.socket with
      world := session.socket.world.perform framing.cipher call } } := by
  obtain ⟨stays, status⟩ := agreed.sound.perform call
  obtain ⟨taken, _, _⟩ := perform_keeps framing.cipher session.socket.world call
  have grows := progress_grows
    (session.socket.world.plaintext, session.socket.world.writer.writesFinalized) call
  rw [← status] at grows
  exact {
    sound := stays
    front := agreed.front.trans grows
    listening := fun open_session retryable =>
      listening_moved (agreed.listening open_session retryable) stays taken grows }

theorem readEncryptionTag_moves (sound : socket.world.Sound framing) {params : EncryptionParams}
    (tagged : encryptionTypeToTagLen params.type ≠ 0) {tag : Option (List Byte)}
    {after : ReadSocket Link}
    (called : readEncryptionTag (network framing.cipher) params socket = (tag, after)) :
    ∃ got, RawStep framing socket.world after.world .tag (encryptionTypeToTagLen params.type) got ∧
      (got.length = encryptionTypeToTagLen params.type → tag = some got) ∧
      after.encryptionSettingsRead = socket.encryptionSettingsRead ∧
      after.decryptor = socket.decryptor := by
  obtain ⟨got, link, code, raw, moved, returned, _, _⟩ := readInternal_raw sound .tag tagged
  unfold readEncryptionTag at called
  dsimp only at called
  rw [moved, returned] at called
  by_cases whole : got.length = encryptionTypeToTagLen params.type
  · rw [if_neg (fun differs => differs whole)] at called
    cases called
    exact ⟨got, raw, fun _ => rfl, rfl, rfl⟩
  · rw [if_pos whole] at called
    cases called
    exact ⟨got, raw, fun isWhole => absurd isWhole whole, rfl, rfl⟩

theorem finalizeReads_moves (sound : socket.world.Sound framing) {code : ErrorCode}
    {after : ReadSocket Link}
    (called : finalizeReads (network framing.cipher) framing.cipher socket =
      (code, after)) :
    after.world.Sound framing ∧ socket.world.plaintext <+: after.world.plaintext := by
  unfold finalizeReads at called
  cases isSet : socket.encryptionParams with
  | none =>
    rw [isSet] at called
    cases called
    exact ⟨sound, prefix_refl _⟩
  | some params =>
    rw [isSet] at called
    dsimp only at called
    by_cases tagless : encryptionTypeToTagLen params.type = 0
    · rw [if_pos tagless] at called
      cases called
      exact ⟨sound, prefix_refl _⟩
    rw [if_neg tagless] at called
    generalize tagRead : readEncryptionTag (network framing.cipher) params socket =
      result at called
    obtain ⟨got, raw, _⟩ := readEncryptionTag_moves sound tagless tagRead
    cases called
    exact ⟨raw.sound, raw.grows⟩

theorem Agreed.finalizeReads (agreed : Agreed framing session)
    (moves : Step framing session (.finalizeReads turns) after) : Agreed framing after := by
  obtain ⟨_, code, socket, called, rfl⟩ := finalizeReads_called moves
  obtain ⟨sound, grows⟩ := finalizeReads_moves (agreed.scheduled turns).1 called
  exact .settle sound (agreed.front.trans grows) nofun

theorem Agreed.step (agreed : Agreed framing session) {event : SessionEvent}
    (leaves : session.LeavesFinalTag event) (keeps : session.KeepsTags framing event)
    (moves : Step framing session event after) : Agreed framing after := by
  cases event with
  | perform call =>
    obtain rfl := some.inj moves
    exact agreed.perform call
  | read nbyte turns => exact agreed.read leaves keeps moves
  | finalizeReads turns => exact agreed.finalizeReads moves

def sampleFraming : Framing where
  cipher := shiftCipher
  params := { type := .aes128Gcm, secret := zeroBlock }
  tagInterval := 2
  ivChangeInterval := 4
  ivs := fun index => ⟨List.replicate kAESBlockSize (UInt8.ofNat index), List.length_replicate⟩
  interval_le := by decide
  tag_of_interval := fun _ => rfl

def arrives (counts : List Nat) : List Turn := counts.map (fun count => { arrival := .took count })

def runs (test : Session → SessionEvent → Bool) (events : List SessionEvent) : Option Session :=
  runsUnder (next sampleFraming) test (start sampleFraming true 0) events

theorem path_of_runs {allowed : Session → SessionEvent → Prop}
    [∀ session event, Decidable (allowed session event)] {events : List SessionEvent}
    {session : Session}
    (computed : runs (fun session event => decide (allowed session event)) events = some session) :
    Path (Step sampleFraming) allowed (start sampleFraming true 0) session :=
  path_of_runsUnder (fun _ _ _ => id) (fun _ _ => of_decide_eq_true) .refl computed

/-! ### Timeouts -/

theorem Agreed.delivers (agreed : Agreed framing session)
    (retryable : session.socket.readErrorCode = .ok ∨ session.socket.readErrorCode = .wdtTimeout)
    (leaves : session.LeavesFinalTag (.read nbyte turns))
    (served : session.AllServed framing (.read nbyte turns))
    (moves : Step framing session (.read nbyte turns) after) :
    ∃ data, data ≠ [] ∧ after.delivered = session.delivered ++ data ∧
      after.delivered <+: after.socket.world.plaintext ∧ after.socket.readErrorCode = .ok ∧
      after.ended = none := by
  obtain ⟨positive, open_session, ret, socket, called, rfl⟩ := read_called moves
  cases readCall_outcome agreed open_session retryable positive leaves called with
  | synced listening gives =>
    obtain ⟨some_data, clean⟩ := gives served
    obtain ⟨sound, front⟩ := listening_sound listening
    obtain ⟨_, _, grows, _⟩ := settle_moves sound
    exact ⟨ret.bytes, some_data, rfl, front.trans grows, clean, open_session⟩
  | stopped _ _ failed =>
    obtain ⟨raw, among, unserved⟩ := failed
    exact absurd (served raw among) unserved
  | lost lost => exact absurd (served_keeps_tags served) (by rw [lost]; exact nofun)

theorem timeouts_retryable {supportUnencryptedPeer : Bool} {spare : Byte}
    (path : Path (Step framing)
      (fun session event => session.LeavesFinalTag event ∧ session.KeepsTags framing event)
      (start framing supportUnencryptedPeer spare) session) :
    session.delivered <+: session.socket.world.plaintext ∧ (session.ended = none →
        session.socket.readErrorCode = .ok ∨ session.socket.readErrorCode = .wdtTimeout →
        ∀ nbyte turns after, session.LeavesFinalTag (.read nbyte turns) →
          session.AllServed framing (.read nbyte turns) →
          Step framing session (.read nbyte turns) after →
          ∃ data, data ≠ [] ∧ after.delivered = session.delivered ++ data ∧
            after.delivered <+: after.socket.world.plaintext ∧
            after.socket.readErrorCode = .ok) := by
  have agreed : Agreed framing session := path.invariant (Agreed framing)
    (agreed_start supportUnencryptedPeer spare)
    (fun state event next agreed meets moves => agreed.step meets.1 meets.2 moves)
  refine ⟨agreed.front, ?_⟩
  intro open_session retryable nbyte turns next leaves served moves
  obtain ⟨data, some_data, longer, front, clean, _⟩ :=
    agreed.delivers retryable leaves served moves
  exact ⟨data, some_data, longer, front, clean⟩

/-- One byte arrives, then nothing in time, then more. -/
def retriedEvents : List SessionEvent :=
  [.perform (.write 10 [11, 12, 13]), .read 2 (arrives [1, 22, 1]),
    .read 2 [{ arrival := .timedOut }]]

def retry : SessionEvent := .read 2 (arrives [1, 16, 1])

theorem timeouts_retryable_sample :
    ∃ session after data, session.socket.readErrorCode = .wdtTimeout ∧
      Step sampleFraming session retry after ∧ data ≠ [] ∧
      after.delivered = session.delivered ++ data ∧
      after.delivered <+: after.socket.world.plaintext := by
  have computed : (runs (fun session event => decide (session.LeavesFinalTag event ∧
      session.KeepsTags sampleFraming event)) retriedEvents).any (fun session =>
        decide (session.socket.readErrorCode = .wdtTimeout ∧ session.ended = none ∧
          session.LeavesFinalTag retry ∧ session.AllServed sampleFraming retry) &&
        (session.next sampleFraming retry).isSome) = true := by
    decide +kernel
  obtain ⟨session, run, holds⟩ := any_eq_true _ _ |>.mp computed
  rw [Bool.and_eq_true, decide_eq_true_eq, isSome_iff_exists] at holds
  obtain ⟨⟨timedOut, open_session, leaves, served⟩, after, moves⟩ := holds
  obtain ⟨data, some_data, longer, front, _⟩ := (timeouts_retryable (path_of_runs run)).2
    open_session (.inr timedOut) 2 (arrives [1, 16, 1]) after leaves served moves
  exact ⟨session, after, data, timedOut, moves, some_data, longer, front⟩

/-- The tag arrives and the data behind it does not. -/
def cutEvents : List SessionEvent :=
  [.perform (.write 10 [11, 12, 13, 14, 15]), .read 2 (arrives [1, 22, 2]),
    .read 2 [{ arrival := .took 16 }, { arrival := .timedOut }]]

/-- After a timeout behind a tag, a read that gets all it asks for takes data for the tag. -/
theorem timeout_behind_tag_not_retryable :
    ∃ session after, Path (Step sampleFraming) (fun session event => session.LeavesFinalTag event)
        (start sampleFraming true 0) session ∧
      session.ended = none ∧ session.socket.readErrorCode = .wdtTimeout ∧
      session.delivered ≠ session.socket.world.plaintext ∧
      session.LeavesFinalTag (.read 2 (arrives [16])) ∧
      session.AllServed sampleFraming (.read 2 (arrives [16])) ∧
      Step sampleFraming session (.read 2 (arrives [16])) after ∧
      after.delivered = session.delivered ∧ after.socket.readErrorCode = .encryptionError := by
  have computed : (runs (fun session event => decide (session.LeavesFinalTag event))
      cutEvents).any (fun session =>
        decide (session.ended = none ∧ session.socket.readErrorCode = .wdtTimeout ∧
          session.delivered ≠ session.socket.world.plaintext ∧
          session.LeavesFinalTag (.read 2 (arrives [16])) ∧
          session.AllServed sampleFraming (.read 2 (arrives [16]))) &&
        (session.next sampleFraming (.read 2 (arrives [16]))).any (fun after =>
          decide (after.delivered = session.delivered ∧
            after.socket.readErrorCode = .encryptionError))) = true := by
    decide +kernel
  obtain ⟨session, run, holds⟩ := any_eq_true _ _ |>.mp computed
  rw [Bool.and_eq_true, decide_eq_true_eq] at holds
  obtain ⟨⟨open_session, timedOut, unfinished, leaves, served⟩, retried⟩ := holds
  obtain ⟨after, moves, failed⟩ := any_eq_true _ _ |>.mp retried
  rw [decide_eq_true_eq] at failed
  exact ⟨session, after, path_of_runs run, open_session, timedOut, unfinished, leaves, served,
    moves, failed.1, failed.2⟩

/-! ### Agreement -/

theorem listening_taken (listening : Listening framing socket delivered) :
    socket.world.taken <+: socket.world.put := by
  rcases listening with ⟨unstarted, _⟩ | sync
  · rw [unstarted.taken]
    exact nil_prefix
  obtain ⟨rest, written⟩ := sync.reader.front
  rw [sync.reader.taken, sync.reader.sound.put, append_nil]
  unfold Framing.wire
  rw [if_neg sync.reader.written, ← written, framed_append, append_assoc]
  exact prefix_append _ _

theorem finalizeReads_agrees (sync : InSync framing socket delivered)
    (finalized : socket.world.writer.writesFinalized = true)
    (everything : delivered = socket.world.plaintext) {code : ErrorCode} {after : ReadSocket Link}
    (called : finalizeReads (network framing.cipher) framing.cipher socket =
      (code, after)) (before : socket.world.rawReads = [])
    (served : ∀ raw ∈ after.world.rawReads, raw.Served) :
    code = .ok ∧ after.world.taken = framing.wire socket.world.plaintext true ∧
      after.world.plaintext = socket.world.plaintext ∧
      after.world.writer.writesFinalized = true ∧ after.world.Sound framing := by
  have wire := @wire_finalized framing _ sync.reader.written
  unfold finalizeReads at called
  rw [sync.reader.params] at called
  dsimp only at called
  by_cases tagless : encryptionTypeToTagLen framing.params.type = 0
  · rw [if_pos tagless] at called
    cases called
    refine ⟨?_, ?_, rfl, finalized, sync.reader.sound⟩
    · refine if_pos ⟨rfl, .inr ?_⟩
      exact decide_eq_true (.inl tagless)
    · have noTag : framing.finalTag (framing.after socket.world.plaintext) = [] := if_pos tagless
      rw [wire, noTag, ← everything]
      exact sync.reader.taken
  · rw [if_neg tagless] at called
    generalize tagRead : readEncryptionTag (network framing.cipher) framing.params
      socket = result at called
    obtain ⟨tag, atEnd⟩ := result
    obtain ⟨got, raw, whole, started, context⟩ :=
      readEncryptionTag_moves sync.reader.sound tagless tagRead
    cases called
    have noted := raw.noted
    rw [before, nil_append] at noted
    have gotAll : got.length = encryptionTypeToTagLen framing.params.type := by
      have full := served _ (by rw [noted]; exact mem_singleton_self _)
      exact full.2 nofun
    have stays := raw.stays finalized
    have same : atEnd.world.plaintext = socket.world.plaintext := by
      have before := outlook_of_finalized finalized
      have after := outlook_of_finalized stays
      rw [raw.outlook, before] at after
      exact (congrArg Prod.fst after).symm
    have isTag : framing.finalTag (framing.after socket.world.plaintext) =
        labelled .tag (framing.cipher.computeCurrentTag framing.params
          (framing.after socket.world.plaintext).context).val := if_neg tagless
    have position : socket.world.taken = framing.framed socket.world.plaintext := by
      rw [sync.reader.taken, everything, append_nil]
    have size : encryptionTypeToTagLen framing.params.type = kAESBlockSize := by
      cases type : framing.params.type with
      | aes128Gcm => rfl
      | aes128Ctr => exact absurd (by rw [type]; rfl) tagless
    have stands : socket.world.taken ++ labelled .tag (framing.cipher.computeCurrentTag
        framing.params (framing.after socket.world.plaintext).context).val <+:
        atEnd.world.put := by
      rewrite [raw.sound.put, same, stays, wire, isTag, position]
      exact prefix_refl _
    have gotTag := taken_is_block raw
      ((framing.cipher.computeCurrentTag framing.params _).property.trans size.symm) stands gotAll
    refine ⟨?_, ?_, same, stays, raw.sound⟩
    · rw [whole gotAll]
      refine if_pos ⟨rfl, .inr ?_⟩
      rw [context, sync.reader.context, everything, getD_some, gotTag]
      exact decide_eq_true (.inr rfl)
    · rw [raw.taken, gotTag, wire, isTag, position]

/-- The invariant of runs in which every raw read is served. -/
structure InStep (framing : Framing) (session : Session) : Prop where
  agreed : Agreed framing session
  clean : session.ended = none → session.socket.readErrorCode = .ok
  finished : ∀ code, session.ended = some code → code = .ok ∧
    session.socket.world.writer.writesFinalized = true ∧
    session.socket.world.taken = session.socket.world.put ∧
    session.delivered = session.socket.world.plaintext

theorem InStep.finalizeReads (inStep : InStep framing session)
    (ends : session.EndsWithData (.finalizeReads turns))
    (served : session.AllServed framing (.finalizeReads turns))
    (moves : Step framing session (.finalizeReads turns) after) : InStep framing after := by
  have agreedAfter := inStep.agreed.finalizeReads moves
  obtain ⟨finalized, everything, some_data⟩ := ends
  obtain ⟨open_session, code, socket, called, rfl⟩ := finalizeReads_called moves
  have served : ∀ raw ∈ socket.world.rawReads, raw.Served := by
    intro raw among
    apply served raw
    change raw ∈ (session.endCall framing turns).2.world.rawReads
    rw [called]
    exact among
  rcases (inStep.agreed.scheduled turns).2 open_session (.inl (inStep.clean open_session)) with
    ⟨_, nothing⟩ | sync
  · exact absurd nothing some_data
  obtain ⟨isOk, taken, same, stays, sound⟩ :=
    finalizeReads_agrees sync finalized everything called rfl served
  obtain ⟨settledSound, settledTaken, _, status⟩ := settle_moves sound
  rw [outlook_of_finalized stays] at status
  obtain ⟨settledData, settledFinal⟩ := Prod.mk.inj status
  refine ⟨agreedAfter, nofun, ?_⟩
  rintro _ ⟨rfl⟩
  refine ⟨isOk, settledFinal, ?_, ?_⟩
  · change (socket.world.settle framing.cipher).taken = (socket.world.settle framing.cipher).put
    rw [settledTaken, taken, settledSound.put, settledData, settledFinal, same]
  · change session.delivered = (socket.world.settle framing.cipher).plaintext
    rw [settledData, same]
    exact everything

theorem InStep.step (inStep : InStep framing session) {event : SessionEvent}
    (leaves : session.LeavesFinalTag event) (ends : session.EndsWithData event)
    (served : session.AllServed framing event) (moves : Step framing session event after) :
    InStep framing after := by
  have agreedAfter := inStep.agreed.step leaves (served_keeps_tags served) moves
  cases event with
  | perform call =>
    obtain rfl := some.inj moves
    refine ⟨agreedAfter, inStep.clean, ?_⟩
    intro code ended
    obtain ⟨isOk, finalized, taken, everything⟩ := inStep.finished code ended
    have unchanged : session.socket.world.perform framing.cipher call = session.socket.world :=
      if_pos finalized
    rw [unchanged]
    exact ⟨isOk, finalized, taken, everything⟩
  | read nbyte turns =>
    have open_session := (read_called moves).2.1
    obtain ⟨data, some_data, longer, front, clean, open_after⟩ := inStep.agreed.delivers
      (.inl (inStep.clean open_session)) leaves served moves
    refine ⟨agreedAfter, fun _ => clean, ?_⟩
    intro code ended
    rw [open_after] at ended
    cases ended
  | finalizeReads turns => exact inStep.finalizeReads ends served moves

theorem framing_agreement {supportUnencryptedPeer : Bool} {spare : Byte} (path : Path (Step framing)
      (fun session event => session.LeavesFinalTag event ∧ session.EndsWithData event ∧
        session.AllServed framing event)
      (start framing supportUnencryptedPeer spare) session) :
    session.socket.world.taken <+: session.socket.world.put ∧
      session.delivered <+: session.socket.world.plaintext ∧
      (∀ code, session.ended = some code → code = .ok ∧
        session.socket.world.taken = session.socket.world.put ∧
        session.delivered = session.socket.world.plaintext) ∧
      (session.ended = none → ∀ nbyte turns after, session.LeavesFinalTag (.read nbyte turns) →
        session.AllServed framing (.read nbyte turns) →
        Step framing session (.read nbyte turns) after →
        ∃ data, data ≠ [] ∧ after.delivered = session.delivered ++ data) := by
  have inStep : InStep framing session := path.invariant (InStep framing)
    ⟨agreed_start supportUnencryptedPeer spare, fun _ => rfl, nofun⟩
    (fun state event next inStep meets moves => inStep.step meets.1 meets.2.1 meets.2.2 moves)
  refine ⟨?_, inStep.agreed.front, ?_, ?_⟩
  · cases ended : session.ended with
    | none => exact listening_taken (inStep.agreed.listening ended (.inl (inStep.clean ended)))
    | some code =>
      rewrite [(inStep.finished code ended).2.2.1]
      exact prefix_refl _
  · intro code ended
    obtain ⟨isOk, _, taken, everything⟩ := inStep.finished code ended
    exact ⟨isOk, taken, everything⟩
  · intro open_session nbyte turns after leaves served moves
    obtain ⟨data, some_data, longer, _⟩ := inStep.agreed.delivers
      (.inl (inStep.clean open_session)) leaves served moves
    exact ⟨data, some_data, longer⟩

def agreedEvents : List SessionEvent := [.perform (.write 10 [11, 12]),
    .read 9 ({ calls := [.write 13 [14]], arrival := .took 1 } ::
      arrives [22, 2, 16, 2, 16, 16, 1]),
    .perform .finalizeWrites, .finalizeReads (arrives [16])]

theorem framing_agreement_sample : ∃ session : Session, session.ended = some .ok ∧
      session.socket.world.taken = session.socket.world.put ∧
      session.delivered = session.socket.world.plaintext ∧
      session.delivered = [10, 11, 12, 13, 14] := by
  have computed : (runs (fun session event => decide (session.LeavesFinalTag event ∧
      session.EndsWithData event ∧ session.AllServed sampleFraming event)) agreedEvents).any
        (fun session => decide (session.ended = some .ok ∧
          session.delivered = [10, 11, 12, 13, 14])) = true := by
    decide +kernel
  obtain ⟨session, run, holds⟩ := any_eq_true _ _ |>.mp computed
  rw [decide_eq_true_eq] at holds
  obtain ⟨_, _, finished, _⟩ := framing_agreement (path_of_runs run)
  obtain ⟨_, taken, everything⟩ := finished .ok holds.1
  exact ⟨session, holds.1, taken, everything, holds.2⟩

def greedyEvents : List SessionEvent :=
  [.perform (.write 10 [11, 12]), .perform .finalizeWrites, .read 4 (arrives [1, 22, 2, 16, 2])]

/-- A read that asks for more than the data gets a byte of the tag at the end as data. -/
theorem final_tag_taken_as_data : ∃ session, Path (Step sampleFraming)
        (fun session event => session.AllServed sampleFraming event)
        (start sampleFraming true 0) session ∧
      ¬ session.delivered <+: session.socket.world.plaintext := by
  have computed : (runs (fun session event => decide (session.AllServed sampleFraming event))
      greedyEvents).any (fun session =>
        decide (¬ session.delivered <+: session.socket.world.plaintext)) = true := by
    decide +kernel
  obtain ⟨session, run, holds⟩ := any_eq_true _ _ |>.mp computed
  rw [decide_eq_true_eq] at holds
  exact ⟨session, path_of_runs run, holds⟩

end Session

end Wdt
