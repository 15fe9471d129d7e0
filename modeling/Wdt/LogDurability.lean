/-
The receiver threads and the writer thread of the transfer log. Entries are buffered
under a lock; the writer takes the whole buffer when it wakes and writes it without
the lock; closing the log waits for the writer's last round. Disk writes succeed.
-/

import Wdt.LogContents
import Wdt.TransferLogManager
import Wdt.Lib.Transition

open Transition

namespace Wdt

open List Option

/-! ### The threads -/

inductive WriterThread
  | notStarted
  /-- in `wait_for`, without the lock -/
  | waiting
  /-- it has emptied the buffer and read the flag, and not yet written -/
  | holding (batch : List (List Byte)) (finished : Bool)
  | ended
  | joined
  deriving DecidableEq

namespace WriterThread

def joinable : WriterThread → Bool
  | notStarted => false
  | joined => false
  | waiting => true
  | holding _ _ => true
  | ended => true

def batch : WriterThread → List (List Byte)
  | holding batch _ => batch
  | notStarted => []
  | waiting => []
  | ended => []
  | joined => []

end WriterThread

inductive LogPhase
  | opened
  | started
  | serving
  /-- in `compactLog`, which has asked the writer to finish -/
  | compacting
  | compacted
  /-- in `closeLog`, which has asked the writer to finish -/
  | closing
  | closed
  deriving DecidableEq

/-- What reaches the file: a header or an invalidation of the directory, a buffered entry, or
new contents, when the log is compacted. -/
inductive LogWrite
  | control (bytes : List Byte)
  | entry (bytes : List Byte)
  | rewritten (contents : List Byte)

namespace LogWrite

def applyTo (contents : List Byte) : LogWrite → List Byte
  | control bytes => contents ++ bytes
  | entry bytes => contents ++ bytes
  | rewritten contents => contents

def applyAll (contents : List Byte) (writes : List LogWrite) : List Byte :=
  writes.foldl applyTo contents

def entryBytes : LogWrite → Option (List Byte)
  | entry bytes => some bytes
  | control _ => none
  | rewritten _ => none

def entries (writes : List LogWrite) : List (List Byte) := writes.filterMap entryBytes

end LogWrite

/-- `added` are the entries that went into the buffer, in this order, and `writes` what was
written to the file. -/
structure LogSystem where
  manager : LogManager
  writer : WriterThread := .notStarted
  phase : LogPhase := .opened
  added : List (List Byte) := []
  writes : List LogWrite := []

inductive LogAction
  /-- `startNewGlobalSession` makes the next two calls -/
  | startThread
  | verifySenderIp (curSenderIp : List Byte) (timestamp : Nat)
  /-- `addTransferLogHeader` makes the next two, the first only for some senders -/
  | invalidateDirectory (timestamp : Nat)
  | writeLogHeader (timestamp : Nat)
  | addEntry (entry : LogEntry)
  | wakeWriter
  | writeBatch
  | startCompaction
  | compact (disk : Directory) (clock : Nat → Nat)
  | closeLog
  | join

namespace LogSystem

variable (system : LogSystem)

/-- Direct writes of the manager are seen as what they add to the file. -/
def withControl (manager : LogManager) (phase : LogPhase) : LogSystem :=
  { system with
    manager, phase
    writes := system.writes ++
      [.control (manager.file.contents.drop system.manager.file.contents.length)] }

/-- The drain at the end of `compactLog`, if it gets there. -/
def finishCompaction (prepared : LogManager) (drains : Bool) : LogSystem :=
  if drains then
    { manager := { prepared with
        entries := []
        file := LogManager.writeEntriesToDiskNoLock prepared.file prepared.entries }
      writer := if system.writer = .notStarted then .notStarted else .joined
      phase := .compacted
      added := system.added ++ prepared.entries.drop system.manager.entries.length
      writes := system.writes ++ .rewritten prepared.file.contents ::
        prepared.entries.map .entry }
  else
    { manager := prepared
      writer := if system.writer = .notStarted then .notStarted else .joined
      phase := .compacted
      added := system.added
      writes := system.writes ++ [.rewritten prepared.file.contents] }

def step : LogAction → Option LogSystem
  | .startThread =>
    if system.phase = .opened then
      some { system with
        phase := .started
        writer := if !system.manager.resumeUsingDirTree &&
            system.manager.resumptionStatus == .ok then .waiting else .notStarted }
    else none
  | .verifySenderIp curSenderIp timestamp =>
    if system.phase = .started then
      some (system.withControl (system.manager.verifySenderIp curSenderIp timestamp).2 .serving)
    else none
  | .invalidateDirectory timestamp =>
    if system.phase = .serving then
      some (system.withControl (system.manager.invalidateDirectory timestamp) .serving)
    else none
  | .writeLogHeader timestamp =>
    if system.phase = .serving then
      some (system.withControl (system.manager.writeLogHeader timestamp) .serving)
    else none
  | .addEntry entry =>
    -- the callers add nothing in the mode that resumes by the directory tree
    if system.phase = .serving ∧ system.manager.resumeUsingDirTree = false then
      (system.manager.addEntry entry).map fun manager =>
        { system with
          manager
          added := system.added ++ manager.entries.drop system.manager.entries.length }
    else none
  | .wakeWriter =>
    if system.writer = .waiting then
      some { system with
        writer := .holding system.manager.entries system.manager.finished
        manager := { system.manager with entries := [] } }
    else none
  | .writeBatch =>
    match system.writer with
    | .holding batch finished =>
      some { system with
        writer := if finished then .ended else .waiting
        manager := { system.manager with
          file := LogManager.writeEntriesToDiskNoLock system.manager.file batch }
        writes := system.writes ++ batch.map .entry }
    | _ => none
  | .startCompaction =>
    if system.phase = .serving ∧ system.manager.isOpen = true ∧
        system.manager.resumeUsingDirTree = false then
      some { system with
        phase := .compacting
        manager := { system.manager with
          finished := system.manager.finished || system.writer.joinable } }
    else none
  | .compact disk clock =>
    if system.phase = .compacting ∧ (system.writer = .notStarted ∨ system.writer = .ended) then
      match system.manager.prepareCompaction disk clock with
      | .ok (some (prepared, drains)) => some (system.finishCompaction prepared drains)
      | .ok none => none
      | .error _ => none
    else none
  | .closeLog =>
    if system.phase = .opened ∨ system.phase = .serving ∨ system.phase = .compacted then
      if !system.manager.isOpen then some { system with phase := .closed }
      else if !system.manager.resumeUsingDirTree && system.writer.joinable then
        some { system with
          phase := .closing
          manager := { system.manager with finished := true } }
      else
        some { system with
          phase := .closed
          manager := { system.manager with isOpen := false } }
    else none
  | .join =>
    if system.phase = .closing ∧ system.writer = .ended then
      some { system with
        phase := .closed
        writer := .joined
        manager := { system.manager with isOpen := false } }
    else none

def Step (action : LogAction) (after : LogSystem) : Prop :=
  system.step action = some after

end LogSystem

/-! ### What the calls do to the file and the buffer -/

variable {disk : Directory} {clock : Nat → Nat}

namespace LogManager

/-- A call that writes to the file itself: it appends when the log is open, and leaves the buffer
alone. -/
structure WritesDirectly (before after : LogManager) : Prop where
  entries : after.entries = before.entries
  finished : after.finished = before.finished
  isOpen : after.isOpen = before.isOpen
  resumeUsingDirTree : after.resumeUsingDirTree = before.resumeUsingDirTree
  headerWritten : after.headerWritten = true → before.isOpen = true ∨ before.headerWritten = true
  appends : before.isOpen = true → before.file.position = before.file.contents.length →
    ∃ bytes, after.file = { contents := before.file.contents ++ bytes
                            position := (before.file.contents ++ bytes).length }
  unchanged : before.isOpen = false → after.file = before.file

theorem WritesDirectly.refl (manager : LogManager) : manager.WritesDirectly manager where
  entries := rfl
  finished := rfl
  isOpen := rfl
  resumeUsingDirTree := rfl
  headerWritten := .inr
  appends := fun _ atEnd => ⟨[], by rw [List.append_nil, ← atEnd]⟩
  unchanged := fun _ => rfl

variable {before after : LogManager}

theorem WritesDirectly.file_eq (writes : before.WritesDirectly after)
    (atEnd : before.file.position = before.file.contents.length) :
    ∃ bytes, after.file = { contents := before.file.contents ++ bytes
                            position := (before.file.contents ++ bytes).length } := by
  cases opened : before.isOpen with
  | true => exact writes.appends opened atEnd
  | false => exact ⟨[], by rw [writes.unchanged opened, append_nil, ← atEnd]⟩

theorem WritesDirectly.atEnd (writes : before.WritesDirectly after)
    (atEnd : before.file.position = before.file.contents.length) :
    after.file.position = after.file.contents.length := by
  rcases writes.file_eq atEnd with ⟨bytes, file⟩
  rw [file]

theorem write_file_atEnd {file : LogFile} (atEnd : file.position = file.contents.length)
    (bytes : List Byte) :
    file.write bytes =
      { contents := file.contents ++ bytes, position := (file.contents ++ bytes).length } := by
  obtain ⟨contents, position⟩ := file
  have same : position = contents.length := atEnd
  rw [same]
  exact LogParser.write_atEnd contents bytes

variable {manager : LogManager}

theorem WritesDirectly.write (opened : manager.isOpen = true) (bytes : List Byte)
    (resumptionStatus : ErrorCode) (headerWritten : Bool) :
    manager.WritesDirectly
      { manager with file := manager.file.write bytes, resumptionStatus, headerWritten } where
  entries := rfl
  finished := rfl
  isOpen := rfl
  resumeUsingDirTree := rfl
  headerWritten := fun _ => .inl opened
  appends := fun _ atEnd => ⟨_, write_file_atEnd atEnd _⟩
  unchanged := fun closed => absurd (opened.symm.trans closed) nofun

theorem invalidateDirectory_writes (manager : LogManager) (timestamp : Nat) :
    manager.WritesDirectly (manager.invalidateDirectory timestamp) := by
  unfold invalidateDirectory
  split
  · exact WritesDirectly.refl manager
  · rename_i opened
    exact WritesDirectly.write (by simpa using opened) _ _ _

theorem writeLogHeader_writes (manager : LogManager) (timestamp : Nat) :
    manager.WritesDirectly (manager.writeLogHeader timestamp) := by
  unfold writeLogHeader
  split
  · exact WritesDirectly.refl manager
  · rename_i opened
    exact WritesDirectly.write (by simpa using opened) _ _ _

theorem WritesDirectly.withSenderIp (writes : before.WritesDirectly after) (senderIp : List Byte) :
    before.WritesDirectly { after with senderIp } :=
  { writes with }

theorem verifySenderIp_writes (manager : LogManager) (curSenderIp : List Byte) (timestamp : Nat) :
    manager.WritesDirectly (manager.verifySenderIp curSenderIp timestamp).2 := by
  unfold verifySenderIp
  split
  · exact WritesDirectly.refl manager
  · split
    · exact (manager.invalidateDirectory_writes timestamp).withSenderIp curSenderIp
    · exact (WritesDirectly.refl manager).withSenderIp curSenderIp

theorem writeEntriesToDiskNoLock_atEnd {file : LogFile}
    (atEnd : file.position = file.contents.length) (entries : List (List Byte)) :
    writeEntriesToDiskNoLock file entries =
      { contents := file.contents ++ entries.flatten
        position := (file.contents ++ entries.flatten).length } := by
  unfold writeEntriesToDiskNoLock
  split
  · rename_i nothing
    rw [nothing, append_nil, ← atEnd]
  · exact write_file_atEnd atEnd entries.flatten

theorem addEntry_entries {entry : LogEntry} (adds : manager.addEntry entry = some after) :
    ∃ more, after = { manager with entries := manager.entries ++ more } ∧
      (manager.isOpen = false → more = []) := by
  unfold addEntry at adds
  split at adds
  · rename_i accepted
    obtain ⟨bytes, _, rfl⟩ := map_eq_some_iff.mp adds
    refine ⟨[bytes], rfl, fun closed => ?_⟩
    unfold accepts at accepted
    rw [closed] at accepted
    cases entry <;> cases accepted
  · cases adds
    exact ⟨[], by rw [append_nil], fun _ => rfl⟩

theorem addCompacted_entries {timestamp : Nat} {fileChunksInfo : List FileChunksInfo}
    (adds : addCompacted timestamp manager fileChunksInfo = some after) :
    after.file = manager.file ∧ ∃ more, after.entries = manager.entries ++ more := by
  induction fileChunksInfo generalizing manager with
  | nil =>
    cases adds
    exact ⟨rfl, [], by rw [append_nil]⟩
  | cons info rest ih =>
    unfold addCompacted at adds
    simp only [bind_eq_bind, bind_eq_some_iff] at adds
    rcases adds with ⟨created, createdBy, written, writtenBy, later⟩
    rcases addEntry_entries createdBy with ⟨first, rfl, _⟩
    rcases addEntry_entries writtenBy with ⟨second, rfl, _⟩
    rcases ih later with ⟨file, others, shape⟩
    exact ⟨file, first ++ (second ++ others), by
      rw [shape]
      simp only [append_assoc]⟩

theorem parseVerifyAndFix_entries {parseOnly : Bool}
    {code : ErrorCode} {chunks : List FileChunksInfo}
    (parsed : manager.parseVerifyAndFix disk clock parseOnly = .ok (code, after, chunks)) :
    after.entries = manager.entries := by
  unfold parseVerifyAndFix at parsed
  split at parsed
  · cases parsed
    rfl
  obtain ⟨result, _, fixed⟩ := Except.map_eq_ok_iff.mp parsed
  cases fixed
  split
  · rfl
  · split
    · rw [(invalidateDirectory_writes _ _).entries]
    · rfl

theorem prepareCompaction_result {prepared : LogManager} {drains : Bool}
    (done : manager.prepareCompaction disk clock = .ok (some (prepared, drains))) :
    (∃ more, prepared.entries = manager.entries ++ more) ∧
      (drains = false → prepared.entries = manager.entries) ∧
      (drains = true → prepared.file.position = prepared.file.contents.length) := by
  obtain ⟨⟨code, fixed, chunks⟩, parsed, done⟩ := Except.map_eq_ok_iff.mp done
  have kept := parseVerifyAndFix_entries parsed
  dsimp only at kept done
  have idle : ∃ more, fixed.entries = manager.entries ++ more := ⟨[], by rw [append_nil, kept]⟩
  split at done
  · cases done
    exact ⟨idle, fun _ => kept, nofun⟩
  split at done
  · cases done
    exact ⟨idle, fun _ => kept, nofun⟩
  obtain ⟨added, adds, same⟩ := map_eq_some_iff.mp done
  cases same
  rcases addCompacted_entries adds with ⟨file, more, shape⟩
  have header := writeLogHeader_writes
    { fixed with file := { contents := [], position := 0 } } (clock 0)
  refine ⟨⟨more, ?_⟩, nofun, fun _ => ?_⟩
  · rw [shape, header.entries, kept]
  · rw [file]
    exact header.atEnd rfl

end LogManager

/-! ### Every entry is in one place -/

theorem LogWrite.entries_append (first second : List LogWrite) :
    LogWrite.entries (first ++ second) = LogWrite.entries first ++ LogWrite.entries second :=
  List.filterMap_append

theorem LogWrite.entries_map_entry (batch : List (List Byte)) :
    LogWrite.entries (batch.map LogWrite.entry) = batch := by
  induction batch with
  | nil => rfl
  | cons bytes rest ih => exact congrArg (cons bytes) ih

theorem LogWrite.applyAll_append (contents : List Byte) (first second : List LogWrite) :
    LogWrite.applyAll contents (first ++ second) =
      LogWrite.applyAll (LogWrite.applyAll contents first) second :=
  List.foldl_append

theorem LogWrite.applyAll_entries (contents : List Byte) (batch : List (List Byte)) :
    LogWrite.applyAll contents (batch.map LogWrite.entry) = contents ++ batch.flatten := by
  induction batch generalizing contents with
  | nil => exact (append_nil contents).symm
  | cons bytes rest ih =>
    rw [map_cons, flatten_cons, ← append_assoc, ← ih (contents ++ bytes)]
    rfl

def WriterThread.finishing : WriterThread → Bool
  | .holding _ finished => finished
  | .ended => true
  | .joined => true
  | .notStarted => false
  | .waiting => false

namespace LogSystem

def Early (system : LogSystem) : Prop :=
  system.phase = .opened ∨ system.phase = .started ∨ system.phase = .serving

def Live (system : LogSystem) : Prop := system.phase ≠ .compacted ∧ system.phase ≠ .closed

/-- Each entry that went into the buffer is in the file, in the writer's hands or still in the
buffer, in this order; the writer that finishes leaves nothing behind; and there is a writer
whenever entries are accepted. -/
structure Accounted (contents : List Byte) (system : LogSystem) : Prop where
  added : system.added =
    LogWrite.entries system.writes ++ system.writer.batch ++ system.manager.entries
  contents : system.manager.file.contents = LogWrite.applyAll contents system.writes
  atEnd : system.manager.isOpen = true → system.Live →
    system.manager.file.position = system.manager.file.contents.length
  early : system.Early → system.manager.finished = false ∧
    (system.manager.headerWritten = true → system.manager.isOpen = true)
  finishing : system.writer.finishing = true → ¬ system.Early ∧ system.manager.entries = []
  unstarted : system.writer = .notStarted → system.manager.entries = [] ∧ (system.phase ≠ .opened →
      system.manager.isOpen = false ∨ system.manager.resumeUsingDirTree = true)
  writerOpen : system.writer ≠ .notStarted → system.Live →
    system.manager.resumeUsingDirTree = false ∧ system.manager.isOpen = true
  opened : system.phase = .opened → system.writer = .notStarted ∧
    ((system.manager.isOpen = true ∧ (system.manager.resumptionStatus = .ok ∨
        system.manager.resumptionStatus = .inconsistentDirectory)) ∨
      (system.manager.isOpen = false ∧ system.manager.resumptionStatus = .invalidLog))
  compacting : system.phase = .compacting → system.writer ≠ .notStarted
  closing : system.phase = .closing → system.writer ≠ .notStarted ∧ system.manager.finished = true
  joined : (system.writer = .notStarted ∨ system.writer = .joined) ∨ system.Live
  joinedOnly : system.writer = .joined → ¬ system.Live

variable {manager : LogManager}

theorem Accounted.withControl {contents : List Byte} {system : LogSystem}
    (holds : Accounted contents system) (writes : system.manager.WritesDirectly manager)
    (before : system.phase = .started ∨ system.phase = .serving) :
    Accounted contents (system.withControl manager .serving) := by
  have live : system.Live := by rcases before with phase | phase <;> simp [Live, phase]
  have early : system.Early := .inr before
  have notOpened : system.phase ≠ .opened := by rcases before with phase | phase <;> simp [phase]
  have appended : manager.file.contents = system.manager.file.contents ++
      manager.file.contents.drop system.manager.file.contents.length ∧
      (system.manager.isOpen = true →
        manager.file.position = manager.file.contents.length) := by
    cases opened : system.manager.isOpen with
    | true =>
      have atEnd := holds.atEnd opened live
      rcases writes.file_eq atEnd with ⟨bytes, file⟩
      rw [file]
      rw [drop_left]
      exact ⟨rfl, fun _ => rfl⟩
    | false =>
      rw [writes.unchanged opened, drop_length, append_nil]
      exact ⟨rfl, nofun⟩
  unfold LogSystem.withControl
  exact
    { added := by
        rw [LogWrite.entries_append, writes.entries, holds.added]
        simp [LogWrite.entries, LogWrite.entryBytes]
      contents := by
        rw [LogWrite.applyAll_append, ← holds.contents]
        exact appended.1
      atEnd := fun opened _ => appended.2 (writes.isOpen.symm.trans opened)
      early := fun _ => by
        refine ⟨writes.finished.trans (holds.early early).1, fun written => ?_⟩
        rw [writes.isOpen]
        rcases writes.headerWritten written with opened | earlier
        · exact opened
        · exact (holds.early early).2 earlier
      finishing := fun finishing => absurd early (holds.finishing finishing).1
      unstarted := fun unstarted => by
        rw [writes.entries, writes.isOpen, writes.resumeUsingDirTree]
        exact ⟨(holds.unstarted unstarted).1, fun _ => (holds.unstarted unstarted).2 notOpened⟩
      writerOpen := fun started _ => by
        rw [writes.isOpen, writes.resumeUsingDirTree]
        exact holds.writerOpen started live
      opened := nofun
      compacting := nofun
      closing := nofun
      joined := .inr ⟨nofun, nofun⟩
      joinedOnly := fun joined => absurd live (holds.joinedOnly joined) }

theorem Accounted.live_of_joinable {contents : List Byte} {system : LogSystem}
    (holds : Accounted contents system) (joinable : system.writer.joinable = true) : system.Live :=
  holds.joined.resolve_left fun gone => by
    rcases gone with gone | gone <;> rw [gone] at joinable <;> cases joinable

theorem joinable_of_started {writer : WriterThread} (started : writer ≠ .notStarted)
    (notJoined : writer ≠ .joined) : writer.joinable = true := by
  cases writer with
  | notStarted => exact absurd rfl started
  | joined => exact absurd rfl notJoined
  | waiting => rfl
  | holding batch finished => rfl
  | ended => rfl

variable {contents : List Byte} {system after : LogSystem}

theorem accounted_of_late (late : system.phase = .compacted ∨ system.phase = .closed)
    (gone : (system.writer = .notStarted ∧ system.manager.isOpen = false) ∨
      system.writer = .joined) (empty : system.manager.entries = [])
    (added : system.added =
      LogWrite.entries system.writes ++ system.writer.batch ++ system.manager.entries)
    (written : system.manager.file.contents = LogWrite.applyAll contents system.writes) :
    Accounted contents system := by
  have notLive : ¬ system.Live := fun live => late.elim live.1 live.2
  have notEarly : ¬ system.Early := by rcases late with phase | phase <;> simp [Early, phase]
  have phases : system.phase ≠ .opened ∧ system.phase ≠ .compacting ∧
      system.phase ≠ .closing := by
    rcases late with phase | phase <;> simp [phase]
  exact
    { added
      contents := written
      atEnd := fun _ live => absurd live notLive
      early := fun early => absurd early notEarly
      finishing := fun _ => ⟨notEarly, empty⟩
      unstarted := fun unstarted => ⟨empty, fun _ => .inl (by grind)⟩
      writerOpen := fun _ live => absurd live notLive
      opened := fun phase => absurd phase phases.1
      compacting := fun phase => absurd phase phases.2.1
      closing := fun phase => absurd phase phases.2.2
      joined := .inl (gone.imp_left And.left)
      joinedOnly := fun _ => notLive }

section

variable (holds : Accounted contents system)

include holds

theorem Accounted.wakeWriter (moves : system.Step .wakeWriter after) :
    Accounted contents after := by
  obtain ⟨waiting, moved⟩ := ite_none_right_eq_some.mp moves
  cases moved
  have started : system.writer ≠ .notStarted := by simp [waiting]
  exact
    { holds with
      added := by
        rw [holds.added, waiting]
        simp [WriterThread.batch]
      finishing := fun finished => by
        refine ⟨fun early => ?_, rfl⟩
        have running := (holds.early early).1
        change system.manager.finished = true at finished
        rw [finished] at running
        cases running
      unstarted := nofun
      writerOpen := fun _ => holds.writerOpen started
      opened := fun phase => absurd (holds.opened phase).1 started
      compacting := nofun
      closing := fun phase => ⟨nofun, (holds.closing phase).2⟩
      joined := .inr (holds.live_of_joinable (by rw [waiting]; rfl))
      joinedOnly := nofun }

theorem Accounted.writeBatch (moves : system.Step .writeBatch after) :
    Accounted contents after := by
  unfold Step step at moves
  dsimp only at moves
  split at moves
  case h_2 => cases moves
  case h_1 batch finished writer =>
    cases moves
    have started : system.writer ≠ .notStarted := by simp [writer]
    have live := holds.live_of_joinable (by rw [writer]; rfl)
    have file := LogManager.writeEntriesToDiskNoLock_atEnd
      (holds.atEnd (holds.writerOpen started live).2 live) batch
    have next : (if finished then WriterThread.ended else .waiting) ≠ .notStarted ∧
        (if finished then WriterThread.ended else .waiting) ≠ .joined ∧
        (if finished then WriterThread.ended else .waiting).batch = [] ∧
        (if finished then WriterThread.ended else .waiting).finishing = finished := by
      cases finished <;> exact ⟨nofun, nofun, rfl, rfl⟩
    have finishing := holds.finishing
    rw [writer] at finishing
    exact
      { holds with
        added := by
          rw [holds.added, writer, LogWrite.entries_append, LogWrite.entries_map_entry]
          rw [next.2.2.1, append_nil]
          rfl
        contents := by
          rw [file, LogWrite.applyAll_append, ← holds.contents, LogWrite.applyAll_entries]
        atEnd := fun _ _ => by
          rw [file]
        finishing := fun ends => finishing (next.2.2.2.symm.trans ends)
        unstarted := fun same => absurd same next.1
        writerOpen := fun _ => holds.writerOpen started
        opened := fun phase => absurd (holds.opened phase).1 started
        compacting := fun _ => next.1
        closing := fun phase => ⟨next.1, (holds.closing phase).2⟩
        joined := .inr live
        joinedOnly := fun same => absurd same next.2.1 }

theorem Accounted.startThread
    (consistent : system.manager.resumptionStatus ≠ .inconsistentDirectory)
    (moves : system.Step .startThread after) : Accounted contents after := by
  obtain ⟨phase, moved⟩ := ite_none_right_eq_some.mp moves
  cases moved
  rcases holds.opened phase with ⟨unstarted, status⟩
  have live : system.Live := by simp [Live, phase]
  have early := holds.early (.inl phase)
  have idle := (holds.unstarted unstarted).1
  have added := holds.added
  rw [unstarted, idle] at added
  by_cases starts : (!system.manager.resumeUsingDirTree &&
      system.manager.resumptionStatus == .ok) = true
  · rw [if_pos starts]
    rw [Bool.and_eq_true, Bool.not_eq_true', beq_iff_eq] at starts
    have isOpen : system.manager.isOpen = true := by
      rcases status with ⟨opened, _⟩ | ⟨_, invalid⟩
      · exact opened
      · rw [starts.2] at invalid
        cases invalid
    exact
      { holds with
        added := by
          rw [added, idle]
          rfl
        atEnd := fun _ _ => holds.atEnd isOpen live
        early := fun _ => early
        finishing := nofun
        unstarted := nofun
        writerOpen := fun _ _ => ⟨starts.1, isOpen⟩
        opened := nofun
        compacting := nofun
        closing := nofun
        joined := .inr ⟨nofun, nofun⟩
        joinedOnly := nofun }
  · rw [if_neg starts]
    exact
      { holds with
        added := by rw [added, idle]
        atEnd := fun opened _ => holds.atEnd opened live
        early := fun _ => early
        finishing := nofun
        unstarted := fun _ => by
          refine ⟨idle, fun _ => ?_⟩
          rcases status with ⟨_, ok | inconsistent⟩ | ⟨closed, _⟩
          · rw [ok, beq_self_eq_true, Bool.and_true, Bool.not_eq_true', Bool.not_eq_false]
              at starts
            exact .inr starts
          · exact absurd inconsistent consistent
          · exact .inl closed
        writerOpen := fun started => absurd rfl started
        opened := nofun
        compacting := nofun
        closing := nofun
        joined := .inl (.inl rfl)
        joinedOnly := nofun }

theorem Accounted.addEntry {entry : LogEntry} (moves : system.Step (.addEntry entry) after) :
    Accounted contents after := by
  obtain ⟨guard, added⟩ := ite_none_right_eq_some.mp moves
  obtain ⟨manager, adds, rfl⟩ := map_eq_some_iff.mp added
  rcases LogManager.addEntry_entries adds with ⟨more, rfl, closed⟩
  exact
    { holds with
      added := by
        rw [drop_left, holds.added, append_assoc]
      -- while receiver threads call, the writer has not been told to finish
      finishing := fun finishing =>
        absurd (.inr (.inr guard.1)) (holds.finishing finishing).1
      unstarted := fun unstarted => by
        rcases holds.unstarted unstarted with ⟨empty, idle⟩
        refine ⟨?_, idle⟩
        rcases idle (by simp [guard.1]) with notOpen | byTree
        · rw [empty, closed notOpen, append_nil]
        · rw [guard.2] at byTree
          cases byTree
      opened := fun phase => absurd (guard.1.symm.trans phase) nofun }

theorem Accounted.startCompaction (moves : system.Step .startCompaction after) :
    Accounted contents after := by
  obtain ⟨guard, moved⟩ := ite_none_right_eq_some.mp moves
  cases moved
  have notOpened : system.phase ≠ .opened := by simp [guard.1]
  have live : system.Live := by simp [Live, guard.1]
  have started : system.writer ≠ .notStarted := by
    intro unstarted
    rcases (holds.unstarted unstarted).2 notOpened with closed | byTree
    · rw [guard.2.1] at closed
      cases closed
    · rw [guard.2.2] at byTree
      cases byTree
  exact
    { holds with
      atEnd := fun opened _ => holds.atEnd opened live
      early := by simp [LogSystem.Early]
      finishing := fun finishing =>
        absurd (.inr (.inr guard.1)) (holds.finishing finishing).1
      unstarted := fun unstarted => absurd unstarted started
      writerOpen := fun _ _ => ⟨guard.2.2, guard.2.1⟩
      opened := nofun
      compacting := fun _ => started
      closing := nofun
      joined := .inr ⟨nofun, nofun⟩
      joinedOnly := fun joined => absurd live (holds.joinedOnly joined) }

theorem Accounted.finishCompaction {drains : Bool} (ended : system.writer = .ended)
    (empty : system.manager.entries = [])
    (prepared : (∃ more, manager.entries = system.manager.entries ++ more) ∧
      (drains = false → manager.entries = system.manager.entries) ∧
      (drains = true → manager.file.position = manager.file.contents.length)) :
    Accounted contents (system.finishCompaction manager drains) := by
  have added := holds.added
  rw [ended, empty] at added
  unfold LogSystem.finishCompaction
  have writer : (if system.writer = .notStarted then WriterThread.notStarted else .joined) =
      .joined := by
    rw [ended]
    rfl
  rw [writer]
  cases drains with
  | true =>
    rw [if_pos rfl]
    apply accounted_of_late (.inl rfl) (.inr rfl) rfl
    · rw [added, empty, length_nil, drop_zero, LogWrite.entries_append]
      change _ = _ ++ LogWrite.entries (manager.entries.map LogWrite.entry) ++ [] ++ []
      rw [LogWrite.entries_map_entry, append_nil, append_nil]
      simp [WriterThread.batch]
    · rw [LogManager.writeEntriesToDiskNoLock_atEnd (prepared.2.2 rfl), LogWrite.applyAll_append]
      exact (LogWrite.applyAll_entries _ _).symm
  | false =>
    rw [if_neg Bool.false_ne_true]
    apply accounted_of_late (.inl rfl) (.inr rfl) ((prepared.2.1 rfl).trans empty)
    · rw [added, prepared.2.1 rfl, empty, LogWrite.entries_append]
      simp [WriterThread.batch, LogWrite.entries, LogWrite.entryBytes]
    · rw [LogWrite.applyAll_append]
      rfl

theorem Accounted.compact (moves : system.Step (.compact disk clock) after) :
    Accounted contents after := by
  unfold Step step at moves
  dsimp only at moves
  split at moves
  · rename_i guard
    have compacting := holds.compacting guard.1
    have ended : system.writer = .ended := guard.2.resolve_left compacting
    have empty : system.manager.entries = [] := (holds.finishing (by rw [ended]; rfl)).2
    split at moves
    · rename_i manager drains prepared
      cases moves
      exact holds.finishCompaction ended empty (LogManager.prepareCompaction_result prepared)
    · cases moves
    · cases moves
  · cases moves

theorem Accounted.closed {writer : WriterThread}
    (gone : (writer = .notStarted ∧ system.writer = .notStarted) ∨
      (writer = .joined ∧ system.writer.finishing = true ∧ system.writer.batch = []))
    (notOpen : manager.isOpen = false) (entries : manager.entries = system.manager.entries)
    (file : manager.file = system.manager.file) :
    Accounted contents { system with phase := .closed, manager, writer } := by
  have empty : manager.entries = [] := by
    rw [entries]
    rcases gone with ⟨_, unstarted⟩ | ⟨_, finishing, _⟩
    · exact (holds.unstarted unstarted).1
    · exact (holds.finishing finishing).2
  have batch : system.writer.batch = writer.batch := by
    rcases gone with ⟨unstarted, same⟩ | ⟨joined, _, nothing⟩
    · rw [unstarted, same]
    · rw [joined, nothing]
      rfl
  apply accounted_of_late (.inr rfl) (gone.imp (fun unstarted => ⟨unstarted.1, notOpen⟩) And.left)
    empty
  · rw [← batch, entries]
    exact holds.added
  · rw [file]
    exact holds.contents

end

theorem Accounted.writer_gone (holds : Accounted contents system)
    (idle : system.writer ≠ .notStarted → ¬ system.Live) :
    (system.writer = .notStarted ∧ system.writer = .notStarted) ∨
      (system.writer = .joined ∧ system.writer.finishing = true ∧ system.writer.batch = []) := by
  by_cases unstarted : system.writer = .notStarted
  · exact .inl ⟨unstarted, unstarted⟩
  rcases holds.joined with (quiet | joined) | live
  · exact absurd quiet unstarted
  · exact .inr ⟨joined, by rw [joined]; rfl, by rw [joined]; rfl⟩
  · exact absurd live (idle unstarted)

theorem Accounted.closeLog (holds : Accounted contents system)
    (moves : system.Step .closeLog after) : Accounted contents after := by
  unfold Step step at moves
  dsimp only at moves
  split at moves
  · split at moves
    · rename_i notOpen
      cases moves
      rw [Bool.not_eq_true'] at notOpen
      refine holds.closed (holds.writer_gone (fun started live => ?_)) notOpen rfl rfl
      rw [(holds.writerOpen started live).2] at notOpen
      cases notOpen
    · split at moves
      · rename_i joins
        cases moves
        rw [Bool.and_eq_true, Bool.not_eq_true'] at joins
        have started : system.writer ≠ .notStarted := by
          intro unstarted
          rw [unstarted] at joins
          cases joins.2
        have live := holds.live_of_joinable joins.2
        have late : ¬ LogSystem.Early { system with
            phase := .closing, manager := { system.manager with finished := true } } := by
          simp [LogSystem.Early]
        exact
          { holds with
            atEnd := fun opened _ => holds.atEnd opened live
            early := fun early => absurd early late
            finishing := fun finishing => ⟨late, (holds.finishing finishing).2⟩
            unstarted := fun unstarted => absurd unstarted started
            writerOpen := fun _ _ => holds.writerOpen started live
            opened := nofun
            compacting := nofun
            closing := fun _ => ⟨started, rfl⟩
            joined := .inr ⟨nofun, nofun⟩
            joinedOnly := fun joined => absurd live (holds.joinedOnly joined) }
      · rename_i stays
        cases moves
        refine holds.closed (holds.writer_gone (fun started live => ?_)) rfl rfl rfl
        rw [(holds.writerOpen started live).1, joinable_of_started started
          (fun joined => holds.joinedOnly joined live)] at stays
        exact absurd rfl stays
  · cases moves

theorem Accounted.join (holds : Accounted contents system) (moves : system.Step .join after) :
    Accounted contents after := by
  obtain ⟨guard, moved⟩ := ite_none_right_eq_some.mp moves
  cases moved
  have ends : system.writer.finishing = true ∧ system.writer.batch = [] := by
    rw [guard.2]
    exact ⟨rfl, rfl⟩
  exact holds.closed (.inr ⟨rfl, ends⟩) rfl rfl rfl

def roundsLeft : WriterThread → Nat
  | .holding _ false => 3
  | .waiting => 2
  | .holding _ true => 1
  | .ended => 0
  | .notStarted => 0
  | .joined => 0

theorem Accounted.closing_progress (holds : Accounted contents system)
    (closing : system.phase = .closing) :
    (∃ action after, system.Step action after) ∧
      ∀ action after, system.Step action after → after.phase = .closed ∨
        (after.phase = .closing ∧ roundsLeft after.writer < roundsLeft system.writer) := by
  rcases holds.closing closing with ⟨started, finished⟩
  have live : system.Live := by simp [Live, closing]
  constructor
  · cases writer : system.writer with
    | notStarted => exact absurd writer started
    | joined => exact absurd live (holds.joinedOnly writer)
    | waiting => exact ⟨.wakeWriter, _, if_pos writer⟩
    | holding batch ends =>
      exact ⟨.writeBatch, _, by simp only [Step, step, writer]; rfl⟩
    | ended => exact ⟨.join, _, if_pos ⟨closing, writer⟩⟩
  · intro action after moves
    unfold Step step at moves
    cases action with
    | wakeWriter =>
      dsimp only at moves
      split at moves
      · rename_i waiting
        cases moves
        refine .inr ⟨closing, ?_⟩
        rw [waiting, finished]
        exact (by decide : 1 < 2)
      · cases moves
    | writeBatch =>
      dsimp only at moves
      split at moves
      · rename_i batch ends writer
        cases moves
        refine .inr ⟨closing, ?_⟩
        rw [writer]
        cases ends with
        | false => exact (by decide : 2 < 3)
        | true => exact (by decide : 0 < 1)
      · cases moves
    | join =>
      dsimp only at moves
      split at moves
      · cases moves
        exact .inl rfl
      · cases moves
    | _ => simp [closing] at moves

/-! ### Runs -/

/-- The state behind `parseAndMatch`: an invalid log is closed, any other is open at its end. -/
structure JustParsed (system : LogSystem) : Prop where
  phase : system.phase = .opened
  writer : system.writer = .notStarted
  added : system.added = []
  writes : system.writes = []
  entries : system.manager.entries = []
  finished : system.manager.finished = false
  headerWritten : system.manager.headerWritten = false
  status : (system.manager.isOpen = true ∧
      system.manager.file.position = system.manager.file.contents.length ∧
      (system.manager.resumptionStatus = .ok ∨
        system.manager.resumptionStatus = .inconsistentDirectory)) ∨
    (system.manager.isOpen = false ∧ system.manager.resumptionStatus = .invalidLog)

/-- What a parse of the log from its start leaves. -/
theorem justParsed_of_parse {manager fixed : LogManager} {disk : Directory} {clock : Nat → Nat}
    {contents : List Byte} {code : ErrorCode} {chunks : List FileChunksInfo}
    (isOpen : manager.isOpen = true) (fromStart : manager.file = { contents })
    (fresh : manager.entries = [] ∧ manager.finished = false ∧ manager.headerWritten = false)
    (parsed : manager.parseVerifyAndFix disk clock false = .ok (code, fixed, chunks)) :
    JustParsed { manager := fixed } := by
  obtain ⟨entries, running, unheaded⟩ := fresh
  unfold LogManager.parseVerifyAndFix at parsed
  rw [isOpen, fromStart] at parsed
  obtain ⟨result, outcome, same⟩ := Except.map_eq_ok_iff.mp parsed
  cases same
  by_cases invalid : result.status = .invalidLog
  · rw [if_pos invalid]
    exact ⟨rfl, rfl, rfl, rfl, entries, running, unheaded, .inr ⟨rfl, invalid⟩⟩
  obtain ⟨_, collected, _, _, replayed, finished⟩ := LogParser.parseLog_valid outcome invalid
  have atEnd : result.file.position = result.file.contents.length := by
    rw [finished, if_neg (show ¬ (manager.parser false).parseOnly = true from nofun)]
    unfold LogParser.finishParse
    rw [LogParser.writeFileInvalidationEntries_atEnd]
    split <;> rfl
  have standing := (LogParser.rounds_of_replay replayed invalid).status_eq (.inl rfl)
  rw [if_neg invalid]
  split
  · have written (bytes : List Byte) :
        (result.file.write bytes).position = (result.file.write bytes).contents.length := by
      rw [LogManager.write_file_atEnd atEnd]
    exact ⟨rfl, rfl, rfl, rfl, entries, running, unheaded, .inl ⟨rfl, written _, .inr rfl⟩⟩
  · exact ⟨rfl, rfl, rfl, rfl, entries, running, unheaded, .inl ⟨rfl, atEnd, standing⟩⟩

theorem JustParsed.accounted (parsed : system.JustParsed) :
    Accounted system.manager.file.contents system where
  added := by
    rw [parsed.added, parsed.writes, parsed.writer, parsed.entries]
    rfl
  contents := by
    rw [parsed.writes]
    rfl
  atEnd := fun isOpen _ => by
    rcases parsed.status with ⟨_, atEnd, _⟩ | ⟨closed, _⟩
    · exact atEnd
    · rw [isOpen] at closed
      cases closed
  early := fun _ => ⟨parsed.finished, fun written => by
    rw [parsed.headerWritten] at written
    cases written⟩
  finishing := fun finishing => by
    rw [parsed.writer] at finishing
    cases finishing
  unstarted := fun _ => ⟨parsed.entries, fun started => absurd parsed.phase started⟩
  writerOpen := fun started => absurd parsed.writer started
  opened := fun _ => by
    refine ⟨parsed.writer, ?_⟩
    rcases parsed.status with ⟨isOpen, _, status⟩ | closed
    · exact .inl ⟨isOpen, status⟩
    · exact .inr closed
  compacting := fun phase => by
    rw [parsed.phase] at phase
    cases phase
  closing := fun phase => by
    rw [parsed.phase] at phase
    cases phase
  joined := .inl (.inl parsed.writer)
  joinedOnly := fun joined => by
    rw [parsed.writer] at joined
    cases joined

/-- The writer thread is not started while the directory counts as inconsistent. -/
def startsConsistent (system : LogSystem) : LogAction → Bool
  | .startThread => system.manager.resumptionStatus != .inconsistentDirectory
  | _ => true

theorem Accounted.step (holds : Accounted contents system) {action : LogAction}
    (consistent : system.startsConsistent action = true) (moves : system.Step action after) :
    Accounted contents after := by
  cases action with
  | startThread => exact holds.startThread (by simpa [startsConsistent] using consistent) moves
  | verifySenderIp ip timestamp =>
    obtain ⟨phase, moved⟩ := ite_none_right_eq_some.mp moves
    cases moved
    exact holds.withControl (system.manager.verifySenderIp_writes ip timestamp) (.inl phase)
  | invalidateDirectory timestamp =>
    obtain ⟨phase, moved⟩ := ite_none_right_eq_some.mp moves
    cases moved
    exact holds.withControl (system.manager.invalidateDirectory_writes timestamp) (.inr phase)
  | writeLogHeader timestamp =>
    obtain ⟨phase, moved⟩ := ite_none_right_eq_some.mp moves
    cases moved
    exact holds.withControl (system.manager.writeLogHeader_writes timestamp) (.inr phase)
  | addEntry entry => exact holds.addEntry moves
  | wakeWriter => exact holds.wakeWriter moves
  | writeBatch => exact holds.writeBatch moves
  | startCompaction => exact holds.startCompaction moves
  | compact disk clock => exact holds.compact moves
  | closeLog => exact holds.closeLog moves
  | join => exact holds.join moves

theorem JustParsed.accounted_path {start : LogSystem} (parsed : start.JustParsed)
    (path : Path Step (fun system action => system.startsConsistent action = true) start system) :
    Accounted start.manager.file.contents system :=
  path.invariant (Accounted start.manager.file.contents) parsed.accounted
    (fun _ _ _ holds consistent moves => holds.step consistent moves)

/-- What the four calls that add entries are given. -/
def aboutFile : LogEntry → Bool
  | .header _ => false
  | .directoryInvalidation _ => false
  | .fileCreation _ => true
  | .blockWrite _ => true
  | .fileInvalidation _ => true
  | .fileResize _ => true

/-- Start the writer under a consistent status. Then, in every interleaving, the buffer takes
each entry that is added behind the header; `closeLog` returns; and when it has, the entries in
the file are those that were added, each once and in their order. -/
theorem entries_durable {start system : LogSystem} (parsed : start.JustParsed)
    (path : Path Step (fun system action => system.startsConsistent action = true) start system) :
    (system.phase = .serving → system.manager.headerWritten = true →
      ∀ entry : LogEntry, aboutFile entry = true → system.manager.accepts entry = true) ∧
    (system.phase = .closing → (∃ action after, system.Step action after) ∧
      ∀ action after, system.Step action after → after.phase = .closed ∨
        (after.phase = .closing ∧ roundsLeft after.writer < roundsLeft system.writer)) ∧
    (system.phase = .closed → system.manager.file.contents =
        LogWrite.applyAll start.manager.file.contents system.writes ∧
      LogWrite.entries system.writes = system.added) := by
  have holds := parsed.accounted_path path
  refine ⟨?_, holds.closing_progress, fun closed => ⟨holds.contents, ?_⟩⟩
  · intro serving written entry about
    have isOpen := (holds.early (.inr (.inr serving))).2 written
    cases entry with
    | header _ | directoryInvalidation _ => cases about
    | fileCreation _ | blockWrite _ | fileResize _ => simp [LogManager.accepts, isOpen, written]
    | fileInvalidation _ => simp [LogManager.accepts, isOpen]
  · have added := holds.added
    rcases holds.joined with (unstarted | joined) | live
    · rw [unstarted, (holds.unstarted unstarted).1] at added
      rw [added]
      simp [WriterThread.batch]
    · rw [joined, (holds.finishing (by rw [joined]; rfl)).2] at added
      rw [added]
      simp [WriterThread.batch]
    · exact absurd closed live.2

/-! ### Two sessions -/

theorem parse_sampleManager : (sampleManager []).parseVerifyAndFix (fun _ => none) id false =
    .ok (.ok, sampleManager [], []) :=
  rfl

def sampleEntry : LogEntry :=
  .fileCreation { timestamp := 2, fileName := [0x66], seqId := 0, fileSize := 10 }

def sampleActions : List LogAction :=
  [.startThread, .verifySenderIp [0x73] 1, .writeLogHeader 1, .addEntry sampleEntry, .wakeWriter,
    .addEntry sampleEntry, .writeBatch, .closeLog, .wakeWriter, .writeBatch, .join]

theorem entries_durable_sample : ∃ system : LogSystem, system.phase = .closed ∧
      LogWrite.entries system.writes = system.added ∧
      system.added = [sampleEntry.bytes, sampleEntry.bytes] := by
  have computed : (runsUnder step startsConsistent { manager := sampleManager [] }
      sampleActions).any (fun system => decide (system.phase = .closed ∧
        system.added = [sampleEntry.bytes, sampleEntry.bytes])) = true := by
    decide +kernel
  rcases any_eq_true _ _ |>.mp computed with ⟨system, run, holds⟩
  rw [decide_eq_true_eq] at holds
  have parsed := justParsed_of_parse rfl rfl ⟨rfl, rfl, rfl⟩ parse_sampleManager
  have durable := entries_durable parsed
    (path_of_runsUnder (fun _ _ _ => id) (fun _ _ => id) .refl run)
  exact ⟨system, holds.1, (durable.2.2 holds.1).2, holds.2⟩

def otherTransferLog : List Byte :=
  (LogEntry.header { timestamp := 1, recoveryId := [0x71], senderIp := [0x73], config := 3 }).bytes

/-- The log is parsed as an inconsistent directory, so no writer is started; the header makes the
directory consistent again, an entry is added, and when the log is closed it is in no file. -/
theorem entry_lost_without_writer :
    ∃ manager, (sampleManager otherTransferLog).parseVerifyAndFix (fun _ => none) id false =
        .ok (.inconsistentDirectory, manager, []) ∧
      ∃ system, Path Step (fun _ _ => True) { manager } system ∧ system.phase = .closed ∧
        system.manager.headerWritten = true ∧ system.manager.resumptionStatus = .ok ∧
        system.added = [sampleEntry.bytes] ∧ LogWrite.entries system.writes = [] := by
  have parses : (match (sampleManager otherTransferLog).parseVerifyAndFix (fun _ => none) id
      false with
      | .ok (code, manager, chunks) => decide (code = .inconsistentDirectory ∧ chunks = []) &&
          (runsUnder step (fun _ _ => true) { manager }
            [.startThread, .verifySenderIp [0x73] 1, .writeLogHeader 1, .addEntry sampleEntry,
              .closeLog]).any (fun system => decide (system.phase = .closed ∧
                system.manager.headerWritten = true ∧ system.manager.resumptionStatus = .ok ∧
                system.added = [sampleEntry.bytes] ∧ LogWrite.entries system.writes = []))
      | .error _ => false) = true := by
    decide +kernel
  cases result : (sampleManager otherTransferLog).parseVerifyAndFix (fun _ => none) id false with
  | error check =>
    rw [result] at parses
    cases parses
  | ok triple =>
    obtain ⟨code, manager, chunks⟩ := triple
    rw [result] at parses
    rw [Bool.and_eq_true, decide_eq_true_eq] at parses
    rcases parses with ⟨⟨rfl, rfl⟩, computed⟩
    rcases any_eq_true _ _ |>.mp computed with ⟨system, run, holds⟩
    rw [decide_eq_true_eq] at holds
    exact ⟨manager, rfl, system, path_of_run run, holds⟩

end LogSystem

end Wdt
