/-
Who allocates a file. The first thread that opens a file for a block creates it and
sets its size; the other threads wait for the end of that on the condition variable of
the first one. One step here is what a thread does under one lock, or between two.
-/

import Wdt.FileCreator
import Wdt.Lib.Trace
import Wdt.Lib.Transition

namespace Wdt

open Trace Transition Function List FileStatus

/-! ### Threads in `openForBlocks` -/

/-- `notifyingLocked`, `checking` and `aboutToWait` are the phases with the allocation mutex;
the allocator is the index of the thread whose condition variable is waited for. -/
inductive OpenPhase
  | idle
  | lookingUp (block : BlockDetails)
  | starting (block : BlockDetails)
  | allocating (block : BlockDetails)
  | recording (seqId : Nat) (ok : Bool)
  | notifying (seqId : Nat)
  | notifyingLocked (seqId : Nat)
  | entering (allocator : Nat) (block : BlockDetails)
  | checking (allocator : Nat) (block : BlockDetails)
  | aboutToWait (allocator : Nat) (block : BlockDetails)
  | waiting (allocator : Nat) (block : BlockDetails)
  | woken (allocator : Nat) (block : BlockDetails)
  | opening (block : BlockDetails)
  deriving DecidableEq

/-- What is recorded of a run: `openAndSetSize` starts and ends, `notify_all` is called,
`waitForAllocationFinish` returns, and `openExistingFile` is called for a block. -/
inductive CreatorEvent (numThreads : Nat)
  | started (thread : Fin numThreads) (seqId : Nat)
  | finished (thread : Fin numThreads) (seqId : Nat) (ok : Bool)
  | notified (thread : Fin numThreads) (seqId : Nat)
  | waited (thread : Fin numThreads) (allocator seqId : Nat) (ok : Bool)
  | opened (thread : Fin numThreads) (seqId : Nat)
  deriving DecidableEq

structure FileCreator (numThreads : Nat) where
  fileStatusMap : Nat → Option FileStatus := fun _ => none
  allocationMutex : Option (Fin numThreads) := none
  phases : Fin numThreads → OpenPhase := fun _ => .idle
  trace : List (CreatorEvent numThreads) := []
  checkFailed : Bool := false

def FileStatus.ofOutcome (ok : Bool) : FileStatus := if ok then .allocated else .failed

namespace FileCreator

variable {numThreads : Nat} (creator : FileCreator numThreads) (i : Fin numThreads)

def moveTo (phase : OpenPhase) : FileCreator numThreads :=
  { creator with phases := Function.update creator.phases i phase }

def log (event : CreatorEvent numThreads) : FileCreator numThreads :=
  { creator with trace := creator.trace ++ [event] }

def setStatus (seqId : Nat) (status : FileStatus) : FileCreator numThreads :=
  { creator with
    fileStatusMap := Function.update creator.fileStatusMap seqId (some status) }

def setMutex (owner : Option (Fin numThreads)) : FileCreator numThreads :=
  { creator with allocationMutex := owner }

def failCheck : FileCreator numThreads :=
  { creator with checkFailed := true }

def lookUp (block : BlockDetails) : FileCreator numThreads :=
  match creator.fileStatusMap block.seqId with
  | none =>
    if block.allocationStatus = .existsCorrectSize then
      (creator.setStatus block.seqId .allocated).moveTo i (.opening block)
    else (creator.setStatus block.seqId (.inProgress i.val)).moveTo i (.starting block)
  | some .failed => creator.moveTo i .idle
  | some .allocated => creator.moveTo i (.opening block)
  | some (.inProgress allocator) => creator.moveTo i (.entering allocator block)

def finishAllocation (options : WdtOptions) (creator : FileCreator numThreads)
    (i : Fin numThreads) (block : BlockDetails) (answers : OpenAnswers) : FileCreator numThreads :=
  match (openAndSetSize options answers block :
      Outcome WdtCheck Unit (Bool × List FileEvent)) with
  | .go (ok, _) =>
    (creator.log (.finished i block.seqId ok)).moveTo i (.recording block.seqId ok)
  | _ => creator.failCheck

def record (seqId : Nat) (ok : Bool) : FileCreator numThreads :=
  match creator.fileStatusMap seqId with
  | none => creator.failCheck
  | some _ => (creator.setStatus seqId (.ofOutcome ok)).moveTo i (.notifying seqId)

def wake (allocator : Nat) : OpenPhase → OpenPhase
  | .waiting index block =>
    if index = allocator then .woken index block else .waiting index block
  | phase => phase

/-- The thread then gives the mutex back and leaves `openForFirstBlock`. -/
def notifyAll (seqId : Nat) : FileCreator numThreads :=
  (({ creator with phases := fun j => wake i.val (creator.phases j) }.log
    (.notified i seqId)).setMutex none).moveTo i .idle

/-- One round of `waitForAllocationFinish`, with both locks. -/
def check (allocator : Nat) (block : BlockDetails) : FileCreator numThreads :=
  match creator.fileStatusMap block.seqId with
  | none => creator.failCheck
  | some .allocated =>
    ((creator.log (.waited i allocator block.seqId true)).setMutex none).moveTo i (.opening block)
  | some .failed =>
    ((creator.log (.waited i allocator block.seqId false)).setMutex none).moveTo i .idle
  | some (.inProgress _) => creator.moveTo i (.aboutToWait allocator block)

def openForBlock (block : BlockDetails) (answers : OpenAnswers) : FileCreator numThreads :=
  match (openExistingFile answers block.fileName :
      Outcome WdtCheck Unit (Bool × List FileEvent)) with
  | .go _ => (creator.log (.opened i block.seqId)).moveTo i .idle
  | _ => creator.failCheck

def proceed (options : WdtOptions) (creator : FileCreator numThreads) (i : Fin numThreads)
    (answers : OpenAnswers) : Option (FileCreator numThreads) :=
  match creator.phases i with
  | .idle => none
  | .lookingUp block => some (creator.lookUp i block)
  | .starting block =>
    some ((creator.log (.started i block.seqId)).moveTo i (.allocating block))
  | .allocating block => some (creator.finishAllocation options i block answers)
  | .recording seqId ok => some (creator.record i seqId ok)
  | .notifying seqId =>
    if creator.allocationMutex = none then
      some ((creator.setMutex (some i)).moveTo i (.notifyingLocked seqId))
    else none
  | .notifyingLocked seqId => some (creator.notifyAll i seqId)
  | .entering allocator block | .woken allocator block =>
    if creator.allocationMutex = none then
      some ((creator.setMutex (some i)).moveTo i (.checking allocator block))
    else none
  | .checking allocator block => some (creator.check i allocator block)
  | .aboutToWait allocator block =>
    some ((creator.setMutex none).moveTo i (.waiting allocator block))
  | .waiting _ _ => none
  | .opening block => some (creator.openForBlock i block answers)

end FileCreator

inductive CreatorStep (numThreads : Nat)
  /-- `openForBlocks` is called -/
  | call (i : Fin numThreads) (block : BlockDetails)
  | proceed (i : Fin numThreads) (answers : OpenAnswers)
  | spuriousWake (i : Fin numThreads)

namespace FileCreator

variable {numThreads : Nat}

/-- A failed check ends the process. The block of a file that is to be deleted does not touch
the map. -/
def next (options : WdtOptions) (creator : FileCreator numThreads)
    (step : CreatorStep numThreads) : Option (FileCreator numThreads) :=
  if creator.checkFailed then none
  else
    match step with
    | .call i block =>
      if creator.phases i = .idle then
        if block.allocationStatus = .toBeDeleted then some creator
        else some (creator.moveTo i (.lookingUp block))
      else none
    | .proceed i answers => creator.proceed options i answers
    | .spuriousWake i =>
      match creator.phases i with
      | .waiting allocator block => some (creator.moveTo i (.woken allocator block))
      | _ => none

/-- Reached within a session, from an empty map, by some interleaving. -/
def Reaches (options : WdtOptions) (creator : FileCreator numThreads) : Prop :=
  Path (fun before step after => next options before step = some after) (fun _ _ => True) {} creator

end FileCreator

namespace CreatorEvent

variable {numThreads : Nat}

def thread : CreatorEvent numThreads → Fin numThreads
  | started i _ | finished i _ _ | notified i _ | waited i _ _ _ | opened i _ => i

def seqId : CreatorEvent numThreads → Nat
  | started _ seqId | finished _ seqId _ | notified _ seqId | waited _ _ seqId _
  | opened _ seqId => seqId

def startsOn (file : Nat) : CreatorEvent numThreads → Bool
  | started _ seqId => seqId == file
  | _ => false

def Allocates : CreatorEvent numThreads → Prop
  | started _ _ | finished _ _ _ => True
  | _ => False

/-- What the events before an event have to be. -/
def RestsOn (before : List (CreatorEvent numThreads)) : CreatorEvent numThreads → Prop
  | started _ seqId => ∀ j, started j seqId ∉ before ∧ opened j seqId ∉ before
  | finished i seqId _ => started i seqId ∈ before ∧ ∀ ok, finished i seqId ok ∉ before
  | notified i seqId => ∃ ok, finished i seqId ok ∈ before
  | waited _ allocator seqId ok => ∃ i, i.val = allocator ∧ finished i seqId ok ∈ before
  | opened _ seqId => ∀ i, started i seqId ∈ before → finished i seqId true ∈ before

end CreatorEvent

variable {ok ok' : Bool}

section Events

open CreatorEvent

variable {numThreads : Nat} {trace : List (CreatorEvent numThreads)} {i j : Fin numThreads}
  {seqId : Nat}

section

variable (justified : Justified RestsOn trace)

include justified

theorem started_of_finished (done : finished i seqId ok ∈ trace) : started i seqId ∈ trace := by
  obtain ⟨before, after, split⟩ := append_of_mem done
  have rests : RestsOn before (finished i seqId ok) := justified _ _ _ split
  rw [split]
  exact mem_append_left _ rests.1

theorem finished_of_notified (told : notified i seqId ∈ trace) :
    ∃ ok, finished i seqId ok ∈ trace := by
  obtain ⟨before, after, split⟩ := append_of_mem told
  obtain ⟨ok, done⟩ : RestsOn before (notified i seqId) := justified _ _ _ split
  refine ⟨ok, ?_⟩
  rw [split]
  exact mem_append_left _ done

theorem started_thread_unique (first : started i seqId ∈ trace)
    (second : started j seqId ∈ trace) : i = j := by
  have same := justified.unique first second (fun _ rests => (rests j).1)
    (fun _ rests => (rests i).1)
  cases same
  rfl

theorem startsOn_countP_le_one (seqId : Nat) : trace.countP (startsOn seqId) ≤ 1 := by
  refine justified.countP_le_one (startsOn seqId)
    (fun before event rests starts other present => ?_)
  cases event with
  | started i file =>
    have sameFile : file = seqId := eq_of_beq starts
    subst sameFile
    cases other with
    | started j otherFile =>
      refine beq_eq_false_iff_ne.mpr ?_
      rintro rfl
      exact (rests j).1 present
    | _ => rfl
  | _ => cases starts

theorem finished_outcome_unique (first : finished i seqId ok ∈ trace)
    (second : finished i seqId ok' ∈ trace) : ok = ok' := by
  have same := justified.unique first second (fun _ rests => rests.2 ok')
    (fun _ rests => rests.2 ok)
  cases same
  rfl

end

end Events

namespace OpenPhase

/-- From the entry in the map to the notification. -/
def Owes (seqId : Nat) : OpenPhase → Prop
  | starting block | allocating block => block.seqId = seqId
  | recording owed _ | notifying owed | notifyingLocked owed => owed = seqId
  | _ => False

def HoldsMutex : OpenPhase → Prop
  | notifyingLocked _ | checking _ _ | aboutToWait _ _ => True
  | _ => False

/-- The thread has seen that the allocation is in progress and does not look again before it
is woken. -/
def SleepsOn (allocator seqId : Nat) : OpenPhase → Prop
  | aboutToWait index block | waiting index block => index = allocator ∧ block.seqId = seqId
  | _ => False

end OpenPhase

namespace FileCreator

open CreatorEvent OpenPhase

variable {numThreads : Nat} (creator : FileCreator numThreads)

/-- The allocator is at work, or its outcome is in the map. -/
def AllocatedBy (allocator seqId : Nat) : Prop :=
  ∃ a : Fin numThreads, a.val = allocator ∧
    (creator.fileStatusMap seqId = some (.inProgress allocator) ∨
      ∃ ok, creator.fileStatusMap seqId = some (.ofOutcome ok) ∧
        finished a seqId ok ∈ creator.trace)

/-- The notification of an allocator is still to come. -/
def Awaited (allocator seqId : Nat) : Prop :=
  ∃ a : Fin numThreads, a.val = allocator ∧ (creator.phases a).Owes seqId

def ThreadOk (i : Fin numThreads) : OpenPhase → Prop
  | .idle | .lookingUp _ => True
  | .starting block =>
    creator.fileStatusMap block.seqId = some (.inProgress i.val) ∧
      ∀ event ∈ creator.trace, event.seqId ≠ block.seqId
  | .allocating block =>
    creator.fileStatusMap block.seqId = some (.inProgress i.val) ∧
      started i block.seqId ∈ creator.trace ∧
        ∀ ok, finished i block.seqId ok ∉ creator.trace
  | .recording seqId ok =>
    creator.fileStatusMap seqId = some (.inProgress i.val) ∧ finished i seqId ok ∈ creator.trace
  | .notifying seqId | .notifyingLocked seqId =>
    (∃ ok, creator.fileStatusMap seqId = some (.ofOutcome ok) ∧
      finished i seqId ok ∈ creator.trace) ∧ notified i seqId ∉ creator.trace
  | .entering allocator block | .checking allocator block | .woken allocator block =>
    creator.AllocatedBy allocator block.seqId
  | .aboutToWait allocator block | .waiting allocator block =>
    creator.AllocatedBy allocator block.seqId ∧ creator.Awaited allocator block.seqId
  | .opening block => creator.fileStatusMap block.seqId = some .allocated

structure Sound (creator : FileCreator numThreads) : Prop where
  absent : ∀ seqId, creator.fileStatusMap seqId = none →
    ∀ event ∈ creator.trace, event.seqId ≠ seqId
  awaited : ∀ seqId allocator, creator.fileStatusMap seqId = some (.inProgress allocator) →
    creator.Awaited allocator seqId
  exclusive : ∀ event ∈ creator.trace, ∀ allocator,
    creator.fileStatusMap event.seqId = some (.inProgress allocator) →
      event.thread.val = allocator ∧ event.Allocates
  ended : ∀ seqId ok, creator.fileStatusMap seqId = some (.ofOutcome ok) →
    ∀ i, started i seqId ∈ creator.trace → finished i seqId ok ∈ creator.trace
  threads : ∀ i, creator.ThreadOk i (creator.phases i)
  mutex : ∀ i, (creator.phases i).HoldsMutex → creator.allocationMutex = some i
  justified : Justified RestsOn creator.trace

end FileCreator

/-! ### What a step of one thread leaves to the others -/

theorem FileStatus.ofOutcome_ne_inProgress (ok : Bool) (allocator : Nat) :
    ofOutcome ok ≠ .inProgress allocator := by
  cases ok with
  | false | true => exact nofun

theorem FileStatus.ofOutcome_injective (same : ofOutcome ok = .ofOutcome ok') : ok = ok' := by
  cases ok <;> cases ok' <;> first | rfl | cases same

namespace FileCreator

open CreatorEvent OpenPhase

variable {numThreads : Nat} {creator after : FileCreator numThreads} {i j : Fin numThreads}
  {phase : OpenPhase}

/-- An entry stays, but for the outcome that another thread records in the place of its own
index; the new events are not those of this thread, and only the allocator of a file has
events of it while it is at work. -/
structure Frames (creator after : FileCreator numThreads) (j : Fin numThreads) : Prop where
  entries : ∀ seqId status, creator.fileStatusMap seqId = some status →
    after.fileStatusMap seqId = some status ∨ ∃ i ok, i ≠ j ∧ status = .inProgress i.val ∧
        after.fileStatusMap seqId = some (.ofOutcome ok) ∧ finished i seqId ok ∈ after.trace
  keeps : ∀ event ∈ creator.trace, event ∈ after.trace
  others : ∀ event ∈ after.trace, event ∈ creator.trace ∨ event.thread ≠ j ∧
    ∀ allocator, creator.fileStatusMap event.seqId = some (.inProgress allocator) →
      event.thread.val = allocator

variable {seqId : Nat}

section

variable (frames : Frames creator after j)

include frames

theorem Frames.own (own : creator.fileStatusMap seqId = some (.inProgress j.val)) :
    after.fileStatusMap seqId = some (.inProgress j.val) := by
  rcases frames.entries seqId _ own with kept | ⟨i, ok, different, same, _⟩
  · exact kept
  · injection same with sameIndex
    exact absurd (Fin.ext sameIndex).symm different

theorem Frames.outcome {seqId : Nat} {ok : Bool}
    (final : creator.fileStatusMap seqId = some (.ofOutcome ok)) :
    after.fileStatusMap seqId = some (.ofOutcome ok) := by
  rcases frames.entries seqId _ final with kept | ⟨i, ok', _, same, _⟩
  · exact kept
  · exact absurd same (ofOutcome_ne_inProgress ok i.val)

theorem Frames.not_mem {event : CreatorEvent numThreads}
    (own : event.thread = j) (absent : event ∉ creator.trace) : event ∉ after.trace := by
  intro present
  rcases frames.others event present with before | ⟨different, _⟩
  · exact absent before
  · exact different own

theorem Frames.allocatedBy {allocator : Nat}
    (allocated : creator.AllocatedBy allocator seqId) : after.AllocatedBy allocator seqId := by
  obtain ⟨a, index, atWork | ⟨ok, final, done⟩⟩ := allocated
  · rcases frames.entries seqId _ atWork with kept | ⟨i, ok, _, same, final, done⟩
    · exact ⟨a, index, .inl kept⟩
    · injection same with sameIndex
      exact ⟨i, sameIndex.symm, .inr ⟨ok, final, done⟩⟩
  · exact ⟨a, index, .inr ⟨ok, frames.outcome final, frames.keeps _ done⟩⟩

theorem Frames.threadOk (known : creator.ThreadOk j phase)
    (sleeps : ∀ allocator seqId, phase.SleepsOn allocator seqId →
      creator.Awaited allocator seqId → after.Awaited allocator seqId) :
    after.ThreadOk j phase := by
  cases phase with
  | idle => trivial
  | lookingUp block => trivial
  | starting block =>
    refine ⟨frames.own known.1, fun event present sameFile => ?_⟩
    rcases frames.others event present with before | ⟨different, owner⟩
    · exact known.2 event before sameFile
    · rw [sameFile] at owner
      exact different (Fin.ext (owner j.val known.1))
  | allocating block =>
    exact ⟨frames.own known.1, frames.keeps _ known.2.1,
      fun ok => frames.not_mem rfl (known.2.2 ok)⟩
  | recording seqId ok => exact ⟨frames.own known.1, frames.keeps _ known.2⟩
  | notifying seqId | notifyingLocked seqId =>
    obtain ⟨⟨ok, final, done⟩, silent⟩ := known
    exact ⟨⟨ok, frames.outcome final, frames.keeps _ done⟩, frames.not_mem rfl silent⟩
  | entering allocator block | checking allocator block | woken allocator block =>
    exact frames.allocatedBy known
  | aboutToWait allocator block | waiting allocator block =>
    exact ⟨frames.allocatedBy known.1, sleeps _ _ ⟨rfl, rfl⟩ known.2⟩
  | opening block => exact @Frames.outcome _ _ _ _ frames block.seqId true known

end

theorem Awaited.moveTo {allocator : Nat} (awaited : creator.Awaited allocator seqId)
    {old : OpenPhase} (before : creator.phases i = old) (owes : old.Owes seqId → phase.Owes seqId) :
    (creator.moveTo i phase).Awaited allocator seqId := by
  obtain ⟨a, index, owed⟩ := awaited
  refine ⟨a, index, ?_⟩
  by_cases same : a = i
  · subst same
    change (update creator.phases a phase a).Owes seqId
    rw [update_self]
    rw [before] at owed
    exact owes owed
  · change (update creator.phases i phase a).Owes seqId
    rw [update_of_ne same]
    exact owed

theorem forall_phases_moveTo (holds : Fin numThreads → OpenPhase → Prop)
    (moved : holds i phase) (rest : ∀ j, j ≠ i → holds j (creator.phases j)) :
    ∀ j, holds j ((creator.moveTo i phase).phases j) := by
  intro j
  change holds j (update creator.phases i phase j)
  by_cases same : j = i
  · subst same
    rw [update_self]
    exact moved
  · rw [update_of_ne same]
    exact rest j same

end FileCreator

/-! ### One step -/

namespace FileCreator

open CreatorEvent OpenPhase

variable {numThreads : Nat} {creator : FileCreator numThreads} {i : Fin numThreads}
  {old phase : OpenPhase} {owner : Option (Fin numThreads)} {event : CreatorEvent numThreads}
  {seqId : Nat}

theorem setStatus_cases {status : FileStatus} {other : Nat} {entry : Option FileStatus}
    (found : (creator.setStatus seqId status).fileStatusMap other = entry) :
    (other = seqId ∧ entry = some status) ∨
      (other ≠ seqId ∧ creator.fileStatusMap other = entry) := by
  change update creator.fileStatusMap seqId (some status) other = entry at found
  by_cases same : other = seqId
  · subst same
    rw [update_self] at found
    exact .inl ⟨rfl, found.symm⟩
  · rw [update_of_ne same] at found
    exact .inr ⟨same, found⟩

section

variable (sound : creator.Sound)

include sound

theorem Sound.mutex_kept (before : creator.phases i = old)
    (held : phase.HoldsMutex → old.HoldsMutex) :
    ∀ j, ((creator.moveTo i phase).phases j).HoldsMutex → creator.allocationMutex = some j :=
  forall_phases_moveTo (fun j phase => phase.HoldsMutex → creator.allocationMutex = some j)
    (fun holds => sound.mutex i (before ▸ held holds)) (fun j _ => sound.mutex j)

theorem Sound.mutex_taken (free : creator.allocationMutex = none) :
    ∀ j, ((creator.moveTo i phase).phases j).HoldsMutex → some i = some j := by
  refine forall_phases_moveTo (fun j phase => phase.HoldsMutex → some i = some j)
    (fun _ => rfl) (fun j _ holds => ?_)
  have held := sound.mutex j holds
  rw [free] at held
  cases held

theorem Sound.mutex_released (before : creator.phases i = old)
    (held : old.HoldsMutex) (gone : ¬ phase.HoldsMutex) :
    ∀ j, ((creator.moveTo i phase).phases j).HoldsMutex → none = some j := by
  refine forall_phases_moveTo (fun j phase => phase.HoldsMutex → none = some j)
    (fun holds => absurd holds gone) (fun j different holds => ?_)
  have same : some i = some j := (sound.mutex i (before ▸ held)).symm.trans (sound.mutex j holds)
  injection same with sameThread
  exact absurd sameThread.symm different

theorem Sound.shift (before : creator.phases i = old)
    (known : creator.ThreadOk i phase) (owes : ∀ seqId, old.Owes seqId → phase.Owes seqId)
    (mutex : ∀ j, ((creator.moveTo i phase).phases j).HoldsMutex → owner = some j) :
    ((creator.setMutex owner).moveTo i phase).Sound := by
  have frames : ∀ j, Frames creator ((creator.setMutex owner).moveTo i phase) j := fun j =>
    { entries := fun _ _ found => .inl found
      keeps := fun _ => id
      others := fun _ present => .inl present }
  have stays : ∀ allocator seqId, creator.Awaited allocator seqId →
      ((creator.setMutex owner).moveTo i phase).Awaited allocator seqId :=
    fun _ seqId awaited => awaited.moveTo before (owes seqId)
  exact
    { sound with
      awaited := fun seqId allocator atWork =>
        stays allocator seqId (sound.awaited seqId allocator atWork)
      threads := forall_phases_moveTo (ThreadOk _)
        ((frames i).threadOk known (fun _ _ _ awaited => stays _ _ awaited))
        (fun j _ => (frames j).threadOk (sound.threads j) (fun _ _ _ awaited => stays _ _ awaited))
      mutex }

section

variable {status : FileStatus} (rests : RestsOn creator.trace event)
  (entry : creator.fileStatusMap event.seqId = some status)
  (atWork : ∀ allocator, status = .inProgress allocator →
    event.thread.val = allocator ∧ event.Allocates)
  (late : ∀ ok, status = .ofOutcome ok → ∀ j, event ≠ started j event.seqId)

include rests entry atWork late

theorem Sound.concat {next : FileCreator numThreads}
    (map : next.fileStatusMap = creator.fileStatusMap)
    (trace : next.trace = creator.trace ++ [event])
    (awaited : ∀ seqId allocator, creator.fileStatusMap seqId = some (.inProgress allocator) →
      next.Awaited allocator seqId)
    (threads : (∀ j, j ≠ event.thread → Frames creator next j) →
      ∀ j, next.ThreadOk j (next.phases j))
    (mutex : ∀ j, (next.phases j).HoldsMutex → next.allocationMutex = some j) : next.Sound := by
  have split : ∀ {other}, other ∈ next.trace → other ∈ creator.trace ∨ other = event :=
    fun present => (mem_append.mp (trace ▸ present)).imp_right mem_singleton.mp
  have keeps : ∀ other ∈ creator.trace, other ∈ next.trace :=
    fun _ present => trace ▸ mem_append_left _ present
  have frames : ∀ j, j ≠ event.thread → Frames creator next j := fun j different =>
    { entries := fun _ _ found => .inl (map ▸ found)
      keeps := keeps
      others := fun other present => by
        rcases split present with earlier | same
        · exact .inl earlier
        subst same
        refine .inr ⟨different.symm, fun allocator found => ?_⟩
        injection entry.symm.trans found with isStatus
        exact (atWork allocator isStatus).1 }
  exact
    { absent := fun seqId none other present => by
        rw [map] at none
        rcases split present with earlier | same
        · exact sound.absent seqId none other earlier
        · rintro rfl
          subst same
          cases entry.symm.trans none
      awaited := fun seqId allocator found => awaited seqId allocator (map ▸ found)
      exclusive := fun other present allocator found => by
        rw [map] at found
        rcases split present with earlier | same
        · exact sound.exclusive other earlier allocator found
        · subst same
          injection entry.symm.trans found with isStatus
          exact atWork allocator isStatus
      ended := fun seqId ok found j present => by
        rw [map] at found
        rcases split present with earlier | same
        · exact keeps _ (sound.ended seqId ok found j earlier)
        · subst same
          injection entry.symm.trans found with isStatus
          exact absurd rfl (late ok isStatus j)
      threads := threads frames
      mutex := mutex
      justified := trace ▸ sound.justified.concat rests }

theorem Sound.logged (before : creator.phases i = old) (own : event.thread = i)
    (known : (((creator.log event).setMutex owner).moveTo i phase).ThreadOk i phase)
    (owes : ∀ seqId, old.Owes seqId → phase.Owes seqId)
    (mutex : ∀ j, ((creator.moveTo i phase).phases j).HoldsMutex → owner = some j) :
    (((creator.log event).setMutex owner).moveTo i phase).Sound := by
  have stays : ∀ allocator seqId, creator.Awaited allocator seqId →
      (((creator.log event).setMutex owner).moveTo i phase).Awaited allocator seqId :=
    fun _ seqId awaited => awaited.moveTo before (owes seqId)
  refine sound.concat rests entry atWork late rfl rfl
    (fun seqId allocator found => stays allocator seqId (sound.awaited seqId allocator found))
    (fun frames => ?_) mutex
  rw [own] at frames
  exact forall_phases_moveTo (ThreadOk _) known (fun j different =>
    (frames j different).threadOk (sound.threads j) (fun _ _ _ awaited => stays _ _ awaited))

end

theorem Sound.failCheck : creator.failCheck.Sound := { sound with }

end

variable {block : BlockDetails}

theorem Sound.setStatus (sound : creator.Sound) {status : FileStatus}
    (before : creator.phases i = old)
    (frames : ∀ j, j ≠ i → Frames creator ((creator.setStatus seqId status).moveTo i phase) j)
    (owes : ∀ other, old.Owes other → phase.Owes other)
    (atWork : ∀ allocator, status = .inProgress allocator → i.val = allocator ∧ phase.Owes seqId)
    (exclusive : ∀ event ∈ creator.trace, event.seqId = seqId →
      ∀ allocator, status ≠ .inProgress allocator)
    (ended : ∀ ok, status = .ofOutcome ok → ∀ j, started j seqId ∈ creator.trace →
      finished j seqId ok ∈ creator.trace)
    (known : ((creator.setStatus seqId status).moveTo i phase).ThreadOk i phase)
    (held : phase.HoldsMutex → old.HoldsMutex) :
    ((creator.setStatus seqId status).moveTo i phase).Sound := by
  have stays : ∀ allocator other, creator.Awaited allocator other →
      ((creator.setStatus seqId status).moveTo i phase).Awaited allocator other :=
    fun _ other awaited => awaited.moveTo before (owes other)
  exact
    { absent := fun other found => by
        rcases setStatus_cases found with ⟨_, same⟩ | ⟨_, found⟩
        · cases same
        · exact sound.absent other found
      awaited := fun other allocator found => by
        rcases setStatus_cases found with ⟨rfl, same⟩ | ⟨_, found⟩
        · obtain ⟨index, owed⟩ := atWork allocator (Option.some.inj same).symm
          refine ⟨i, index, ?_⟩
          change (update creator.phases i phase i).Owes other
          rw [update_self]
          exact owed
        · exact stays allocator other (sound.awaited other allocator found)
      exclusive := fun event present allocator found => by
        rcases setStatus_cases found with ⟨sameFile, same⟩ | ⟨_, found⟩
        · exact absurd (Option.some.inj same).symm (exclusive event present sameFile allocator)
        · exact sound.exclusive event present allocator found
      ended := fun other ok found j present => by
        rcases setStatus_cases found with ⟨rfl, same⟩ | ⟨_, found⟩
        · exact ended ok (Option.some.inj same).symm j present
        · exact sound.ended other ok found j present
      threads := forall_phases_moveTo (ThreadOk _) known (fun j different =>
        (frames j different).threadOk (sound.threads j) (fun _ _ _ awaited => stays _ _ awaited))
      mutex := sound.mutex_kept before held
      justified := sound.justified }

theorem Sound.entered (sound : creator.Sound) {status : FileStatus}
    (none : creator.fileStatusMap block.seqId = none) (before : creator.phases i = .lookingUp block)
    (atWork : ∀ allocator, status = .inProgress allocator →
      i.val = allocator ∧ phase.Owes block.seqId)
    (known : ((creator.setStatus block.seqId status).moveTo i phase).ThreadOk i phase)
    (free : ¬ phase.HoldsMutex) :
    ((creator.setStatus block.seqId status).moveTo i phase).Sound := by
  have absent := sound.absent block.seqId none
  refine sound.setStatus before (fun j _ => ?_) nofun atWork
    (fun event present sameFile => absurd sameFile (absent event present))
    (fun _ _ _ present => absurd rfl (absent _ present)) known (fun holds => absurd holds free)
  exact
    { entries := fun other status found => by
        refine .inl (Eq.trans (update_of_ne ?_ _ _) found)
        rintro rfl
        cases none.symm.trans found
      keeps := fun _ => id
      others := fun _ present => .inl present }

theorem Sound.recorded (sound : creator.Sound) (before : creator.phases i = .recording seqId ok) :
    ((creator.setStatus seqId (.ofOutcome ok)).moveTo i (.notifying seqId)).Sound := by
  obtain ⟨atWork, done⟩ : creator.ThreadOk i (.recording seqId ok) := before ▸ sound.threads i
  have silent : notified i seqId ∉ creator.trace := fun present =>
    (sound.exclusive _ present i.val atWork).2
  have settled := ofOutcome_ne_inProgress ok
  refine sound.setStatus before (fun j different => ?_) (fun _ => id)
    (fun allocator same => absurd same (settled allocator)) (fun _ _ _ => settled)
    (fun ok' same j present => ?_) ⟨⟨ok, update_self _ _ _, done⟩, silent⟩ nofun
  · exact
      { entries := fun other status found => by
          by_cases sameFile : other = seqId
          · subst sameFile
            injection found.symm.trans atWork with isStatus
            exact .inr ⟨i, ok, different.symm, isStatus, update_self _ _ _, done⟩
          · exact .inl (Eq.trans (update_of_ne sameFile _ _) found)
        keeps := fun _ => id
        others := fun _ present => .inl present }
  · have sameThread : j = i := Fin.ext (sound.exclusive _ present i.val atWork).1
    rw [sameThread, ← ofOutcome_injective same]
    exact done

theorem wake_cases (allocator : Nat) (phase : OpenPhase) :
    (∃ block, phase = .waiting allocator block ∧ wake allocator phase = .woken allocator block) ∨
      (wake allocator phase = phase ∧ ∀ block, phase ≠ .waiting allocator block) := by
  cases phase with
  | waiting index block =>
    by_cases same : index = allocator
    · subst same
      exact .inl ⟨block, rfl, if_pos rfl⟩
    · refine .inr ⟨if_neg same, fun other isWaiting => ?_⟩
      injection isWaiting with sameIndex
      exact same sameIndex
  | _ => exact .inr ⟨rfl, nofun⟩

variable {allocator : Nat}

theorem wake_owes : (wake allocator phase).Owes seqId ↔ phase.Owes seqId := by
  rcases wake_cases allocator phase with ⟨block, wasWaiting, isWoken⟩ | ⟨same, _⟩
  · rw [isWoken, wasWaiting]
    rfl
  · rw [same]

theorem wake_holdsMutex : (wake allocator phase).HoldsMutex ↔ phase.HoldsMutex := by
  rcases wake_cases allocator phase with ⟨block, wasWaiting, isWoken⟩ | ⟨same, _⟩
  · rw [isWoken, wasWaiting]
    rfl
  · rw [same]

/-- The thread that notifies has the mutex, so nobody is between the look at the map and the
wait; those who wait for it are woken, and the others wait for somebody else. -/
theorem Sound.notifyAll (sound : creator.Sound)
    (phase : creator.phases i = .notifyingLocked seqId) : (creator.notifyAll i seqId).Sound := by
  obtain ⟨⟨ok, final, done⟩, silent⟩ : creator.ThreadOk i (.notifyingLocked seqId) :=
    phase ▸ sound.threads i
  have held : creator.allocationMutex = some i := sound.mutex i (by rw [phase]; trivial)
  have notAtWork : ∀ allocator, creator.fileStatusMap seqId ≠ some (.inProgress allocator) := by
    intro allocator atWork
    injection final.symm.trans atWork with isOutcome
    exact ofOutcome_ne_inProgress ok allocator isOutcome
  have stays : ∀ (a : Fin numThreads) other, a ≠ i → (creator.phases a).Owes other →
      ((creator.notifyAll i seqId).phases a).Owes other := by
    intro a other different owed
    change (update (fun j => wake i.val (creator.phases j)) i .idle a).Owes other
    rw [update_of_ne different]
    exact wake_owes.mpr owed
  refine @Sound.concat _ creator (notified i seqId) sound _ ⟨ok, done⟩ final
    (fun allocator isInProgress => ?_) nofun (creator.notifyAll i seqId) rfl rfl
    (fun other allocator atWork => ?_)
    (fun frames => forall_phases_moveTo (ThreadOk _) trivial (fun j different => ?_)) ?_
  · exact absurd isInProgress (ofOutcome_ne_inProgress ok allocator)
  · obtain ⟨a, index, owed⟩ := sound.awaited other allocator atWork
    refine ⟨a, index, stays a other ?_ owed⟩
    rintro rfl
    rw [phase] at owed
    cases owed
    exact notAtWork allocator atWork
  · change ThreadOk _ j (wake i.val (creator.phases j))
    have known := sound.threads j
    rcases wake_cases i.val (creator.phases j) with ⟨block, wasWaiting, isWoken⟩ | ⟨same, awake⟩
    · rw [wasWaiting] at known
      rw [isWoken]
      exact (frames j different).allocatedBy known.1
    rw [same]
    refine (frames j different).threadOk known (fun allocator other sleeps awaited => ?_)
    obtain ⟨a, index, owed⟩ := awaited
    refine ⟨a, index, stays a other ?_ owed⟩
    rintro rfl
    cases asleep : creator.phases j with
    | waiting index' block =>
      rw [asleep] at sleeps
      exact awake block (by rw [asleep, sleeps.1, index])
    | aboutToWait index' block =>
      have heldToo := sound.mutex j (by rw [asleep]; trivial)
      injection held.symm.trans heldToo with sameThread
      exact different sameThread.symm
    | _ => rw [asleep] at sleeps; exact sleeps
  · refine forall_phases_moveTo (fun j phase => phase.HoldsMutex → none = some j) nofun
      (fun j different holds => ?_)
    have heldToo := sound.mutex j (wake_holdsMutex.mp holds)
    injection held.symm.trans heldToo with sameThread
    exact absurd sameThread.symm different

/-! ### Every step keeps the invariant -/

section

variable (sound : creator.Sound)

include sound

theorem Sound.moveTo (before : creator.phases i = old)
    (known : creator.ThreadOk i phase) (owes : ∀ seqId, ¬ old.Owes seqId)
    (held : phase.HoldsMutex → old.HoldsMutex) : (creator.moveTo i phase).Sound :=
  @Sound.shift _ creator i old phase creator.allocationMutex sound before known
    (fun seqId owed => absurd owed (owes seqId)) (sound.mutex_kept before held)

theorem Sound.logged_at_work (before : creator.phases i = old)
    (own : event.thread = i) (allocates : event.Allocates) (rests : RestsOn creator.trace event)
    (atWork : creator.fileStatusMap event.seqId = some (.inProgress i.val))
    (known : ((creator.log event).moveTo i phase).ThreadOk i phase)
    (owes : ∀ seqId, old.Owes seqId → phase.Owes seqId) (free : ¬ phase.HoldsMutex) :
    ((creator.log event).moveTo i phase).Sound := by
  refine @Sound.logged _ creator i old phase creator.allocationMutex event sound _ rests atWork
    ?_ ?_ before own known owes (sound.mutex_kept before (fun holds => absurd holds free))
  · intro allocator same
    injection same with sameIndex
    rw [own]
    exact ⟨sameIndex, allocates⟩
  · intro ok isOutcome
    exact absurd isOutcome.symm (ofOutcome_ne_inProgress ok i.val)

theorem Sound.logged_settled (before : creator.phases i = old)
    (own : event.thread = i) (late : ¬ event.Allocates) (rests : RestsOn creator.trace event)
    {ok : Bool} (final : creator.fileStatusMap event.seqId = some (.ofOutcome ok))
    (known : (((creator.log event).setMutex owner).moveTo i phase).ThreadOk i phase)
    (owes : ∀ seqId, ¬ old.Owes seqId)
    (mutex : ∀ j, ((creator.moveTo i phase).phases j).HoldsMutex → owner = some j) :
    (((creator.log event).setMutex owner).moveTo i phase).Sound := by
  refine sound.logged rests final ?_ ?_ before own known
    (fun seqId owed => absurd owed (owes seqId)) mutex
  · intro allocator isInProgress
    exact absurd isInProgress (ofOutcome_ne_inProgress ok allocator)
  · intro _ _ j isStarted
    rw [isStarted] at late
    exact late trivial

theorem Sound.lookUp (before : creator.phases i = .lookingUp block) :
    (creator.lookUp i block).Sound := by
  unfold FileCreator.lookUp
  split
  · rename_i none
    split
    · exact sound.entered none before nofun (update_self _ _ _) nofun
    · exact sound.entered none before (fun _ same => ⟨inProgress.inj same, rfl⟩)
        ⟨update_self _ _ _, sound.absent block.seqId none⟩ nofun
  · exact sound.moveTo before trivial (fun _ => id) nofun
  · rename_i allocated
    exact sound.moveTo before allocated (fun _ => id) nofun
  · rename_i allocator atWork
    obtain ⟨a, index, _⟩ := sound.awaited _ _ atWork
    exact sound.moveTo before ⟨a, index, .inl atWork⟩ (fun _ => id) nofun

theorem Sound.start (before : creator.phases i = .starting block) :
    ((creator.log (.started i block.seqId)).moveTo i (.allocating block)).Sound := by
  obtain ⟨atWork, untouched⟩ : creator.ThreadOk i (.starting block) := before ▸ sound.threads i
  have unfinished : ∀ ok, finished i block.seqId ok ∉
      creator.trace ++ [started i block.seqId] := by
    intro ok present
    rcases mem_append.mp present with earlier | last
    · exact untouched _ earlier rfl
    · cases mem_singleton.mp last
  refine sound.logged_at_work before rfl trivial (fun j => ⟨?_, ?_⟩) atWork
    ⟨atWork, mem_append_right _ mem_cons_self, unfinished⟩ (fun _ => id) nofun
  · exact fun present => untouched _ present rfl
  · exact fun present => untouched _ present rfl

theorem Sound.finishAllocation
    (before : creator.phases i = .allocating block) (options : WdtOptions) (answers : OpenAnswers) :
    (creator.finishAllocation options i block answers).Sound := by
  obtain ⟨atWork, begun, unfinished⟩ : creator.ThreadOk i (.allocating block) :=
    before ▸ sound.threads i
  unfold FileCreator.finishAllocation
  split
  · exact sound.logged_at_work before rfl trivial ⟨begun, unfinished⟩ atWork
      ⟨atWork, mem_append_right _ mem_cons_self⟩ (fun _ => id) nofun
  · exact sound.failCheck

theorem Sound.record
    (before : creator.phases i = .recording seqId ok) : (creator.record i seqId ok).Sound := by
  unfold FileCreator.record
  split
  · exact sound.failCheck
  · exact sound.recorded before

end

theorem AllocatedBy.outcome {allocator : Nat} (allocated : creator.AllocatedBy allocator seqId)
    {ok : Bool} (final : creator.fileStatusMap seqId = some (.ofOutcome ok)) :
    ∃ a : Fin numThreads, a.val = allocator ∧ finished a seqId ok ∈ creator.trace := by
  obtain ⟨a, index, atWork | ⟨ok', final', done⟩⟩ := allocated
  · injection final.symm.trans atWork with isOutcome
    exact absurd isOutcome (ofOutcome_ne_inProgress ok allocator)
  · injection final.symm.trans final' with sameOutcome
    rw [ofOutcome_injective sameOutcome]
    exact ⟨a, index, done⟩

theorem AllocatedBy.index {index : Nat} (allocated : creator.AllocatedBy allocator seqId)
    (atWork : creator.fileStatusMap seqId = some (.inProgress index)) : index = allocator := by
  obtain ⟨a, _, atWork' | ⟨ok, final, _⟩⟩ := allocated
  · injection atWork.symm.trans atWork' with same
    injection same
  · injection final.symm.trans atWork with isOutcome
    exact absurd isOutcome (ofOutcome_ne_inProgress ok index)

section

variable (sound : creator.Sound)

include sound

theorem Sound.waitEnded (before : creator.phases i = .checking allocator block) (ok : Bool)
    (final : creator.fileStatusMap block.seqId = some (.ofOutcome ok))
    (known : (((creator.log (.waited i allocator block.seqId ok)).setMutex none).moveTo i
      phase).ThreadOk i phase) (free : ¬ phase.HoldsMutex) :
    (((creator.log (.waited i allocator block.seqId ok)).setMutex none).moveTo i phase).Sound := by
  have allocated : creator.ThreadOk i (.checking allocator block) := before ▸ sound.threads i
  exact sound.logged_settled before rfl (fun allocates => allocates)
    (AllocatedBy.outcome allocated final) final known (fun _ => id)
    (sound.mutex_released before trivial free)

theorem Sound.check (before : creator.phases i = .checking allocator block) :
    (creator.check i allocator block).Sound := by
  have allocatedBy : creator.ThreadOk i (.checking allocator block) := before ▸ sound.threads i
  unfold FileCreator.check
  split
  · exact sound.failCheck
  · rename_i allocated
    exact sound.waitEnded before true allocated allocated nofun
  · rename_i failed
    exact sound.waitEnded before false failed trivial nofun
  · rename_i index atWork
    have awaited := sound.awaited _ _ atWork
    rw [AllocatedBy.index allocatedBy atWork] at awaited
    exact sound.moveTo before ⟨allocatedBy, awaited⟩ (fun _ => id) (fun _ => trivial)

theorem Sound.openForBlock (before : creator.phases i = .opening block) (answers : OpenAnswers) :
    (creator.openForBlock i block answers).Sound := by
  have allocated : creator.ThreadOk i (.opening block) := before ▸ sound.threads i
  unfold FileCreator.openForBlock
  split
  · exact @Sound.logged_settled _ creator i _ _ creator.allocationMutex (.opened i block.seqId)
      sound before rfl (fun allocates => allocates) (sound.ended block.seqId true allocated) true
      allocated trivial (fun _ => id) (sound.mutex_kept before nofun)
  · exact sound.failCheck

theorem Sound.lock {after : FileCreator numThreads}
    (moves : (if creator.allocationMutex = none then
      some ((creator.setMutex (some i)).moveTo i phase) else none) = some after)
    (before : creator.phases i = old) (known : creator.ThreadOk i phase)
    (owes : ∀ seqId, old.Owes seqId → phase.Owes seqId) : after.Sound := by
  obtain ⟨free, moved⟩ := Option.ite_none_right_eq_some.mp moves
  cases moved
  exact sound.shift before known owes (sound.mutex_taken free)

theorem Sound.proceed {options : WdtOptions} {answers : OpenAnswers}
    {after : FileCreator numThreads}
    (moves : creator.proceed options i answers = some after) : after.Sound := by
  have known := sound.threads i
  unfold FileCreator.proceed at moves
  cases before : creator.phases i <;> rw [before] at moves known
  case notifying => exact sound.lock moves before known (fun _ => id)
  case entering | woken => exact sound.lock moves before known nofun
  all_goals cases moves
  case lookingUp => exact sound.lookUp before
  case starting => exact sound.start before
  case allocating => exact sound.finishAllocation before options answers
  case recording => exact sound.record before
  case notifyingLocked => exact sound.notifyAll before
  case checking => exact sound.check before
  case aboutToWait =>
    exact sound.shift before known nofun (sound.mutex_released before trivial nofun)
  case opening => exact sound.openForBlock before answers

theorem Sound.next {options : WdtOptions} {step : CreatorStep numThreads}
    {after : FileCreator numThreads} (moves : next options creator step = some after) :
    after.Sound := by
  unfold FileCreator.next at moves
  split at moves
  · cases moves
  cases step with
  | call i block =>
    obtain ⟨idle, moved⟩ := Option.ite_none_right_eq_some.mp moves
    split at moved <;> cases moved
    · exact sound
    · exact sound.moveTo idle trivial (fun _ => id) nofun
  | proceed i answers => exact sound.proceed moves
  | spuriousWake i =>
    have known := sound.threads i
    dsimp only at moves
    split at moves
    · rename_i allocator block before
      cases moves
      rw [before] at known
      exact sound.moveTo before known.1 (fun _ => id) nofun
    · cases moves

end

theorem sound_of_reaches {options : WdtOptions} (reached : Reaches options creator) :
    creator.Sound := by
  refine Path.invariant Sound reached ?_ (fun _ _ _ sound _ moves => sound.next moves)
  exact
    { absent := nofun
      awaited := nofun
      exclusive := nofun
      ended := nofun
      threads := fun _ => trivial
      mutex := nofun
      justified := justified_nil }

/-! ### Exactly one allocation -/

theorem Sound.not_notified (sound : creator.Sound) (awaited : creator.Awaited allocator seqId)
    (j : Fin numThreads) : notified j seqId ∉ creator.trace := by
  intro told
  obtain ⟨a, _, owed⟩ := awaited
  have known := sound.threads a
  have atWork_silent : creator.fileStatusMap seqId ≠ some (.inProgress a.val) := fun atWork =>
    (sound.exclusive _ told a.val atWork).2
  have own_silent : (∃ ok, finished a seqId ok ∈ creator.trace) →
      notified a seqId ∉ creator.trace → False := by
    rintro ⟨ok, done⟩ silent
    obtain ⟨ok', doneToo⟩ := finished_of_notified sound.justified told
    have same := started_thread_unique sound.justified
      (started_of_finished sound.justified done) (started_of_finished sound.justified doneToo)
    rw [same] at silent
    exact silent told
  cases before : creator.phases a <;> rw [before] at known owed <;> cases owed
  case starting | allocating | recording => exact atWork_silent known.1
  case notifying | notifyingLocked =>
    obtain ⟨⟨ok, _, done⟩, silent⟩ := known
    exact own_silent ⟨ok, done⟩ silent

theorem Sound.awaited_of_sleeps (sound : creator.Sound)
    (asleep : (creator.phases i).SleepsOn allocator seqId) : creator.Awaited allocator seqId := by
  have known := sound.threads i
  cases before : creator.phases i <;> rw [before] at known asleep <;> cases asleep
  case aboutToWait | waiting =>
    subst_vars
    exact known.2

theorem Sound.finished_unique (sound : creator.Sound) {j : Fin numThreads}
    (first : finished i seqId ok ∈ creator.trace)
    (second : finished j seqId ok' ∈ creator.trace) : i = j ∧ ok = ok' := by
  have sameThread := started_thread_unique sound.justified
    (started_of_finished sound.justified first) (started_of_finished sound.justified second)
  subst sameThread
  exact ⟨rfl, finished_outcome_unique sound.justified first second⟩

theorem Sound.finished_before_opened (sound : creator.Sound) {j : Fin numThreads}
    {before after : List (CreatorEvent numThreads)}
    (split : creator.trace = before ++ opened j seqId :: after)
    (begun : started i seqId ∈ creator.trace) : finished i seqId true ∈ before := by
  have rests : RestsOn before (opened j seqId) := sound.justified _ _ _ split
  apply rests i
  rw [split] at begun
  rcases mem_append.mp begun with earlier | later
  · exact earlier
  -- an allocation that starts behind the call would rest on a file nobody has opened
  have inAfter := (mem_cons.mp later).resolve_left nofun
  obtain ⟨middle, rest, splitAfter⟩ := append_of_mem inAfter
  have restsToo : RestsOn (before ++ opened j seqId :: middle) (started i seqId) := by
    apply sound.justified _ _ rest
    rw [split, splitAfter, append_assoc, cons_append]
  exact absurd (mem_append_right _ mem_cons_self) (restsToo j).2

/-- In every state that some interleaving of the calls reaches, `openAndSetSize` was started
once at most for each file; a file was opened for a block only behind the successful end of its
allocation; a wait ended with the one outcome of the thread waited for; and whoever sleeps has
the notification still before it. -/
theorem allocation_exactly_once {options : WdtOptions} (reached : Reaches options creator) :
    (∀ seqId, creator.trace.countP (startsOn seqId) ≤ 1) ∧
    (∀ before after j seqId, creator.trace = before ++ opened j seqId :: after →
      ∀ i, started i seqId ∈ creator.trace → finished i seqId true ∈ before) ∧
    (∀ before after j allocator seqId ok,
      creator.trace = before ++ waited j allocator seqId ok :: after →
        ∃ i, i.val = allocator ∧ finished i seqId ok ∈ before ∧
          ∀ i' ok', finished i' seqId ok' ∈ creator.trace → i' = i ∧ ok' = ok) ∧
    (∀ i allocator seqId, (creator.phases i).SleepsOn allocator seqId →
      creator.Awaited allocator seqId ∧ ∀ j, notified j seqId ∉ creator.trace) := by
  have sound := sound_of_reaches reached
  refine ⟨startsOn_countP_le_one sound.justified, ?_, ?_, ?_⟩
  · intro before after j seqId split i begun
    exact sound.finished_before_opened split begun
  · intro before after j allocator seqId ok split
    obtain ⟨i, index, done⟩ : RestsOn before (waited j allocator seqId ok) :=
      sound.justified _ _ _ split
    refine ⟨i, index, done, fun i' ok' doneToo => ?_⟩
    refine sound.finished_unique doneToo ?_
    rw [split]
    exact mem_append_left _ done
  · intro i allocator seqId asleep
    have awaited := sound.awaited_of_sleeps asleep
    exact ⟨awaited, sound.not_notified awaited⟩

/-- Thread 1 asks for the file while thread 0 allocates it, falls asleep, is woken by the
notification and opens the file. -/
def contendedRun : List (CreatorStep 2) :=
  let block : BlockDetails := { fileName := [0x61], seqId := 7, fileSize := 10 }
  [.call 0 block, .proceed 0 {}, .call 1 block, .proceed 1 {}, .proceed 0 {}, .proceed 1 {},
    .proceed 1 {}, .proceed 1 {}, .proceed 0 {}, .proceed 0 {}, .proceed 0 {}, .proceed 0 {},
    .proceed 1 {}, .proceed 1 {}, .proceed 1 {}]

theorem allocation_exactly_once_contended : ∃ creator : FileCreator 2, Reaches {} creator ∧
      creator.trace = [started 0 7, finished 0 7 true, notified 0 7, waited 1 0 7 true,
        opened 1 7] ∧
      creator.trace.countP (startsOn 7) ≤ 1 := by
  have computed : ((runsUnder (next {}) (fun _ _ => true) {} contendedRun).map
      fun creator => creator.trace) = some [started 0 7, finished 0 7 true, notified 0 7,
        waited 1 0 7 true, opened 1 7] := by
    decide +kernel
  obtain ⟨creator, ran, traced⟩ := Option.map_eq_some_iff.mp computed
  have reached : Reaches {} creator := path_of_run ran
  exact ⟨creator, reached, traced, (allocation_exactly_once reached).1 7⟩

/-! ### No deadlock -/

variable {options : WdtOptions}

theorem mutex_held (reached : Reaches options creator) :
    ∀ i, creator.allocationMutex = some i → (creator.phases i).HoldsMutex := by
  induction reached with
  | refl => nofun
  | next _ _ moves held =>
    intro i owns
    have own := held i
    unfold next proceed lookUp finishAllocation record notifyAll check openForBlock at moves
    -- only the thread that moves takes the mutex, and it gives it back with its last phase
    repeat' split at moves
    all_goals cases moves
    all_goals first
      | exact own owns
      | simp only [moveTo, setMutex, log, setStatus, update_apply] at owns ⊢
        grind [HoldsMutex]

/-- While a thread is in `openForBlocks`, some thread can go on, whatever the files answer: the
one with the mutex, one that is awake, or the allocator that a sleeping thread awaits. -/
theorem openForBlocks_never_deadlocks (reached : Reaches options creator)
    (running : creator.checkFailed = false) (busy : ∃ i, creator.phases i ≠ .idle)
    (answers : OpenAnswers) :
    ∃ j after, next options creator (.proceed j answers) = some after := by
  suffices moves : ∃ j, (creator.proceed options j answers).isSome = true by
    simpa [next, running, Option.isSome_iff_exists] using moves
  cases owner : creator.allocationMutex with
  | some j =>
    have holds := mutex_held reached j owner
    refine ⟨j, ?_⟩
    unfold proceed
    cases phase : creator.phases j <;> rw [phase] at holds <;> first | rfl | cases holds
  | none =>
    have free (j : Fin numThreads) (busy : creator.phases j ≠ .idle)
        (awake : ∀ allocator block, creator.phases j ≠ .waiting allocator block) :
        (creator.proceed options j answers).isSome = true := by
      unfold proceed
      grind
    obtain ⟨i, busy⟩ := busy
    by_cases asleep : ∃ allocator block, creator.phases i = .waiting allocator block
    · obtain ⟨allocator, block, phase⟩ := asleep
      have known := (sound_of_reaches reached).threads i
      rw [phase] at known
      obtain ⟨a, _, owes⟩ := known.2
      refine ⟨a, free a ?_ ?_⟩ <;> grind [Owes]
    · exact ⟨i, free i busy (by grind)⟩

theorem openForBlocks_never_deadlocks_asleep : ∃ creator : FileCreator 2,
    creator.phases 1 ≠ .idle ∧ ∃ j after, next {} creator (.proceed j {}) = some after := by
  have computed : ((runsUnder (next {}) (fun _ _ => true) {} (contendedRun.take 8)).map
      fun creator => (decide (creator.phases 1 ≠ .idle), creator.checkFailed)) =
        some (true, false) := by
    decide +kernel
  obtain ⟨creator, ran, seen⟩ := Option.map_eq_some_iff.mp computed
  obtain ⟨asleep, running⟩ := Prod.mk.inj seen
  have busy := of_decide_eq_true asleep
  exact ⟨creator, busy, openForBlocks_never_deadlocks (path_of_run ran) running ⟨1, busy⟩ {}⟩

end FileCreator

end Wdt
