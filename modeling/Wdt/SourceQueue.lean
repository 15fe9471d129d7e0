/-
Who owns the sources. They are created into the shared queue; a sender thread takes one
out, opens it, sends it and adds it to its history; a checkpoint, a late source or the
end of the transfer brings sources back. The queue has a lock and each history has its
own: one step here is what happens under one of them.
-/

import Wdt.ThreadTransferHistory
import Wdt.Lib.Ownership
import Wdt.Lib.Transition
import Mathlib.Algebra.BigOperators.Ring.Finset
import Mathlib.Algebra.Order.BigOperators.Group.Finset
import Mathlib.Tactic.Abel
import Mathlib.Tactic.DeriveFintype

open Ownership Transition

namespace Wdt

open List

/-- A source with the identity of its object, which it keeps when its range changes. -/
structure SourceObject where
  id : Nat
  source : ByteSource
  deriving DecidableEq

/-- The failed list of the source keeps the statistics of its sources only. -/
structure DirectorySourceQueue where
  sourceQueue : List SourceObject := []
  numBlocksDequeued : Int := 0
  failedSources : List SourceObject := []

/-- `none`: the check on the number of dequeued blocks ends the process. -/
def DirectorySourceQueue.returnToQueue (queue : DirectorySourceQueue) :
    List SourceObject → Option DirectorySourceQueue
  | [] => some queue
  | object :: rest =>
    if 0 < queue.numBlocksDequeued then
      returnToQueue
        { queue with
          sourceQueue := queue.sourceQueue ++ [object]
          numBlocksDequeued := queue.numBlocksDequeued - 1 } rest
    else none

theorem DirectorySourceQueue.returnToQueue_enough (queue : DirectorySourceQueue)
    (objects : List SourceObject) (enough : (objects.length : Int) ≤ queue.numBlocksDequeued) :
    queue.returnToQueue objects =
      some { queue with
        sourceQueue := queue.sourceQueue ++ objects
        numBlocksDequeued := queue.numBlocksDequeued - objects.length } := by
  induction objects generalizing queue with
  | nil =>
    rw [returnToQueue, append_nil, length_nil, Int.natCast_zero, Int.sub_zero]
  | cons object rest ih =>
    rw [length_cons] at enough
    rw [returnToQueue, if_pos (by omega), ih _ (by dsimp only; omega)]
    simp only [append_assoc, cons_append, nil_append, length_cons,
      Option.some.injEq, DirectorySourceQueue.mk.injEq, true_and, and_true]
    omega

/-! ### Histories of objects -/

namespace ThreadTransferHistory

theorem failSources_length (checkpoint : Checkpoint) (threadStats : TransferStats)
    (sources : List ByteSource) :
    (failSources checkpoint threadStats sources).1.length = sources.length := by
  fun_induction failSources checkpoint threadStats sources with
  | case1 => rfl
  | case2 => rfl
  | case3 threadStats source older _ failed afterOne result rest afterRest more ih =>
    rw [more] at ih
    rw [length_cons, length_cons, ih]

variable (thread : ThreadTransferHistory)

theorem addSource_kept (source : ByteSource) :
    (thread.addSource source).2.1.history.length =
      thread.history.length + (if (thread.addSource source).1 then 1 else 0) := by
  unfold addSource
  by_cases late : thread.globalCheckpoint = true
  · rw [if_pos late]
    rfl
  · rw [if_neg late]
    exact length_append

theorem addSource_returned (source : ByteSource) :
    (thread.addSource source).2.2.length = if (thread.addSource source).1 then 0 else 1 := by
  unfold addSource
  by_cases late : thread.globalCheckpoint = true
  · rw [if_pos late]
    rfl
  · rw [if_neg late]
    rfl

theorem setCheckpointAndReturnToQueue_lengths (checkpoint : Checkpoint) (globalCheckpoint : Bool) :
    (thread.setCheckpointAndReturnToQueue checkpoint globalCheckpoint).2.1.history.length +
      (thread.setCheckpointAndReturnToQueue checkpoint globalCheckpoint).2.2.length =
        thread.history.length := by
  unfold setCheckpointAndReturnToQueue
  by_cases rejected : thread.rejects checkpoint globalCheckpoint = true
  · rw [if_pos rejected]
    rfl
  · rw [if_neg rejected]
    rw [failSources_length, length_reverse, ← length_append, take_append_drop]

end ThreadTransferHistory

/-- The history of a thread with the identities of its sources, in the same order. -/
structure ObjectHistory where
  thread : ThreadTransferHistory := {}
  ids : List Nat := []
  counted : ids.length = thread.history.length := by rfl

namespace ObjectHistory

def addSource (history : ObjectHistory) (object : SourceObject) :
    ObjectHistory × List SourceObject :=
  let result := history.thread.addSource object.source
  ({ thread := result.2.1
     ids := history.ids ++ if result.1 then [object.id] else []
     counted := by
      rw [ThreadTransferHistory.addSource_kept, List.length_append, history.counted]
      split <;> rfl },
    List.zipWith SourceObject.mk [object.id] result.2.2)

/-- The sources leave from the back of the history, the most recent first. -/
def setCheckpointAndReturnToQueue (history : ObjectHistory) (checkpoint : Checkpoint)
    (globalCheckpoint : Bool) : ObjectHistory × List SourceObject :=
  let result := history.thread.setCheckpointAndReturnToQueue checkpoint globalCheckpoint
  ({ thread := result.2.1
     ids := history.ids.take result.2.1.history.length
     counted := by
      have lengths : result.2.1.history.length + result.2.2.length =
          history.thread.history.length :=
        history.thread.setCheckpointAndReturnToQueue_lengths checkpoint globalCheckpoint
      rw [List.length_take, history.counted]
      exact Nat.min_eq_left (by omega) },
    List.zipWith SourceObject.mk (history.ids.drop result.2.1.history.length).reverse result.2.2)

variable (history : ObjectHistory)

def setLocalCheckpoint (checkpoint : Checkpoint) : ObjectHistory × List SourceObject :=
  history.setCheckpointAndReturnToQueue checkpoint false

def setGlobalCheckpoint (checkpoint : Checkpoint) : ObjectHistory × List SourceObject :=
  history.setCheckpointAndReturnToQueue checkpoint true

def returnUnackedSourcesToQueue : ObjectHistory × List SourceObject :=
  history.setCheckpointAndReturnToQueue { numBlocks := history.thread.numAcknowledged } false

def markAllAcknowledged (history : ObjectHistory) : ObjectHistory :=
  { history with thread := history.thread.markAllAcknowledged }

def markNotInUse (history : ObjectHistory) : ObjectHistory :=
  { history with thread := history.thread.markNotInUse }

end ObjectHistory

theorem zipWith_mk_ids (ids : List Nat) (sources : List ByteSource)
    (same : ids.length = sources.length) :
    (List.zipWith SourceObject.mk ids sources).map SourceObject.id = ids := by
  induction ids generalizing sources with
  | nil => rfl
  | cons id ids ih =>
    cases sources with
    | nil => cases same
    | cons source sources =>
      rw [zipWith_cons_cons, map_cons, ih sources (Nat.succ.inj same)]

theorem ObjectHistory.addSource_conserves (history : ObjectHistory) (object : SourceObject) :
    (history.addSource object).1.ids ++ (history.addSource object).2.map SourceObject.id =
      history.ids ++ [object.id] := by
  have returned := history.thread.addSource_returned object.source
  unfold addSource
  dsimp only
  cases added : (history.thread.addSource object.source).1 with
  | true =>
    rw [added, if_pos rfl] at returned
    rw [if_pos rfl, eq_nil_of_length_eq_zero returned]
    exact append_nil _
  | false =>
    rw [added, if_neg Bool.false_ne_true] at returned
    rw [if_neg Bool.false_ne_true, append_nil, zipWith_mk_ids [object.id] _ returned.symm]

theorem ObjectHistory.setCheckpoint_conserves (history : ObjectHistory)
    (checkpoint : Checkpoint) (globalCheckpoint : Bool) :
    history.ids = (history.setCheckpointAndReturnToQueue checkpoint globalCheckpoint).1.ids ++
        ((history.setCheckpointAndReturnToQueue checkpoint globalCheckpoint).2.map
          SourceObject.id).reverse := by
  have lengths := history.thread.setCheckpointAndReturnToQueue_lengths checkpoint globalCheckpoint
  unfold setCheckpointAndReturnToQueue
  rw [zipWith_mk_ids, reverse_reverse, take_append_drop]
  rw [length_reverse, length_drop, history.counted]
  omega

/-! ### The system -/

/-- What a thread holds. `fetched`: taken from the queue and not yet known to open.
`opened`: handed out by the queue. `returning`: taken from a history, under its lock, and not
yet back in the queue. -/
inductive Hand
  | empty
  | fetched (object : SourceObject)
  | opened (object : SourceObject)
  | returning (objects : List SourceObject)
  deriving DecidableEq

namespace Hand

def objects : Hand → List SourceObject
  | empty => []
  | fetched object => [object]
  | opened object => [object]
  | returning objects => objects

def openedObjects : Hand → List SourceObject
  | empty => []
  | fetched _ => []
  | opened object => [object]
  | returning objects => objects

end Hand

structure SourceSystem (threads : Nat) where
  queue : DirectorySourceQueue := {}
  hands : Fin threads → Hand := fun _ => .empty
  histories : Fin threads → ObjectHistory := fun _ => {}
  /-- Objects are numbered in the order of their creation. -/
  created : Nat := 0

inductive SourceEvent (threads : Nat)
  | createIntoQueue (source : ByteSource)
  | fetch (thread : Fin threads) (index : Nat)
  | finishOpen (thread : Fin threads) (ok : Bool)
  | addSource (thread : Fin threads)
  | setLocalCheckpoint (thread : Fin threads) (checkpoint : Checkpoint)
  | setGlobalCheckpoint (thread owner : Fin threads) (checkpoint : Checkpoint)
  | returnUnackedSourcesToQueue (thread owner : Fin threads)
  | markAllAcknowledged (owner : Fin threads)
  | markNotInUse (owner : Fin threads)
  | returnToQueue (thread : Fin threads)

namespace SourceSystem

variable {threads : Nat} (system : SourceSystem threads)

def withHand (thread : Fin threads) (hand : Hand) : SourceSystem threads :=
  { system with hands := Function.update system.hands thread hand }

def withHistory (owner : Fin threads) (history : ObjectHistory) : SourceSystem threads :=
  { system with histories := Function.update system.histories owner history }

/-- A thread with an empty hand takes sources from a history. -/
def takeBack (thread owner : Fin threads)
    (result : ObjectHistory × List SourceObject) : Option (SourceSystem threads) :=
  match system.hands thread with
  | .empty => some ((system.withHistory owner result.1).withHand thread (.returning result.2))
  | _ => none

/-- The two critical sections of `getNextSource` are `fetch` and `finishOpen`. Any source of the
queue may be its top. -/
def step : SourceEvent threads → Option (SourceSystem threads)
  | .createIntoQueue source =>
    some { system with
      queue := { system.queue with
        sourceQueue := system.queue.sourceQueue ++ [⟨system.created, source⟩] }
      created := system.created + 1 }
  | .fetch thread index =>
    match system.hands thread, system.queue.sourceQueue[index]? with
    | .empty, some object =>
      some { system.withHand thread (.fetched object) with
        queue := { system.queue with
          sourceQueue := system.queue.sourceQueue.eraseIdx index } }
    | _, _ => none
  | .finishOpen thread ok =>
    match system.hands thread with
    | .fetched object =>
      if ok then
        some { system.withHand thread (.opened object) with
          queue := { system.queue with
            numBlocksDequeued := system.queue.numBlocksDequeued + 1 } }
      else
        some { system.withHand thread .empty with
          queue := { system.queue with
            failedSources := system.queue.failedSources ++ [object] } }
    | _ => none
  | .addSource thread =>
    match system.hands thread with
    | .opened object =>
      let result := (system.histories thread).addSource object
      some ((system.withHistory thread result.1).withHand thread (.returning result.2))
    | _ => none
  | .setLocalCheckpoint thread checkpoint =>
    system.takeBack thread thread ((system.histories thread).setLocalCheckpoint checkpoint)
  | .setGlobalCheckpoint thread owner checkpoint =>
    system.takeBack thread owner ((system.histories owner).setGlobalCheckpoint checkpoint)
  | .returnUnackedSourcesToQueue thread owner =>
    system.takeBack thread owner (system.histories owner).returnUnackedSourcesToQueue
  | .markAllAcknowledged owner =>
    some (system.withHistory owner (system.histories owner).markAllAcknowledged)
  | .markNotInUse owner =>
    some (system.withHistory owner (system.histories owner).markNotInUse)
  | .returnToQueue thread =>
    match system.hands thread with
    | .returning objects =>
      (system.queue.returnToQueue objects).map
        (fun queue => { system.withHand thread .empty with queue })
    | _ => none

def Step (event : SourceEvent threads) (after : SourceSystem threads) : Prop :=
  system.step event = some after

end SourceSystem

inductive SourcePlace (threads : Nat)
  | queue
  | hand (thread : Fin threads)
  | history (owner : Fin threads)
  | failed
  deriving DecidableEq, Fintype

namespace SourceSystem

variable {threads : Nat} {system after : SourceSystem threads} {thread : Fin threads} {hand : Hand}

def contents (system : SourceSystem threads) : SourcePlace threads → List Nat
  | .queue => system.queue.sourceQueue.map SourceObject.id
  | .hand thread => (system.hands thread).objects.map SourceObject.id
  | .history owner => (system.histories owner).ids
  | .failed => system.queue.failedSources.map SourceObject.id

def held (system : SourceSystem threads) (place : SourcePlace threads) : Multiset Nat :=
  system.contents place

def queueIds (queue : DirectorySourceQueue) : Multiset Nat :=
  (queue.sourceQueue.map SourceObject.id : Multiset Nat) + queue.failedSources.map SourceObject.id

def handIds (hand : Hand) : Multiset Nat :=
  hand.objects.map SourceObject.id

def historyIds (history : ObjectHistory) : Multiset Nat :=
  history.ids

/-- The dequeued blocks that are neither in hands nor in histories, with a minus sign. -/
def excess (queue : DirectorySourceQueue) : Int :=
  -queue.numBlocksDequeued

def openedCount (hand : Hand) : Int :=
  hand.openedObjects.length

def historyCount (history : ObjectHistory) : Int :=
  history.thread.history.length

/-- The queue, one hand and one history are replaced: every event but a creation does this. -/
def moved (system : SourceSystem threads) (thread owner : Fin threads)
    (queue : DirectorySourceQueue) (hand : Hand) (history : ObjectHistory) : SourceSystem threads :=
  { (system.withHistory owner history).withHand thread hand with queue }

theorem moved_hand (system : SourceSystem threads) (thread : Fin threads)
    (queue : DirectorySourceQueue) (hand : Hand) :
    system.moved thread thread queue hand (system.histories thread) =
      { system.withHand thread hand with queue } := by
  unfold moved withHistory
  rw [Function.update_eq_self]

variable {owner : Fin threads} {queue : DirectorySourceQueue} {history : ObjectHistory}

section Census

variable {M : Type*} [AddCommMonoid M] (ofQueue : DirectorySourceQueue → M) (ofHand : Hand → M)
  (ofHistory : ObjectHistory → M)

def census (system : SourceSystem threads) : M :=
  ofQueue system.queue + ∑ thread, ofHand (system.hands thread) +
    ∑ owner, ofHistory (system.histories owner)

theorem census_moved [IsLeftCancelAdd M] (system : SourceSystem threads)
    {thread : Fin threads} {hand : Hand}
    (same : ofQueue queue + ofHand hand + ofHistory history =
      ofQueue system.queue + ofHand (system.hands thread) +
        ofHistory (system.histories owner)) :
    census ofQueue ofHand ofHistory (system.moved thread owner queue hand history) =
      census ofQueue ofHand ofHistory system := by
  have hands := sum_update system.hands ofHand thread hand
  have histories := sum_update system.histories ofHistory owner history
  apply add_left_cancel
    (a := ofQueue system.queue + ofHand (system.hands thread) +
      ofHistory (system.histories owner))
  unfold census moved withHand withHistory
  calc
    _ = ofQueue system.queue + ofQueue queue +
        (ofHand (system.hands thread) +
          ∑ other, ofHand (Function.update system.hands thread hand other)) +
        (ofHistory (system.histories owner) +
          ∑ other, ofHistory (Function.update system.histories owner history other)) := by
      abel
    _ = ofQueue system.queue + (ofQueue queue + ofHand hand + ofHistory history) +
        ∑ other, ofHand (system.hands other) +
        ∑ other, ofHistory (system.histories other) := by
      rw [hands, histories]
      abel
    _ = _ := by
      rw [same]
      abel

theorem census_initial (noQueue : ofQueue {} = 0) (noHand : ofHand .empty = 0)
    (noHistory : ofHistory {} = 0) :
    census ofQueue ofHand ofHistory ({} : SourceSystem threads) = 0 := by
  unfold census
  rw [noQueue, Finset.sum_eq_zero (fun _ _ => noHand),
    Finset.sum_eq_zero (fun _ _ => noHistory), add_zero, add_zero]

end Census

theorem sum_places (system : SourceSystem threads) :
    ∑ place, system.held place = census queueIds handIds historyIds system := by
  let places : (Bool ⊕ Fin threads) ⊕ Fin threads ≃ SourcePlace threads :=
    { toFun := fun
        | .inl (.inl waiting) => if waiting then .queue else .failed
        | .inl (.inr thread) => .hand thread
        | .inr owner => .history owner
      invFun := fun
        | .queue => .inl (.inl true)
        | .failed => .inl (.inl false)
        | .hand thread => .inl (.inr thread)
        | .history owner => .inr owner
      left_inv := by rintro (((_ | _) | _) | _) <;> rfl
      right_inv := by rintro (_ | _) <;> rfl }
  rw [← Equiv.sum_comp places, Fintype.sum_sum_type, Fintype.sum_sum_type, Fintype.sum_bool]
  rfl

/-! ### One step -/

structure Conserved (system : SourceSystem threads) : Prop where
  whole : census queueIds handIds historyIds system = Multiset.range system.created
  dequeued : census excess openedCount historyCount system = 0

section

variable (conserved : system.Conserved)

include conserved

theorem Conserved.moved (ids : queueIds queue + handIds hand + historyIds history =
      queueIds system.queue + handIds (system.hands thread) +
        historyIds (system.histories owner))
    (dequeued : excess queue + openedCount hand + historyCount history =
      excess system.queue + openedCount (system.hands thread) +
        historyCount (system.histories owner)) :
    (system.moved thread owner queue hand history).Conserved :=
  ⟨(census_moved _ _ _ system ids).trans conserved.whole,
    (census_moved _ _ _ system dequeued).trans conserved.dequeued⟩

theorem Conserved.createIntoQueue (source : ByteSource)
    (moves : system.step (.createIntoQueue source) = some after) : after.Conserved := by
  cases moves
  refine ⟨?_, conserved.dequeued⟩
  rw [Multiset.range_succ, ← Multiset.singleton_add, ← conserved.whole]
  unfold census queueIds
  rw [map_append, ← Multiset.coe_add]
  change _ + ({system.created} : Multiset Nat) + _ + _ + _ = _
  abel

theorem Conserved.fetch {index : Nat}
    (moves : system.step (.fetch thread index) = some after) : after.Conserved := by
  unfold step at moves
  dsimp only at moves
  split at moves
  case h_2 => cases moves
  case h_1 object idle found =>
    cases moves
    obtain ⟨inside, atIndex⟩ := List.getElem?_eq_some_iff.mp found
    have split := (List.getElem_cons_eraseIdx_perm inside).map SourceObject.id
    rw [atIndex] at split
    have taken := Multiset.coe_eq_coe.mpr split
    rw [← moved_hand]
    refine conserved.moved ?_ ?_
    · rw [idle]
      unfold queueIds
      rw [← taken, map_cons, ← Multiset.cons_coe, ← Multiset.singleton_add]
      change _ + _ + ({object.id} : Multiset Nat) + _ = {object.id} + _ + _ + 0 + _
      abel
    · rw [idle]
      rfl

theorem Conserved.finishOpen {ok : Bool}
    (moves : system.step (.finishOpen thread ok) = some after) : after.Conserved := by
  unfold step at moves
  dsimp only at moves
  split at moves
  case h_2 => cases moves
  case h_1 object fetched =>
    cases ok with
    | true =>
      cases moves
      rw [← moved_hand]
      refine conserved.moved ?_ ?_
      · rw [fetched]
        rfl
      · rw [fetched]
        change -(_ + 1) + 1 + _ = -_ + 0 + _
        omega
    | false =>
      cases moves
      rw [← moved_hand]
      refine conserved.moved ?_ ?_
      · rw [fetched]
        unfold queueIds
        rw [map_append, ← Multiset.coe_add]
        change _ + (_ + ({object.id} : Multiset Nat)) + 0 + _ = _ + _ + {object.id} + _
        abel
      · rw [fetched]
        rfl

end

theorem returnToQueue_some {returned : DirectorySourceQueue}
    {objects : List SourceObject} (returns : queue.returnToQueue objects = some returned) :
    returned = { queue with
      sourceQueue := queue.sourceQueue ++ objects
      numBlocksDequeued := queue.numBlocksDequeued - objects.length } := by
  induction objects generalizing queue with
  | nil => simpa [DirectorySourceQueue.returnToQueue] using returns.symm
  | cons object rest ih =>
    rw [DirectorySourceQueue.returnToQueue] at returns
    split at returns
    · rw [ih returns]
      simp only [append_assoc, cons_append, nil_append, length_cons,
        DirectorySourceQueue.mk.injEq, true_and, and_true]
      omega
    · cases returns

section

variable (conserved : system.Conserved)

include conserved

theorem Conserved.returning_le {objects : List SourceObject}
    (returning : system.hands thread = .returning objects) :
    (objects.length : Int) ≤ system.queue.numBlocksDequeued := by
  have dequeued := conserved.dequeued
  have held : openedCount (system.hands thread) ≤ ∑ other, openedCount (system.hands other) :=
    Finset.single_le_sum (fun other _ => Int.natCast_nonneg _) (Finset.mem_univ thread)
  have kept : 0 ≤ ∑ owner, historyCount (system.histories owner) :=
    Finset.sum_nonneg (fun owner _ => Int.natCast_nonneg _)
  rw [returning] at held
  unfold census excess at dequeued
  change (objects.length : Int) ≤ _ at held
  omega

theorem Conserved.returnToQueue (moves : system.step (.returnToQueue thread) = some after) :
    after.Conserved := by
  unfold step at moves
  dsimp only at moves
  split at moves
  case h_2 => cases moves
  case h_1 objects returning =>
    obtain ⟨queue, returns, same⟩ := Option.map_eq_some_iff.mp moves
    subst same
    rw [returnToQueue_some returns, ← moved_hand]
    refine conserved.moved ?_ ?_
    · rw [returning]
      unfold queueIds
      rw [map_append, ← Multiset.coe_add]
      change _ + handIds (.returning objects) + _ + 0 + _ = _
      abel
    · rw [returning]
      change -(_ - _) + 0 + _ = -_ + (objects.length : Int) + _
      omega

theorem Conserved.addSource (moves : system.step (.addSource thread) = some after) :
    after.Conserved := by
  unfold step at moves
  dsimp only at moves
  split at moves
  case h_2 => cases moves
  case h_1 object opened =>
    cases moves
    have kept := (system.histories thread).addSource_conserves object
    have lengths := congrArg length kept
    rw [length_append, length_map, length_append] at lengths
    have counted := ((system.histories thread).addSource object).1.counted
    have countedBefore := (system.histories thread).counted
    change (system.moved thread thread system.queue (.returning _) _).Conserved
    refine conserved.moved ?_ ?_
    · rw [opened, add_assoc, add_assoc, add_comm (handIds _), add_comm (handIds _)]
      exact congrArg (queueIds system.queue + ·) (congrArg Multiset.ofList kept)
    · rw [opened]
      change _ + (((system.histories thread).addSource object).2.length : Int) +
          (((system.histories thread).addSource object).1.thread.history.length : Int) =
        _ + 1 + ((system.histories thread).thread.history.length : Int)
      rw [length_singleton] at lengths
      omega

theorem Conserved.takeBack {result : ObjectHistory × List SourceObject}
    (kept : (system.histories owner).ids = result.1.ids ++ (result.2.map SourceObject.id).reverse)
    (moves : system.takeBack thread owner result = some after) : after.Conserved := by
  unfold SourceSystem.takeBack at moves
  split at moves
  case h_2 => cases moves
  case h_1 idle =>
    cases moves
    have lengths := congrArg length kept
    rw [length_append, length_reverse, length_map] at lengths
    have counted := result.1.counted
    have countedBefore := (system.histories owner).counted
    change (system.moved thread owner system.queue (.returning _) _).Conserved
    refine conserved.moved ?_ ?_
    · have same : historyIds (system.histories owner) =
          historyIds result.1 + handIds (.returning result.2) := by
        unfold historyIds handIds
        rw [kept, ← Multiset.coe_add, Multiset.coe_reverse]
        rfl
      rw [idle, same]
      change _ = _ + 0 + _
      abel
    · rw [idle]
      change _ + (result.2.length : Int) + (result.1.thread.history.length : Int) =
        _ + 0 + ((system.histories owner).thread.history.length : Int)
      omega

theorem Conserved.withHistory (sameIds : history.ids = (system.histories owner).ids) :
    (system.withHistory owner history).Conserved := by
  have same : system.moved owner owner system.queue (system.hands owner) history =
      system.withHistory owner history := by
    unfold SourceSystem.moved withHand SourceSystem.withHistory
    rw [Function.update_eq_self]
  rw [← same]
  refine conserved.moved ?_ ?_
  · unfold historyIds
    rw [sameIds]
  · unfold historyCount
    rw [← history.counted, sameIds, (system.histories owner).counted]

end

theorem Conserved.step {event : SourceEvent threads} (conserved : system.Conserved)
    (moves : system.Step event after) : after.Conserved := by
  cases event with
  | createIntoQueue source => exact conserved.createIntoQueue source moves
  | fetch thread index => exact conserved.fetch moves
  | finishOpen thread ok => exact conserved.finishOpen moves
  | addSource thread => exact conserved.addSource moves
  | setLocalCheckpoint thread checkpoint | setGlobalCheckpoint thread owner checkpoint
    | returnUnackedSourcesToQueue thread owner =>
    exact conserved.takeBack (ObjectHistory.setCheckpoint_conserves _ _ _) moves
  | markAllAcknowledged owner | markNotInUse owner =>
    cases moves
    exact conserved.withHistory rfl
  | returnToQueue thread => exact conserved.returnToQueue moves

theorem conserved_initial : ({} : SourceSystem threads).Conserved :=
  ⟨census_initial _ _ _ rfl rfl rfl, census_initial _ _ _ rfl rfl rfl⟩

/-- In every interleaving each source that was created is in exactly one place, once; the
queue's counter is the number of opened sources that threads hold and of sources in the
histories; and the check of `returnToQueue` passes for whatever a thread brings back. -/
theorem sources_conserved
    (path : Path SourceSystem.Step (fun _ _ => True) ({} : SourceSystem threads) system) :
    (∀ id < system.created, ∃! place, id ∈ system.contents place) ∧
      (∀ place, (system.contents place).Nodup) ∧
      system.queue.numBlocksDequeued =
        (∑ thread, (system.hands thread).openedObjects.length : Nat) +
          (∑ owner, (system.histories owner).thread.history.length : Nat) ∧
      ∀ thread objects, system.hands thread = .returning objects →
        (system.queue.returnToQueue objects).isSome := by
  have conserved : system.Conserved := path.invariant Conserved conserved_initial
    (fun _ _ _ before _ moves => before.step moves)
  have whole := system.sum_places.trans conserved.whole
  have distinct : (∑ place, system.held place).Nodup := by
    rw [whole]
    exact Multiset.nodup_range _
  have dequeued := conserved.dequeued
  unfold census excess openedCount historyCount at dequeued
  refine ⟨?_, ?_, by rw [Nat.cast_sum, Nat.cast_sum]; omega, ?_⟩
  · intro id created
    apply existsUnique_of_total distinct
    rw [whole]
    exact Multiset.mem_range.mpr created
  · intro place
    exact Multiset.coe_nodup.mp (nodup_of_total distinct place)
  · intro thread objects returning
    rw [system.queue.returnToQueue_enough objects (conserved.returning_le returning)]
    rfl

/-- A source comes back from a history and another, sent too late, from its thread. -/
def sampleReturns (thread other : Fin n) : List (SourceEvent n) :=
  [.createIntoQueue { seqId := 0, offset := 0, size := 5 },
    .createIntoQueue { seqId := 1, offset := 0, size := 7 },
    .fetch thread 0, .finishOpen thread true, .addSource thread, .returnToQueue thread,
    .fetch thread 0, .finishOpen thread true,
    .setGlobalCheckpoint other thread { numBlocks := 0 }, .addSource thread]

theorem sources_conserved_sample : ∃ system,
      runsUnder SourceSystem.step (fun _ _ => true) {} (sampleReturns (0 : Fin 2) 1) =
        some system ∧
      (∀ id < system.created, ∃! place, id ∈ system.contents place) ∧
      (∀ place, (system.contents place).Nodup) ∧
      system.queue.numBlocksDequeued =
        (∑ thread, (system.hands thread).openedObjects.length : Nat) +
          (∑ owner, (system.histories owner).thread.history.length : Nat) ∧
      ∀ thread objects, system.hands thread = .returning objects →
        (system.queue.returnToQueue objects).isSome := by
  have runs : (runsUnder SourceSystem.step (fun _ _ => true) {}
      (sampleReturns (0 : Fin 2) 1)).isSome = true := by
    decide +kernel
  obtain ⟨system, reached⟩ := Option.isSome_iff_exists.mp runs
  have path : Path SourceSystem.Step (fun _ _ => True) {} system := path_of_run reached
  exact ⟨system, reached, sources_conserved path⟩

end SourceSystem

end Wdt
