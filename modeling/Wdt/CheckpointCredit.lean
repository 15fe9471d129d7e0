/-
How often the received bytes of one checkpoint are credited to a source. A checkpoint
is known by its fields: a repeated one is the same checkpoint, as it is for the check
of the sender. A source is credited when it goes back to the queue behind the offset
at which it was taken.
-/

import Wdt.ThreadTransferHistory

namespace Wdt.ThreadTransferHistory

open List

/-- What an operation hands to `setCheckpointAndReturnToQueue`. -/
def delivery (thread : ThreadTransferHistory) : HistoryOp → Option (Checkpoint × Bool)
  | .setLocalCheckpoint checkpoint => some (checkpoint, false)
  | .setGlobalCheckpoint checkpoint => some (checkpoint, true)
  | .returnUnackedSourcesToQueue => some ({ numBlocks := thread.numAcknowledged }, false)
  | .addSource _ | .markAllAcknowledged => none

/-- The sources that may go back to the queue, the most recent first. -/
def offered (thread : ThreadTransferHistory) (op : HistoryOp) : List ByteSource :=
  match op with
  | .addSource source => [source]
  | op => ((thread.delivery op).map fun (checkpoint, _) =>
    (thread.history.drop checkpoint.numBlocks).reverse).getD []

/-- The checkpoint that the operation applies: for a late source, the one that is kept. -/
def applies (thread : ThreadTransferHistory) (op : HistoryOp) : Option Checkpoint :=
  match op with
  | .addSource _ => thread.lastCheckpoint
  | op => (thread.delivery op).map Prod.fst

def credited (offered returned : List ByteSource) : Nat :=
  (offered.zip returned).countP fun (before, after) => decide (before.offset < after.offset)

def applied (checkpoint : Checkpoint) (thread : ThreadTransferHistory) (op : HistoryOp) : Nat :=
  if thread.applies op = some checkpoint then credited (thread.offered op) (thread.perform op).2
  else 0

/-- To how many sources the operations apply the received bytes of the checkpoint. -/
def applications (checkpoint : Checkpoint) : ThreadTransferHistory → List HistoryOp → Nat
  | _, [] => 0
  | thread, op :: rest =>
    applied checkpoint thread op + applications checkpoint (thread.perform op).1 rest

/-! ### Operations that repeat nothing -/

/-- What has been done to a history. -/
structure PastOps where
  accepted : List Checkpoint := []
  /-- those of them that found a source that they do not acknowledge -/
  met : List Checkpoint := []
  /-- a source was handed in after a global checkpoint -/
  late : Bool := false

def accepts (thread : ThreadTransferHistory) (op : HistoryOp) : Option Checkpoint :=
  (thread.delivery op).bind fun (checkpoint, globalCheckpoint) =>
    if thread.rejects checkpoint globalCheckpoint then none else some checkpoint

def PastOps.accept (past : PastOps) (sources : Nat) : Option Checkpoint → PastOps
  | none => past
  | some checkpoint =>
    { past with
      accepted := checkpoint :: past.accepted
      met := if checkpoint.numBlocks < sources then checkpoint :: past.met else past.met }

def PastOps.add (past : PastOps) (thread : ThreadTransferHistory) (op : HistoryOp) : PastOps :=
  match op with
  | .addSource _ => { past with late := past.late || thread.globalCheckpoint }
  | op => past.accept thread.history.length (thread.accepts op)

/-- A checkpoint that was accepted before credits nothing to the source it finds. The kept
checkpoint credits only the first late source, and only if it has found no other source. -/
def Fresh (past : PastOps) (thread : ThreadTransferHistory) (op : HistoryOp) : Prop :=
  match op with
  | .addSource source => thread.globalCheckpoint = true → ∀ checkpoint ∈ thread.lastCheckpoint,
    receivedBytes source (some checkpoint) = 0 ∨ past.late = false ∧ checkpoint ∉ past.met
  | op => ∀ checkpoint ∈ thread.accepts op, checkpoint ∈ past.accepted →
    ∀ source ∈ thread.history[checkpoint.numBlocks]?, receivedBytes source (some checkpoint) = 0

instance (past : PastOps) (thread : ThreadTransferHistory) (op : HistoryOp) :
    Decidable (Fresh past thread op) := by
  unfold Fresh
  split <;> infer_instance

def AllFresh : PastOps → ThreadTransferHistory → List HistoryOp → Prop
  | _, _, [] => True
  | past, thread, op :: rest =>
    Fresh past thread op ∧ AllFresh (past.add thread op) (thread.perform op).1 rest

instance decidableAllFresh : (past : PastOps) → (thread : ThreadTransferHistory) →
    (ops : List HistoryOp) → Decidable (AllFresh past thread ops)
  | _, _, [] => inferInstanceAs (Decidable True)
  | past, thread, op :: rest =>
    have := decidableAllFresh (past.add thread op) (thread.perform op).1 rest
    inferInstanceAs (Decidable (_ ∧ _))

/-! ### One operation -/

theorem markSourceAsFailed_offset (threadStats : TransferStats) (source : ByteSource)
    (checkpoint : Option Checkpoint) :
    (markSourceAsFailed threadStats source checkpoint).1.offset =
      source.offset + receivedBytes source checkpoint := by
  unfold markSourceAsFailed
  dsimp only
  split <;> rfl

theorem credited_single (threadStats : TransferStats) (source : ByteSource)
    (checkpoint : Option Checkpoint) :
    credited [source] [(markSourceAsFailed threadStats source checkpoint).1] =
      if 0 < receivedBytes source checkpoint then 1 else 0 := by
  simp [credited, markSourceAsFailed_offset, countP_cons]

/-- Only the oldest source is credited. -/
theorem failSources_credited (checkpoint : Checkpoint) (threadStats : TransferStats)
    (sources : List ByteSource) :
    credited sources (failSources checkpoint threadStats sources).1 ≤ 1 ∧
      (0 < credited sources (failSources checkpoint threadStats sources).1 →
        ∃ source ∈ sources.getLast?, 0 < receivedBytes source (some checkpoint)) := by
  induction sources generalizing threadStats with
  | nil => simp [credited]
  | cons source older ih =>
    cases older with
    | nil =>
      unfold failSources
      dsimp only
      rw [credited_single]
      split
      · exact ⟨Nat.le_refl 1, fun _ => ⟨source, rfl, ‹_›⟩⟩
      · exact ⟨Nat.zero_le 1, nofun⟩
    | cons next rest =>
      have same : credited (source :: next :: rest)
          (failSources checkpoint threadStats (source :: next :: rest)).1 =
            credited (next :: rest) (failSources checkpoint
              (markSourceAsFailed threadStats source none).2 (next :: rest)).1 := by
        simp [credited, failSources, markSourceAsFailed_offset, receivedBytes]
      rw [same, getLast?_cons_cons]
      exact ih _

variable {thread : ThreadTransferHistory} {past : PastOps} {count : Checkpoint → Nat}

/-- Each checkpoint was applied at most once so far, and one that was has met a source or was
there for a late one. -/
structure Counted (past : PastOps) (thread : ThreadTransferHistory) (count : Checkpoint → Nat) :
    Prop where
  once : ∀ checkpoint, count checkpoint ≤ 1
  seen : ∀ checkpoint, 0 < count checkpoint →
    checkpoint ∈ past.accepted ∧ (checkpoint ∈ past.met ∨ past.late = true)
  kept : ∀ checkpoint ∈ thread.lastCheckpoint, checkpoint ∈ past.accepted

theorem Counted.deliver (counted : Counted past thread count) (checkpoint : Checkpoint)
    (globalCheckpoint : Bool)
    (fresh : ∀ accepted ∈ if thread.rejects checkpoint globalCheckpoint then none
        else some checkpoint, accepted ∈ past.accepted →
      ∀ source ∈ thread.history[accepted.numBlocks]?, receivedBytes source (some accepted) = 0) :
    Counted
      (past.accept thread.history.length
        (if thread.rejects checkpoint globalCheckpoint then none else some checkpoint))
      (thread.setCheckpointAndReturnToQueue checkpoint globalCheckpoint).2.1
      (fun other => count other + if some checkpoint = some other then
        credited (thread.history.drop checkpoint.numBlocks).reverse
          (thread.setCheckpointAndReturnToQueue checkpoint globalCheckpoint).2.2 else 0) := by
  unfold setCheckpointAndReturnToQueue
  by_cases rejected : thread.rejects checkpoint globalCheckpoint = true
  · simp only [if_pos rejected, credited, zip_nil_right, countP_nil, ite_self, Nat.add_zero]
    exact counted
  rw [if_neg rejected] at fresh
  rw [if_neg rejected, if_neg rejected]
  obtain ⟨atMostOne, oldest⟩ := failSources_credited checkpoint thread.threadStats
    (thread.history.drop checkpoint.numBlocks).reverse
  generalize credited _ _ = credits at atMostOne oldest ⊢
  have unused : 0 < credits → checkpoint.numBlocks < thread.history.length ∧
      count checkpoint = 0 := by
    intro some
    obtain ⟨source, last, bytes⟩ := oldest some
    rw [getLast?_reverse, head?_drop] at last
    refine ⟨(List.getElem?_eq_some_iff.mp last).1, Nat.eq_zero_of_not_pos fun before => ?_⟩
    have none := fresh checkpoint rfl (counted.seen checkpoint before).1 source last
    omega
  refine ⟨fun other => ?_, fun other positive => ?_, fun other last => ?_⟩
  · have before := counted.once other
    grind
  · have before := counted.seen other
    unfold PastOps.accept
    grind
  · cases last
    exact mem_cons_self

theorem Counted.addSource (counted : Counted past thread count) {source : ByteSource}
    (fresh : Fresh past thread (.addSource source)) :
    Counted (past.add thread (.addSource source)) (thread.addSource source).2.1
      (fun other => count other + applied other thread (.addSource source)) := by
  unfold applied applies perform offered ThreadTransferHistory.addSource PastOps.add
  by_cases late : thread.globalCheckpoint = true
  swap
  · simp only [late, Bool.false_eq_true, if_false, credited, zip_nil_right, countP_nil, ite_self,
      Bool.or_false, Nat.add_zero]
    exact { counted with }
  have single (kept : Checkpoint) := credited_single thread.threadStats source (some kept)
  have unused := fresh late
  simp only [late, if_true, Bool.or_true]
  refine ⟨fun other => ?_, fun other positive => ?_, nofun⟩
  · have before := counted.once other
    have seen := counted.seen other
    grind
  · have seen := counted.seen other
    have kept := counted.kept other
    grind

theorem Counted.run {ops : List HistoryOp} (counted : Counted past thread count)
    (fresh : AllFresh past thread ops) (checkpoint : Checkpoint) :
    count checkpoint + applications checkpoint thread ops ≤ 1 := by
  induction ops generalizing past thread count with
  | nil => exact counted.once checkpoint
  | cons op rest ih =>
    obtain ⟨own, others⟩ := fresh
    have next : Counted (past.add thread op) (thread.perform op).1
        (fun other => count other + applied other thread op) := by
      cases op with
      | addSource source => exact counted.addSource own
      | setLocalCheckpoint checkpoint => exact counted.deliver checkpoint false own
      | setGlobalCheckpoint checkpoint => exact counted.deliver checkpoint true own
      | markAllAcknowledged => exact { counted with }
      | returnUnackedSourcesToQueue => exact counted.deliver _ false own
    have bound := ih next others
    unfold applications
    omega

/-- From an empty history on, each checkpoint is credited at most once if no operation repeats
one. -/
theorem received_bytes_credited_once (ops : List HistoryOp) (fresh : AllFresh {} {} ops)
    (checkpoint : Checkpoint) : applications checkpoint {} ops ≤ 1 := by
  have none : Counted {} {} (fun _ => 0) := ⟨fun _ => Nat.zero_le 1, nofun, nofun⟩
  have bound := none.run fresh checkpoint
  omega

/-- A global checkpoint that acknowledges all but the source that is being sent. -/
theorem received_bytes_credited_once_late :
    applications { port := 7, numBlocks := 1, lastBlockReceivedBytes := 5 } {}
      [.addSource { seqId := 1, offset := 0, size := 100 },
        .setGlobalCheckpoint { port := 7, numBlocks := 1, lastBlockReceivedBytes := 5 },
        .addSource { seqId := 2, offset := 0, size := 100 }] ≤ 1 :=
  received_bytes_credited_once _ (by decide) _

/-- Version 20 has no seq-ids in its checkpoints. Its checkpoint of five received bytes is
applied to the oldest source of the history and again to the source sent meanwhile. A local one
that comes again behind the rest of its source is applied to that. -/
theorem checkpoint_credited_again :
    (decodeCheckpoints 20 [1, 7, 0, 5]).1 = some [{ port := 7, lastBlockReceivedBytes := 5 }] ∧
    applications { port := 7, lastBlockReceivedBytes := 5 } {}
      [.addSource { seqId := 1, offset := 0, size := 100 },
        .setGlobalCheckpoint { port := 7, lastBlockReceivedBytes := 5 },
        .addSource { seqId := 2, offset := 0, size := 100 }] = 2 ∧
    applications { port := 7, lastBlockReceivedBytes := 5 } {}
      [.addSource { seqId := 1, offset := 0, size := 100 },
        .setLocalCheckpoint { port := 7, lastBlockReceivedBytes := 5 },
        .addSource { seqId := 1, offset := 5, size := 95 },
        .setLocalCheckpoint { port := 7, lastBlockReceivedBytes := 5 }] = 2 := by
  decide

end Wdt.ThreadTransferHistory
