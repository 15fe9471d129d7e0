/-
The statistics of the receiver's threads, merged in any order, and its final report.
Merging keeps the first sender total it sees, and forgets the errors before a thread
with another one; the report forgives every error but one of encryption.
-/

import Wdt.SenderReport

namespace Wdt

open List ErrorCode

def ErrorCode.value (code : ErrorCode) : Nat := code.toByte.toNat

theorem value_moreInteresting (first second : ErrorCode) :
    (getMoreInterestingError first second).value = max first.value second.value := by
  unfold getMoreInterestingError value
  simp only [UInt8.lt_iff_toNat_lt]
  split <;> omega

namespace TransferStats

def additive : List (TransferStats → Int) :=
  [headerBytes, dataBytes, effectiveHeaderBytes, effectiveDataBytes, numFiles, numBlocks,
    failedAttempts]

def senderTotals : List (TransferStats → Int) := [numBlocksSend, totalSenderBytes]

def errorCodes : List (TransferStats → ErrorCode) := [localErrCode, remoteErrCode]

def fields : List (TransferStats → Int) :=
  additive ++ senderTotals ++ errorCodes.map fun code stats => ((code stats).value : Int)

/-- The sender totals that are known are those of `common`. -/
def Knows (common stats : TransferStats) : Prop :=
  ∀ known ∈ senderTotals, known stats = -1 ∨ known stats = known common

variable {common stats other : TransferStats} {threads others : List TransferStats}
  {known field : TransferStats → Int} {code : TransferStats → ErrorCode}

theorem known_add (listed : known ∈ senderTotals) (stats other : TransferStats) :
    known (stats.add other) = if known stats = -1 then known other else known stats := by
  simp only [senderTotals, mem_cons, not_mem_nil, or_false] at listed
  rcases listed with rfl | rfl <;> rfl

theorem known_default (listed : known ∈ senderTotals) : known {} = -1 := by
  simp only [senderTotals, mem_cons, not_mem_nil, or_false] at listed
  rcases listed with rfl | rfl <;> rfl

theorem Knows.add (first : common.Knows stats) (second : common.Knows other) :
    common.Knows (stats.add other) := by
  intro known listed
  rw [known_add listed]
  split
  · exact second known listed
  · exact first known listed

theorem value_add (first : common.Knows stats) (second : common.Knows other)
    (listed : code ∈ errorCodes) :
    (code (stats.add other)).value = max (code stats).value (code other).value := by
  have same : ∀ known ∈ senderTotals, totalsDiffer (known stats) (known other) = false := by
    intro known listed
    have one := first known listed
    have two := second known listed
    simp only [totalsDiffer, Bool.and_eq_false_iff, bne_eq_false_iff_eq]
    omega
  simp only [errorCodes, mem_cons, not_mem_nil, or_false] at listed
  rcases listed with rfl | rfl
  · rw [← value_moreInteresting, add, same numBlocksSend mem_cons_self,
      same totalSenderBytes (mem_cons_of_mem _ mem_cons_self)]
    rfl
  · exact value_moreInteresting _ _

theorem field_add (listed : field ∈ additive) (stats other : TransferStats) :
    field (stats.add other) = field stats + field other := by
  simp only [additive, mem_cons, not_mem_nil, or_false] at listed
  rcases listed with rfl | rfl | rfl | rfl | rfl | rfl | rfl <;> rfl

section

variable (knows : ∀ thread ∈ threads, common.Knows thread) (start : common.Knows stats)

include knows start

theorem known_foldl (listed : known ∈ senderTotals) : known (threads.foldl add stats) =
    if known stats = -1 ∧ ∀ thread ∈ threads, known thread = -1 then -1 else known common := by
  induction threads generalizing stats with
  | nil =>
    have one := start known listed
    simp only [foldl_nil, not_mem_nil, false_implies, implies_true, and_true]
    split
    · assumption
    · exact one.resolve_left ‹_›
  | cons first rest ih =>
    obtain ⟨head, tail⟩ := forall_mem_cons.mp knows
    rw [foldl_cons, ih tail (start.add head), known_add listed]
    by_cases unknown : known stats = -1 <;> simp [unknown]

theorem value_foldl_le_iff (listed : code ∈ errorCodes) (bound : Nat) :
    (code (threads.foldl add stats)).value ≤ bound ↔
      (code stats).value ≤ bound ∧ ∀ thread ∈ threads, (code thread).value ≤ bound := by
  induction threads generalizing stats with
  | nil => simp
  | cons first rest ih =>
    obtain ⟨head, tail⟩ := forall_mem_cons.mp knows
    rw [foldl_cons, ih tail (start.add head), value_add start head listed, Nat.max_le,
      forall_mem_cons, and_assoc]

end

theorem knows_default (common : TransferStats) : common.Knows {} :=
  fun _ listed => .inl (known_default listed)

theorem value_total_le_iff (knows : ∀ thread ∈ threads, common.Knows thread)
    (listed : code ∈ errorCodes) (bound : Nat) :
    (code (total threads)).value ≤ bound ↔ ∀ thread ∈ threads, (code thread).value ≤ bound := by
  have none : (code {}).value = 0 := by
    simp only [errorCodes, mem_cons, not_mem_nil, or_false] at listed
    rcases listed with rfl | rfl <;> rfl
  rw [total, value_foldl_le_iff knows (knows_default common) listed, none]
  exact and_iff_right (Nat.zero_le _)

theorem total_perm (knows : ∀ thread ∈ threads, common.Knows thread) (perm : others.Perm threads)
    (listed : field ∈ fields) : field (total others) = field (total threads) := by
  have also : ∀ thread ∈ others, common.Knows thread :=
    fun thread member => knows thread (perm.mem_iff.mp member)
  rcases mem_append.mp listed with listed | listed
  · rcases mem_append.mp listed with listed | listed
    · rw [total, total, foldl_of_adds (field_add listed), foldl_of_adds (field_add listed),
        (perm.map field).sum_eq]
    · rw [total, total, known_foldl also (knows_default common) listed,
        known_foldl knows (knows_default common) listed]
      simp only [perm.mem_iff]
  · obtain ⟨code, ofCode, rfl⟩ := mem_map.mp listed
    apply Int.natCast_inj.mpr
    apply eq_of_forall_ge_iff
    intro bound
    rw [value_total_le_iff also ofCode, value_total_le_iff knows ofCode]
    simp only [perm.mem_iff]

theorem known_foldl_of_known (listed : known ∈ senderTotals) (threads : List TransferStats)
    (isKnown : known stats ≠ -1) : known (threads.foldl add stats) = known stats := by
  induction threads generalizing stats with
  | nil => rfl
  | cons first rest ih =>
    have kept := (known_add listed stats first).trans (if_neg isKnown)
    rw [foldl_cons, ih (kept ▸ isKnown), kept]

theorem knows_total (independent : ∀ others : List TransferStats, others.Perm threads →
      ∀ field ∈ fields, field (total others) = field (total threads)) :
    ∀ thread ∈ threads, (total threads).Knows thread := by
  intro thread member known listed
  by_cases isKnown : known thread = -1
  · exact .inl isKnown
  have alone := (known_add listed {} thread).trans (if_pos (known_default listed))
  right
  rw [← independent _ (perm_cons_erase member).symm known
    (mem_append_left _ (mem_append_right _ listed)), total, foldl_cons,
    known_foldl_of_known listed _ (alone ▸ isKnown), alone]

end TransferStats

/-! ### The receiver's report -/

namespace TransferReport

open TransferStats

def ofGlobalStats (summary : TransferStats) : TransferReport where
  summary := summary.setLocalErrorCode <|
    if summary.numBlocksSend = -1 ∨ summary.numBlocksSend ≠ summary.numBlocks then
      getMoreInterestingError summary.localErrCode .error
    else if summary.totalSenderBytes ≠ -1 ∧
        summary.totalSenderBytes ≠ summary.effectiveDataBytes then
      getMoreInterestingError summary.localErrCode .error
    -- all bytes are there: only an encryption error sticks
    else if summary.localErrCode.value ≠ ErrorCode.ok.value ∧
        summary.localErrCode.value ≠ encryptionError.value then .ok
    else summary.localErrCode

/-- `Receiver::getTransferReport` -/
def ofReceiver (status : TransferStatus) (threads : List TransferStats) : TransferReport :=
  let report := ofGlobalStats (total threads)
  if status = .notStarted ∧ report.summary.getErrorCode.value = ErrorCode.ok.value then
    report.setErrorCode .error
  else report

/-- The error of a report that has one of encryption. -/
def EncryptionFailed (stats : TransferStats) : Prop :=
  stats.localErrCode.value = encryptionError.value

theorem ofReceiver_encryption_iff (status : TransferStatus) (threads : List TransferStats) :
    EncryptionFailed (ofReceiver status threads).summary ↔ EncryptionFailed (total threads) := by
  have values : ErrorCode.ok.value = 0 ∧ ErrorCode.error.value = 1 ∧
    encryptionError.value = 28 := ⟨rfl, rfl, rfl⟩
  have reported : EncryptionFailed (ofGlobalStats (total threads)).summary ↔
      EncryptionFailed (total threads) := by
    unfold EncryptionFailed
    dsimp only [ofGlobalStats, setLocalErrorCode]
    split
    · rw [value_moreInteresting]
      omega
    split
    · rw [value_moreInteresting]
      omega
    split
    · omega
    · rfl
  unfold ofReceiver
  dsimp only
  split
  · rename_i unstarted
    have code := unstarted.2
    rw [getErrorCode, value_moreInteresting] at code
    rw [← reported]
    unfold EncryptionFailed
    dsimp only [setErrorCode, setLocalErrorCode, setRemoteErrorCode]
    omega
  · exact reported

/-- The threads' statistics can be merged in any order, with no error hidden and an encryption
error in the report, if and only if the sender totals that the threads know are the same, and no
error of a thread is more interesting than an encryption error of another. -/
theorem statistics_merge_iff (status : TransferStatus) (threads : List TransferStats) :
    ((∀ others : List TransferStats, others.Perm threads →
        ∀ field ∈ fields, field (total others) = field (total threads)) ∧
      (∀ thread ∈ threads, ∀ code ∈ errorCodes,
        (code thread).value ≤ (code (total threads)).value) ∧
      ∀ thread ∈ threads, EncryptionFailed thread →
        EncryptionFailed (ofReceiver status threads).summary) ↔
    (∃ common, ∀ thread ∈ threads, Knows common thread) ∧
      ∀ thread ∈ threads, EncryptionFailed thread → ∀ other ∈ threads,
        other.localErrCode.value ≤ encryptionError.value := by
  simp only [ofReceiver_encryption_iff]
  constructor
  · rintro ⟨independent, bounded, sticks⟩
    refine ⟨⟨_, knows_total independent⟩, fun thread member failed other also => ?_⟩
    rw [← show _ = _ from sticks thread member failed]
    exact bounded other also localErrCode mem_cons_self
  · rintro ⟨⟨common, knows⟩, largest⟩
    have bounded : ∀ thread ∈ threads, ∀ code ∈ errorCodes,
        (code thread).value ≤ (code (total threads)).value := fun thread member code listed =>
      (value_total_le_iff knows listed _).mp (le_refl _) thread member
    refine ⟨fun others perm field listed => total_perm knows perm listed, bounded,
      fun thread member failed => ?_⟩
    apply Nat.le_antisymm
    · exact (value_total_le_iff knows mem_cons_self _).mpr (largest thread member failed)
    · rw [← show _ = _ from failed]
      exact bounded thread member localErrCode mem_cons_self

/-- A total that differs hides the error before it, and so does an error that outranks it. -/
theorem encryption_error_hidden :
    (total [{ localErrCode := .encryptionError, numBlocksSend := 1 },
      { numBlocksSend := 2 }]).localErrCode = .error ∧
    (total [{ numBlocksSend := 2 },
      { localErrCode := .encryptionError, numBlocksSend := 1 }]).localErrCode = .encryptionError ∧
    (ofReceiver .threadsJoined [{ localErrCode := .encryptionError, numBlocksSend := 0 },
      { localErrCode := .globalCheckpointAbort }]).summary.localErrCode = .ok := by
  decide

end TransferReport

end Wdt
