/-
The report of a finished sender. The statistics of the threads are copied before the
histories are drained, and the draining corrects the originals only: the summary, made
from the copies, then differs from the statistics of the sources by what was taken back.
-/

import Wdt.SourceQueue

open Transition

namespace Wdt

open ByteSource

open List Option

/-- The codes are compared by their values. -/
def getMoreInterestingError (first second : ErrorCode) : ErrorCode :=
  if first.toByte < second.toByte then second else first

namespace TransferStats

def getErrorCode (stats : TransferStats) : ErrorCode :=
  getMoreInterestingError stats.localErrCode stats.remoteErrCode

/-- Two values of a sender total, of which -1 stands for none. -/
def totalsDiffer (mine other : Int) : Bool := mine != -1 && other != -1 && mine != other

def add (stats other : TransferStats) : TransferStats where
  headerBytes := stats.headerBytes + other.headerBytes
  dataBytes := stats.dataBytes + other.dataBytes
  effectiveHeaderBytes := stats.effectiveHeaderBytes + other.effectiveHeaderBytes
  effectiveDataBytes := stats.effectiveDataBytes + other.effectiveDataBytes
  numFiles := stats.numFiles + other.numFiles
  numBlocks := stats.numBlocks + other.numBlocks
  failedAttempts := stats.failedAttempts + other.failedAttempts
  numBlocksSend := if stats.numBlocksSend = -1 then other.numBlocksSend else stats.numBlocksSend
  totalSenderBytes :=
    if stats.totalSenderBytes = -1 then other.totalSenderBytes else stats.totalSenderBytes
  localErrCode := getMoreInterestingError
      (if totalsDiffer stats.numBlocksSend other.numBlocksSend ||
          totalsDiffer stats.totalSenderBytes other.totalSenderBytes then .error
        else stats.localErrCode)
      other.localErrCode
  remoteErrCode := getMoreInterestingError stats.remoteErrCode other.remoteErrCode

def counters : List (TransferStats → Int) :=
  [failedAttempts, dataBytes, effectiveDataBytes, numBlocks]

def reported : List (TransferStats → Int) := [numBlocks, effectiveDataBytes]

variable {count : TransferStats → Int}

theorem counters_of_reported (shown : count ∈ reported) : count ∈ counters := by
  simp only [reported, counters, mem_cons, not_mem_nil, or_false] at shown ⊢
  tauto

def total (stats : List TransferStats) : TransferStats := stats.foldl add {}

theorem count_add (counts : count ∈ counters)
    (stats other : TransferStats) : count (stats.add other) = count stats + count other := by
  simp only [counters, mem_cons, not_mem_nil, or_false] at counts
  rcases counts with rfl | rfl | rfl | rfl <;> rfl

theorem foldl_of_adds
    (adds : ∀ stats other : TransferStats, count (stats.add other) = count stats + count other)
    (stats : List TransferStats) (start : TransferStats) :
    count (stats.foldl add start) = count start + (stats.map count).sum := by
  induction stats generalizing start with
  | nil => exact (Int.add_zero _).symm
  | cons first rest ih => rw [foldl_cons, ih, adds, map_cons, sum_cons, Int.add_assoc]

theorem count_total (counts : count ∈ counters)
    (stats : List TransferStats) : count (total stats) = (stats.map count).sum := by
  have empty : count {} = 0 := by
    simp only [counters, mem_cons, not_mem_nil, or_false] at counts
    rcases counts with rfl | rfl | rfl | rfl <;> rfl
  rw [total, foldl_of_adds (count_add counts), empty, Int.zero_add]

end TransferStats

open TransferStats

/-! ### The report -/

structure TransferReport where
  summary : TransferStats
  transferredSourceStats : List TransferStats := []
  failedSourceStats : List TransferStats := []
  threadStats : List TransferStats := []
  failedDirectories : List String := []
  totalFileSize : Int := 0

namespace TransferReport

def setErrorCode (report : TransferReport) (code : ErrorCode) : TransferReport :=
  { report with summary := (report.summary.setLocalErrorCode code).setRemoteErrorCode code }

def summaryErrorCode (summary : TransferStats) (failed threadStats : List TransferStats)
    (failedDirectories : List String) (totalFileSize : Int) : ErrorCode :=
  let listed := if failedDirectories = [] then summary.getErrorCode
    else getMoreInterestingError summary.getErrorCode .byteSourceReadError
  let code := failed.foldl (fun code stats => getMoreInterestingError code stats.getErrorCode)
    listed
  if summary.effectiveDataBytes ≠ totalFileSize then
    if code = .ok then .error else code
  -- an error of a thread is forgiven when everything was sent and some thread ended well
  else if code ≠ .ok ∧ failedDirectories = [] ∧ failed = [] ∧
      ∃ stats ∈ threadStats, stats.getErrorCode = .ok then .ok
  else code

def ofSources (transferred failed threadStats : List TransferStats)
    (failedDirectories : List String) (totalFileSize : Int) : TransferReport :=
  let summary := TransferStats.total threadStats
  setErrorCode
    { summary, transferredSourceStats := transferred, failedSourceStats := failed, threadStats,
      failedDirectories, totalFileSize }
    (summaryErrorCode summary failed threadStats failedDirectories totalFileSize)

/-- The block count and the effective bytes of the summary are those of the sources. -/
def AddsUp (report : TransferReport) : Prop :=
  ∀ count ∈ TransferStats.reported, count report.summary =
      ((report.transferredSourceStats ++ report.failedSourceStats).map count).sum

end TransferReport

open TransferReport

inductive TransferStatus
  | notStarted | ongoing | finished | threadsJoined
  deriving DecidableEq

/-- The statistics of a thread are those that its history refers to. -/
structure Sender (threads : Nat) where
  sources : SourceSystem threads := {}
  transferStatus : TransferStatus := .notStarted
  totalSize : Int := 0
  failedDirectories : List String := []

/-- The statistics leave from the back. `none`: the check on the acknowledged ones fails. -/
def ThreadTransferHistory.popAckedSourceStats (thread : ThreadTransferHistory) :
    Option (List TransferStats) :=
  if thread.numAcknowledged = thread.history.length then
    some (thread.history.reverse.map ByteSource.stats)
  else none

/-- The loop of `finish` over the ports. `none`: a check ends the process. -/
def drainHistories (allSourcesAcked : Bool) : DirectorySourceQueue → List ObjectHistory →
      Option (List ObjectHistory × List TransferStats × DirectorySourceQueue)
  | queue, [] => some ([], [], queue)
  | queue, history :: rest =>
    let (drained, objects) :=
      if allSourcesAcked then (history.markAllAcknowledged, [])
      else history.returnUnackedSourcesToQueue
    (queue.returnToQueue objects).bind fun queue =>
      drained.thread.popAckedSourceStats.bind fun popped =>
        (drainHistories allSourcesAcked queue rest).map fun (others, stats, queue) =>
          (drained :: others, popped ++ stats, queue)

def threadStatsOf (histories : List ObjectHistory) : List TransferStats :=
  histories.map (fun history => history.thread.threadStats)

def validateTransferStats (sourceStats threadStats : List TransferStats) : Bool :=
  TransferStats.counters.all fun count =>
    (sourceStats.map count).sum == (threadStats.map count).sum

variable {threads : Nat} {sender after : Sender threads}

namespace Sender

def histories (sender : Sender threads) : List ObjectHistory := List.ofFn sender.sources.histories

def getTransferReport (sender : Sender threads) : TransferReport :=
  let report : TransferReport :=
    { summary := TransferStats.total (threadStatsOf sender.histories)
      totalFileSize := sender.totalSize }
  if sender.transferStatus = .notStarted ∧ report.summary.getErrorCode = .ok then
    report.setErrorCode .error
  else report

/-- With full reporting. The threads have stopped: their hands are empty. -/
def finish (sender : Sender threads) : Option (TransferReport × Sender threads) :=
  match sender.transferStatus with
  | .notStarted | .threadsJoined => some (sender.getTransferReport, sender)
  | .ongoing | .finished =>
    let threadStats := threadStatsOf sender.histories
    let allSourcesAcked := threadStats.any (fun stats => stats.getErrorCode == .ok)
    if ∃ thread, sender.sources.hands thread ≠ .empty then none
    else
      (drainHistories allSourcesAcked sender.sources.queue sender.histories).bind
        fun (drained, transferred, queue) =>
          -- what is left in the queue has failed as well
          let failedSources := queue.failedSources ++ queue.sourceQueue
          let failed := failedSources.map (fun object => object.source.stats)
          if validateTransferStats (transferred ++ failed) (threadStatsOf drained) then
            some (TransferReport.ofSources transferred failed threadStats
                sender.failedDirectories sender.totalSize,
              { sender with
                transferStatus := .threadsJoined
                sources := { sender.sources with
                  queue := { queue with failedSources, sourceQueue := [] }
                  histories := fun thread =>
                    let history := (drained[thread.val]?.map ObjectHistory.thread).getD {}
                    { thread := { history with history := [] } } } })
          else none

end Sender

/-- Sent whole, or already marked as failed. -/
def ByteSource.wasSent (source : ByteSource) : Bool := source.stats.localErrCode == .ok

theorem markSourceAsFailed_stats (threadStats : TransferStats) (source : ByteSource)
    (checkpoint : Option Checkpoint) (nothing : receivedBytes source checkpoint = 0) :
    (markSourceAsFailed threadStats source checkpoint).2.numBlocks =
        threadStats.numBlocks - ([source].countP wasSent : Nat) ∧
      ([source].countP wasSent = 0 →
        (markSourceAsFailed threadStats source checkpoint).2.effectiveDataBytes =
          threadStats.effectiveDataBytes) := by
  unfold markSourceAsFailed wasSent
  rw [nothing]
  by_cases sent : source.stats.localErrCode = .ok
  · simp [sent, decrNumBlocks, incrFailedAttempts,
      subtractEffectiveBytes]
  · simp [sent, addEffectiveBytes]

theorem failSources_stats {checkpoint : Checkpoint}
    (nothing : checkpoint.lastBlockReceivedBytes = 0) (threadStats : TransferStats)
    (sources : List ByteSource) :
    (ThreadTransferHistory.failSources checkpoint threadStats sources).2.numBlocks =
        threadStats.numBlocks - (sources.countP wasSent : Nat) ∧
      (sources.countP wasSent = 0 →
        (ThreadTransferHistory.failSources checkpoint threadStats sources).2.effectiveDataBytes =
          threadStats.effectiveDataBytes) := by
  fun_induction ThreadTransferHistory.failSources checkpoint threadStats sources with
  | case1 => exact ⟨(Int.sub_zero _).symm, fun _ => rfl⟩
  | case2 threadStats source failed after marked =>
    have one := markSourceAsFailed_stats threadStats source (some checkpoint)
      (by rw [receivedBytes, nothing, ite_self])
    rw [marked] at one
    exact one
  | case3 threadStats source older several failed afterOne marked rest afterRest more ih =>
    have one := markSourceAsFailed_stats threadStats source none rfl
    rw [marked] at one
    rw [more] at ih
    have both : (source :: older).countP wasSent =
        [source].countP wasSent + older.countP wasSent := by
      rw [← countP_append, singleton_append]
    refine ⟨ih.1.trans (by rw [one.1]; omega), fun none => ?_⟩
    exact (ih.2 (by omega)).trans (one.2 (by omega))

namespace ThreadTransferHistory

def unackedSent (thread : ThreadTransferHistory) : Nat :=
  (thread.history.drop thread.numAcknowledged).countP wasSent

theorem returnUnackedSourcesToQueue_stats {thread : ThreadTransferHistory}
    (popped : thread.returnUnackedSourcesToQueue.1.popAckedSourceStats.isSome) :
    thread.returnUnackedSourcesToQueue.1.threadStats.numBlocks =
        thread.threadStats.numBlocks - thread.unackedSent ∧
      (thread.unackedSent = 0 →
        thread.returnUnackedSourcesToQueue.1.threadStats.effectiveDataBytes =
          thread.threadStats.effectiveDataBytes) := by
  unfold returnUnackedSourcesToQueue setCheckpointAndReturnToQueue unackedSent at *
  split at popped
  · rename_i rejected
    have whole : thread.numAcknowledged = thread.history.length := by
      by_contra differs
      simp [popAckedSourceStats, differs] at popped
    rw [if_pos rejected, whole, drop_length]
    exact ⟨(Int.sub_zero _).symm, fun _ => rfl⟩
  · rename_i accepted
    rw [if_neg accepted, ← countP_reverse]
    exact failSources_stats rfl _ _

end ThreadTransferHistory

variable {transferred : List TransferStats} {histories drained : List ObjectHistory}
  {queue left : DirectorySourceQueue}

theorem drainHistories_stats
    (drains : drainHistories false queue histories = some (drained, transferred, left)) :
    ((threadStatsOf drained).map TransferStats.numBlocks).sum =
        ((threadStatsOf histories).map TransferStats.numBlocks).sum -
          ((histories.map (fun history => history.thread.unackedSent)).sum : Nat) ∧
      ((histories.map (fun history => history.thread.unackedSent)).sum = 0 →
        ((threadStatsOf drained).map TransferStats.effectiveDataBytes).sum =
          ((threadStatsOf histories).map TransferStats.effectiveDataBytes).sum) := by
  induction histories generalizing queue drained transferred with
  | nil =>
    cases drains
    exact ⟨rfl, fun _ => rfl⟩
  | cons history rest ih =>
    simp only [drainHistories, Bool.false_eq_true, if_false, bind_eq_some_iff,
      map_eq_some_iff, Prod.exists] at drains
    obtain ⟨_, _, stats, popped, others, _, _, drainsRest, same⟩ := drains
    cases same
    have one := ThreadTransferHistory.returnUnackedSourcesToQueue_stats
      (isSome_of_mem popped)
    obtain ⟨blocks, bytes⟩ := ih drainsRest
    simp only [threadStatsOf, map_cons, sum_cons] at blocks bytes ⊢
    refine ⟨?_, fun none => ?_⟩
    · have first : history.returnUnackedSourcesToQueue.1.thread.threadStats.numBlocks = _ := one.1
      omega
    rw [bytes (by omega)]
    exact congrArg (· + _) (one.2 (by omega))

theorem drainHistories_acked
    (drains : drainHistories true queue histories = some (drained, transferred, left)) :
    threadStatsOf drained = threadStatsOf histories := by
  induction histories generalizing queue drained transferred with
  | nil => cases drains; rfl
  | cons history rest ih =>
    simp only [drainHistories, if_true, bind_eq_some_iff, map_eq_some_iff,
      Prod.exists] at drains
    obtain ⟨_, _, _, _, others, _, _, drainsRest, same⟩ := drains
    cases same
    exact congrArg (_ :: ·) (ih drainsRest)

theorem TransferReport.addsUp_iff {report : TransferReport}
    {threadStats corrected : List TransferStats}
    (summary : ∀ count ∈ TransferStats.reported,
      count report.summary = count (TransferStats.total threadStats))
    (sources : ∀ count ∈ TransferStats.reported,
      ((report.transferredSourceStats ++ report.failedSourceStats).map count).sum =
        (corrected.map count).sum) :
    report.AddsUp ↔ ∀ count ∈ TransferStats.reported,
      (threadStats.map count).sum = (corrected.map count).sum := by
  refine forall₂_congr (fun count shown => ?_)
  rw [summary count shown, sources count shown,
    TransferStats.count_total (TransferStats.counters_of_reported shown)]

theorem TransferReport.setErrorCode_reported (report : TransferReport) (code : ErrorCode) :
    ∀ count ∈ TransferStats.reported, count (report.setErrorCode code).summary =
      count report.summary := by
  simp [TransferStats.reported, setErrorCode, setLocalErrorCode,
    setRemoteErrorCode]

namespace Sender

/-- When the threads are joined: some thread ended without an error, or each source that was
sent whole is acknowledged. A report without joining them has no statistics of sources. -/
def Settled (sender : Sender threads) : Prop :=
  match sender.transferStatus with
  | .notStarted | .threadsJoined =>
    ∀ count ∈ TransferStats.reported, ((threadStatsOf sender.histories).map count).sum = 0
  | .ongoing | .finished =>
    (∃ history ∈ sender.histories, history.thread.threadStats.getErrorCode = .ok) ∨
      ∀ history ∈ sender.histories, history.thread.unackedSent = 0

theorem getTransferReport_addsUp_iff (sender : Sender threads) : sender.getTransferReport.AddsUp ↔
      ∀ count ∈ TransferStats.reported,
        ((threadStatsOf sender.histories).map count).sum = 0 := by
  refine @addsUp_iff sender.getTransferReport _ [] ?_ ?_
  · unfold getTransferReport
    dsimp only
    split
    · exact setErrorCode_reported _ _
    · exact fun _ _ => rfl
  · unfold getTransferReport
    dsimp only
    split <;> exact fun _ _ => rfl

theorem joined_addsUp_iff {acked : Bool}
    (drains : drainHistories acked queue histories = some (drained, transferred, left)) :
    (∀ count ∈ TransferStats.reported,
        ((threadStatsOf histories).map count).sum = ((threadStatsOf drained).map count).sum) ↔
      acked = true ∨ ∀ history ∈ histories, history.thread.unackedSent = 0 := by
  cases acked with
  | true =>
    rw [drainHistories_acked drains]
    exact iff_of_true (fun _ _ => rfl) (.inl rfl)
  | false =>
    obtain ⟨blocks, bytes⟩ := drainHistories_stats drains
    have noneUnacked : (∀ history ∈ histories, history.thread.unackedSent = 0) ↔
        (histories.map (fun history => history.thread.unackedSent)).sum = 0 := by
      rw [List.sum_eq_zero_iff, List.forall_mem_map]
    rw [noneUnacked, or_iff_right Bool.false_ne_true, TransferStats.reported,
      forall_mem_cons, forall_mem_singleton, blocks]
    constructor
    · intro same
      omega
    · intro none
      exact ⟨by omega, (bytes none).symm⟩

theorem report_adds_up_iff {report : TransferReport}
    (finished : sender.finish = some (report, after)) : report.AddsUp ↔ sender.Settled := by
  have acked :
      (threadStatsOf sender.histories).any (fun stats => stats.getErrorCode == .ok) = true ↔
        ∃ history ∈ sender.histories, history.thread.threadStats.getErrorCode = .ok := by
    simp [threadStatsOf]
  unfold finish Settled at *
  split at finished
  · cases finished
    exact sender.getTransferReport_addsUp_iff
  · cases finished
    exact sender.getTransferReport_addsUp_iff
  all_goals
    simp only [ite_none_left_eq_some, ite_none_right_eq_some,
      bind_eq_some_iff, Prod.exists] at finished
    obtain ⟨_, drained, transferred, left, drains, valid, same⟩ := finished
    cases same
    rw [← acked]
    refine (addsUp_iff (setErrorCode_reported _ _) ?_).trans
      (joined_addsUp_iff drains)
    intro count shown
    exact eq_of_beq (all_eq_true.mp valid count (TransferStats.counters_of_reported shown))

/-! ### Runs -/

/-- How sending a source ends: with an error, after some of its bytes, or whole. -/
inductive SendOutcome
  | failed (headerBytes dataBytes : Nat) (code : ErrorCode.Failure)
  | sent (headerBytes : Nat)

def sendOneByteSource (source : ByteSource) : SendOutcome → TransferStats
  | .failed headerBytes dataBytes code =>
    { headerBytes, dataBytes, localErrCode := code, failedAttempts := 1 }
  | .sent headerBytes =>
    { headerBytes, dataBytes := source.size, numBlocks := 1
      effectiveHeaderBytes := headerBytes, effectiveDataBytes := source.size }

/-- `source`: a step on the sources that is none of the other events. The codes of a thread
change at many places of its state machine. -/
inductive SenderEvent (threads : Nat)
  | start
  | createIntoQueue (seqId offset size : Nat)
  | enqueueFilesToBeDeleted (seqId : Nat)
  | source (event : SourceEvent threads)
  | openSource (thread : Fin threads) (opens : Bool)
  | sendBlocks (thread : Fin threads) (outcome : SendOutcome)
  | setErrorCodes (thread : Fin threads) (localErrCode remoteErrCode : ErrorCode)
  | finish

def withThreadStats (system : SourceSystem threads) (thread : Fin threads)
    (change : TransferStats → TransferStats) : SourceSystem threads :=
  let history := system.histories thread
  system.withHistory thread
    { history with
      thread := { history.thread with threadStats := change history.thread.threadStats } }

/-- `FileByteSource::open`. A file to be deleted is not opened, and keeps the code that its last
attempt has left. -/
def openSource (source : ByteSource) (opens : Bool) : ErrorCode × ByteSource :=
  if source.allocationStatus = .toBeDeleted then (.ok, source)
  else
    let errCode := if opens then .ok else .byteSourceReadError
    (errCode, { source with stats := source.stats.setLocalErrorCode errCode })

/-- Sending a source adds to the statistics of the thread and of the source, which goes to the
history. What other threads do meanwhile to that history and to the thread's counters commutes
with the additions, so they are one step. -/
def sourceStep (system : SourceSystem threads) : SenderEvent threads → Option (SourceSystem threads)
  | .createIntoQueue seqId offset size => system.step (.createIntoQueue { seqId, offset, size })
  | .enqueueFilesToBeDeleted seqId =>
    system.step
      (.createIntoQueue { seqId, offset := 0, size := 0, allocationStatus := .toBeDeleted })
  | .source (.createIntoQueue _) | .source (.finishOpen _ _) | .source (.addSource _) => none
  | .source event => system.step event
  | .openSource thread opens =>
    match system.hands thread with
    | .fetched ⟨id, source⟩ =>
      let (errCode, source) := openSource source opens
      (system.withHand thread (.fetched ⟨id, source⟩)).step (.finishOpen thread (errCode == .ok))
    | _ => none
  | .sendBlocks thread outcome =>
    match system.hands thread with
    | .opened ⟨id, source⟩ =>
      let stats := sendOneByteSource source outcome
      ((withThreadStats system thread (·.add stats)).withHand thread
        (.opened ⟨id, { source with stats := source.stats.add stats }⟩)).step (.addSource thread)
    | _ => none
  | .setErrorCodes thread localErrCode remoteErrCode =>
    some (withThreadStats system thread (fun stats => { stats with localErrCode, remoteErrCode }))
  | .start | .finish => none

def step (sender : Sender threads) : SenderEvent threads → Option (Sender threads)
  | .start =>
    if sender.transferStatus = .notStarted then some { sender with transferStatus := .ongoing }
    else none
  | .finish => sender.finish.map Prod.snd
  | event =>
    if sender.transferStatus = .ongoing then
      (sourceStep sender.sources event).map fun sources => { sender with sources }
    else none

/-- One source of five bytes is sent whole; then the thread gets `code`. -/
def sampleSend (code : ErrorCode) : List (SenderEvent 1) :=
  [.start, .createIntoQueue 0 0 5, .source (.fetch 0 0), .openSource 0 true,
    .sendBlocks 0 (.sent 20), .source (.returnToQueue 0), .setErrorCodes 0 code .ok]

def sampleReport (code : ErrorCode) : Option (TransferReport × Sender 1) :=
  (runsUnder step (fun _ _ => true) { totalSize := 5 } (sampleSend code)).bind finish

/-- The connection breaks before the receiver has acknowledged anything: the summary has the
block, the statistics of the sources do not. -/
theorem unacked_source_in_summary : ∃ report after, sampleReport .connError = some (report, after) ∧
      (report.summary.numBlocks, report.summary.effectiveDataBytes) = (1, 5) ∧
      (report.transferredSourceStats ++ report.failedSourceStats).map
        (fun stats => (stats.numBlocks, stats.effectiveDataBytes)) = [(0, 0)] ∧
      ¬ report.AddsUp := by
  have runs : ((sampleReport .connError).map fun (report, _) =>
      ((report.summary.numBlocks, report.summary.effectiveDataBytes),
        (report.transferredSourceStats ++ report.failedSourceStats).map
          (fun stats => (stats.numBlocks, stats.effectiveDataBytes)))) =
        some ((1, 5), [(0, 0)]) := by
    decide +kernel
  obtain ⟨⟨report, after⟩, reported, same⟩ := map_eq_some_iff.mp runs
  obtain ⟨summary, sources⟩ := Prod.mk.inj same
  refine ⟨report, after, reported, summary, sources, fun adds => ?_⟩
  have blocks := adds TransferStats.numBlocks (mem_cons_self ..)
  have listed := congrArg (fun pairs => (pairs.map Prod.fst).sum) sources
  rw [List.map_map] at listed
  rw [(Prod.mk.inj summary).1] at blocks
  exact absurd (blocks.trans listed) (by decide)

theorem report_adds_up_iff_sample :
    ∃ sender report after, runsUnder step (fun _ _ => true) { totalSize := 5 } (sampleSend .ok) =
        some sender ∧
      sender.finish = some (report, after) ∧ (report.AddsUp ↔ sender.Settled) := by
  have runs : (sampleReport .ok).isSome = true := by decide +kernel
  obtain ⟨⟨report, after⟩, reported⟩ := isSome_iff_exists.mp runs
  obtain ⟨sender, reached, finished⟩ := bind_eq_some_iff.mp reported
  exact ⟨sender, report, after, reached, finished, report_adds_up_iff finished⟩

end Sender

end Wdt
