/-
The performance report of Reporting.cpp: every thread has one, and they are merged.
The initialiser of the minima names the first kind only; the others start at 0.
-/

import Wdt.Protocol
import Mathlib.Order.Lattice
import Mathlib.Logic.Function.Basic

namespace Wdt

open List

inductive StatType
  | socketRead | socketWrite | fileOpen | fileClose | fileRead | fileWrite | syncFileRange
  | fsyncStats | fileSeek | throttlerSleep | receiverWaitSleep | directoryCreate | ioctl | unlink
  | fadvise
  deriving DecidableEq

/-- One kind of statistic in a report; a missing entry of the map counts as 0. -/
structure PerfStat where
  perfStats : Int → Int := fun _ => 0
  maxValueMicros : Int := 0
  minValueMicros : Int
  count : Int := 0
  sumMicros : Int := 0

def kMicroToMilli : Int := 1000

namespace PerfStat

/-- What `addPerfStat` does to its kind. -/
def record (stat : PerfStat) (timeInMicros : Int) : PerfStat where
  perfStats := Function.update stat.perfStats (timeInMicros.tdiv kMicroToMilli)
    (stat.perfStats (timeInMicros.tdiv kMicroToMilli) + 1)
  maxValueMicros := max stat.maxValueMicros timeInMicros
  minValueMicros := min stat.minValueMicros timeInMicros
  count := stat.count + 1
  sumMicros := stat.sumMicros + timeInMicros

def add (stat other : PerfStat) : PerfStat where
  perfStats key := stat.perfStats key + other.perfStats key
  maxValueMicros := max stat.maxValueMicros other.maxValueMicros
  minValueMicros := min stat.minValueMicros other.minValueMicros
  count := stat.count + other.count
  sumMicros := stat.sumMicros + other.sumMicros

end PerfStat

/-- How a report came about. -/
inductive PerfStatReport
  | start
  | addPerfStat (report : PerfStatReport) (type : StatType) (timeInMicros : Int)
  | add (report other : PerfStatReport)

namespace PerfStatReport

-- the initialiser of the array names its first element only
def firstMin (type : StatType) : Int := if type = .socketRead then int64Max else 0

def stats : PerfStatReport → StatType → PerfStat
  | start => fun type => { minValueMicros := firstMin type }
  | addPerfStat report type timeInMicros =>
    Function.update report.stats type ((report.stats type).record timeInMicros)
  | add report other => fun type => (report.stats type).add (other.stats type)

def samples : PerfStatReport → StatType → List Int
  | start => fun _ => []
  | addPerfStat report type timeInMicros =>
    Function.update report.samples type (report.samples type ++ [timeInMicros])
  | add report other => fun type => report.samples type ++ other.samples type

variable {le : Int → Int → Prop} {first value other result : Int} {samples more : List Int}

def Extreme (le : Int → Int → Prop) (samples : List Int) (value : Int) : Prop :=
  value ∈ samples ∧ ∀ sample ∈ samples, le value sample

theorem Extreme.append [IsTrans Int le] (left : Extreme le (first :: samples) value)
    (memberToo : other ∈ first :: more) (boundToo : ∀ sample ∈ more, le other sample)
    (picked : (result = value ∧ le value other) ∨ (result = other ∧ le other value)) :
    Extreme le (first :: (samples ++ more)) result := by
  obtain ⟨member, bound⟩ := left
  rw [← cons_append]
  rcases picked with ⟨rfl, less⟩ | ⟨rfl, less⟩
  · refine ⟨mem_append_left more member, fun sample among => ?_⟩
    rcases mem_append.mp among with early | late
    · exact bound sample early
    · exact IsTrans.trans _ _ _ less (boundToo sample late)
  · refine ⟨by simp only [mem_cons, mem_append] at *; tauto, fun sample among => ?_⟩
    rcases mem_append.mp among with early | late
    · exact IsTrans.trans _ _ _ less (bound sample early)
    · exact boundToo sample late

/-- The first value plays no part if and only if some sample is as extreme. -/
theorem Extreme.of_first [Std.Antisymm le] (extreme : Extreme le (first :: samples) value) :
    Extreme le samples value ↔ ∃ sample ∈ samples, le sample first := by
  obtain ⟨member, bound⟩ := extreme
  have later := (forall_mem_cons.mp bound).2
  constructor
  · rintro ⟨among, -⟩
    exact ⟨value, among, bound first mem_cons_self⟩
  · rintro ⟨sample, among, less⟩
    rcases mem_cons.mp member with rfl | isSample
    · have same : sample = value := antisymm less (later sample among)
      exact ⟨same ▸ among, later⟩
    · exact ⟨isSample, later⟩

/-! ### Every kind -/

/-- What does not depend on the first values. -/
structure Totals (stat : PerfStat) (samples : List Int) : Prop where
  count : stat.count = samples.length
  sum : stat.sumMicros = samples.sum
  buckets : ∀ millis, stat.perfStats millis =
    samples.countP (fun sample => sample.tdiv kMicroToMilli = millis)

structure Tracks (first : Int) (stat : PerfStat) (samples : List Int) : Prop where
  totals : Totals stat samples
  min : Extreme (· ≤ ·) (first :: samples) stat.minValueMicros
  max : Extreme (· ≥ ·) (0 :: samples) stat.maxValueMicros

variable {stat : PerfStat}

theorem Tracks.add {into : PerfStat} (tracks : Tracks first stat samples)
    (tracksToo : Tracks first into more) : Tracks first (stat.add into) (samples ++ more) := by
  refine ⟨⟨?_, ?_, fun millis => ?_⟩,
    tracks.min.append tracksToo.min.1 (forall_mem_cons.mp tracksToo.min.2).2 ?_,
    tracks.max.append tracksToo.max.1 (forall_mem_cons.mp tracksToo.max.2).2 ?_⟩
  · simp [PerfStat.add, tracks.totals.count, tracksToo.totals.count]
  · simp [PerfStat.add, tracks.totals.sum, tracksToo.totals.sum]
  · simp [PerfStat.add, tracks.totals.buckets, tracksToo.totals.buckets]
  · dsimp only [PerfStat.add]
    omega
  · dsimp only [PerfStat.add]
    omega

theorem Tracks.record (tracks : Tracks first stat samples) (timeInMicros : Int) :
    Tracks first (stat.record timeInMicros) (samples ++ [timeInMicros]) := by
  refine ⟨⟨?_, ?_, fun millis => ?_⟩,
    tracks.min.append (mem_cons_of_mem _ mem_cons_self) (by simp) ?_,
    tracks.max.append (mem_cons_of_mem _ mem_cons_self) (by simp) ?_⟩
  · simp [PerfStat.record, tracks.totals.count]
  · simp [PerfStat.record, tracks.totals.sum]
  · by_cases same : millis = timeInMicros.tdiv kMicroToMilli
    · simp [PerfStat.record, tracks.totals.buckets, same]
    · simp [PerfStat.record, tracks.totals.buckets, same, Ne.symm same]
  · dsimp only [PerfStat.record]
    omega
  · dsimp only [PerfStat.record]
    omega

theorem tracks_stats (report : PerfStatReport) (type : StatType) :
    Tracks (firstMin type) (report.stats type) (report.samples type) := by
  induction report with
  | start =>
    exact ⟨⟨rfl, rfl, fun _ => rfl⟩, by simp [Extreme, stats, PerfStatReport.samples],
      by simp [Extreme, stats, PerfStatReport.samples]⟩
  | addPerfStat report kind timeInMicros ih =>
    by_cases same : type = kind
    · subst same
      simp only [stats, PerfStatReport.samples, Function.update_self]
      exact ih.record timeInMicros
    · simp only [stats, PerfStatReport.samples, Function.update_of_ne same]
      exact ih
  | add report other ih ihOther => exact ih.add ihOther

/-- The report is that of all samples if and only if each kind with samples has one that is at
most its first minimum, and one that is not negative. -/
theorem perf_report_exact_iff (report : PerfStatReport) :
    (∀ type, Totals (report.stats type) (report.samples type) ∧ (report.samples type ≠ [] →
      Extreme (· ≤ ·) (report.samples type) (report.stats type).minValueMicros ∧
      Extreme (· ≥ ·) (report.samples type) (report.stats type).maxValueMicros)) ↔
    ∀ type, report.samples type ≠ [] →
      (∃ sample ∈ report.samples type, sample ≤ firstMin type) ∧
      ∃ sample ∈ report.samples type, 0 ≤ sample := by
  refine forall_congr' fun type => ?_
  have tracks := tracks_stats report type
  rw [and_iff_right tracks.totals, tracks.min.of_first, tracks.max.of_first]

/-- The minimum of a kind behind the first stays at 0. -/
theorem minimum_of_file_open : (start.addPerfStat .fileOpen 5).samples .fileOpen = [5] ∧
    ((start.addPerfStat .fileOpen 5).stats .fileOpen).minValueMicros = 0 := by
  decide

end PerfStatReport

end Wdt
