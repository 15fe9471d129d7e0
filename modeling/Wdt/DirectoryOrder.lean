/-
The order in which directories are made. `createDirRecursively` climbs to the first
directory that is in the cache and comes back with one mkdir for each directory on the
way, up to the first that fails.
-/

import Wdt.DestinationFiles
import Mathlib.Data.List.DropRight

namespace Wdt

open List

namespace RootedFileCreator

/-- Empty for a directory in the root. -/
def parentDir (dir : List Byte) : List Byte := dir.take (lastSlash dir (dir.length - 1))

variable {creator : RootedFileCreator} {system : FileSystem} {force : Bool} {log : CallLog}
  {dir : List Byte} {pending : List (List Byte)}

theorem parentDir_length (nonempty : dir ≠ []) : (parentDir dir).length < dir.length := by
  have bounded := lastSlash_le dir (dir.length - 1)
  have positive := length_pos_of_ne_nil nonempty
  rw [parentDir, length_take]
  omega

/-- The directory itself comes last. -/
def ancestors (dir : List Byte) : List (List Byte) :=
  if _ : dir = [] then [] else ancestors (parentDir dir) ++ [dir]
termination_by dir.length
decreasing_by exact parentDir_length ‹_›

theorem ancestors_nil : ancestors [] = [] := by
  rw [ancestors, dif_pos rfl]

theorem ancestors_concat (nonempty : dir ≠ []) :
    ancestors dir = ancestors (parentDir dir) ++ [dir] := by
  rw [ancestors, dif_neg nonempty]

/-- Each directory comes right behind its parent. -/
theorem ancestors_chain {before after : List (List Byte)} {next : List Byte}
    (split : ancestors dir = before ++ next :: after) :
    before = [] ∧ parentDir next = [] ∨ before.getLast? = some (parentDir next) := by
  induction dir using ancestors.induct generalizing after with
  | case1 =>
    rw [ancestors_nil] at split
    cases before <;> cases split
  | case2 dir nonempty ih =>
    rw [ancestors_concat nonempty] at split
    rcases eq_nil_or_concat' after with rfl | ⟨early, last, rfl⟩
    · obtain ⟨rfl, same⟩ := append_inj' split rfl
      cases same
      by_cases top : parentDir next = []
      · exact .inl ⟨by rw [top, ancestors_nil], top⟩
      · exact .inr (by rw [ancestors_concat top, getLast?_concat])
    · rw [← cons_append, ← append_assoc] at split
      exact ih (append_inj_left' split rfl)

/-! ### What a call does -/

def isPending (system : FileSystem) (force : Bool) (log : CallLog) (dir : List Byte) : Bool :=
  force || !log.dirCreated system dir

/-- With `force` every ancestor, otherwise those behind the last one in the cache. -/
def pendingDirs (system : FileSystem) (force : Bool) (dir : List Byte) (log : CallLog) :
    List (List Byte) :=
  (ancestors dir).rtakeWhile (isPending system force log)

def mkdirs (creator : RootedFileCreator) (dirs : List (List Byte)) : List FileCall :=
  dirs.map (fun dir => .mkdir (creator.getFullPath dir))

/-- All are made or found, or the first that fails ends it and is not recorded. -/
inductive Attempted (creator : RootedFileCreator) (system : FileSystem) (log : CallLog) :
    List (List Byte) → Bool × CallLog → Prop
  | all {pending : List (List Byte)}
      (succeed : ∀ i < pending.length, system.mkdir (log.calls.length + i) ≠ .failed) :
      Attempted creator system log pending (true,
        { calls := log.calls ++ creator.mkdirs pending
          createdDirs := pending.reverse ++ log.createdDirs })
  | stopped {done rest : List (List Byte)} {dir : List Byte}
      (succeed : ∀ i < done.length, system.mkdir (log.calls.length + i) ≠ .failed)
      (fails : system.mkdir (log.calls.length + done.length) = .failed) :
      Attempted creator system log (done ++ dir :: rest) (false,
        { calls := log.calls ++ creator.mkdirs (done ++ [dir])
          createdDirs := done.reverse ++ log.createdDirs })

theorem attempted_nil : creator.Attempted system log [] (true, log) := by
  simpa [mkdirs] using @Attempted.all creator system log [] nofun

theorem Attempted.concat {made : Bool} {after : CallLog}
    (attempted : creator.Attempted system log pending (made, after)) :
    creator.Attempted system log (pending ++ [dir])
      (if made then creator.makeDir system dir after else (false, after)) := by
  cases attempted with
  | all succeed =>
    have length : (log.calls ++ creator.mkdirs pending).length =
        log.calls.length + pending.length := by
      simp [mkdirs]
    rw [if_pos rfl]
    unfold makeDir
    rw [length]
    split
    · rename_i fails
      simpa [CallLog.record, mkdirs] using Attempted.stopped succeed fails
    · rename_i passes
      have more : ∀ i < (pending ++ [dir]).length,
          system.mkdir (log.calls.length + i) ≠ .failed := by
        intro i within
        rw [length_append, length_singleton, Nat.lt_succ_iff_lt_or_eq] at within
        rcases within with early | rfl
        · exact succeed i early
        · exact passes
      simpa [CallLog.record, mkdirs] using Attempted.all more
  | stopped succeed fails =>
    rw [append_assoc, cons_append]
    exact .stopped succeed fails

theorem createDirRecursively_attempts (writes : creator.skipWrites = false)
    (slashed : dir.getLast? = some slash) :
    ∃ result, creator.createDirRecursively system force dir log = .go result ∧
      creator.Attempted system log (pendingDirs system force dir log) result := by
  induction dir using ancestors.induct with
  | case1 => cases slashed
  | case2 dir nonempty ih =>
    rw [createDirRecursively, writes, if_neg Bool.false_ne_true]
    unfold pendingDirs
    rw [ancestors_concat nonempty]
    have returns : (!force && log.dirCreated system dir) = !isPending system force log dir := by
      simp [isPending]
    rw [returns]
    by_cases isNext : isPending system force log dir = true
    case neg =>
      rw [rtakeWhile_concat_neg _ _ _ isNext, Bool.eq_false_iff.mpr isNext]
      exact ⟨_, rfl, attempted_nil⟩
    rw [rtakeWhile_concat_pos _ _ _ isNext, isNext]
    simp only [Outcome.check, slashed, beq_self_eq_true, if_true, Bool.not_true,
      Bool.false_eq_true, if_false]
    split
    · rename_i hasParent
      obtain ⟨front, shape⟩ := take_lastSlash (Nat.sub_le _ 1) hasParent
      obtain ⟨⟨made, after⟩, goes, attempted⟩ := ih (getLast?_eq_some_iff.mpr ⟨front, shape⟩)
      refine ⟨_, ?_, attempted.concat⟩
      change Outcome.bind (creator.createDirRecursively system force (parentDir dir) log) _ = _
      rw [goes]
      cases made <;> rfl
    · rename_i top
      rw [parentDir, Nat.eq_zero_of_not_pos top, take_zero, ancestors_nil]
      exact ⟨_, rfl, attempted_nil.concat⟩

theorem pendingDirs_chain {before after : List (List Byte)} {next : List Byte}
    (split : pendingDirs system force dir log = before ++ next :: after) :
    parentDir next = [] ∨ before.getLast? = some (parentDir next) ∨
      before = [] ∧ log.dirCreated system (parentDir next) = true := by
  have whole : (ancestors dir).rdropWhile (isPending system force log) ++
      pendingDirs system force dir log = ancestors dir := rdropWhile_append_rtakeWhile
  rw [split, ← append_assoc] at whole
  rcases ancestors_chain whole.symm with ⟨_, top⟩ | behind
  · exact .inl top
  rcases eq_nil_or_concat' before with rfl | ⟨early, last, rfl⟩
  · rw [append_nil] at behind
    have nonempty := ne_nil_of_mem (mem_of_getLast? behind)
    have cached := rdropWhile_last_not _ _ nonempty
    rw [getLast?_eq_some_getLast nonempty] at behind
    rw [Option.some_inj.mp behind] at cached
    exact .inr (.inr ⟨rfl, by simpa using (not_or.mp (cached ∘ Bool.or_eq_true_iff.mpr)).2⟩)
  · rw [← append_assoc, getLast?_concat] at behind
    exact .inr (.inl (by rw [getLast?_concat, behind]))

/-! ### The cache -/

/-- Entries that other threads make during a call are theirs to justify. -/
def ParentsRecorded (system : FileSystem) (log : CallLog) : Prop :=
  ∀ dir ∈ log.createdDirs, parentDir dir = [] ∨ log.dirCreated system (parentDir dir) = true

/-- No entry is dropped between two calls. -/
def KeepsDirs (system : FileSystem) : Prop :=
  ∀ calls, system.otherDirs calls ⊆ system.otherDirs (calls + 1)

theorem dirCreated_later {made : Bool} {after : CallLog} (kept : KeepsDirs system)
    (attempted : creator.Attempted system log pending (made, after))
    (cached : log.dirCreated system dir = true) : after.dirCreated system dir = true := by
  have later (more : Nat) :
      system.otherDirs log.calls.length ⊆ system.otherDirs (log.calls.length + more) := by
    induction more with
    | zero => exact Subset.refl _
    | succ more ih => exact fun _ other => kept _ (ih other)
  simp only [CallLog.dirCreated, Bool.or_eq_true, contains_iff_mem] at cached ⊢
  cases attempted with
  | all | stopped =>
    rw [length_append]
    exact cached.imp (mem_append_right _) (fun other => later _ other)

theorem Attempted.parentsRecorded {made : Bool} {after : CallLog}
    (attempted : creator.Attempted system log (pendingDirs system force dir log) (made, after))
    (kept : KeepsDirs system) (recorded : ParentsRecorded system log) :
    ParentsRecorded system after := by
  obtain ⟨done, rest, split, entered⟩ :
      ∃ done rest, pendingDirs system force dir log = done ++ rest ∧
        after.createdDirs = done.reverse ++ log.createdDirs := by
    generalize pendingDirs system force dir log = pending at attempted
    cases attempted with
    | all => exact ⟨pending, [], (append_nil _).symm, rfl⟩
    | stopped => exact ⟨_, _, rfl, rfl⟩
  intro next member
  rw [entered] at member
  rcases mem_append.mp member with new | old
  · obtain ⟨before, behind, parts⟩ := append_of_mem (mem_reverse.mp new)
    rw [parts, append_assoc, cons_append] at split
    rcases pendingDirs_chain split with top | made | ⟨_, cached⟩
    · exact .inl top
    · refine .inr (Bool.or_eq_true_iff.mpr (.inl (contains_iff_mem.mpr ?_)))
      rw [entered, parts]
      simp [mem_of_getLast? made]
    · exact .inr (dirCreated_later kept attempted cached)
  · exact (recorded next old).imp_right (dirCreated_later kept attempted)

/-- For every path that `createFile` takes its directory from and every state of the cache: the
call returns; it attempts the directories from the outside in, with `force` all of them, and
else those behind the last one in the cache; it stops at the first failure; and as long as no
entry is dropped meanwhile, each entry has its parent in the cache. -/
theorem directories_made_in_order (creator : RootedFileCreator) (system : FileSystem)
    (force : Bool) (name : List Byte) (log : CallLog) (writes : creator.skipWrites = false)
    (nested : 0 < lastSlash name name.length) :
    let dir := name.take (lastSlash name name.length)
    let pending := pendingDirs system force dir log
    (force = true → pending = ancestors dir) ∧
    (∀ before next after, pending = before ++ next :: after → parentDir next = [] ∨
      before.getLast? = some (parentDir next) ∨
      before = [] ∧ log.dirCreated system (parentDir next) = true) ∧
    ∃ made after, creator.createDirRecursively system force dir log = .go (made, after) ∧
      creator.Attempted system log pending (made, after) ∧
      ((∀ calls, system.otherDirs calls ⊆ system.otherDirs (calls + 1)) →
        ParentsRecorded system log → ParentsRecorded system after) := by
  obtain ⟨front, shape⟩ := take_lastSlash (Nat.le_refl _) nested
  have slashed : (name.take (lastSlash name name.length)).getLast? = some slash :=
    getLast?_eq_some_iff.mpr ⟨front, shape⟩
  obtain ⟨⟨made, after⟩, goes, attempted⟩ :=
    @createDirRecursively_attempts creator system force log _ writes slashed
  refine ⟨fun forced => ?_, fun _ _ _ => pendingDirs_chain, made, after, goes, attempted,
    attempted.parentsRecorded⟩
  rw [forced]
  exact rtakeWhile_eq_self_iff.mpr (fun _ _ => Bool.true_or _)

/-- The file "a/b/c" in a root where the second mkdir fails. -/
theorem directories_made_in_order_nested :
    let system : FileSystem :=
      { mkdir := fun calls => if calls = 1 then .failed else .made
        opens := fun _ => true
        otherDirs := fun _ => [] }
    ∃ made after, (ofRoot [slash] false true).createDirRecursively system false
        [0x61, slash, 0x62, slash] {} = .go (made, after) ∧ ParentsRecorded system after := by
  intro system
  obtain ⟨_, _, made, after, goes, _, recorded⟩ := directories_made_in_order
    (ofRoot [slash] false true) system false [0x61, slash, 0x62, slash, 0x63] {} rfl (by decide)
  exact ⟨made, after, goes, recorded (fun _ => Subset.refl _) nofun⟩

end RootedFileCreator

end Wdt
