/-
What a session knows of the live files, and what the disk keeps of them: one lemma
for each thing an operation does to the disk, to the live files or to the session.
-/

import Wdt.LogMirror

namespace Wdt

open List

/-! ### Live files -/

namespace Distinct

variable {live : List Incarnation}

theorem of_subset {fewer : List Incarnation} (distinct : Distinct live)
    (subset : ∀ file ∈ fewer, file ∈ live) : Distinct fewer :=
  fun file member other present =>
    distinct file (subset file member) other (subset other present)

theorem amended {amend : Incarnation → Incarnation} (distinct : Distinct live)
    (amends : Incarnation.Amends amend) : Distinct (live.map amend) := by
  intro file member other present same
  obtain ⟨first, isLive, rfl⟩ := mem_map.mp member
  obtain ⟨second, isLiveToo, rfl⟩ := mem_map.mp present
  rw [amends.seqId, amends.seqId, amends.fileName, amends.fileName] at same
  rw [distinct first isLive second isLiveToo same]

theorem snoc {file : Incarnation} (distinct : Distinct live)
    (unused : ∀ known ∈ live, known.fileName ≠ file.fileName ∧ known.seqId ≠ file.seqId) :
    Distinct (live ++ [file]) := by
  intro first member second present same
  rcases mem_append.mp member with old | new
  · rcases mem_append.mp present with oldToo | new
    · exact distinct first old second oldToo same
    · rw [mem_singleton.mp new] at same
      rcases same with seqId | fileName
      · exact absurd seqId (unused first old).2
      · exact absurd fileName (unused first old).1
  · rw [mem_singleton.mp new] at same ⊢
    rcases mem_append.mp present with old | newToo
    · rcases same with seqId | fileName
      · exact absurd seqId.symm (unused second old).2
      · exact absurd fileName.symm (unused second old).1
    · exact (mem_singleton.mp newToo).symm

end Distinct

variable {fileName : List Byte}

namespace Incarnation

/-- The file is on disk, as long as its blocks reach and, where files are preallocated, as any
size it was given. -/
def KeptOn (preallocate : Bool) (disk : Directory) (file : Incarnation) : Prop :=
  ∃ size, disk file.fileName = some size ∧ size ≤ int64Max ∧
    (∀ block ∈ file.blocks, block.stop ≤ size) ∧
    (preallocate = true → ∀ logged ∈ file.sizes, logged ≤ size)

namespace KeptOn

variable {preallocate : Bool} {disk after : Directory} {file : Incarnation}

section

variable (kept : file.KeptOn preallocate disk)

include kept

theorem registered : ∃ size, disk file.fileName = some size ∧
      file.registeredSize preallocate disk = some size := by
  obtain ⟨size, onDisk, _, _, allocated⟩ := kept
  refine ⟨size, onDisk, ?_⟩
  unfold registeredSize
  rw [onDisk]
  dsimp only
  rw [if_neg]
  intro fails
  rw [Bool.and_eq_true, decide_eq_true_eq] at fails
  exact absurd (allocated fails.1 _ mem_cons_self) (Nat.not_le.mpr fails.2)

theorem tolerated : file.ToleratedBy preallocate disk := by
  obtain ⟨size, onDisk, isRegistered⟩ := kept.registered
  obtain ⟨same, sameOnDisk, _, blocks, allocated⟩ := kept
  rw [onDisk, Option.some.injEq] at sameOnDisk
  rw [← sameOnDisk] at blocks allocated
  unfold ToleratedBy
  rw [isRegistered]
  exact ⟨blocks, fun preallocated logged member =>
    allocated preallocated logged (mem_cons_of_mem _ member)⟩

theorem congr (same : after file.fileName = disk file.fileName) :
    file.KeptOn preallocate after := by
  unfold KeptOn at kept ⊢
  rw [same]
  exact kept

theorem update_other (different : file.fileName ≠ fileName) (size : Option Nat) :
    file.KeptOn preallocate (Function.update disk fileName size) :=
  kept.congr (Function.update_of_ne different size disk)

end

end KeptOn

end Incarnation

/-! ### Sessions -/

structure SessionSound (preallocate : Bool) (disk : Directory) (live : List Incarnation)
    (session : LogSession) : Prop where
  named : ∀ file ∈ live, file.fileName ∈ session.touched ∨
    ∃ info ∈ session.reported, info.fileName = file.fileName
  numbered : ∀ file ∈ live, file.seqId ∈ session.usedSeqIds ∨
    ∃ info ∈ session.reported, info.seqId = file.seqId
  untouched : ∀ info ∈ session.reported, info.fileName ∉ session.touched →
    disk info.fileName = some info.fileSize ∧
      ∃ file ∈ live, file.seqId = info.seqId ∧ file.fileName = info.fileName
  opened : ∀ file ∈ session.opened, file.fileName ∈ session.touched ∧ file.fileSize ≤ int64Max ∧
      ∃ known ∈ live, known.seqId = file.seqId ∧ known.fileName = file.fileName
  pending : ∀ file ∈ session.pending, file.fileName ∈ session.touched ∧
    file.seqId ∈ session.usedSeqIds ∧
      (∀ known ∈ live, known.fileName ≠ file.fileName ∧ known.seqId ≠ file.seqId) ∧
      ∃ size, disk file.fileName = some size ∧ size ≤ int64Max ∧
        (preallocate = true → file.fileSize ≤ size)
  apart : session.pending.Pairwise
    (fun first second => first.fileName ≠ second.fileName ∧ first.seqId ≠ second.seqId)

variable {info : FileChunksInfo}

theorem LogSession.previous_eq_some {session : LogSession}
    (found : session.previous fileName = some info) :
    fileName ∉ session.touched ∧ info ∈ session.reported ∧ info.fileName = fileName := by
  unfold LogSession.previous at found
  by_cases touched : fileName ∈ session.touched
  · rw [if_pos touched] at found
    cases found
  · rw [if_neg touched] at found
    have passes := find?_some found
    exact ⟨touched, mem_of_find?_eq_some found, of_decide_eq_true passes⟩

theorem LogSession.not_reported {session : LogSession}
    (untouched : fileName ∉ session.touched) (absent : session.previous fileName = none) :
    ∀ info ∈ session.reported, info.fileName ≠ fileName := by
  unfold LogSession.previous at absent
  rw [if_neg untouched, find?_eq_none] at absent
  intro info member same
  exact absent info member (decide_eq_true same)

namespace SessionSound

variable {preallocate : Bool} {disk : Directory} {live : List Incarnation} {session : LogSession}

section

variable (sound : SessionSound preallocate disk live session)

include sound

theorem unused {seqId : Nat} (new : session.IsNewSeqId seqId) :
    (∀ file ∈ live, file.seqId ≠ seqId) ∧ ∀ file ∈ session.pending, file.seqId ≠ seqId := by
  constructor
  · intro file member same
    rcases sound.numbered file member with used | ⟨info, reported, equal⟩
    · rw [same] at used
      exact new.1 used
    · exact absurd (new.2 info reported) (by rw [equal, same]; exact lt_irrefl _)
  · intro file member same
    have used := (sound.pending file member).2.1
    rw [same] at used
    exact new.1 used

theorem awaited_elsewhere (untouched : fileName ∉ session.touched) :
    ∀ awaited ∈ session.pending, awaited.fileName ≠ fileName := by
  intro awaited member same
  have touched := (sound.pending awaited member).1
  rw [same] at touched
  exact untouched touched

theorem previous (found : session.previous fileName = some info) :
    fileName ∉ session.touched ∧ disk fileName = some info.fileSize ∧
      ∃ file ∈ live, file.seqId = info.seqId ∧ file.fileName = fileName := by
  obtain ⟨untouched, reported, named⟩ := LogSession.previous_eq_some found
  have known := sound.untouched info reported (by rw [named]; exact untouched)
  rw [named] at known
  exact ⟨untouched, known⟩

theorem setDisk (touched : fileName ∈ session.touched)
    (other : ∀ file ∈ session.pending, file.fileName ≠ fileName) (size : Option Nat) :
    SessionSound preallocate (Function.update disk fileName size) live session where
  __ := sound
  untouched := by
    intro info member isUntouched
    rw [Function.update_of_ne (fun same => isUntouched (by rw [same]; exact touched))]
    exact sound.untouched info member isUntouched
  pending := by
    intro file member
    rw [Function.update_of_ne (other file member)]
    exact sound.pending file member

end

theorem amended {amend : Incarnation → Incarnation} (amends : Incarnation.Amends amend)
    (sound : SessionSound preallocate disk live session) :
    SessionSound preallocate disk (live.map amend) session where
  named := by
    intro file member
    obtain ⟨origin, present, rfl⟩ := mem_map.mp member
    rw [amends.fileName]
    exact sound.named origin present
  numbered := by
    intro file member
    obtain ⟨origin, present, rfl⟩ := mem_map.mp member
    rw [amends.seqId]
    exact sound.numbered origin present
  untouched := by
    intro info member isUntouched
    rw [exists_mem_amended]
    simp only [amends.seqId, amends.fileName]
    exact sound.untouched info member isUntouched
  opened := by
    intro file member
    rw [exists_mem_amended]
    simp only [amends.seqId, amends.fileName]
    exact sound.opened file member
  pending := by
    intro file member
    obtain ⟨touched, used, unused, onDisk⟩ := sound.pending file member
    refine ⟨touched, used, ?_, onDisk⟩
    intro known present
    obtain ⟨origin, isLive, rfl⟩ := mem_map.mp present
    rw [amends.seqId, amends.fileName]
    exact unused origin isLive
  apart := sound.apart

theorem touch (sound : SessionSound preallocate disk live session) {fileName : List Byte} :
    SessionSound preallocate disk live (session.touch fileName) where
  __ := sound
  named := fun file member => (sound.named file member).imp_left (List.mem_cons_of_mem _)
  untouched := fun info member isUntouched =>
    sound.untouched info member (fun touched => isUntouched (List.mem_cons_of_mem _ touched))
  opened := fun file member =>
    (sound.opened file member).imp_left (List.mem_cons_of_mem _)
  pending := fun file member =>
    (sound.pending file member).imp_left (List.mem_cons_of_mem _)

section

variable (sound : SessionSound preallocate disk live session)

include sound

theorem touchKnown
    (found : session.previous fileName = some info) {fileSize : Nat} (small : fileSize ≤ int64Max) :
    SessionSound preallocate disk live { session.touch fileName with
      opened := { fileName, seqId := info.seqId, fileSize } :: session.opened } := by
  obtain ⟨_, _, known, present, facts⟩ := sound.previous found
  have touched := @touch _ _ _ _ sound fileName
  refine { touched with opened := fun file member => ?_ }
  rcases mem_cons.mp member with new | old
  · rw [new]
    exact ⟨mem_cons_self, small, known, present, facts⟩
  · exact touched.opened file old

theorem retire (distinct : Distinct live) (found : session.previous fileName = some info) :
    SessionSound preallocate disk (live.filter (fun file => decide (file.seqId ≠ info.seqId)))
      (session.touch fileName) := by
  obtain ⟨isUntouched, _, file, isLive, seqId, named⟩ := sound.previous found
  have touched := @touch _ _ _ _ sound fileName
  have fewer : ∀ other ∈ live.filter (fun file => decide (file.seqId ≠ info.seqId)),
      other ∈ live := fun other member => (mem_filter.mp member).1
  -- the retired file has the name that is touched now, so any other name keeps its file
  have stays : ∀ other ∈ live, other.fileName ≠ fileName →
      other ∈ live.filter (fun file => decide (file.seqId ≠ info.seqId)) := by
    intro other present different
    apply mem_filter.mpr
    refine ⟨present, decide_eq_true (fun same => different ?_)⟩
    rw [distinct other present file isLive (.inl (same.trans seqId.symm)), named]
  constructor
  · exact fun other member => touched.named other (fewer other member)
  · exact fun other member => touched.numbered other (fewer other member)
  · intro other member isUntouchedNow
    obtain ⟨onDisk, known, present, facts⟩ := touched.untouched other member isUntouchedNow
    refine ⟨onDisk, known, stays known present (fun same => isUntouchedNow ?_), facts⟩
    rw [← facts.2, same]
    exact mem_cons_self
  · intro other member
    obtain ⟨wasTouched, small, known, present, facts⟩ := sound.opened other member
    refine ⟨mem_cons_of_mem _ wasTouched, small, known,
      stays known present (fun same => isUntouched ?_), facts⟩
    rw [← same, facts.2]
    exact wasTouched
  · intro other member
    obtain ⟨wasTouched, used, unused, onDisk⟩ := touched.pending other member
    exact ⟨wasTouched, used, fun known present => unused known (fewer known present), onDisk⟩
  · exact touched.apart

theorem await {file : OpenFile} (touched : file.fileName ∈ session.touched)
    (new : session.IsNewSeqId file.seqId) (gone : ∀ known ∈ live, known.fileName ≠ file.fileName)
    (other : ∀ awaited ∈ session.pending, awaited.fileName ≠ file.fileName) {size : Nat}
    (onDisk : disk file.fileName = some size) (small : size ≤ int64Max)
    (allocated : preallocate = true → file.fileSize ≤ size) :
    SessionSound preallocate disk live { session with
      usedSeqIds := file.seqId :: session.usedSeqIds
      pending := file :: session.pending } := by
  obtain ⟨unusedLive, unusedPending⟩ := sound.unused new
  refine ⟨sound.named, ?_, sound.untouched, sound.opened, ?_, ?_⟩
  · exact fun known present => (sound.numbered known present).imp_left (mem_cons_of_mem _)
  · intro awaited member
    rcases mem_cons.mp member with this | old
    · rw [this]
      exact ⟨touched, mem_cons_self,
        fun known present => ⟨gone known present, unusedLive known present⟩,
        size, onDisk, small, allocated⟩
    · obtain ⟨wasTouched, used, facts⟩ := sound.pending awaited old
      exact ⟨wasTouched, mem_cons_of_mem _ used, facts⟩
  · exact pairwise_cons.mpr ⟨fun awaited member =>
      ⟨fun same => other awaited member same.symm,
        fun same => unusedPending awaited member same.symm⟩, sound.apart⟩

theorem recreate {file : OpenFile} (awaited : file ∈ session.pending)
    (small : file.fileSize ≤ int64Max) :
    SessionSound preallocate disk (live ++
      [{ seqId := file.seqId, fileName := file.fileName, createdSize := file.fileSize }])
      { session with
        pending := session.pending.erase file
        opened := file :: session.opened } := by
  obtain ⟨touched, used, _⟩ := sound.pending file awaited
  -- any other awaited file has another name and another seq-id
  have others : ∀ other ∈ session.pending.erase file,
      file.fileName ≠ other.fileName ∧ file.seqId ≠ other.seqId := by
    have sorted := (perm_cons_erase awaited).pairwise_iff
      (fun {first second} apart => And.intro apart.1.symm apart.2.symm) |>.mp sound.apart
    exact (pairwise_cons.mp sorted).1
  constructor
  · intro known member
    rcases mem_append.mp member with old | new
    · exact sound.named known old
    · rw [mem_singleton.mp new]
      exact .inl touched
  · intro known member
    rcases mem_append.mp member with old | new
    · exact sound.numbered known old
    · rw [mem_singleton.mp new]
      exact .inl used
  · intro info member isUntouched
    obtain ⟨onDisk, known, present, facts⟩ := sound.untouched info member isUntouched
    exact ⟨onDisk, known, mem_append_left _ present, facts⟩
  · intro other member
    rcases mem_cons.mp member with new | old
    · rw [new]
      exact ⟨touched, small, _, mem_append_right _ mem_cons_self, rfl, rfl⟩
    · obtain ⟨wasTouched, wasSmall, known, present, facts⟩ := sound.opened other old
      exact ⟨wasTouched, wasSmall, known, mem_append_left _ present, facts⟩
  · intro other member
    obtain ⟨wasTouched, wasUsed, unused, onDisk⟩ :=
      sound.pending other (mem_of_mem_erase member)
    refine ⟨wasTouched, wasUsed, ?_, onDisk⟩
    intro known present
    rcases mem_append.mp present with old | new
    · exact unused known old
    · rw [mem_singleton.mp new]
      exact others other member
  · exact sound.apart.sublist erase_sublist

end

end SessionSound

theorem setFileSize_le (preallocate : Bool) (current fileSize : Nat) :
    setFileSize preallocate current fileSize ≤ max current fileSize := by
  unfold setFileSize
  dsimp only
  repeat' split
  all_goals omega

theorem le_setFileSize_of_preallocate {preallocate : Bool} (preallocated : preallocate = true)
    (current fileSize : Nat) : fileSize ≤ setFileSize preallocate current fileSize := by
  rw [preallocated]
  unfold setFileSize
  dsimp only
  repeat' split
  all_goals first | omega | contradiction

theorem le_setFileSize_of_lt (preallocate : Bool) {current fileSize : Nat}
    (grows : current < fileSize) : current ≤ setFileSize preallocate current fileSize := by
  unfold setFileSize
  dsimp only
  repeat' split
  all_goals omega

theorem le_writtenSize (current offset dataSize : Nat) :
    current ≤ writtenSize current offset dataSize := by
  unfold writtenSize
  split
  all_goals omega

theorem writtenSize_le (current offset dataSize : Nat) :
    writtenSize current offset dataSize ≤ max current (offset + dataSize) := by
  unfold writtenSize
  split
  all_goals omega

theorem block_within_writtenSize (current : Nat) {offset dataSize : Nat}
    (block : 0 < dataSize ∨ offset = 0) :
    offset + dataSize ≤ writtenSize current offset dataSize := by
  unfold writtenSize
  split
  all_goals omega

section

variable {preallocate : Bool} {disk : Directory} {live : List Incarnation}
  {file : Incarnation} {amend : Incarnation → Incarnation} {size larger : Nat}

theorem Incarnation.KeptOn.grown (kept : file.KeptOn preallocate disk)
    (amends : Incarnation.Amends amend) (onDisk : disk file.fileName = some size)
    (longer : size ≤ larger) (small : larger ≤ int64Max)
    (blocks : ∀ block ∈ (amend file).blocks, block ∈ file.blocks ∨ block.stop ≤ larger)
    (sizes : preallocate = true →
      ∀ resized ∈ (amend file).resizes, resized ∈ file.resizes ∨ resized ≤ larger) :
    (amend file).KeptOn preallocate (Function.update disk file.fileName (some larger)) := by
  obtain ⟨same, sameOnDisk, _, reach, allocated⟩ := kept
  rw [onDisk, Option.some.injEq] at sameOnDisk
  rw [← sameOnDisk] at reach allocated
  refine ⟨larger, ?_, small, ?_, ?_⟩
  · rw [amends.fileName, Function.update_self]
  · intro block member
    rcases blocks block member with old | new
    · exact (reach block old).trans longer
    · exact new
  · intro preallocated logged member
    rcases mem_cons.mp member with created | resized
    · rw [created, amends.createdSize]
      exact (allocated preallocated _ mem_cons_self).trans longer
    · rcases sizes preallocated logged resized with old | new
      · exact (allocated preallocated _ (mem_cons_of_mem _ old)).trans longer
      · exact new

theorem kept_amended (distinct : Distinct live)
    (kept : ∀ known ∈ live, known.KeptOn preallocate disk) (member : file ∈ live)
    (others : ∀ known, known.seqId ≠ file.seqId → amend known = known)
    (this : (amend file).KeptOn preallocate (Function.update disk file.fileName (some larger))) :
    ∀ known ∈ live.map amend, known.KeptOn preallocate
      (Function.update disk file.fileName (some larger)) := by
  intro known present
  obtain ⟨origin, isLive, rfl⟩ := mem_map.mp present
  by_cases same : origin.seqId = file.seqId
  · rw [distinct origin isLive file member (.inl same)]
    exact this
  · rw [others origin same]
    refine (kept origin isLive).update_other (fun named => same ?_) _
    rw [distinct origin isLive file member (.inr named)]

end

end Wdt
