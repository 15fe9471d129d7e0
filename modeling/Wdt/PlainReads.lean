/-
Reading a connection without tags, whose reads deliver at least one byte each. What
matters of such a connection is the sequence of bytes still to come: the reads of a
command leave the rest of it in the window and in the connection, however the bytes
were split into arrivals.
-/

import Wdt.ReceiverThread

namespace Wdt

open List Memory

namespace Connection

def coming (connection : Connection) : List Byte := (connection.segments.map Segment.bytes).flatten

structure Plain (connection : Connection) : Prop where
  untagged : connection.tagged = false
  noTag : ∀ segment ∈ connection.segments, segment.tagVerified = false
  nonempty : ∀ segment ∈ connection.segments, segment.bytes ≠ []
  noLastTag : connection.lastTagVerified = false

end Connection

namespace ReceiverThread

/-- The thread after reads: only its buffer and its connection have changed. -/
abbrev withReads (thread : ReceiverThread) (buf : Memory Byte) (connection : Connection) :
    ReceiverThread :=
  { thread with buf, connection }

structure PlainRead (thread : ReceiverThread) (start nbyte : Nat) (bytes : List Byte)
    (connection : Connection) : Prop where
  result : ∃ count : Int, thread.socketRead start nbyte =
      (count, thread.withReads (thread.buf.store start bytes) connection) ∧
    count.toNat = bytes.length ∧ (0 < count ↔ bytes ≠ []) ∧ (count < 0 → bytes = [])
  plain : connection.Plain
  coming : thread.connection.coming = bytes ++ connection.coming
  length_le : bytes.length ≤ nbyte
  ended : 0 < nbyte → bytes = [] → thread.connection.coming = []

theorem store_nil (buf : Memory Byte) (start : Nat) : buf.store start [] = buf := by
  funext address
  simp [store]

theorem socketRead_plain {thread : ReceiverThread} (plain : thread.connection.Plain)
    (start nbyte : Nat) : ∃ bytes connection, PlainRead thread start nbyte bytes connection := by
  cases segments : thread.connection.segments with
  | nil =>
    have none : thread.connection.coming = [] := by
      simp [Connection.coming, segments]
    refine ⟨[], { thread.connection with lastTagVerified := false }, ?_, ?_, ?_,
      Nat.zero_le _, fun _ _ => none⟩
    · refine ⟨if thread.connection.endOfFile then 0 else -1, ?_, ?_, ?_, fun _ => rfl⟩
      · unfold socketRead
        rw [segments, store_nil]
        simp [tagVerification, plain.noLastTag]
      · split <;> rfl
      · split <;> simp
    · exact ⟨plain.untagged, plain.noTag, plain.nonempty, rfl⟩
    · simp only [Connection.coming, nil_append]
  | cons segment rest =>
    have noTag := plain.noTag segment (by rw [segments]; exact mem_cons_self)
    have nonempty := plain.nonempty segment (by rw [segments]; exact mem_cons_self)
    refine ⟨segment.bytes.take nbyte,
      { thread.connection with
        segments :=
          if (segment.bytes.drop nbyte).isEmpty then rest
          else { bytes := segment.bytes.drop nbyte } :: rest
        delivered := thread.connection.delivered ++ segment.bytes.take nbyte },
      ?_, ?_, ?_, by simp, ?_⟩
    · refine ⟨(segment.bytes.take nbyte).length, ?_, rfl, ?_, ?_⟩
      · unfold socketRead
        rw [segments]
        simp [tagVerification, noTag]
      · rw [Int.natCast_pos, length_pos_iff]
      · intro negative
        omega
    · have restTag : ∀ other ∈ rest, other.tagVerified = false := fun other member =>
        plain.noTag other (by rw [segments]; exact mem_cons_of_mem _ member)
      have restNonempty : ∀ other ∈ rest, other.bytes ≠ [] := fun other member =>
        plain.nonempty other (by rw [segments]; exact mem_cons_of_mem _ member)
      refine ⟨plain.untagged, ?_, ?_, plain.noLastTag⟩
      · intro other member
        split at member
        · exact restTag other member
        · rcases mem_cons.mp member with rfl | older
          · rfl
          · exact restTag other older
      · intro other member
        dsimp only at member
        split at member
        · exact restNonempty other member
        rename_i left
        rcases mem_cons.mp member with rfl | older
        · simpa using left
        · exact restNonempty other older
    · simp only [Connection.coming, segments, map_cons, flatten_cons]
      split
      · rename_i empty
        have all : segment.bytes.take nbyte = segment.bytes := by
          have short : segment.bytes.length ≤ nbyte := by simpa using empty
          exact take_of_length_le short
        rw [all]
      · simp [← append_assoc]
    · intro positive taken
      have both : nbyte = 0 ∨ segment.bytes = [] := take_eq_nil_iff.mp taken
      rcases both with zero | empty
      · omega
      · exact absurd empty nonempty

/-- What a series of reads behind `len` received bytes leaves: at least `atLeast` bytes at
`start`, unless the connection has ended. -/
structure PlainReads (thread : ReceiverThread) (start max atLeast len : Nat) (count : Int)
    (buf : Memory Byte) (connection : Connection) : Prop where
  plain : connection.Plain
  pending : buf.read start count.toNat ++ connection.coming =
    thread.buf.read start len ++ thread.connection.coming
  grows : len ≤ count.toNat
  count_le : count ≤ max
  enough : atLeast ≤ count.toNat ∨ connection.coming = []
  kept : ∀ address < start + len, buf address = thread.buf address

theorem readAtLeastLoop_plain (start max atLeast rounds : Nat) {thread : ReceiverThread}
    (plain : thread.connection.Plain) (len : Nat) (within : len ≤ max) (room : atLeast ≤ max)
    (rounded : atLeast ≤ len + rounds) :
    ∃ count buf connection,
      readAtLeastLoop start max atLeast rounds thread len =
        (count, thread.withReads buf connection) ∧
      PlainReads thread start max atLeast len count buf connection := by
  induction rounds generalizing thread len with
  | zero =>
    exact ⟨len, thread.buf, thread.connection, rfl, plain, rfl, le_refl _,
      Int.ofNat_le.mpr within, .inl rounded, fun _ _ => rfl⟩
  | succ rounds ih =>
    unfold readAtLeastLoop
    by_cases more : len < atLeast
    · rw [if_pos more]
      obtain ⟨bytes, connection, read⟩ := socketRead_plain plain (start + len) (max - len)
      obtain ⟨count, result, counted, positive, negative⟩ := read.result
      have fits := read.length_le
      rw [result]
      dsimp only
      by_cases nothing : bytes = []
      · have none := read.ended (by omega) nothing
        have stopped : connection.coming = [] := by
          have split := read.coming
          rw [none, nothing] at split
          exact split.symm
        have notPositive : count ≤ 0 := not_lt.mp (fun some => positive.mp some nothing)
        have sameBuf : thread.buf.store (start + len) bytes = thread.buf := by
          rw [nothing, store_nil]
        rw [sameBuf]
        by_cases failed : count < 0
        · rw [if_pos failed]
          refine ⟨_, _, _, rfl, read.plain, ?_, ?_, ?_, .inr stopped, fun _ _ => rfl⟩
          · rw [none, stopped]
            split
            · rename_i empty
              have zero : count.toNat = 0 := by omega
              rw [zero, empty]
            · rfl
          · split
            · omega
            · exact le_refl _
          · split <;> omega
        · rw [if_neg failed, if_pos (by omega)]
          refine ⟨_, _, _, rfl, read.plain, ?_, le_refl _, ?_, .inr stopped, fun _ _ => rfl⟩
          · rw [none, stopped]
            rfl
          · exact Int.ofNat_le.mpr within
      · have some : 0 < count := positive.mpr nothing
        rw [if_neg (by omega), if_neg (by omega)]
        have longer : atLeast ≤ len + count.toNat + rounds := by omega
        obtain ⟨total, buf, final, looped, reads⟩ :=
          @ih (thread.withReads (thread.buf.store (start + len) bytes) connection)
            read.plain (len + count.toNat) (by omega) longer
        refine ⟨total, buf, final, looped, reads.plain, ?_, ?_, reads.count_le, reads.enough, ?_⟩
        · rw [reads.pending, counted]
          rw [read_store_append, read.coming, append_assoc]
        · exact (Nat.le_add_right _ _).trans reads.grows
        · intro address before
          rw [reads.kept address (by omega)]
          exact store_apply_of_lt _ _ before
    · rw [if_neg more]
      exact ⟨len, thread.buf, thread.connection, rfl, plain, rfl, le_refl _,
        Int.ofNat_le.mpr within, .inl (not_lt.mp more), fun _ _ => rfl⟩

theorem readAtLeast_plain {thread : ReceiverThread} (plain : thread.connection.Plain)
    (start max atLeast len : Nat) (within : len ≤ max) (positive : 0 < atLeast)
    (room : atLeast ≤ max) :
    ∃ count buf connection,
      thread.readAtLeast start max atLeast len = .go (count, thread.withReads buf connection) ∧
      PlainReads thread start max atLeast len count buf connection := by
  have rounds : ((atLeast : Int) - len).toNat = atLeast - len := by omega
  obtain ⟨count, buf, connection, looped, reads⟩ := readAtLeastLoop_plain start max atLeast
    (atLeast - len) plain len within room (by omega)
  refine ⟨count, buf, connection, ?_, reads⟩
  unfold readAtLeast
  simp only [Outcome.check, Int.natCast_nonneg, decide_true, if_true, Int.natCast_pos,
    positive, Int.ofNat_le, room, Int.toNat_natCast, rounds, looped]

/-! ### Windows of a plain connection -/

/-- `pending` is what is at hand: the `count` bytes from `start` on and all that is still to
come. -/
structure Window (config : ReceiverConfig) (thread : ReceiverThread) (start count : Nat)
    (pending : List Byte) : Prop where
  plain : thread.connection.Plain
  within : start + count ≤ config.bufSize
  content : thread.buf.read start count ++ thread.connection.coming = pending

section

variable {config : ReceiverConfig} {thread after : ReceiverThread} {start count : Nat}
  {pending : List Byte}

theorem Window.congr (window : Window config thread start count pending)
    (sameBuf : after.buf = thread.buf)
    (sameSegments : after.connection.segments = thread.connection.segments)
    (sameTagged : after.connection.tagged = thread.connection.tagged)
    (sameLastTag : after.connection.lastTagVerified = thread.connection.lastTagVerified) :
    Window config after start count pending := by
  refine ⟨⟨?_, ?_, ?_, ?_⟩, window.within, ?_⟩
  · rw [sameTagged]
    exact window.plain.untagged
  · rw [sameSegments]
    exact window.plain.noTag
  · rw [sameSegments]
    exact window.plain.nonempty
  · rw [sameLastTag]
    exact window.plain.noLastTag
  · have sameComing : after.connection.coming = thread.connection.coming := by
      unfold Connection.coming
      rw [sameSegments]
    rw [sameBuf, sameComing]
    exact window.content

theorem Window.count_le_length (window : Window config thread start count pending) :
    count ≤ pending.length := by
  rw [← window.content, length_append, read_length]
  exact Nat.le_add_right _ _

theorem Window.front {word rest : List Byte}
    (window : Window config thread start count (word ++ rest)) (received : word.length ≤ count) :
    thread.buf.read start word.length = word := by
  have front := congrArg (take word.length) window.content
  rw [take_left, take_append_of_le_length (by rw [read_length]; exact received),
    read_take _ _ received] at front
  exact front

theorem Window.drop (window : Window config thread start count pending) {part : Nat}
    (received : part ≤ count) :
    Window config thread (start + part) (count - part) (pending.drop part) := by
  have within := window.within
  refine ⟨window.plain, by omega, ?_⟩
  rw [← read_drop _ _ received, ← window.content,
    drop_append_of_le_length (by rw [read_length]; exact received)]

theorem Window.behind {word rest : List Byte}
    (window : Window config thread start count (word ++ rest)) (received : word.length ≤ count) :
    Window config thread (start + word.length) (count - word.length) rest := by
  have dropped := window.drop received
  rw [drop_left] at dropped
  exact dropped

end

theorem decodeUpTo_reads {α : Type} {decoder : Decoder Byte α} {word : List Byte} {value : α}
    (reads : decoder.Reads word value) (thread : ReceiverThread) (stop : Nat)
    (content : thread.buf.read thread.off word.length = word)
    (long : thread.off + word.length ≤ stop) :
    thread.decodeUpTo stop decoder =
      (some value, { thread with off := thread.off + word.length }) := by
  obtain ⟨more, rfl⟩ := Nat.exists_eq_add_of_le long
  have range : thread.off + word.length + more - thread.off = word.length + more := by omega
  unfold decodeUpTo
  rw [range, read_add, content]
  dsimp only
  rw [reads]
  simp

end ReceiverThread

end Wdt
