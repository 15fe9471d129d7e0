/-
The receive window against the stream: at every point of the command loop the bytes
that commands have taken, followed by those still in the window, are the bytes that
reads have delivered on this connection.
-/

import Wdt.ReceiverThread

namespace Wdt

structure ReceiveWindow where
  buf : Memory Byte
  numRead : Int
  off : Nat
  oldOffset : Nat
  delivered : List Byte
  consumed : List Byte

namespace ReceiveWindow

/-- Behind the consumed bytes come the `count` bytes at `start`, and then no more. -/
def Holds (window : ReceiveWindow) (start count : Nat) : Prop :=
  window.consumed ++ window.buf.read start count = window.delivered

/-- Commands took only what was delivered. -/
def Within (window : ReceiveWindow) : Prop := window.consumed <+: window.delivered

variable {window : ReceiveWindow} {start count : Nat}

theorem Holds.within (holds : window.Holds start count) : window.Within := ⟨_, holds⟩

def take (window : ReceiveWindow) (bytes : List Byte) : ReceiveWindow :=
  { window with consumed := window.consumed ++ bytes }

theorem Holds.take (holds : window.Holds start count) {part : Nat} (some : part ≤ count) :
    (window.take (window.buf.read start part)).Holds (start + part) (count - part) := by
  have split : window.buf.read start count =
      window.buf.read start part ++ window.buf.read (start + part) (count - part) := by
    rw [← Memory.read_add]
    congr 1
    omega
  unfold Holds at holds ⊢
  rw [split] at holds
  simpa [ReceiveWindow.take] using holds

end ReceiveWindow

namespace ReceiverThread

def window (thread : ReceiverThread) : ReceiveWindow :=
  { buf := thread.buf
    numRead := thread.numRead
    off := thread.off
    oldOffset := thread.oldOffset
    delivered := thread.connection.delivered
    consumed := thread.connection.consumed }

/-! ### Reading -/

theorem foldl_markBlockVerified_window (blocks : List BlockDetails) (thread : ReceiverThread) :
    (blocks.foldl markBlockVerified thread).window = thread.window := by
  induction blocks generalizing thread with
  | nil => rfl
  | cons block rest ih => exact ih _

variable (thread : ReceiverThread)

theorem tagVerification_window (verified : Bool) :
    (thread.tagVerification verified).window = thread.window := by
  cases verified with
  | true => exact foldl_markBlockVerified_window thread.blocksWaitingVerification thread
  | false => rfl

structure Arrives (thread : ReceiverThread) (start nbyte : Nat) (count : Int)
    (after : ReceiverThread) (bytes : List Byte) : Prop where
  window : after.window =
    { thread.window with
      buf := thread.buf.store start bytes
      delivered := thread.connection.delivered ++ bytes }
  length_le : bytes.length ≤ nbyte
  count : count.toNat = bytes.length

theorem socketRead_arrives (start nbyte : Nat) :
    ∃ bytes, Arrives thread start nbyte (thread.socketRead start nbyte).1
      (thread.socketRead start nbyte).2 bytes := by
  unfold socketRead
  cases thread.connection.segments with
  | nil =>
    have same := thread.tagVerification_window thread.connection.lastTagVerified
    refine ⟨[], ?_, Nat.zero_le _, ?_⟩
    · have stored : thread.buf.store start [] = thread.buf := by
        funext address
        simp [Memory.store]
      rw [stored, List.append_nil]
      exact congrArg (fun moved : ReceiveWindow =>
        { moved with
          delivered := thread.connection.delivered
          consumed := thread.connection.consumed }) same
    · dsimp only
      split <;> rfl
  | cons segment rest =>
    have same := thread.tagVerification_window segment.tagVerified
    refine ⟨segment.bytes.take nbyte, ?_, by simp, rfl⟩
    exact congrArg (fun moved : ReceiveWindow =>
      { moved with
        buf := thread.buf.store start (segment.bytes.take nbyte)
        delivered := thread.connection.delivered ++ segment.bytes.take nbyte
        consumed := thread.connection.consumed }) same

section

variable {thread after : ReceiverThread} {start len nbyte : Nat} {count : Int} {bytes : List Byte}
  (arrives : Arrives thread start nbyte count after bytes)

include arrives

theorem Arrives.off : after.off = thread.off := congrArg ReceiveWindow.off arrives.window

theorem Arrives.numRead : after.numRead = thread.numRead :=
  congrArg ReceiveWindow.numRead arrives.window

theorem Arrives.consumed : after.connection.consumed = thread.connection.consumed :=
  congrArg ReceiveWindow.consumed arrives.window

theorem Arrives.delivered :
    after.connection.delivered = thread.connection.delivered ++ bytes :=
  congrArg ReceiveWindow.delivered arrives.window

theorem Arrives.stored : after.buf.read start count.toNat = bytes := by
  have sameBuf : after.buf = thread.buf.store start bytes :=
    congrArg ReceiveWindow.buf arrives.window
  rw [sameBuf, arrives.count, Memory.read_store]

end

theorem Arrives.holds {thread after : ReceiverThread} {start len nbyte : Nat} {count : Int}
    {bytes : List Byte} (arrives : Arrives thread (start + len) nbyte count after bytes)
    (holds : thread.window.Holds start len) : after.window.Holds start (len + bytes.length) := by
  rw [arrives.window]
  have grown : (thread.buf.store (start + len) bytes).read start (len + bytes.length) =
      thread.buf.read start len ++ bytes := by
    rw [Memory.read_add, Memory.read_store_before _ _ (le_refl _), Memory.read_store]
  change thread.connection.consumed ++ _ = _
  rw [grown, ← List.append_assoc]
  exact congrArg (· ++ bytes) holds

structure Extends (thread : ReceiverThread) (start max : Nat) (count : Int)
    (after : ReceiverThread) : Prop where
  numRead : after.numRead = thread.numRead
  off : after.off = thread.off
  oldOffset : after.oldOffset = thread.oldOffset
  holds : after.window.Holds start count.toNat
  count_le : count ≤ max

theorem readAtLeastLoop_extends (start max atLeast rounds : Nat) (thread : ReceiverThread)
    (len : Nat) (holds : thread.window.Holds start len) (within : len ≤ max) :
    Extends thread start max (readAtLeastLoop start max atLeast rounds thread len).1
      (readAtLeastLoop start max atLeast rounds thread len).2 := by
  induction rounds generalizing thread len with
  | zero => exact ⟨rfl, rfl, rfl, holds, Int.ofNat_le.mpr within⟩
  | succ rounds ih =>
    unfold readAtLeastLoop
    by_cases more : len < atLeast
    · rw [if_pos more]
      obtain ⟨bytes, arrives⟩ := thread.socketRead_arrives (start + len) (max - len)
      cases result : thread.socketRead (start + len) (max - len) with
      | mk count after =>
        rw [result] at arrives
        have sameNumRead := arrives.numRead
        have sameOff := arrives.off
        have sameOldOffset : after.oldOffset = thread.oldOffset :=
          congrArg ReceiveWindow.oldOffset arrives.window
        have grown := arrives.holds holds
        have counted := arrives.count
        have fits := arrives.length_le
        dsimp only at counted ⊢
        by_cases failed : count < 0
        · rw [if_pos failed]
          have none : bytes.length = 0 := by omega
          rw [none, Nat.add_zero] at grown
          refine ⟨sameNumRead, sameOff, sameOldOffset, ?_, ?_⟩
          · dsimp only
            split
            · rename_i empty
              have zero : count.toNat = len := by omega
              rw [zero]
              exact grown
            · exact grown
          · dsimp only
            split <;> omega
        · rw [if_neg failed]
          by_cases ended : count = 0
          · rw [if_pos ended]
            have none : bytes.length = 0 := by omega
            rw [none, Nat.add_zero] at grown
            exact ⟨sameNumRead, sameOff, sameOldOffset, grown, Int.ofNat_le.mpr within⟩
          rw [if_neg ended]
          rw [← counted] at grown
          have later := ih after (len + count.toNat) grown (by omega)
          exact ⟨later.numRead.trans sameNumRead, later.off.trans sameOff,
            later.oldOffset.trans sameOldOffset, later.holds, later.count_le⟩
    · rw [if_neg more]
      exact ⟨rfl, rfl, rfl, holds, Int.ofNat_le.mpr within⟩

theorem readAtLeast_extends (start : Nat) {max atLeast len : Int}
    (lenNotNegative : 0 ≤ len) (positive : 0 < atLeast) (room : atLeast ≤ max)
    (within : len ≤ max) (holds : thread.window.Holds start len.toNat) :
    (thread.readAtLeast start max atLeast len).Ensures (fun _ => False) (fun _ => False)
      (fun result => Extends thread start max.toNat result.1 result.2) := by
  refine Outcome.ensures_check (fun fails => of_decide_eq_false fails lenNotNegative) (fun _ => ?_)
  refine Outcome.ensures_check (fun fails => of_decide_eq_false fails positive) (fun _ => ?_)
  refine Outcome.ensures_check (fun fails => of_decide_eq_false fails room) (fun _ => ?_)
  exact readAtLeastLoop_extends start max.toNat atLeast.toNat _ thread len.toNat holds (by omega)

end ReceiverThread

end Wdt
