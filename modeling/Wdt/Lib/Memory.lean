/-
A memory of symbols addressed by natural numbers, with block stores and block
reads. The memory is total: an address that was never stored keeps its first
content, so that stale symbols can be read back.
-/

import Mathlib.Data.List.Basic
import Mathlib.Tactic.Ring

universe u

def Memory (σ : Type u) : Type u := Nat → σ

namespace Memory

variable {σ : Type u}

/-- Overwrite the addresses from `start` on with the symbols of `word`. -/
def store (memory : Memory σ) (start : Nat) (word : List σ) : Memory σ :=
  fun address =>
    if start ≤ address then (word[address - start]?).getD (memory address)
    else memory address

def read (memory : Memory σ) (start : Nat) : (count : Nat) → List σ
  | 0 => []
  | count + 1 => memory start :: read memory (start + 1) count

@[simp] theorem read_zero (memory : Memory σ) (start : Nat) : memory.read start 0 = [] :=
  rfl

@[simp] theorem read_length (memory : Memory σ) (start count : Nat) :
    (memory.read start count).length = count := by
  induction count generalizing start with
  | zero => rfl
  | succ count ih => rw [read, List.length_cons, ih]

theorem read_add (memory : Memory σ) (start first second : Nat) :
    memory.read start (first + second) =
      memory.read start first ++ memory.read (start + first) second := by
  induction first generalizing start with
  | zero => simp
  | succ first ih =>
    rw [Nat.succ_add_eq_add_succ, Nat.add_succ, read, ih, read, List.cons_append]
    congr 3
    omega

variable {count : Nat}

theorem read_take (memory : Memory σ) (start : Nat) {part : Nat} (within : part ≤ count) :
    (memory.read start count).take part = memory.read start part := by
  obtain ⟨rest, rfl⟩ := Nat.exists_eq_add_of_le within
  rw [read_add, List.take_left' (read_length memory start part)]

theorem read_drop (memory : Memory σ) (start : Nat) {part : Nat} (within : part ≤ count) :
    (memory.read start count).drop part = memory.read (start + part) (count - part) := by
  obtain ⟨rest, rfl⟩ := Nat.exists_eq_add_of_le within
  rw [read_add, List.drop_left' (read_length memory start part), Nat.add_sub_cancel_left]

theorem read_congr {left right : Memory σ} (start count : Nat)
    (same : ∀ address, start ≤ address → address < start + count →
      left address = right address) :
    left.read start count = right.read start count := by
  induction count generalizing start with
  | zero => rfl
  | succ count ih =>
    rw [read, read, same start (le_refl start) (by omega)]
    rw [ih (start + 1) (fun address lower upper => same address (by omega) (by omega))]

variable {start : Nat}

section

variable (memory : Memory σ)

include memory

variable (word : List σ)

theorem store_apply_of_lt {address : Nat} (before : address < start) :
    memory.store start word address = memory address := by
  unfold store
  rw [if_neg (by omega)]

theorem store_apply_of_le {address : Nat} (after : start + word.length ≤ address) :
    memory.store start word address = memory address := by
  unfold store
  rw [if_pos (by omega), List.getElem?_eq_none (by omega), Option.getD_none]

theorem read_store_before {other : Nat} (before : other + count ≤ start) :
    (memory.store start word).read other count = memory.read other count := by
  apply read_congr
  intro address _ upper
  exact store_apply_of_lt memory word (by omega)

theorem read_store_after {other : Nat} (after : start + word.length ≤ other) :
    (memory.store start word).read other count = memory.read other count := by
  apply read_congr
  intro address lower _
  exact store_apply_of_le memory word (by omega)

theorem store_cons (start : Nat) (symbol : σ) (word : List σ) :
    memory.store start (symbol :: word) =
      (memory.store (start + 1) word).store start [symbol] := by
  funext address
  unfold store
  by_cases before : start ≤ address
  · rw [if_pos before, if_pos before]
    by_cases here : address = start
    · subst here
      simp
    have later : start + 1 ≤ address := by omega
    obtain ⟨distance, rfl⟩ := Nat.exists_eq_add_of_le later
    have first : start + 1 + distance - start = distance + 1 := by omega
    have second : start + 1 + distance - (start + 1) = distance := by omega
    rw [first, second]
    simp
  · rw [if_neg before, if_neg before, if_neg (by omega)]

theorem read_store (start : Nat) (word : List σ) :
    (memory.store start word).read start word.length = word := by
  induction word generalizing start with
  | nil => rfl
  | cons symbol word ih =>
    rw [store_cons, List.length_cons, read]
    have head : (memory.store (start + 1) word).store start [symbol] start = symbol := by
      simp [store]
    rw [head, read_store_after _ _ (by simp), ih]

theorem read_store_append (start count : Nat) (word : List σ) :
    (memory.store (start + count) word).read start (count + word.length) =
      memory.read start count ++ word := by
  rw [read_add, read_store_before _ _ (le_refl _), read_store]

end

theorem apply_eq_of_read {memory : Memory σ} {symbol : σ} {word : List σ}
    (content : memory.read start count = symbol :: word) : memory start = symbol := by
  cases count with
  | zero => cases content
  | succ count =>
    exact (List.cons.inj content).1

theorem read_split {memory : Memory σ} {first second : List σ}
    (content : memory.read start (first ++ second).length = first ++ second) :
    memory.read start first.length = first ∧
      memory.read (start + first.length) second.length = second := by
  rw [List.length_append, read_add] at content
  exact List.append_inj content (read_length memory start first.length)

theorem read_store_longer (memory : Memory σ) (start : Nat) (word : List σ)
    (long : word.length ≤ count) :
    (memory.store start word).read start count =
      word ++ memory.read (start + word.length) (count - word.length) := by
  obtain ⟨rest, rfl⟩ := Nat.exists_eq_add_of_le long
  rw [read_add, read_store, read_store_after _ _ (le_refl _), Nat.add_sub_cancel_left]

end Memory
