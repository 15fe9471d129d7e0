/-
Deterministic transducers: each input symbol moves the state and puts a word out. The
output of an append is the append of the outputs, and a transducer that undoes another
symbol by symbol undoes it on every word.
-/

import Mathlib.Data.List.Basic

universe u v w

structure Transducer (σ : Type u) (α : Type v) (β : Type w) where
  step : σ → α → List β × σ

namespace Transducer

variable {σ : Type u} {α : Type v} {β : Type w}

def output (machine : Transducer σ α β) : σ → List α → List β
  | _, [] => []
  | state, symbol :: rest =>
    (machine.step state symbol).1 ++ machine.output (machine.step state symbol).2 rest

def after (machine : Transducer σ α β) : σ → List α → σ
  | state, [] => state
  | state, symbol :: rest => machine.after (machine.step state symbol).2 rest

theorem output_append (machine : Transducer σ α β) (state : σ) (left right : List α) :
    machine.output state (left ++ right) =
      machine.output state left ++ machine.output (machine.after state left) right := by
  induction left generalizing state with
  | nil => rfl
  | cons symbol rest ih =>
    rw [List.cons_append, output, ih, output, after, List.append_assoc]

theorem after_append (machine : Transducer σ α β) (state : σ) (left right : List α) :
    machine.after state (left ++ right) = machine.after (machine.after state left) right := by
  induction left generalizing state with
  | nil => rfl
  | cons symbol rest ih => rw [List.cons_append, after, ih, after]

/-! ### Inverses -/

/-- From every state the machine puts out one symbol, from which the other machine recovers
the input, and both move to the same state. -/
def Undoes (back : Transducer σ β α) (machine : Transducer σ α β) : Prop :=
  ∀ state symbol, ∃ image next,
    machine.step state symbol = ([image], next) ∧ back.step state image = ([symbol], next)

variable {machine : Transducer σ α β} {back : Transducer σ β α}

section

variable (undoes : back.Undoes machine) (state : σ) (word : List α)

include undoes state word

theorem Undoes.output_length : (machine.output state word).length = word.length := by
  induction word generalizing state with
  | nil => rfl
  | cons symbol rest ih =>
    obtain ⟨image, next, forth, _⟩ := undoes state symbol
    rw [output, forth, List.length_append, ih, List.length_cons, Nat.add_comm]
    rfl

theorem Undoes.output_output : back.output state (machine.output state word) = word := by
  induction word generalizing state with
  | nil => rfl
  | cons symbol rest ih =>
    obtain ⟨image, next, forth, backward⟩ := undoes state symbol
    rw [output, forth]
    change back.output state (image :: machine.output next rest) = _
    rw [output, backward]
    exact congrArg (symbol :: ·) (ih next)

theorem Undoes.after_output :
    back.after state (machine.output state word) = machine.after state word := by
  induction word generalizing state with
  | nil => rfl
  | cons symbol rest ih =>
    obtain ⟨image, next, forth, backward⟩ := undoes state symbol
    rw [output, after, forth]
    change back.after state (image :: machine.output next rest) = _
    rw [after, backward]
    exact ih next

theorem Undoes.take_output (count : Nat) :
    (machine.output state word).take count = machine.output state (word.take count) := by
  have split := machine.output_append state (word.take count) (word.drop count)
  rw [List.take_append_drop] at split
  have length := undoes.output_length state (word.take count)
  rw [List.length_take] at length
  rw [split]
  rcases Nat.le_total count word.length with within | beyond
  · rw [List.take_left' (by omega)]
  · rw [List.drop_eq_nil_of_le beyond, output, List.append_nil, List.take_of_length_le (by omega)]

end

end Transducer
