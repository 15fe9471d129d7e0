/-
Decoders over a range of symbols. A decoder always returns what is left of its
range, also when it fails: a caller that stops on a failure still knows how far
the range was consumed. Nothing here fixes a byte format.
-/

import Mathlib.Data.List.Basic

universe u v w

/-- A decoder returns its value, or nothing, and the part of the range it did not consume. -/
def Decoder (σ : Type u) (α : Type v) : Type (max u v) := List σ → Option α × List σ

namespace Decoder

variable {σ : Type u} {α : Type v} {β : Type w}

def pure (value : α) : Decoder σ α := fun range => (some value, range)

def fail : Decoder σ α := fun range => (none, range)

def bind (decoder : Decoder σ α) (next : α → Decoder σ β) : Decoder σ β :=
  fun range =>
    match decoder range with
    | (some value, rest) => next value rest
    | (none, rest) => (none, rest)

def map (transform : α → β) (decoder : Decoder σ α) : Decoder σ β :=
  decoder.bind (fun value => pure (transform value))

/-- Exactly `count` symbols; the range is untouched when it is shorter. -/
def take (count : Nat) : Decoder σ (List σ) :=
  fun range =>
    if count ≤ range.length then (some (range.take count), range.drop count)
    else (none, range)

def filter (test : α → Bool) (decoder : Decoder σ α) : Decoder σ α :=
  decoder.bind (fun value => if test value then pure value else fail)

def replicate (decoder : Decoder σ α) : (count : Nat) → Decoder σ (List α)
  | 0 => pure []
  | count + 1 => decoder.bind (fun value => (decoder.replicate count).map (value :: ·))

/-- Values until the range is empty. A decoder that consumes something each time needs no more
rounds than there are symbols. -/
def untilEmpty (decoder : Decoder σ α) : (rounds : Nat) → List σ → Option (List α)
  | _, [] => some []
  | 0, _ :: _ => none
  | rounds + 1, symbol :: range =>
    match decoder (symbol :: range) with
    | (some value, rest) => (decoder.untilEmpty rounds rest).map (value :: ·)
    | (none, _) => none

def whole (decoder : Decoder σ α) (range : List σ) : Option α :=
  match decoder range with
  | (some value, []) => some value
  | (some _, _ :: _) => none
  | (none, _) => none

/-! ### A word decodes to a value, whatever follows it -/

/-- The decoder reads exactly `word` as `value`, in front of every continuation. -/
def Reads (decoder : Decoder σ α) (word : List σ) (value : α) : Prop :=
  ∀ rest, decoder (word ++ rest) = (some value, rest)

theorem reads_pure (value : α) : Reads (pure value : Decoder σ α) [] value := fun _ => rfl

theorem Reads.bind {decoder : Decoder σ α} {next : α → Decoder σ β}
    {first second : List σ} {value : α} {result : β}
    (firstRead : Reads decoder first value) (secondRead : Reads (next value) second result) :
    Reads (decoder.bind next) (first ++ second) result := by
  intro rest
  rw [List.append_assoc]
  unfold Decoder.bind
  rw [firstRead (second ++ rest)]
  exact secondRead rest

variable {decoder : Decoder σ α} {value : α}

theorem Reads.map {word : List σ} (read : Reads decoder word value) (transform : α → β) :
    Reads (decoder.map transform) word (transform value) := by
  intro rest
  unfold Decoder.map Decoder.bind
  rw [read rest]
  rfl

theorem Reads.filter {word : List σ} {test : α → Bool} (read : Reads decoder word value)
    (passes : test value = true) : Reads (decoder.filter test) word value := by
  intro rest
  unfold Decoder.filter Decoder.bind
  rw [read rest]
  simp only [passes, if_true]
  rfl

theorem Reads.whole {word : List σ} (read : Reads decoder word value) :
    decoder.whole word = some value := by
  have exactly := read []
  rw [List.append_nil] at exactly
  unfold Decoder.whole
  rw [exactly]

theorem reads_take (word : List σ) : Reads (take word.length : Decoder σ (List σ)) word word := by
  intro rest
  simp [take]

theorem Reads.replicate {word : α → List σ} {values : List α}
    (reads : ∀ value ∈ values, Reads decoder (word value) value) :
    Reads (decoder.replicate values.length) (values.map word).flatten values := by
  induction values with
  | nil => exact reads_pure []
  | cons value values ih =>
    have head := reads value List.mem_cons_self
    have tail := ih (List.forall_mem_cons.mp reads).2
    exact head.bind (tail.map (value :: ·))

theorem untilEmpty_reads {word : α → List σ} {values : List α}
    (reads : ∀ value ∈ values, Reads decoder (word value) value)
    (nonempty : ∀ value ∈ values, word value ≠ []) {rounds : Nat}
    (enough : values.length ≤ rounds) :
    decoder.untilEmpty rounds (values.map word).flatten = some values := by
  induction values generalizing rounds with
  | nil =>
    unfold untilEmpty
    rfl
  | cons value values ih =>
    obtain ⟨fewer, rfl⟩ : ∃ fewer, rounds = fewer + 1 := by
      rw [List.length_cons] at enough
      exact ⟨rounds - 1, by omega⟩
    obtain ⟨symbol, rest, shape⟩ := List.exists_cons_of_ne_nil (nonempty value List.mem_cons_self)
    have head := reads value List.mem_cons_self (values.map word).flatten
    have tail := @ih (List.forall_mem_cons.mp reads).2
      (List.forall_mem_cons.mp nonempty).2 fewer (by
        rw [List.length_cons] at enough
        omega)
    rw [List.map_cons, List.flatten_cons]
    rw [shape, List.cons_append] at head ⊢
    rw [untilEmpty, head]
    dsimp only
    rw [tail]
    rfl

def Yields (decoder : Decoder σ α) (holds : α → Prop) : Prop :=
  ∀ range value rest, decoder range = (some value, rest) → holds value

theorem Yields.bind {decoder : Decoder σ α} {next : α → Decoder σ β} {holds : α → Prop}
    {result : β → Prop} (first : decoder.Yields holds)
    (second : ∀ value, holds value → (next value).Yields result) :
    (decoder.bind next).Yields result := by
  intro range value rest decoded
  unfold Decoder.bind at decoded
  cases front : decoder range with
  | mk found left =>
    rw [front] at decoded
    cases found with
    | none => cases decoded
    | some middle => exact second middle (first range middle left front) left value rest decoded

theorem Yields.map {holds : α → Prop} {result : β → Prop} {transform : α → β}
    (first : decoder.Yields holds) (transformed : ∀ value, holds value → result (transform value)) :
    (decoder.map transform).Yields result := by
  refine first.bind (fun value found range other rest decoded => ?_)
  cases decoded
  exact transformed value found

theorem yields_filter (decoder : Decoder σ α) (test : α → Bool) :
    (decoder.filter test).Yields (fun value => test value = true) := by
  intro range value rest decoded
  unfold Decoder.filter Decoder.bind at decoded
  cases front : decoder range with
  | mk found left =>
    rw [front] at decoded
    cases found with
    | none => cases decoded
    | some middle =>
      dsimp only at decoded
      by_cases passes : test middle = true
      · rw [if_pos passes] at decoded
        cases decoded
        exact passes
      · rw [if_neg passes] at decoded
        cases decoded

theorem Yields.whole {holds : α → Prop} (yields : decoder.Yields holds) {range : List σ}
    (decoded : decoder.whole range = some value) : holds value := by
  unfold Decoder.whole at decoded
  cases front : decoder range with
  | mk found left =>
    rw [front] at decoded
    cases found with
    | none => cases decoded
    | some middle =>
      cases left with
      | nil =>
        cases decoded
        exact yields range value [] front
      | cons symbol rest => cases decoded

end Decoder
