/-
Encoders into a bounded buffer, and round trips with a decoder. An encoder gets the
bound and what is already written; it appends, or fails when the bound would be passed.
-/

import Wdt.Lib.Decoder

universe u v w

def Encoder (σ : Type u) : Type u := (max : Nat) → (written : List σ) → Option (List σ)

namespace Encoder

variable {σ : Type u} {α : Type v} {β : Type w}

def put (word : List σ) : Encoder σ :=
  fun max written =>
    if written.length + word.length ≤ max then some (written ++ word) else none

theorem put_of_fits {word written : List σ} {max : Nat}
    (fits : (written ++ word).length ≤ max) : put word max written = some (written ++ word) := by
  rw [List.length_append] at fits
  exact if_pos fits

theorem put_bind_put (first second : List σ) (max : Nat) (written : List σ) :
    (put first max written).bind (put second max) = put (first ++ second) max written := by
  unfold put
  by_cases fits : written.length + first.length ≤ max
  · simp [fits, Nat.add_assoc]
  have tooLong : ¬ written.length + (first ++ second).length ≤ max := by
    rw [List.length_append]
    omega
  rw [if_neg fits, if_neg tooLong]
  rfl

theorem put_bind_some (word : List σ) (max : Nat) (written : List σ) :
    ((put word max written).bind fun written => some written) = put word max written :=
  Option.bind_fun_some _

theorem foldl_put (word : α → List σ) (values : List α) (max : Nat) (front written : List σ) :
    values.foldl (fun written value => written.bind (put (word value) max))
      (put front max written) = put (front ++ (values.map word).flatten) max written := by
  induction values generalizing front with
  | nil => simp
  | cons value values ih =>
    rw [List.foldl_cons, put_bind_put, ih, List.map_cons, List.flatten_cons, List.append_assoc]

/-- The encoder writes one word, whenever it fits, and the decoder reads exactly that word as
the value, whatever follows it. -/
def RoundTrips (encoder : Encoder σ) (decoder : Decoder σ α) (value : α) : Prop :=
  ∃ word, encoder = put word ∧ decoder.Reads word value

end Encoder
