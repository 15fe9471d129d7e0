/-
Handlers that can stop in two ways: by a failed internal check, or by an early
exit that already carries the handler's answer. `Ensures` is the matching
postcondition, with one rule per construct.
-/

import Mathlib.Data.List.Basic

universe u v w x

/-- A failed check, an early exit, or a value to go on with. -/
inductive Outcome (ε : Type u) (ω : Type v) (α : Type w) : Type (max u v w)
  | crash (reason : ε)
  | leave (answer : ω)
  | go (value : α)

namespace Outcome

variable {ε : Type u} {ω : Type v} {α : Type w} {β : Type x}

def bind (outcome : Outcome ε ω α) (next : α → Outcome ε ω β) : Outcome ε ω β :=
  match outcome with
  | crash reason => crash reason
  | leave answer => leave answer
  | go value => next value

@[simp] theorem crash_bind (reason : ε) (next : α → Outcome ε ω β) :
    (crash reason : Outcome ε ω α).bind next = crash reason :=
  rfl

@[simp] theorem leave_bind (answer : ω) (next : α → Outcome ε ω β) :
    (leave answer : Outcome ε ω α).bind next = leave answer :=
  rfl

@[simp] theorem go_bind (value : α) (next : α → Outcome ε ω β) :
    (go value : Outcome ε ω α).bind next = next value :=
  rfl

def check (holds : Bool) (reason : ε) (next : Outcome ε ω α) : Outcome ε ω α :=
  if holds then next else crash reason

/-- A handler whose last stage also answers. -/
def settle : Outcome ε ω ω → Except ε ω
  | crash reason => .error reason
  | leave answer => .ok answer
  | go answer => .ok answer

/-! ### Postconditions -/

/-- Each way to stop meets its own condition. -/
def Ensures (crashed : ε → Prop) (left : ω → Prop) (went : α → Prop) : Outcome ε ω α → Prop
  | crash reason => crashed reason
  | leave answer => left answer
  | go value => went value

variable {crashed : ε → Prop} {left : ω → Prop} {went : α → Prop} {ends : β → Prop}

theorem ensures_leave {answer : ω} (holds : left answer) :
    (leave answer : Outcome ε ω α).Ensures crashed left went :=
  holds

theorem ensures_go {value : α} (holds : went value) :
    (go value : Outcome ε ω α).Ensures crashed left went :=
  holds

theorem Ensures.bind {outcome : Outcome ε ω α} {next : α → Outcome ε ω β}
    (first : outcome.Ensures crashed left went)
    (second : ∀ value, went value → (next value).Ensures crashed left ends) :
    (outcome.bind next).Ensures crashed left ends := by
  cases outcome with
  | crash reason | leave answer => exact first
  | go value => exact second value first

/-- The first part never answers. -/
theorem Ensures.bind_quiet {outcome : Outcome ε ω α} {next : α → Outcome ε ω β}
    {crashed' : ε → Prop} (first : outcome.Ensures crashed (fun _ => False) went)
    (onCrash : ∀ reason, crashed reason → crashed' reason)
    (second : ∀ value, went value → (next value).Ensures crashed' left ends) :
    (outcome.bind next).Ensures crashed' left ends := by
  cases outcome with
  | crash reason => exact onCrash reason first
  | leave answer => exact first.elim
  | go value => exact second value first

theorem Ensures.mono {outcome : Outcome ε ω α} {went' : α → Prop} {left' : ω → Prop}
    {crashed' : ε → Prop} (holds : outcome.Ensures crashed left went)
    (onCrash : ∀ reason, crashed reason → crashed' reason)
    (onLeave : ∀ answer, left answer → left' answer)
    (onGo : ∀ value, went value → went' value) : outcome.Ensures crashed' left' went' := by
  cases outcome with
  | crash reason => exact onCrash reason holds
  | leave answer => exact onLeave answer holds
  | go value => exact onGo value holds

theorem ensures_check {holds : Bool} {reason : ε} {next : Outcome ε ω α}
    (fails : holds = false → crashed reason)
    (passes : holds = true → next.Ensures crashed left went) :
    (check holds reason next).Ensures crashed left went := by
  cases decided : holds with
  | true => exact passes decided
  | false => exact fails decided

theorem ensures_ite {condition : Prop} [Decidable condition] {first second : Outcome ε ω α}
    (holds : condition → first.Ensures crashed left went)
    (fails : ¬ condition → second.Ensures crashed left went) :
    (if condition then first else second).Ensures crashed left went := by
  split
  · rename_i met
    exact holds met
  · rename_i unmet
    exact fails unmet

theorem Ensures.of_settle_ok {outcome : Outcome ε ω ω} {answer : ω}
    (holds : outcome.Ensures crashed left left) (settled : outcome.settle = .ok answer) :
    left answer := by
  cases outcome with
  | crash reason => cases settled
  | leave early | go late =>
    cases settled
    exact holds

theorem Ensures.settles {outcome : Outcome ε ω ω}
    (holds : outcome.Ensures (fun _ => False) left left) :
    ∃ answer, outcome.settle = .ok answer := by
  cases outcome with
  | crash reason => exact holds.elim
  | leave answer | go answer => exact ⟨answer, rfl⟩

end Outcome

namespace Except

variable {ε : Type u} {α : Type v} {β : Type w} {result : Except ε α}

theorem bind_eq_ok_iff {next : α → Except ε β} {answer : β} :
    result.bind next = .ok answer ↔ ∃ value, result = .ok value ∧ next value = .ok answer := by
  cases result <;> simp [Except.bind]

theorem map_eq_ok_iff {next : α → β} {answer : β} :
    result.map next = .ok answer ↔ ∃ value, result = .ok value ∧ next value = answer := by
  cases result <;> simp [Except.map]

end Except
