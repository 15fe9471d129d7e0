/-
Runs of a labelled transition system under a condition on each step, the rule
that carries an invariant along them, and runs computed from a list of labels.
-/

import Mathlib.Data.List.Basic

universe u v

namespace Transition

variable {σ : Type u} {α : Type v}

/-- `Path step allowed start state`: some run from `start` reaches `state`, and each of its
steps was allowed in the state before it. -/
inductive Path (step : σ → α → σ → Prop) (allowed : σ → α → Prop) (start : σ) : σ → Prop
  | refl : Path step allowed start start
  | next {state after : σ} {label : α} (path : Path step allowed start state)
      (meets : allowed state label) (moves : step state label after) :
      Path step allowed start after

variable {step : σ → α → σ → Prop} {allowed : σ → α → Prop} {start state : σ}

theorem Path.invariant (holds : σ → Prop) (path : Path step allowed start state)
    (initially : holds start)
    (kept : ∀ state label after, holds state → allowed state label →
      step state label after → holds after) : holds state := by
  induction path with
  | refl => exact initially
  | next _ meets moves ih => exact kept _ _ _ ih meets moves

/-! ### Runs computed by a partial step function -/

/-- Take the labels one by one, as long as each is enabled and passes the test. -/
def runsUnder (next : σ → α → Option σ) (test : σ → α → Bool) : σ → List α → Option σ
  | state, [] => some state
  | state, label :: rest =>
    if test state label then
      match next state label with
      | some after => runsUnder next test after rest
      | none => none
    else none

/-- A computed run is a path, when the function and the test imply the relation and the
condition. -/
theorem path_of_runsUnder {next : σ → α → Option σ} {test : σ → α → Bool}
    (sound : ∀ state label after, next state label = some after → step state label after)
    (meets : ∀ state label, test state label = true → allowed state label)
    {before : σ} {labels : List α} (path : Path step allowed start before)
    (computed : runsUnder next test before labels = some state) :
    Path step allowed start state := by
  induction labels generalizing before with
  | nil =>
    cases computed
    exact path
  | cons label rest ih =>
    unfold runsUnder at computed
    by_cases passes : test before label = true
    · rw [if_pos passes] at computed
      cases moved : next before label with
      | none =>
        rw [moved] at computed
        cases computed
      | some after =>
        rw [moved] at computed
        exact ih (.next path (meets _ _ passes) (sound _ _ _ moved)) computed
    · rw [if_neg passes] at computed
      cases computed

theorem path_of_run {next : σ → α → Option σ} {labels : List α}
    (computed : runsUnder next (fun _ _ => true) start labels = some state) :
    Path (fun before label after => next before label = some after) (fun _ _ => True) start state :=
  path_of_runsUnder (fun _ _ _ => id) (fun _ _ _ => trivial) .refl computed

end Transition
