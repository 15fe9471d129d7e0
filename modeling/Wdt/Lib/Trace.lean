/-
Traces in which each event is justified by those before it.
-/

import Mathlib.Data.List.Induction

universe u

namespace Trace

variable {ε : Type u}

/-- Every event of the trace is justified by the part of the trace in front of it. -/
def Justified (justifies : List ε → ε → Prop) (trace : List ε) : Prop :=
  ∀ before event after, trace = before ++ event :: after → justifies before event

variable {justifies : List ε → ε → Prop} {trace : List ε} {event : ε}

theorem justified_nil : Justified justifies [] := by
  intro before event after split
  cases before with
  | nil => cases split
  | cons => cases split

theorem Justified.concat (justified : Justified justifies trace)
    (last : justifies trace event) : Justified justifies (trace ++ [event]) := by
  intro before inner after split
  rcases List.eq_nil_or_concat after with none | ⟨earlier, final, isConcat⟩
  · rw [none] at split
    obtain ⟨sameTrace, sameEvent⟩ := List.append_inj' split rfl
    cases sameEvent
    rw [← sameTrace]
    exact last
  · rw [isConcat, List.concat_eq_append, ← List.cons_append, ← List.append_assoc] at split
    obtain ⟨sameTrace, _⟩ := List.append_inj' split rfl
    exact justified before inner earlier sameTrace

theorem Justified.of_concat (justified : Justified justifies (trace ++ [event])) :
    Justified justifies trace ∧ justifies trace event := by
  refine ⟨fun before inner after split => ?_, justified trace event [] rfl⟩
  apply justified before inner (after ++ [event])
  rw [split, List.append_assoc, List.cons_append]

theorem Justified.countP_le_one (justified : Justified justifies trace) (kind : ε → Bool)
    (first : ∀ before event, justifies before event → kind event = true →
      ∀ other ∈ before, kind other = false) : trace.countP kind ≤ 1 := by
  induction trace using List.reverseRecOn with
  | nil => exact Nat.zero_le 1
  | append_singleton trace event ih =>
    obtain ⟨earlier, last⟩ := justified.of_concat
    rw [List.countP_append]
    cases isKind : kind event with
    | false =>
      have none : [event].countP kind = 0 := by simp [isKind]
      have atMost := ih earlier
      omega
    | true =>
      have noneBefore : trace.countP kind = 0 := by
        rw [List.countP_eq_zero]
        intro other present isOther
        rw [first trace event last isKind other present] at isOther
        cases isOther
      have single : [event].countP kind ≤ 1 := List.countP_le_length
      omega

/-- Two events are one if neither can be in front of the other. -/
theorem Justified.unique (justified : Justified justifies trace) {other : ε}
    (member : event ∈ trace) (otherMember : other ∈ trace)
    (alone : ∀ before, justifies before event → other ∉ before)
    (otherAlone : ∀ before, justifies before other → event ∉ before) : event = other := by
  by_contra different
  obtain ⟨before, after, split⟩ := List.append_of_mem member
  rw [split] at otherMember
  rcases List.mem_append.mp otherMember with earlier | later
  · exact alone before (justified before event after split) earlier
  have inAfter : other ∈ after := (List.mem_cons.mp later).resolve_left (Ne.symm different)
  obtain ⟨middle, rest, splitAfter⟩ := List.append_of_mem inAfter
  refine otherAlone (before ++ event :: middle) ?_ (List.mem_append_right _ List.mem_cons_self)
  apply justified (before ++ event :: middle) other rest
  rw [split, splitAfter, List.append_assoc, List.cons_append]

end Trace
