/-
Lexical resolution of slash separated paths over an arbitrary alphabet: an empty
component and "." stay where they are, ".." goes up, any other component goes down.
-/

import Mathlib.Data.List.Basic

universe u

variable {σ : Type u} [DecidableEq σ]

/-- Where a path leads, without looking at the file system: from the root or from the
current directory, up a number of times that no name before it undoes, and down. -/
structure Place (σ : Type u) where
  absolute : Bool
  ups : Nat
  names : List (List σ)

namespace Place

variable (sep dot : σ)

/-- Follow one component. The parent of the root is the root. -/
def follow (place : Place σ) (component : List σ) : Place σ :=
  if component = [] ∨ component = [dot] then place
  else if component = [dot, dot] then
    if place.names = [] then
      if place.absolute then place else { place with ups := place.ups + 1 }
    else { place with names := place.names.dropLast }
  else { place with names := place.names ++ [component] }

def resolve (path : List σ) : Place σ :=
  (path.splitOn sep).foldl (follow dot) ⟨path.head? == some sep, 0, []⟩

def Plain (component : List σ) : Prop := component ≠ [] ∧ component ≠ [dot] ∧ component ≠ [dot, dot]

/-- The place is reached from the root by going down at least once, and never up. -/
def StrictlyBelow (root place : Place σ) : Prop :=
  ∃ names, names ≠ [] ∧ (∀ component ∈ names, Plain dot component) ∧
    place = { root with names := root.names ++ names }

variable {sep dot} {place : Place σ} {component path name front : List σ}

theorem follow_plain (plain : Plain dot component) :
    place.follow dot component = { place with names := place.names ++ [component] } := by
  unfold follow
  rw [if_neg, if_neg plain.2.2]
  rintro (empty | single)
  · exact plain.1 empty
  · exact plain.2.1 single

theorem follow_nil : place.follow dot [] = place := by
  unfold follow
  rw [if_pos (.inl rfl)]

theorem foldl_follow_plain {components : List (List σ)}
    (plain : ∀ component ∈ components, Plain dot component) :
    components.foldl (follow dot) place =
      { place with names := place.names ++ components } := by
  induction components generalizing place with
  | nil => rw [List.foldl_nil, List.append_nil]
  | cons component components ih =>
    rw [List.foldl_cons, follow_plain (plain component List.mem_cons_self),
      ih (List.forall_mem_cons.mp plain).2]
    simp

theorem splitOn_append_cons : (front ++ sep :: name).splitOn sep =
    front.splitOn sep ++ name.splitOn sep :=
  List.splitOnP_append_cons front name (beq_self_eq_true sep)

theorem splitOn_slash : (front ++ [sep]).splitOn sep = front.splitOn sep ++ [[]] :=
  splitOn_append_cons

theorem resolve_join : resolve sep dot (front ++ sep :: name) =
    (name.splitOn sep).foldl (follow dot) (resolve sep dot (front ++ [sep])) := by
  unfold resolve
  rw [splitOn_append_cons, splitOn_slash, List.foldl_append, List.foldl_append,
    List.foldl_cons, List.foldl_nil, follow_nil]
  cases front with
  | nil => rfl
  | cons first others => rfl

theorem strictlyBelow_join (plain : ∀ component ∈ name.splitOn sep, Plain dot component) :
    StrictlyBelow dot (resolve sep dot (front ++ [sep]))
      (resolve sep dot (front ++ sep :: name)) := by
  refine ⟨name.splitOn sep, List.splitOnP_ne_nil _ name, plain, ?_⟩
  rw [resolve_join, foldl_follow_plain plain]

theorem strictlyBelow_join_directory (plain : ∀ component ∈ name.splitOn sep, Plain dot component) :
    StrictlyBelow dot (resolve sep dot (front ++ [sep]))
      (resolve sep dot (front ++ sep :: (name ++ [sep]))) := by
  refine ⟨name.splitOn sep, List.splitOnP_ne_nil _ name, plain, ?_⟩
  rw [resolve_join, splitOn_slash, List.foldl_append, foldl_follow_plain plain, List.foldl_cons,
    List.foldl_nil, follow_nil]

end Place
