/-
Maps with keys of a linear order, kept as the list of their entries in increasing
key order. Two maps with the same lookups are the same list, so walking through a
map in key order is a function of its lookups.
-/

import Mathlib.Order.Lattice
import Mathlib.Data.List.Perm.Basic
import Mathlib.Data.List.Nodup

universe u v

/-- The entries of a map, each key once. -/
structure SortedMap (κ : Type u) (ν : Type v) [LinearOrder κ] where
  entries : List (κ × ν)
  sorted : entries.Pairwise (fun first second => first.1 < second.1)

namespace SortedMap

variable {κ : Type u} {ν : Type v} [LinearOrder κ]

instance [DecidableEq ν] : DecidableEq (SortedMap κ ν)
  | first, second =>
    decidable_of_iff (first.entries = second.entries) (by
      cases first
      cases second
      rw [SortedMap.mk.injEq])

def empty : SortedMap κ ν := { entries := [], sorted := List.Pairwise.nil }

instance : Inhabited (SortedMap κ ν) := ⟨empty⟩

def lookup (map : SortedMap κ ν) (key : κ) : Option ν :=
  (map.entries.find? (fun entry => decide (entry.1 = key))).map Prod.snd

def contains (map : SortedMap κ ν) (key : κ) : Bool := (map.lookup key).isSome

def keys (map : SortedMap κ ν) : List κ := map.entries.map Prod.fst

def values (map : SortedMap κ ν) : List ν := map.entries.map Prod.snd

def set (map : SortedMap κ ν) (key : κ) (value : ν) : SortedMap κ ν where
  entries := map.entries.filter (fun entry => decide (entry.1 < key)) ++
    (key, value) :: map.entries.filter (fun entry => decide (key < entry.1))
  sorted := by
    rw [List.pairwise_append, List.pairwise_cons]
    refine ⟨map.sorted.filter _, ⟨?_, map.sorted.filter _⟩, ?_⟩
    · intro entry member
      exact of_decide_eq_true (List.mem_filter.mp member).2
    · intro first below second member
      have less : first.1 < key := of_decide_eq_true (List.mem_filter.mp below).2
      rcases List.mem_cons.mp member with same | above
      · rw [same]
        exact less
      · exact less.trans (of_decide_eq_true (List.mem_filter.mp above).2)

def emplace (map : SortedMap κ ν) (key : κ) (value : ν) : SortedMap κ ν :=
  if map.contains key then map else map.set key value

def erase (map : SortedMap κ ν) (key : κ) : SortedMap κ ν where
  entries := map.entries.filter (fun entry => decide (entry.1 ≠ key))
  sorted := map.sorted.filter _

variable {map : SortedMap κ ν} {key : κ}

theorem lookup_eq_some_iff {value : ν} :
    map.lookup key = some value ↔ (key, value) ∈ map.entries := by
  obtain ⟨entries, sorted⟩ := map
  unfold lookup
  induction entries with
  | nil => simp
  | cons entry rest ih =>
    obtain ⟨above, sortedRest⟩ := List.pairwise_cons.mp sorted
    by_cases same : entry.1 = key
    · rw [List.find?_cons_of_pos (by simpa using same), Option.map_some, Option.some.injEq,
        List.mem_cons]
      constructor
      · intro found
        exact .inl (Prod.ext same.symm found.symm)
      · intro member
        rcases member with found | later
        · exact (congrArg Prod.snd found).symm
        · have less := above (key, value) later
          rw [same] at less
          exact absurd less (lt_irrefl key)
    · rw [List.find?_cons_of_neg (by simpa using same), List.mem_cons, ih sortedRest]
      constructor
      · exact .inr
      · intro member
        rcases member with found | later
        · exact absurd (congrArg Prod.fst found).symm same
        · exact later

theorem lookup_eq_none_iff : map.lookup key = none ↔ key ∉ map.keys := by
  constructor
  · intro absent member
    obtain ⟨entry, present, same⟩ := List.mem_map.mp member
    have found : map.lookup key = some entry.2 :=
      lookup_eq_some_iff.mpr (by rw [← same]; exact present)
    rw [absent] at found
    cases found
  · intro absent
    cases found : map.lookup key with
    | none => rfl
    | some value =>
      exact absurd (List.mem_map_of_mem (f := Prod.fst) (lookup_eq_some_iff.mp found)) absent

theorem contains_iff : map.contains key = true ↔ key ∈ map.keys := by
  unfold contains
  rw [Option.isSome_iff_ne_none, ne_eq, lookup_eq_none_iff, not_not]

theorem contains_eq_false_iff : map.contains key = false ↔ map.lookup key = none := by
  exact Option.isSome_eq_false_iff.trans Option.isNone_iff_eq_none

theorem contains_eq_true_iff : map.contains key = true ↔ ∃ value, map.lookup key = some value := by
  exact Option.isSome_iff_exists

theorem mem_values_iff {value : ν} : value ∈ map.values ↔ ∃ key, map.lookup key = some value := by
  constructor
  · intro member
    obtain ⟨entry, present, rfl⟩ := List.mem_map.mp member
    exact ⟨entry.1, lookup_eq_some_iff.mpr present⟩
  · rintro ⟨key, found⟩
    exact List.mem_map.mpr ⟨(key, value), lookup_eq_some_iff.mp found, rfl⟩

theorem keys_nodup (map : SortedMap κ ν) : map.keys.Nodup := by
  unfold keys
  rw [List.nodup_iff_pairwise_ne, List.pairwise_map]
  exact map.sorted.imp (fun less => ne_of_lt less)

variable {index : ν → κ}

theorem values_nodup (keyed : ∀ key value, map.lookup key = some value → index value = key) :
    map.values.Nodup := by
  have indices : map.values.map index = map.keys := by
    unfold values keys
    rw [List.map_map]
    apply List.map_congr_left
    intro entry member
    exact keyed entry.1 entry.2 (lookup_eq_some_iff.mpr member)
  apply List.Nodup.of_map index
  rw [indices]
  exact map.keys_nodup

/-! ### Lookups after an update -/

theorem lookup_set (map : SortedMap κ ν) (key : κ) (value : ν) (other : κ) :
    (map.set key value).lookup other = if other = key then some value else map.lookup other := by
  have members : ∀ found, (map.set key value).lookup other = some found ↔
      (other = key ∧ found = value) ∨ (other ≠ key ∧ map.lookup other = some found) := by
    intro found
    rw [lookup_eq_some_iff, lookup_eq_some_iff]
    unfold set
    simp only [List.mem_append, List.mem_cons, List.mem_filter, decide_eq_true_eq, Prod.mk.injEq]
    constructor
    · rintro (⟨present, less⟩ | same | ⟨present, less⟩)
      · exact .inr ⟨ne_of_lt less, present⟩
      · exact .inl same
      · exact .inr ⟨ne_of_gt less, present⟩
    · rintro (same | ⟨different, present⟩)
      · exact .inr (.inl same)
      · rcases lt_or_gt_of_ne different with less | less
        · exact .inl ⟨present, less⟩
        · exact .inr (.inr ⟨present, less⟩)
  apply Option.ext
  intro found
  rw [members found]
  by_cases same : other = key
  · rw [if_pos same, Option.some.injEq]
    constructor
    · rintro (⟨_, equal⟩ | ⟨different, _⟩)
      · exact equal.symm
      · exact absurd same different
    · intro equal
      exact .inl ⟨same, equal.symm⟩
  · rw [if_neg same]
    constructor
    · rintro (⟨equal, _⟩ | ⟨_, present⟩)
      · exact absurd equal same
      · exact present
    · intro present
      exact .inr ⟨same, present⟩

theorem lookup_emplace (map : SortedMap κ ν) (key : κ) (value : ν) (other : κ) :
    (map.emplace key value).lookup other =
      if other = key then some ((map.lookup key).getD value) else map.lookup other := by
  unfold emplace contains
  cases present : map.lookup key with
  | none =>
    rw [Option.isSome_none, if_neg Bool.false_ne_true, lookup_set, Option.getD_none]
  | some old =>
    rw [Option.isSome_some, if_pos rfl, Option.getD_some]
    by_cases same : other = key
    · rw [if_pos same, same, present]
    · rw [if_neg same]

theorem lookup_erase (map : SortedMap κ ν) (key other : κ) :
    (map.erase key).lookup other = if other = key then none else map.lookup other := by
  apply Option.ext
  intro found
  rw [lookup_eq_some_iff]
  unfold erase
  rw [List.mem_filter, decide_eq_true_eq]
  by_cases same : other = key
  · rw [if_pos same]
    constructor
    · rintro ⟨_, different⟩
      exact absurd same different
    · intro impossible
      cases impossible
  · rw [if_neg same, lookup_eq_some_iff]
    exact ⟨fun both => both.1, fun present => ⟨present, same⟩⟩

theorem values_filter {kept : SortedMap κ ν} {keep : ν → Bool}
    (same : ∀ key, kept.lookup key = (map.lookup key).filter keep) :
    kept.values = map.values.filter keep := by
  have members : ∀ entry, entry ∈ kept.entries ↔
      entry ∈ map.entries.filter (fun entry => keep entry.2) := by
    rintro ⟨key, value⟩
    rw [← lookup_eq_some_iff, same, Option.filter_eq_some_iff, lookup_eq_some_iff, List.mem_filter]
  have distinct : ∀ {entries : List (κ × ν)},
      entries.Pairwise (fun first second => first.1 < second.1) → entries.Nodup :=
    fun sorted => sorted.imp (fun less same => absurd (congrArg Prod.fst same) (ne_of_lt less))
  have sorted := map.sorted.filter (fun entry => keep entry.2)
  have permuted : kept.entries.Perm (map.entries.filter (fun entry => keep entry.2)) :=
    (List.perm_ext_iff_of_nodup (distinct kept.sorted) (distinct sorted)).mpr members
  have equal : kept.entries = map.entries.filter (fun entry => keep entry.2) :=
    permuted.eq_of_pairwise (fun left right _ _ less more => absurd (less.trans more)
      (lt_irrefl _)) kept.sorted sorted
  unfold values
  rw [equal, List.filter_map]
  rfl

theorem values_sorted (keyed : ∀ key value, map.lookup key = some value → index value = key) :
    map.values.Pairwise (fun first second => index first < index second) := by
  unfold values
  rw [List.pairwise_map]
  apply map.sorted.imp_of_mem
  intro first second firstMember secondMember less
  rw [keyed first.1 first.2 (lookup_eq_some_iff.mpr firstMember),
    keyed second.1 second.2 (lookup_eq_some_iff.mpr secondMember)]
  exact less

theorem values_eq_of_lookup {list : List ν}
    (sorted : list.Pairwise (fun first second => index first < index second))
    (same : ∀ key value, map.lookup key = some value ↔ value ∈ list ∧ index value = key) :
    map.values = list := by
  have inOrder := values_sorted (fun key value found => ((same key value).mp found).2)
  have members : ∀ value, value ∈ map.values ↔ value ∈ list := by
    intro value
    rw [mem_values_iff]
    constructor
    · rintro ⟨key, found⟩
      exact ((same key value).mp found).1
    · intro member
      exact ⟨index value, (same (index value) value).mpr ⟨member, rfl⟩⟩
  have distinct : ∀ {values : List ν},
      values.Pairwise (fun first second => index first < index second) → values.Nodup :=
    fun sorted => sorted.imp (fun less same => absurd (congrArg index same) (ne_of_lt less))
  have permuted : map.values.Perm list :=
    (List.perm_ext_iff_of_nodup (distinct inOrder) (distinct sorted)).mpr members
  exact permuted.eq_of_pairwise (fun left right _ _ less more => absurd (less.trans more)
    (lt_irrefl _)) inOrder sorted

theorem erase_of_absent (absent : map.lookup key = none) : map.erase key = map := by
  have kept : map.entries.filter (fun entry => decide (entry.1 ≠ key)) = map.entries := by
    apply List.filter_eq_self.mpr
    intro entry member
    apply decide_eq_true
    intro same
    exact lookup_eq_none_iff.mp absent (same ▸ List.mem_map_of_mem member)
  cases map
  unfold erase
  congr

theorem keys_erase_head {rest : List κ} (shape : map.keys = key :: rest) :
    (map.erase key).keys = rest := by
  rcases List.map_eq_cons_iff.mp shape with ⟨entry, others, entries, rfl, rfl⟩
  have above := map.sorted
  rw [entries] at above
  have later := (List.pairwise_cons.mp above).1
  unfold keys erase
  dsimp only
  rw [entries, List.filter_cons_of_neg (by simp), List.filter_eq_self.mpr]
  intro other member
  exact decide_eq_true (ne_of_gt (later other member))

end SortedMap
