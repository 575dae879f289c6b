/-
**Maps that remember the order of insertion.**

The semantics of a JavaScript `Map`, and of `Object.fromEntries`: a key keeps the place of its first
insertion and the value of its last.

* `OrderedMap K V` — the entries in order, no key twice; `get?`, `set`, `delete`, `keys`, `values`.
* `get?_eq_some` — an entry is found under its key.
* `get?_set`, `get?_delete` — what the operations do to a lookup.
* `mem_set`, `mem_delete` — what they do to the entries.
* `mapValues` — every value through a function; `mapValues_set`, `get?_mapValues` — it commutes with the
  operations.
* `lastValue?` — the value the last entry under a key gives it, as in a record made of the entries;
  `lastValue?_congr` — their order does not matter where a key has one value;
  `get?_ofEntries` — so does the map made of them.
-/

import Mathlib.Data.List.Induction
import Mathlib.Data.List.Nodup
import Mathlib.Tactic.Common

namespace Library

variable {K V : Type} [DecidableEq K]

/-- The value of a key in the record made of the entries. -/
def lastValue? (entries : List (K × V)) (k : K) : Option V := entries.reverse.lookup k

theorem mem_of_lookup {entries : List (K × V)} {k : K} {v : V}
    (found : entries.lookup k = some v) : (k, v) ∈ entries := by
  obtain ⟨before, after, rfl, _⟩ := List.lookup_eq_some_iff.mp found
  exact List.mem_append_right before List.mem_cons_self

theorem mem_of_lastValue? {entries : List (K × V)} {k : K} {v : V}
    (found : lastValue? entries k = some v) : (k, v) ∈ entries :=
  List.mem_reverse.mp (mem_of_lookup found)

/-- Without a value there is no entry. -/
theorem lastValue?_eq_none {entries : List (K × V)} {k : K} :
    lastValue? entries k = none ↔ ∀ v, (k, v) ∉ entries := by
  unfold lastValue?
  rw [List.lookup_eq_none_iff]
  constructor
  · intro absent v member
    have other := absent (k, v) (List.mem_reverse.mpr member)
    exact bne_iff_ne.mp other rfl
  · rintro absent ⟨j, v⟩ member
    refine bne_iff_ne.mpr ?_
    rintro rfl
    exact absent v (List.mem_reverse.mp member)

/-- Where a key has one value, it is found under the key. -/
theorem lastValue?_eq_some {entries : List (K × V)} {k : K} {v : V}
    (functional : ∀ u u', (k, u) ∈ entries → (k, u') ∈ entries → u = u') :
    lastValue? entries k = some v ↔ (k, v) ∈ entries := by
  refine ⟨mem_of_lastValue?, fun member => ?_⟩
  cases found : lastValue? entries k with
  | none => exact absurd member (lastValue?_eq_none.mp found v)
  | some u => rw [functional u v (mem_of_lastValue? found) member]

/-- A record is determined by its set of entries, where a key has one value. -/
theorem lastValue?_congr {entries entries' : List (K × V)} (same : ∀ entry, entry ∈ entries ↔ entry ∈ entries')
    {k : K} (functional : ∀ u u', (k, u) ∈ entries → (k, u') ∈ entries → u = u') :
    lastValue? entries k = lastValue? entries' k := by
  refine Option.ext fun v => ?_
  rw [lastValue?_eq_some functional, same, lastValue?_eq_some]
  intro u u' first second
  exact functional u u' ((same _).mpr first) ((same _).mpr second)

/-- A map: its entries in the order of insertion, no key twice. -/
@[ext] structure OrderedMap (K V : Type) where
  entries : List (K × V)
  nodup : (entries.map Prod.fst).Nodup

namespace OrderedMap

instance [DecidableEq V] : DecidableEq (OrderedMap K V) := fun _ _ => decidable_of_iff _ OrderedMap.ext_iff.symm

def empty : OrderedMap K V := ⟨[], List.nodup_nil⟩

def get? (m : OrderedMap K V) (k : K) : Option V := m.entries.lookup k

/-- The entries with the value of a key replaced, or a new entry at the end. -/
def setEntry (k : K) (v : V) : List (K × V) → List (K × V)
  | [] => [(k, v)]
  | (j, u) :: rest => if j = k then (k, v) :: rest else (j, u) :: setEntry k v rest

theorem setEntry_keys (k : K) (v : V) : ∀ entries : List (K × V),
    (setEntry k v entries).map Prod.fst =
      if k ∈ entries.map Prod.fst then entries.map Prod.fst else entries.map Prod.fst ++ [k]
  | [] => rfl
  | (j, u) :: rest => by
    unfold setEntry
    by_cases same : j = k
    · simp [same]
    · have tail := setEntry_keys k v rest
      simp only [same, if_false, List.map_cons, tail, List.mem_cons]
      by_cases inside : k ∈ rest.map Prod.fst
      · simp [inside]
      · have other : k ≠ j := fun equal => same equal.symm
        simp [inside, other]

def set (m : OrderedMap K V) (k : K) (v : V) : OrderedMap K V where
  entries := setEntry k v m.entries
  nodup := by
    rw [setEntry_keys]
    by_cases inside : k ∈ m.entries.map Prod.fst
    · rw [if_pos inside]
      exact m.nodup
    · rw [if_neg inside]
      exact List.nodup_append.mpr ⟨m.nodup, List.nodup_singleton k, by
        rintro j first _ second rfl
        exact inside (List.mem_singleton.mp second ▸ first)⟩

def delete (m : OrderedMap K V) (k : K) : OrderedMap K V where
  entries := m.entries.filter fun entry => entry.1 ≠ k
  nodup := (m.nodup.sublist (List.filter_sublist.map _))

/-- The map made of entries, one set after the other. -/
def ofEntries (entries : List (K × V)) : OrderedMap K V :=
  entries.foldl (fun m entry => m.set entry.1 entry.2) empty

def keys (m : OrderedMap K V) : List K := m.entries.map Prod.fst

def values (m : OrderedMap K V) : List V := m.entries.map Prod.snd

def size (m : OrderedMap K V) : Nat := m.entries.length

/-! ### Lookups -/

section Lookups

variable {m : OrderedMap K V} {j k : K} {u v : V}

@[simp] theorem get?_empty : (empty : OrderedMap K V).get? k = none := rfl

/-- An entry is found under its key. -/
theorem get?_eq_some : m.get? k = some v ↔ (k, v) ∈ m.entries := by
  refine ⟨mem_of_lookup, fun member => ?_⟩
  obtain ⟨before, after, split⟩ := List.append_of_mem member
  unfold get?
  rw [split]
  have fresh : k ∉ before.map Prod.fst := by
    have nodup := m.nodup
    rw [split, List.map_append, List.map_cons] at nodup
    exact fun inside => (List.nodup_append.mp nodup).2.2 k inside k List.mem_cons_self rfl
  refine List.lookup_eq_some_iff.mpr ⟨before, after, rfl, fun entry inside => ?_⟩
  have other : k ≠ entry.1 := fun same => fresh (by rw [same]; exact List.mem_map_of_mem inside)
  exact bne_iff_ne.mpr other

theorem get?_eq_none : m.get? k = none ↔ k ∉ m.keys := by
  constructor
  · rintro absent inside
    obtain ⟨⟨_, v⟩, member, rfl⟩ := List.mem_map.mp inside
    rw [get?_eq_some.mpr member] at absent
    cases absent
  · intro absent
    cases found : m.get? k with
    | none => rfl
    | some v => exact absurd (List.mem_map_of_mem (f := Prod.fst) (get?_eq_some.mp found)) absent

theorem mem_setEntry {entries : List (K × V)} (nodup : (entries.map Prod.fst).Nodup) :
    (j, u) ∈ setEntry k v entries ↔ (j = k ∧ u = v) ∨ (j ≠ k ∧ (j, u) ∈ entries) := by
  induction entries with
  | nil => simp [setEntry]
  | cons entry rest ih =>
    obtain ⟨i, w⟩ := entry
    rw [List.map_cons, List.nodup_cons] at nodup
    unfold setEntry
    by_cases same : i = k
    · subst same
      rw [if_pos rfl, List.mem_cons, List.mem_cons, Prod.mk.injEq]
      constructor
      · rintro (⟨rfl, rfl⟩ | member)
        · exact .inl ⟨rfl, rfl⟩
        · refine .inr ⟨?_, .inr member⟩
          rintro rfl
          exact nodup.1 (List.mem_map.mpr ⟨_, member, rfl⟩)
      · rintro (⟨rfl, rfl⟩ | ⟨other, ⟨rfl, rfl⟩ | member⟩)
        · exact .inl ⟨rfl, rfl⟩
        · exact absurd rfl other
        · exact .inr member
    · rw [if_neg same, List.mem_cons, List.mem_cons, ih nodup.2, Prod.mk.injEq]
      constructor
      · rintro (⟨rfl, rfl⟩ | ⟨rfl, rfl⟩ | ⟨other, member⟩)
        · exact .inr ⟨same, .inl ⟨rfl, rfl⟩⟩
        · exact .inl ⟨rfl, rfl⟩
        · exact .inr ⟨other, .inr member⟩
      · rintro (⟨rfl, rfl⟩ | ⟨other, ⟨rfl, rfl⟩ | member⟩)
        · exact .inr (.inl ⟨rfl, rfl⟩)
        · exact .inl ⟨rfl, rfl⟩
        · exact .inr (.inr ⟨other, member⟩)

theorem mem_set : (j, u) ∈ (m.set k v).entries ↔ (j = k ∧ u = v) ∨ (j ≠ k ∧ (j, u) ∈ m.entries) :=
  mem_setEntry m.nodup

theorem mem_delete : (j, u) ∈ (m.delete k).entries ↔ j ≠ k ∧ (j, u) ∈ m.entries := by
  unfold delete
  rw [List.mem_filter, decide_eq_true_eq, and_comm]

theorem get?_set : (m.set k v).get? j = if j = k then some v else m.get? j := by
  by_cases same : j = k
  · rw [if_pos same, get?_eq_some, mem_set]
    exact .inl ⟨same, rfl⟩
  · rw [if_neg same]
    refine Option.ext fun u => ?_
    rw [get?_eq_some, get?_eq_some, mem_set]
    exact ⟨fun found => found.elim (fun here => absurd here.1 same) And.right,
      fun found => .inr ⟨same, found⟩⟩

theorem get?_delete : (m.delete k).get? j = if j = k then none else m.get? j := by
  refine Option.ext fun u => ?_
  rw [get?_eq_some, mem_delete]
  by_cases same : j = k
  · simp [same]
  · rw [if_neg same, get?_eq_some]
    exact ⟨And.right, fun found => ⟨same, found⟩⟩

theorem keys_set : (m.set k v).keys = if k ∈ m.keys then m.keys else m.keys ++ [k] :=
  setEntry_keys k v m.entries

/-- The map made of entries has the value of the last entry under each key. -/
theorem get?_ofEntries (entries : List (K × V)) : (ofEntries entries).get? k = lastValue? entries k := by
  unfold ofEntries lastValue?
  induction entries using List.reverseRecOn with
  | nil => rfl
  | append_singleton entries entry ih =>
    obtain ⟨j, v⟩ := entry
    rw [List.foldl_append, List.foldl_cons, List.foldl_nil, List.reverse_append, get?_set, ih]
    show _ = List.lookup k ((j, v) :: entries.reverse)
    rw [List.lookup_cons]
    by_cases same : k = j
    · rw [if_pos same, beq_iff_eq.mpr same]
    · rw [if_neg same, beq_false_of_ne same]

end Lookups

/-! ### Values through a function -/

section MapValues

variable {W : Type} {f : V → W} {m : OrderedMap K V} {k : K} {v : V}

def mapValues (f : V → W) (m : OrderedMap K V) : OrderedMap K W where
  entries := m.entries.map fun entry => (entry.1, f entry.2)
  nodup := by
    rw [List.map_map]
    exact m.nodup

omit [DecidableEq K] in
@[simp] theorem mapValues_entries :
    (m.mapValues f).entries = m.entries.map fun entry => (entry.1, f entry.2) := rfl

theorem setEntry_map : ∀ entries : List (K × V),
    (setEntry k v entries).map (fun entry => (entry.1, f entry.2)) =
      setEntry k (f v) (entries.map fun entry => (entry.1, f entry.2))
  | [] => rfl
  | (j, u) :: rest => by
    unfold setEntry
    by_cases same : j = k
    · simp [same]
    · simp [same, setEntry_map rest]

theorem mapValues_set : (m.set k v).mapValues f = (m.mapValues f).set k (f v) :=
  OrderedMap.ext (setEntry_map m.entries)

theorem get?_mapValues : (m.mapValues f).get? k = (m.get? k).map f := by
  unfold get?
  rw [mapValues_entries]
  induction m.entries with
  | nil => rfl
  | cons entry rest ih =>
    rw [List.map_cons, List.lookup_cons, List.lookup_cons, ih]
    cases k == entry.1 <;> rfl

omit [DecidableEq K] in
theorem size_mapValues : (m.mapValues f).size = m.size := List.length_map _

end MapValues

end OrderedMap

end Library
