/-
**Bounded caches, whatever they evict.**

A cache answers with what was put into it under the key, or with nothing: which entries it has thrown
away is its own business. A proof about a client of a cache holds for every eviction when it is a
proof about every `CachePolicy`.

* `CachePolicy` — the operations, and the entries a state can still answer with (`Holds`), which only
  `set` extends.
* `Sound` — every entry a state can answer with is right; kept by `get`, and by `set` of a right entry.
* `lru`, `off` — the least recently used policy of a given size, and the cache that keeps nothing.
-/

import Mathlib.Data.List.Basic
import Mathlib.Data.PNat.Defs
import Mathlib.Tactic.Common
import ValidatorEjector.Library.OrderedMap

namespace Library

/-- **A cache with keys in `K`.** The proofs say that an answer was put in by `set`. -/
structure CachePolicy (K : Type) where
  State : Type → Type
  empty {V : Type} : State V
  get {V : Type} : K → State V → Option V × State V
  set {V : Type} : K → V → State V → State V
  /-- The state can still answer `v` under `k`. -/
  Holds {V : Type} : State V → K → V → Prop
  not_holds_empty {V : Type} {k : K} {v : V} : ¬ Holds empty k v
  get_holds {V : Type} {k : K} {s : State V} {v : V} : (get k s).1 = some v → Holds s k v
  get_keeps {V : Type} {k j : K} {s : State V} {v : V} : Holds (get k s).2 j v → Holds s j v
  set_holds {V : Type} {k j : K} {s : State V} {v u : V} :
    Holds (set k v s) j u → (j = k ∧ u = v) ∨ Holds s j u

namespace CachePolicy

/-! ### Sound states -/

section Sound

variable {K V : Type} {cache : CachePolicy K} {Right : K → V → Prop} {s : cache.State V} {k : K} {v : V}

/-- Every entry the state can answer with is right. -/
def Sound (cache : CachePolicy K) (Right : K → V → Prop) (s : cache.State V) : Prop :=
  ∀ k v, cache.Holds s k v → Right k v

theorem sound_empty : cache.Sound Right cache.empty :=
  fun _ _ held => absurd held cache.not_holds_empty

theorem Sound.get (sound : cache.Sound Right s) : cache.Sound Right (cache.get k s).2 :=
  fun j u held => sound j u (cache.get_keeps held)

theorem Sound.right (sound : cache.Sound Right s) (hit : (cache.get k s).1 = some v) : Right k v :=
  sound k v (cache.get_holds hit)

theorem Sound.set (sound : cache.Sound Right s) (right : Right k v) :
    cache.Sound Right (cache.set k v s) := by
  intro j u held
  rcases cache.set_holds held with ⟨rfl, rfl⟩ | held
  · exact right
  · exact sound j u held

end Sound

/-- A key without an entry is not answered. -/
theorem get_unheld {K V : Type} {cache : CachePolicy K} {s : cache.State V} {k : K}
    (unheld : ∀ v, ¬ cache.Holds s k v) : (cache.get k s).1 = none := by
  cases hit : (cache.get k s).1 with
  | none => rfl
  | some v => exact absurd (cache.get_holds hit) (unheld v)

/-! ### Two policies -/

section Policies

variable {K : Type} [DecidableEq K]

/-- The least recently used policy: the entries, the most recent first, at most `max` of them. -/
def lru (max : ℕ+) : CachePolicy K where
  State V := List (K × V)
  empty := []
  get k s :=
    match s.lookup k with
    | some v => (some v, (k, v) :: s.filter fun entry => entry.1 ≠ k)
    | none => (none, s)
  set k v s := ((k, v) :: s.filter fun entry => entry.1 ≠ k).take max
  Holds s k v := (k, v) ∈ s
  not_holds_empty := List.not_mem_nil
  get_holds {V k s v} hit := by
    cases found : s.lookup k with
    | none => rw [found] at hit; cases hit
    | some u =>
      rw [found] at hit
      cases hit
      exact mem_of_lookup found
  get_keeps {V k j s v} held := by
    cases found : s.lookup k with
    | none => rwa [found] at held
    | some u =>
      rw [found] at held
      rcases List.mem_cons.mp held with same | held
      · cases same
        exact mem_of_lookup found
      · exact (List.mem_filter.mp held).1
  set_holds {V k j s v u} held := by
    rcases List.mem_cons.mp (List.mem_of_mem_take held) with same | held
    · cases same
      exact .inl ⟨rfl, rfl⟩
    · exact .inr (List.mem_filter.mp held).1

/-- The cache that keeps nothing. -/
def off (K : Type) : CachePolicy K where
  State _ := Unit
  empty := ()
  get _ _ := (none, ())
  set _ _ _ := ()
  Holds _ _ _ := False
  not_holds_empty := id
  get_holds hit := by cases hit
  get_keeps := id
  set_holds := .inr

end Policies

end CachePolicy

end Library
