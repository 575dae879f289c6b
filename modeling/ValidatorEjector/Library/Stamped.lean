/-
**Tables whose entries are kept alive by being seen again.**

Every value carries the stamp of the cycle that last wrote or saw it. A cycle takes a new stamp, sees some
of the keys, sweeps out what has an older stamp, and writes new values.

* `Stamped K V` — the clock and the cells; `tick`, `put`, `touch`, `erase`, `keep`, `sweep`.
* `cycle`, `cell_cycle` — a whole cycle, in closed form.
* `cycle_live` — what is seen stays; `cycle_exact` — with a new stamp nothing else does.
* `cycle_congr` — older stamps do not matter to a newer cycle.
-/

import ValidatorEjector.Library.OrderedMap
import Mathlib.Logic.Function.Basic

namespace Library

variable {K V : Type}

/-- A table of stamped values. -/
@[ext] structure Stamped (K V : Type) where
  clock : Int
  cell : K → Option (V × Int)

namespace Stamped

/-- The value under a key. -/
def value? (t : Stamped K V) (k : K) : Option V := (t.cell k).map Prod.fst

/-- A new cycle starts. -/
def tick (now : Int) (t : Stamped K V) : Stamped K V := { t with clock := now }

/-- Only values with the property are kept. -/
def keep (p : V → Bool) (t : Stamped K V) : Stamped K V :=
  { t with cell := fun k => (t.cell k).filter fun c => p c.1 }

/-- What the running cycle has not seen is dropped. -/
def sweep (t : Stamped K V) : Stamped K V :=
  { t with cell := fun k => (t.cell k).filter fun c => t.clock ≤ c.2 }

@[simp] theorem cell_tick {t : Stamped K V} {now : Int} : (t.tick now).cell = t.cell := rfl

@[simp] theorem clock_tick {t : Stamped K V} {now : Int} : (t.tick now).clock = now := rfl

@[simp] theorem clock_sweep {t : Stamped K V} : t.sweep.clock = t.clock := rfl

variable [DecidableEq K]

/-- A value is written. -/
def put (k : K) (v : V) (t : Stamped K V) : Stamped K V :=
  { t with cell := Function.update t.cell k (some (v, t.clock)) }

/-- A value is seen. -/
def touch (k : K) (t : Stamped K V) : Stamped K V :=
  { t with cell := Function.update t.cell k ((t.cell k).map fun c => (c.1, t.clock)) }

/-- A value is dropped. -/
def erase (k : K) (t : Stamped K V) : Stamped K V :=
  { t with cell := Function.update t.cell k none }

/-! ### Cells -/

section Cells

variable {t : Stamped K V} {j k : K} {v : V}

@[simp] theorem clock_put : (t.put k v).clock = t.clock := rfl

@[simp] theorem clock_touch : (t.touch k).clock = t.clock := rfl

theorem cell_put : (t.put k v).cell j = if j = k then some (v, t.clock) else t.cell j := by
  simp [put, Function.update_apply]

theorem cell_touch : (t.touch k).cell j =
    (t.cell j).map fun c => (c.1, if j = k then t.clock else c.2) := by
  show Function.update t.cell k _ j = _
  rw [Function.update_apply]
  by_cases same : j = k
  · simp [same]
  · simp [same]

theorem cell_erase : (t.erase k).cell j = if j = k then none else t.cell j := by
  simp [erase, Function.update_apply]

@[simp] theorem clock_touches : ∀ (ks : List K) (t : Stamped K V),
    (ks.foldl (fun t k => t.touch k) t).clock = t.clock
  | [], _ => rfl
  | k :: ks, t => clock_touches ks (t.touch k)

/-- Several keys seen, one after the other. -/
theorem cell_touches : ∀ (ks : List K) (t : Stamped K V),
    (ks.foldl (fun t k => t.touch k) t).cell j =
      (t.cell j).map fun c => (c.1, if j ∈ ks then t.clock else c.2)
  | [], t => by simp
  | k :: ks, t => by
    rw [List.foldl_cons, cell_touches ks, cell_touch, Option.map_map, clock_touch]
    congr 1
    funext c
    by_cases same : j = k
    · simp [same]
    · simp [same]

@[simp] theorem clock_puts : ∀ (new : List (K × V)) (t : Stamped K V),
    (new.foldl (fun t e => t.put e.1 e.2) t).clock = t.clock
  | [], _ => rfl
  | e :: new, t => clock_puts new (t.put e.1 e.2)

/-- Several values written: the last one under a key stays. -/
theorem cell_puts (new : List (K × V)) (t : Stamped K V) :
    (new.foldl (fun t e => t.put e.1 e.2) t).cell j =
      ((lastValue? new j).map fun v => (v, t.clock)).or (t.cell j) := by
  induction new using List.reverseRecOn with
  | nil => rfl
  | append_singleton new e ih =>
    obtain ⟨k, v⟩ := e
    have last : lastValue? (new ++ [(k, v)]) j = if j = k then some v else lastValue? new j := by
      unfold lastValue?
      rw [List.reverse_append]
      show List.lookup j ((k, v) :: new.reverse) = _
      rw [List.lookup_cons]
      by_cases same : j = k
      · simp [same]
      · simp [same, beq_false_of_ne same]
    rw [List.foldl_append, List.foldl_cons, List.foldl_nil, cell_put, clock_puts, ih, last]
    by_cases same : j = k
    · simp [same]
    · simp [same]

end Cells

/-! ### Cycles -/

/-- A whole cycle: the keys seen, what they leave alive, and the new values. -/
def cycle (now : Int) (seen : List K) (new : List (K × V)) (t : Stamped K V) : Stamped K V :=
  new.foldl (fun t e => t.put e.1 e.2) (seen.foldl (fun t k => t.touch k) (t.tick now)).sweep

section Cycles

variable {t t' : Stamped K V} {now : Int} {seen : List K} {new : List (K × V)} {k : K} {v : V}

@[simp] theorem clock_cycle : (t.cycle now seen new).clock = now := by
  unfold cycle
  rw [clock_puts, clock_sweep, clock_touches, clock_tick]

/-- **A cycle in closed form.** A cell holds the last value written to it, or what it held if that was
seen or is not older than the cycle. -/
theorem cell_cycle : (t.cycle now seen new).cell k =
    ((lastValue? new k).map fun v => (v, now)).or
      (((t.cell k).map fun c => (c.1, if k ∈ seen then now else c.2)).filter fun c => now ≤ c.2) := by
  unfold cycle
  rw [cell_puts, clock_sweep, clock_touches, clock_tick]
  congr 1
  show ((seen.foldl (fun t k => t.touch k) (t.tick now)).cell k).filter _ = _
  rw [cell_touches, clock_touches, clock_tick, cell_tick]

/-- What a cycle holds was written or seen by it, or is not older. -/
theorem value_cycle : (t.cycle now seen new).value? k = some v ↔
    lastValue? new k = some v ∨ lastValue? new k = none ∧ ∃ stamp, t.cell k = some (v, stamp) ∧
      (k ∈ seen ∨ now ≤ stamp) := by
  unfold value?
  rw [cell_cycle]
  cases written : lastValue? new k with
  | some u => simp
  | none =>
    cases held : t.cell k with
    | none => simp
    | some c =>
      obtain ⟨u, stamp⟩ := c
      by_cases inside : k ∈ seen
      · simp [inside]
      · by_cases recent : now ≤ stamp
        · simp [inside, recent, Option.filter]
        · simp [inside, recent, Option.filter]

/-- **What is seen stays**: its key keeps a value. -/
theorem cycle_live (inside : k ∈ seen) (held : t.value? k ≠ none) :
    (t.cycle now seen new).value? k ≠ none := by
  unfold value? at *
  rw [cell_cycle]
  cases written : lastValue? new k with
  | some u => simp
  | none =>
    cases cell : t.cell k with
    | none => exact absurd (by rw [cell]; rfl) held
    | some c => simp [inside, Option.filter]

/-- **A new stamp keeps nothing else**: what a cycle with a stamp of its own holds, it has written or
seen. -/
theorem cycle_exact (fresh : ∀ v stamp, t.cell k = some (v, stamp) → stamp < now) :
    (t.cycle now seen new).value? k = some v ↔
      lastValue? new k = some v ∨ lastValue? new k = none ∧ t.value? k = some v ∧ k ∈ seen := by
  rw [value_cycle]
  refine or_congr_right (and_congr_right fun _ => ?_)
  unfold value?
  constructor
  · rintro ⟨stamp, held, inside | recent⟩
    · exact ⟨by rw [held]; rfl, inside⟩
    · exact absurd (fresh v stamp held) (Int.not_lt.mpr recent)
  · rintro ⟨held, inside⟩
    obtain ⟨⟨u, stamp⟩, cell, rfl⟩ := Option.map_eq_some_iff.mp held
    exact ⟨stamp, cell, .inl inside⟩

/-- **Older stamps do not matter**: tables with the same values are the same after a newer cycle. -/
theorem cycle_congr (same : ∀ k, t.value? k = t'.value? k)
    (fresh : ∀ k v stamp, t.cell k = some (v, stamp) → stamp < now)
    (fresh' : ∀ k v stamp, t'.cell k = some (v, stamp) → stamp < now) :
    (t.cycle now seen new).value? = (t'.cycle now seen new).value? := by
  funext k
  ext v
  rw [cycle_exact (fresh k), cycle_exact (fresh' k), same]

end Cycles

end Stamped

end Library
