/-
**Loops with their condition at the end.**

A turn leads from one state to the next, or fails. After a turn the loop goes on as long as `more` holds.

* `doWhile` — the loop with a bound on its turns; `none` when it has not ended by then.
* `doWhile_one` — a loop that ends with its first turn.
* `doWhile_endless` — a loop in which every turn leads to another never ends.
-/

import Mathlib.Tactic.Common

namespace Library.DoWhile

variable {ε σ : Type} {turn : σ → Except ε σ} {more : σ → Bool} {s s' : σ}

/-- The loop with a bound on its turns. -/
def doWhile (turn : σ → Except ε σ) (more : σ → Bool) : Nat → σ → Option (Except ε σ)
  | 0, _ => none
  | bound + 1, s =>
    match turn s with
    | .error e => some (.error e)
    | .ok s' => if more s' then doWhile turn more bound s' else some (.ok s')

theorem doWhile_step (first : turn s = .ok s') (bound : Nat) : doWhile turn more (bound + 1) s =
    if more s' then doWhile turn more bound s' else some (.ok s') := by
  rw [doWhile, first]

/-- A loop that ends with its first turn. -/
theorem doWhile_one (first : turn s = .ok s') (last : more s' = false) {bound : Nat}
    (some : 1 ≤ bound) :
    doWhile turn more bound s = Option.some (.ok s') := by
  obtain ⟨rest, rfl⟩ := Nat.exists_eq_add_of_le' some
  rw [doWhile_step first, last]
  rfl

/-- **A loop in which every turn leads to another** never ends. -/
theorem doWhile_endless {I : σ → Prop}
    (goes : ∀ s, I s → ∃ s', turn s = .ok s' ∧ more s' = true ∧ I s') (bound : Nat) :
    ∀ s, I s → doWhile turn more bound s = none := by
  induction bound with
  | zero => exact fun s _ => rfl
  | succ bound ih =>
    intro s here
    obtain ⟨s', first, again, there⟩ := goes s here
    rw [doWhile_step first, again]
    exact ih s' there

end Library.DoWhile
