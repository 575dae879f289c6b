/-
**Systems that take one step after another.**

`step s a` is the state after the event `a`, if the event can happen in `s`.

* `runs step as s` — the state after the events, if each can happen where it comes.
* `runs_preserves` — what every step keeps, every run keeps.
-/

import Mathlib.Tactic.Common

namespace Library.Steps

variable {σ α : Type} {step : σ → α → Option σ} {s s' : σ} {a : α} {as : List α}

/-- The state after the events. -/
def runs (step : σ → α → Option σ) : List α → σ → Option σ
  | [], s => some s
  | a :: as, s => (step s a).bind (runs step as)

theorem runs_cons : runs step (a :: as) s = some s' ↔ ∃ t, step s a = some t ∧ runs step as t =
    some s' :=
  Option.bind_eq_some_iff

/-- **What every step of a kind keeps**, a run of such steps keeps. -/
theorem runs_preserves {I : σ → Prop} {kind : α → Prop}
    (keeps : ∀ s a s', kind a → I s → step s a = some s' → I s') :
    ∀ {as : List α} {s s' : σ}, (∀ a ∈ as, kind a) → I s → runs step as s = some s' → I s'
  | [], s, s', _, start, ran => by
    cases ran
    exact start
  | a :: as, s, s', kinds, start, ran => by
    obtain ⟨t, first, others⟩ := runs_cons.mp ran
    exact runs_preserves keeps (fun b inside => kinds b (List.mem_cons_of_mem a inside))
      (keeps s a t (kinds a List.mem_cons_self) start first) others

end Library.Steps
