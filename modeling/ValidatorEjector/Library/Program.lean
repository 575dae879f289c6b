/-
**Programs that may fail, over a state that survives the failure.**

`EStateM ε σ α` runs from a state and either resolves with a value or fails with an error; in both
cases it leaves a state behind. This module is the small program logic the rest of the development
reads such programs with.

* `bind_ok`, `ofResult_ok`, … — inversion: what a resolved run went through.
* `collect f xs` — `f` on every item in order, the results appended: a loop that pushes to a list.
* `Triple P x Q E` — from a state in `P`, a resolved run ends in `Q` and a failed run in `E`; closed
  under sequencing, loops, handlers and parts of the state. `Preserves I x` is the triple of an invariant.
* `Along f C xs s` — `C` holds at the start of every turn of a loop over `xs`; `AtTurn` — where a turn
  starts. `collect_forall` reads a property of all results of a loop turn by turn, `Turns.collect`
  composes turns that are known, and `collect_agree` takes the results over to a loop with the same
  turns.
* `Agree I r r'` — two runs resolve with the same value, or both fail.
* `Tracks I cost x y` — `x` computes what the quiet program `y` computes, unless it is disturbed
  (`cost` grows). Closed under sequencing and loops.
-/

import Mathlib.Data.List.Basic
import Mathlib.Tactic.Common

namespace Library.Program

variable {ε σ τ α β : Type}

/-! ### Runs -/

/-- The state a run leaves, whatever its outcome. -/
def stateAfter (x : EStateM ε σ α) (s : σ) : σ :=
  match x s with
  | .ok _ s' => s'
  | .error _ s' => s'

/-- The value a run resolves with, if it does. -/
def value? (x : EStateM ε σ α) (s : σ) : Option α :=
  match x s with
  | .ok a _ => some a
  | .error _ _ => none

/-- The run from `s` resolves. -/
def Resolves (x : EStateM ε σ α) (s : σ) : Prop := ∃ a s', x s = .ok a s'

instance (x : EStateM ε σ α) (s : σ) : Decidable (Resolves x s) :=
  match run : x s with
  | .ok a s' => .isTrue ⟨a, s', run⟩
  | .error _ _ => .isFalse fun ⟨_, _, same⟩ => by rw [run] at same; cases same

/-- A computation without state, as a program. -/
def ofResult : Except ε α → EStateM ε σ α
  | .ok a => pure a
  | .error e => throw e

/-- Run a program on a part of the state. -/
def onPart (part : σ → τ) (put : τ → σ → σ) (x : EStateM ε τ α) : EStateM ε σ α := fun s =>
  match x (part s) with
  | .ok a t => .ok a (put t s)
  | .error e t => .error e (put t s)

/-- `f` on every item in order, the results appended. -/
def collect (f : α → EStateM ε σ (List β)) : List α → EStateM ε σ (List β)
  | [] => pure []
  | a :: as => do
    let here ← f a
    let rest ← collect f as
    pure (here ++ rest)

/-- The calls of `f`, on record. -/
def recording {κ : Type} (f : κ → EStateM ε σ α) (k : κ) : EStateM ε (σ × List κ) α := fun s =>
  match f k s.1 with
  | .ok a s' => .ok a (s', s.2 ++ [k])
  | .error e s' => .error e (s', s.2 ++ [k])

section Inversion

variable {x : EStateM ε σ α} {f : α → EStateM ε σ β} {s s' s'' : σ} {a : α} {b : β} {e : ε}

@[simp] theorem pure_run : (pure a : EStateM ε σ α) s = .ok a s := rfl

@[simp] theorem throw_run : (throw e : EStateM ε σ α) s = .error e s := rfl

theorem bind_run : (x >>= f) s = match x s with
    | .ok a s' => f a s'
    | .error e s' => .error e s' := rfl

theorem bind_of_ok (run : x s = .ok a s') : (x >>= f) s = f a s' := by rw [bind_run, run]

theorem bind_of_error (run : x s = .error e s') : (x >>= f) s = .error e s' := by
  rw [bind_run, run]

theorem bind_ok : (x >>= f) s = .ok b s'' ↔ ∃ a s', x s = .ok a s' ∧ f a s' = .ok b s'' := by
  rw [bind_run]
  cases x s with
  | ok a s' => exact ⟨fun run => ⟨a, s', rfl, run⟩, by rintro ⟨_, _, same, run⟩; cases same; exact run⟩
  | error e s' => exact ⟨by rintro ⟨⟩, by rintro ⟨_, _, same, _⟩; cases same⟩

/-- Inversion of a sequence without state. -/
theorem except_bind_ok {r : Except ε α} {f : α → Except ε β} :
    (r >>= f) = .ok b ↔ ∃ a, r = .ok a ∧ f a = .ok b := by
  cases r with
  | ok a => exact ⟨fun run => ⟨a, rfl, run⟩, by rintro ⟨_, same, run⟩; cases same; exact run⟩
  | error e => exact ⟨by rintro ⟨⟩, by rintro ⟨_, same, _⟩; cases same⟩

/-- Elimination of a sequence that resolves. -/
theorem except_bind_elim {x : Except ε α} {f : α → Except ε β} {P : Prop}
    (rest : ∀ a, x = .ok a → f a = .ok b → P) (run : (x >>= f) = .ok b) : P :=
  have ⟨a, first, run⟩ := except_bind_ok.mp run
  rest a first run

/-- A list whose items are all read back. -/
theorem mapM_map_ok {f : β → Except ε α} {g : α → β} (back : ∀ a, f (g a) = .ok a) :
    ∀ xs : List α, (xs.map g).mapM f = .ok xs
  | [] => rfl
  | a :: xs => by
    rw [List.map_cons, List.mapM_cons, back, mapM_map_ok back xs]
    rfl

/-- A list whose items all give a value. -/
theorem mapM_of_ok {f : β → Except ε α} {g : β → α} : ∀ {xs : List β}, (∀ x ∈ xs, f x = .ok (g x)) →
    xs.mapM f = .ok (xs.map g)
  | [], _ => rfl
  | x :: xs, each => by
    have rest := mapM_of_ok fun y inside => each y (List.mem_cons_of_mem x inside)
    rw [List.mapM_cons, each x List.mem_cons_self, rest]
    rfl

/-- The items of a list that are all read. -/
theorem mapM_eq_filterMap {γ : Type} {f : α → Except ε γ} {g : α → Option β} {h : β → γ}
    (reads : ∀ a c, f a = .ok c → ∃ b, g a = some b ∧ c = h b) : ∀ {as : List α} {cs : List γ},
    as.mapM f = .ok cs → cs = (as.filterMap g).map h
  | [], cs, run => by
    cases run
    rfl
  | a :: as, cs, run => by
    rw [List.mapM_cons] at run
    obtain ⟨c, first, run⟩ := except_bind_ok.mp run
    obtain ⟨rest, others, same⟩ := except_bind_ok.mp run
    cases same
    obtain ⟨b, read, rfl⟩ := reads a c first
    rw [List.filterMap_cons_some read, List.map_cons, mapM_eq_filterMap reads others]

/-- Every item of a list passes. -/
theorem ok_of_mapM {f : β → Except ε α} : ∀ {xs : List β} {ys : List α}, xs.mapM f = .ok ys →
    ∀ x ∈ xs, ∃ y, f x = .ok y
  | [], _, _, _, inside => by cases inside
  | x :: xs, _, run, other, inside => by
    rw [List.mapM_cons] at run
    obtain ⟨y, first, run⟩ := except_bind_ok.mp run
    obtain ⟨_, others, _⟩ := except_bind_ok.mp run
    rcases List.mem_cons.mp inside with rfl | later
    · exact ⟨y, first⟩
    · exact ok_of_mapM others other later

/-- What the items of a list give, one after the other. -/
theorem mem_flatten_of_mapM {f : β → Except ε (List α)} : ∀ {xs : List β} {yss : List (List α)},
    xs.mapM f = .ok yss → ∀ y, y ∈ yss.flatten ↔ ∃ x ∈ xs, ∃ ys, f x = .ok ys ∧ y ∈ ys
  | [], yss, run, y => by
    cases run
    simp
  | x :: xs, yss, run, y => by
    rw [List.mapM_cons] at run
    obtain ⟨ys, first, run⟩ := except_bind_ok.mp run
    obtain ⟨rest, others, same⟩ := except_bind_ok.mp run
    cases same
    simp [mem_flatten_of_mapM others y, first]

/-- A check without state lets through what does not fail it. -/
theorem except_guard_ok {c : Prop} [Decidable c] {r : Except ε α} :
    (if c then .error e else r) = .ok a ↔ ¬ c ∧ r = .ok a := by
  by_cases holds : c
  · rw [if_pos holds]
    exact ⟨fun run => (by cases run), fun run => absurd holds run.1⟩
  · rw [if_neg holds]
    exact ⟨fun run => ⟨holds, run⟩, And.right⟩

/-- A check lets through what does not fail it. -/
theorem guard_ok {c : Prop} [Decidable c] :
    (if c then throw e else x) s = .ok a s' ↔ ¬ c ∧ x s = .ok a s' := by
  by_cases holds : c
  · rw [if_pos holds]
    exact ⟨fun run => (by cases run), fun run => absurd holds run.1⟩
  · rw [if_neg holds]
    exact ⟨fun run => ⟨holds, run⟩, And.right⟩

theorem ofResult_ok {r : Except ε α} :
    (ofResult r : EStateM ε σ α) s = .ok a s' ↔ r = .ok a ∧ s = s' := by
  cases r with
  | ok a' => simp [ofResult]
  | error e => simp [ofResult]

@[simp] theorem ofResult_run_ok : (ofResult (.ok a) : EStateM ε σ α) s = .ok a s := rfl

@[simp] theorem ofResult_run_error : (ofResult (.error e) : EStateM ε σ α) s = .error e s := rfl

theorem stateAfter_ok (run : x s = .ok a s') : stateAfter x s = s' := by
  simp only [stateAfter, run]

theorem stateAfter_error (run : x s = .error e s') : stateAfter x s = s' := by
  simp only [stateAfter, run]

theorem tryCatch_of_ok {handler : ε → EStateM ε σ α} (run : x s = .ok a s') :
    (tryCatch x handler : EStateM ε σ α) s = .ok a s' := by
  show EStateM.tryCatch x handler s = _
  unfold EStateM.tryCatch
  rw [run]

theorem tryCatch_of_error {handler : ε → EStateM ε σ α} (run : x s = .error e s') :
    (tryCatch x handler : EStateM ε σ α) s = handler e s' := by
  show EStateM.tryCatch x handler s = _
  unfold EStateM.tryCatch
  rw [run]
  rfl

theorem forM_cons_of_ok {f : α → EStateM ε σ PUnit} {as : List α} {u : PUnit}
    (run : f a s = .ok u s') : (a :: as).forM f s = as.forM f s' := bind_of_ok run

theorem stateAfter_forM_ok {f : α → EStateM ε σ PUnit} {as : List α} {u : PUnit}
    (run : f a s = .ok u s') : stateAfter ((a :: as).forM f) s = stateAfter (as.forM f) s' := by
  unfold stateAfter
  rw [forM_cons_of_ok run]

theorem stateAfter_forM_error {f : α → EStateM ε σ PUnit} {as : List α}
    (run : f a s = .error e s') : stateAfter ((a :: as).forM f) s = s' :=
  stateAfter_error (bind_of_error run)

/-- A known run resolves as it does, where that is fine. -/
theorem ok_iff_of_ok {r : EStateM.Result ε σ α} {fine : Prop} (run : r = .ok a s) (holds : fine)
    (b : α) (t : σ) : r = .ok b t ↔ fine ∧ b = a ∧ t = s := by
  rw [run]
  constructor
  · intro same
    cases same
    exact ⟨holds, rfl, rfl⟩
  · rintro ⟨-, rfl, rfl⟩
    rfl

/-- A run that fails does not resolve, where failing is not fine. -/
theorem ok_iff_of_error {r : EStateM.Result ε σ α} {fine : Prop} (run : r = .error e s)
    (fails : ¬ fine) (b : α) (t : σ) : r = .ok b t ↔ fine ∧ b = a ∧ t = s' := by
  rw [run]
  exact iff_of_false (fun same => by cases same) fun good => fails good.1

theorem resolves_of_ok (run : x s = .ok a s') : Resolves x s := ⟨a, s', run⟩

end Inversion

/-! ### Triples -/

/-- From a state in `P`, a resolved run ends in `Q` and a failed run in `E`. -/
def Triple (P : σ → Prop) (x : EStateM ε σ α) (Q : α → σ → Prop) (E : σ → Prop) : Prop :=
  ∀ s, P s → match x s with
    | .ok a s' => Q a s'
    | .error _ s' => E s'

/-- The program keeps the invariant, on every outcome. -/
abbrev Preserves (I : σ → Prop) (x : EStateM ε σ α) : Prop := Triple I x (fun _ => I) I

section Rules

variable {P I E : σ → Prop} {x : EStateM ε σ α} {Q : α → σ → Prop}

theorem Triple.ok {s s' : σ} {a : α} (triple : Triple P x Q E) (start : P s)
    (run : x s = .ok a s') : Q a s' := by
  have ends := triple s start
  rw [run] at ends
  exact ends

theorem Triple.error {s s' : σ} {e : ε} (triple : Triple P x Q E) (start : P s)
    (run : x s = .error e s') : E s' := by
  have ends := triple s start
  rw [run] at ends
  exact ends

theorem Preserves.stateAfter {s : σ} (keeps : Preserves I x) (start : I s) :
    I (stateAfter x s) := by
  unfold Program.stateAfter
  have ends := keeps s start
  cases run : x s with
  | ok a s' => rw [run] at ends; exact ends
  | error e s' => rw [run] at ends; exact ends

theorem Triple.pure {a : α} (here : ∀ s, P s → Q a s) : Triple P (pure a : EStateM ε σ α) Q E :=
  here

theorem Triple.throw {e : ε} (here : ∀ s, P s → E s) : Triple P (throw e : EStateM ε σ α) Q E :=
  here

theorem Triple.ofResult {r : Except ε α} (resolved : ∀ a, r = .ok a → ∀ s, P s → Q a s)
    (failed : ∀ s, P s → E s) : Triple P (ofResult r) Q E := by
  cases r with
  | ok a => exact resolved a rfl
  | error e => exact failed

theorem Preserves.pure {a : α} : Preserves I (pure a : EStateM ε σ α) := Triple.pure fun _ kept => kept

theorem Preserves.throw {e : ε} : Preserves I (throw e : EStateM ε σ α) := Triple.throw fun _ kept => kept

theorem Preserves.ofResult {r : Except ε α} : Preserves I (ofResult r) :=
  Triple.ofResult (fun _ _ _ kept => kept) fun _ kept => kept

theorem Triple.bind {R : β → σ → Prop} {f : α → EStateM ε σ β} (first : Triple P x Q E)
    (rest : ∀ a, Triple (Q a) (f a) R E) : Triple P (x >>= f) R E := by
  intro s start
  have ends := first s start
  rw [bind_run]
  cases run : x s with
  | ok a s' => rw [run] at ends; exact rest a s' ends
  | error e s' => rw [run] at ends; exact ends

theorem Triple.weaken {P' E' : σ → Prop} {Q' : α → σ → Prop} (triple : Triple P x Q E)
    (pre : ∀ s, P' s → P s) (post : ∀ a s, Q a s → Q' a s) (failed : ∀ s, E s → E' s) :
    Triple P' x Q' E' := by
  intro s start
  have ends := triple s (pre s start)
  cases run : x s with
  | ok a s' => rw [run] at ends; exact post a s' ends
  | error e s' => rw [run] at ends; exact failed s' ends

/-- A handled failure goes on from the state the failure left. -/
theorem Triple.tryCatch {handler : ε → EStateM ε σ α} {F : σ → Prop} (body : Triple P x Q F)
    (handle : ∀ e, Triple F (handler e) Q E) : Triple P (tryCatch x handler) Q E := by
  intro s start
  have ends := body s start
  show match (EStateM.tryCatch x handler) s with
    | .ok a s' => Q a s'
    | .error _ s' => E s'
  unfold EStateM.tryCatch
  cases run : x s with
  | ok a s' => rw [run] at ends; exact ends
  | error e s' => rw [run] at ends; exact handle e s' ends

/-- A loop whose turns keep the invariant keeps it. -/
theorem Triple.forM {f : α → EStateM ε σ PUnit} (turn : ∀ a, Triple I (f a) (fun _ => I) E) :
    ∀ xs : List α, Triple I (xs.forM f) (fun _ => I) E
  | [] => fun _ start => start
  | a :: xs => Triple.bind (turn a) fun _ => Triple.forM turn xs

/-- A loop whose turns keep the invariant and only push what has `Q` does so as a whole. -/
theorem Triple.collect {f : α → EStateM ε σ (List β)} {Q : β → Prop} : ∀ {xs : List α},
    (∀ a ∈ xs, Triple I (f a) (fun bs s => I s ∧ ∀ b ∈ bs, Q b) E) →
    Triple I (Program.collect f xs) (fun bs s => I s ∧ ∀ b ∈ bs, Q b) E
  | [], _ => Triple.pure fun _ start => ⟨start, fun _ member => by cases member⟩
  | a :: xs, turn => by
    refine Triple.bind (turn a List.mem_cons_self) fun here => ?_
    intro s ⟨start, good⟩
    have others := Triple.collect fun b member => turn b (List.mem_cons_of_mem a member)
    refine Triple.bind (P := I) others (fun rest => Triple.pure ?_) s start
    rintro s' ⟨kept, alsoGood⟩
    refine ⟨kept, fun b member => ?_⟩
    rcases List.mem_append.mp member with member | member
    · exact good b member
    · exact alsoGood b member

/-- A loop that pushes keeps what its turns keep. -/
theorem Preserves.collect {f : α → EStateM ε σ (List β)} {xs : List α}
    (turn : ∀ a ∈ xs, Preserves I (f a)) : Preserves I (Program.collect f xs) :=
  (Triple.collect (Q := fun _ => True) fun a member => (turn a member).weaken (fun _ start => start)
    (fun _ _ kept => ⟨kept, fun _ _ => trivial⟩) fun _ kept => kept).weaken (fun _ start => start)
    (fun _ _ kept => kept.1) fun _ kept => kept

/-- A recorded call does what the call does, and is on record whatever its outcome. -/
theorem recording_ok {κ : Type} {f : κ → EStateM ε σ α} {k : κ} {s s' : σ × List κ} {a : α} :
    recording f k s = .ok a s' ↔ f k s.1 = .ok a s'.1 ∧ s'.2 = s.2 ++ [k] := by
  unfold recording
  cases f k s.1 with
  | ok b t =>
    constructor
    · intro same
      cases same
      exact ⟨rfl, rfl⟩
    · rintro ⟨same, calls⟩
      cases same
      rw [← calls]
  | error e t => exact ⟨fun same => (by cases same), fun same => (by cases same.1)⟩

theorem recording_calls {κ : Type} {f : κ → EStateM ε σ α} {k : κ} {calls : List κ} :
    Triple (fun s => s.2 = calls) (recording f k) (fun _ s => s.2 = calls ++ [k])
      fun s => s.2 = calls ++ [k] := by
  rintro s rfl
  unfold recording
  cases run : f k s.1 with
  | ok a t => rfl
  | error e t => rfl

/-- A program on a part of the state does there what it does. -/
theorem Triple.onPart {part : τ → σ} {put : σ → τ → τ} {J F : τ → Prop} {R : α → τ → Prop}
    (inner : Triple P x Q E) (start : ∀ t, J t → P (part t))
    (resolved : ∀ a s t, J t → Q a s → R a (put s t)) (failed : ∀ s t, J t → E s → F (put s t)) :
    Triple J (Program.onPart part put x) R F := by
  intro t holds
  have ends := inner (part t) (start t holds)
  unfold Program.onPart
  cases run : x (part t) with
  | ok a s => rw [run] at ends; exact resolved a s t holds ends
  | error e s => rw [run] at ends; exact failed s t holds ends

/-- What holds of the part. -/
theorem Triple.part {part : τ → σ} {put : σ → τ → τ} (back : ∀ s t, part (put s t) = s)
    (inner : Triple P x Q E) : Triple (fun t => P (part t)) (Program.onPart part put x)
      (fun a t => Q a (part t)) fun t => E (part t) := by
  refine Triple.onPart inner (fun _ start => start) (fun a s t _ kept => ?_) fun s t _ kept => ?_
  · rw [back]
    exact kept
  · rw [back]
    exact kept

end Rules

/-! ### The turns of a loop -/

/-- `C` holds at the start of every turn of the loop over the items, as far as the loop goes. -/
def Along (f : α → EStateM ε σ β) (C : α → σ → Prop) : List α → σ → Prop
  | [], _ => True
  | a :: as, s => C a s ∧ match f a s with
    | .ok _ s' => Along f C as s'
    | .error _ _ => True

/-- What follows from an invariant of the turns holds at every turn. -/
theorem Along.of_preserves {f : α → EStateM ε σ β} {C : α → σ → Prop} {I : σ → Prop}
    (keeps : ∀ a, Preserves I (f a)) (holds : ∀ a s, I s → C a s) :
    ∀ (as : List α) (s : σ), I s → Along f C as s
  | [], _, _ => trivial
  | a :: as, s, start => by
    refine ⟨holds a s start, ?_⟩
    have kept := keeps a s start
    cases run : f a s with
    | ok b s' =>
      rw [run] at kept
      exact Along.of_preserves keeps holds as s' kept
    | error e s' => trivial

/-- What holds in every state holds at every turn. -/
theorem Along.of_forall {f : α → EStateM ε σ β} {C : α → σ → Prop} (holds : ∀ a s, C a s) :
    ∀ (as : List α) (s : σ), Along f C as s
  | [], _ => trivial
  | a :: as, s => by
    refine ⟨holds a s, ?_⟩
    cases f a s with
    | ok b s' => exact Along.of_forall holds as s'
    | error e s' => trivial

theorem Along.singleton {f : α → EStateM ε σ β} {C : α → σ → Prop} {a : α} {s : σ} (here : C a s) :
    Along f C [a] s := by
  refine ⟨here, ?_⟩
  cases f a s with
  | ok b s' => trivial
  | error e s' => trivial

section Turns

variable {f : α → EStateM ε σ (List β)} {as : List α} {s s' : σ} {bs : List β}

theorem Along.imp {f : α → EStateM ε σ β} {C D : α → σ → Prop}
    (weaker : ∀ a s, C a s → D a s) : ∀ {as : List α} {s : σ}, Along f C as s → Along f D as s
  | [], _, _ => trivial
  | a :: as, s, ⟨here, rest⟩ => by
    refine ⟨weaker a s here, ?_⟩
    cases run : f a s with
    | ok b s' => rw [run] at rest; exact Along.imp weaker rest
    | error e s' => trivial

theorem collect_cons_ok {a : α} :
    collect f (a :: as) s = .ok bs s' ↔ ∃ here s₁ rest, f a s = .ok here s₁ ∧
      collect f as s₁ = .ok rest s' ∧ bs = here ++ rest := by
  rw [collect]
  simp only [bind_ok, pure_run, EStateM.Result.ok.injEq]
  constructor
  · rintro ⟨here, s₁, first, rest, s₂, others, rfl, rfl⟩
    exact ⟨here, s₁, rest, first, others, rfl⟩
  · rintro ⟨here, s₁, rest, first, others, rfl⟩
    exact ⟨here, s₁, first, rest, s', others, rfl, rfl⟩

/-- In the loop over the items from `s`, the turn of `a` starts in `t`. -/
def AtTurn (f : α → EStateM ε σ (List β)) (as : List α) (s : σ) (a : α) (t : σ) : Prop :=
  ∃ before after bs, as = before ++ a :: after ∧ collect f before s = .ok bs t

theorem AtTurn.mem {a : α} {t : σ} (turn : AtTurn f as s a t) : a ∈ as := by
  obtain ⟨before, after, _, rfl, _⟩ := turn
  exact List.mem_append_right before List.mem_cons_self

theorem AtTurn.head {a : α} : AtTurn f (a :: as) s a s := ⟨[], as, [], rfl, rfl⟩

theorem AtTurn.tail {a b : α} {t : σ} {here : List β} (first : f a s = .ok here s')
    (turn : AtTurn f as s' b t) : AtTurn f (a :: as) s b t := by
  obtain ⟨before, after, bs, rfl, ran⟩ := turn
  exact ⟨a :: before, after, here ++ bs, rfl, collect_cons_ok.mpr ⟨here, s', bs, first, ran, rfl⟩⟩

/-- Every item has its turn, which starts in the invariant and whose results are among all. -/
theorem exists_turn {I : σ → Prop} (keeps : ∀ a, Preserves I (f a)) :
    ∀ {as : List α} {s : σ} {bs : List β}, I s → collect f as s = .ok bs s' → ∀ a ∈ as,
      ∃ t here t', I t ∧ f a t = .ok here t' ∧ ∀ b ∈ here, b ∈ bs
  | [], _, _, _, _, _, member => by cases member
  | a :: as, s, bs, start, run, c, member => by
    obtain ⟨here, s₁, rest, first, others, rfl⟩ := collect_cons_ok.mp run
    rcases List.mem_cons.mp member with rfl | member
    · exact ⟨s, here, s₁, start, first, fun b inside => List.mem_append_left rest inside⟩
    · obtain ⟨t, there, t', kept, turn, inside⟩ :=
        exists_turn keeps ((keeps a).ok start first) others c member
      exact ⟨t, there, t', kept, turn, fun b found => List.mem_append_right here (inside b found)⟩

/-- **All results of a loop, turn by turn**: they have `P` exactly when `C`, which says that what a turn
pushes has `P`, holds at every turn. -/
theorem collect_forall {P : β → Prop} {C : α → σ → Prop} : ∀ {as : List α} {s : σ} {bs : List β},
    collect f as s = .ok bs s' →
    (∀ a t here t', AtTurn f as s a t → f a t = .ok here t' → ((∀ b ∈ here, P b) ↔ C a t)) →
    ((∀ b ∈ bs, P b) ↔ Along f C as s)
  | [], s, bs, run, _ => by
    cases run
    exact ⟨fun _ => trivial, fun _ _ member => by cases member⟩
  | a :: as, s, bs, run, turn => by
    obtain ⟨here, s₁, rest, first, others, rfl⟩ := collect_cons_ok.mp run
    have head := turn a s here s₁ .head first
    have tail := collect_forall others fun b t here t' reached => turn b t here t' (reached.tail first)
    simp only [Along, first, List.mem_append, or_imp, forall_and]
    rw [head, tail]

end Turns

/-- A loop whose turns resolve from every state. -/
theorem collect_of_each {γ : Type} {f : α → EStateM ε σ (List β)} {item : γ → α} {out : γ → List β} :
    ∀ {cs : List γ}, (∀ c ∈ cs, ∀ s, ∃ s', f (item c) s = .ok (out c) s') →
      ∀ s, ∃ s', collect f (cs.map item) s = .ok (cs.flatMap out) s'
  | [], _, s => ⟨s, rfl⟩
  | c :: cs, turn, s => by
    obtain ⟨s₁, first⟩ := turn c List.mem_cons_self s
    obtain ⟨s', others⟩ := collect_of_each (fun d inside => turn d (List.mem_cons_of_mem c inside)) s₁
    exact ⟨s', collect_cons_ok.mpr ⟨out c, s₁, cs.flatMap out, first, others, rfl⟩⟩

/-- What a loop pushes is pushed in a turn. -/
theorem mem_collect {f : α → EStateM ε σ (List β)} {b : β} : ∀ {as : List α} {s s' : σ} {bs : List β},
    collect f as s = .ok bs s' → b ∈ bs → ∃ a ∈ as, ∃ t here t', f a t = .ok here t' ∧ b ∈ here
  | [], _, _, _, run, inside => by
    cases run
    cases inside
  | a :: as, s, s', bs, run, inside => by
    obtain ⟨here, s₁, rest, first, others, rfl⟩ := collect_cons_ok.mp run
    rcases List.mem_append.mp inside with inside | inside
    · exact ⟨a, List.mem_cons_self, s, here, s₁, first, inside⟩
    · obtain ⟨c, member, turn⟩ := mem_collect others inside
      exact ⟨c, List.mem_cons_of_mem a member, turn⟩

/-- The turns of a loop that resolves all do. -/
theorem resolves_of_collect {f : α → EStateM ε σ (List β)} : ∀ {as : List α} {s s' : σ} {bs : List β},
    collect f as s = .ok bs s' → ∀ a ∈ as, ∃ t here t', f a t = .ok here t'
  | [], _, _, _, _, _, inside => by cases inside
  | a :: as, s, s', bs, run, b, inside => by
    obtain ⟨here, s₁, rest, first, others, _⟩ := collect_cons_ok.mp run
    rcases List.mem_cons.mp inside with rfl | later
    · exact ⟨s, here, s₁, first⟩
    · exact resolves_of_collect others b later

/-- A loop resolves exactly when each turn does, from where the ones before it end. -/
theorem resolves_collect {f : α → EStateM ε σ (List β)} : ∀ {as : List α} {s : σ},
    Resolves (collect f as) s ↔ Along f (fun a t => Resolves (f a) t) as s
  | [], s => ⟨fun _ => trivial, fun _ => ⟨[], s, rfl⟩⟩
  | a :: as, s => by
    unfold Along
    cases first : f a s with
    | ok here s₁ =>
      show _ ↔ _ ∧ Along f (fun a t => Resolves (f a) t) as s₁
      rw [← resolves_collect]
      constructor
      · rintro ⟨bs, s', run⟩
        obtain ⟨_, _, rest, same, others, _⟩ := collect_cons_ok.mp run
        rw [first] at same
        cases same
        exact ⟨⟨here, s₁, first⟩, rest, s', others⟩
      · rintro ⟨_, rest, s', others⟩
        exact ⟨here ++ rest, s', collect_cons_ok.mpr ⟨here, s₁, rest, first, others, rfl⟩⟩
    | error e s₁ =>
      constructor
      · rintro ⟨bs, s', run⟩
        obtain ⟨_, _, _, same, _⟩ := collect_cons_ok.mp run
        rw [first] at same
        cases same
      · rintro ⟨⟨_, _, same⟩, _⟩
        rw [first] at same
        cases same

theorem collect_map {γ : Type} (f : α → EStateM ε σ (List β)) (item : γ → α) :
    ∀ cs : List γ, collect f (cs.map item) = collect (fun c => f (item c)) cs
  | [] => rfl
  | c :: cs => by
    rw [List.map_cons, collect, collect, collect_map f item cs]

/-- A loop goes on from where its first turn ends. -/
theorem stateAfter_collect {f : α → EStateM ε σ (List β)} {a : α} {as : List α} {s s' : σ} {here : List β}
    (first : f a s = .ok here s') : stateAfter (collect f (a :: as)) s = stateAfter (collect f as) s' := by
  have run : collect f (a :: as) s = (collect f as >>= fun rest => pure (here ++ rest)) s' := bind_of_ok first
  unfold stateAfter
  rw [run, bind_run]
  cases collect f as s' with
  | ok rest t => rfl
  | error e t => rfl

/-- **A loop stops at the first turn that fails**, in the state that turn leaves. -/
theorem collect_of_failure {f : α → EStateM ε σ (List β)} {after : List α} {a : α} {t t' : σ} {e : ε}
    (failed : f a t = .error e t') : ∀ {before : List α} {s : σ} {bs : List β},
      collect f before s = .ok bs t → collect f (before ++ a :: after) s = .error e t'
  | [], s, bs, reached => by
    cases reached
    exact bind_of_error failed
  | b :: before, s, bs, reached => by
    obtain ⟨here, s₁, rest, first, others, _⟩ := collect_cons_ok.mp reached
    show (f b >>= _) s = _
    rw [bind_of_ok first]
    exact bind_of_error (collect_of_failure failed others)

/-- The turns of a loop are known: one resolves exactly for a fine item, with what it pushes for it. -/
structure Turns (f : α → EStateM ε σ (List β)) (fine : α → Prop) (out : α → List β)
    (next : σ → α → σ) (I : σ → Prop) : Prop where
  turn : ∀ a s, I s → ∀ bs s', f a s = .ok bs s' ↔ fine a ∧ bs = out a ∧ s' = next s a
  keeps : ∀ a s, I s → I (next s a)

/-- The loop resolves exactly when its items are fine, with all they push. -/
theorem Turns.collect {f : α → EStateM ε σ (List β)} {fine : α → Prop} {out : α → List β}
    {next : σ → α → σ} {I : σ → Prop} (turns : Turns f fine out next I) :
    ∀ (as : List α) (s : σ), I s → ∀ bs s', Program.collect f as s = .ok bs s' ↔
      (∀ a ∈ as, fine a) ∧ bs = as.flatMap out ∧ s' = as.foldl next s
  | [], s, _, bs, s' => by
    constructor
    · intro run
      cases run
      exact ⟨List.forall_mem_nil _, rfl, rfl⟩
    · rintro ⟨-, rfl, rfl⟩
      rfl
  | a :: as, s, start, bs, s' => by
    have rest := turns.collect as (next s a) (turns.keeps a s start)
    rw [collect_cons_ok, List.forall_mem_cons]
    constructor
    · rintro ⟨here, s₁, others, first, run, rfl⟩
      obtain ⟨fine, rfl, rfl⟩ := (turns.turn a s start here s₁).mp first
      obtain ⟨fines, rfl, rfl⟩ := (rest others s').mp run
      exact ⟨⟨fine, fines⟩, rfl, rfl⟩
    · rintro ⟨⟨fine, fines⟩, rfl, rfl⟩
      exact ⟨out a, next s a, as.flatMap out, (turns.turn a s start _ _).mpr ⟨fine, rfl, rfl⟩,
        (rest _ _).mpr ⟨fines, rfl, rfl⟩, rfl⟩

/-- **Two loops with the same turns**, as long as `C` holds at the turns of the first. -/
theorem collect_agree {f : α → EStateM ε σ (List β)} {g : α → EStateM ε τ (List β)}
    {R : σ → τ → Prop} {C : α → σ → Prop} : ∀ {as : List α},
    (∀ a ∈ as, ∀ s t here s', R s t → C a s → f a s = .ok here s' →
      ∃ t', g a t = .ok here t' ∧ R s' t') →
    ∀ {s : σ} {t : τ} {bs : List β} {s' : σ}, R s t → Along f C as s → collect f as s = .ok bs s' →
      ∃ t', collect g as t = .ok bs t' ∧ R s' t'
  | [], _, s, t, bs, s', related, _, run => by
    cases run
    exact ⟨t, rfl, related⟩
  | a :: as, turn, s, t, bs, s', related, ⟨here, along⟩, run => by
    obtain ⟨first, s₁, rest, ran, others, rfl⟩ := collect_cons_ok.mp run
    obtain ⟨t₁, same, related₁⟩ := turn a List.mem_cons_self s t first s₁ related here ran
    rw [ran] at along
    obtain ⟨t', sames, related'⟩ := collect_agree
      (fun b member => turn b (List.mem_cons_of_mem a member)) related₁ along others
    exact ⟨t', collect_cons_ok.mpr ⟨first, t₁, rest, same, sames, rfl⟩, related'⟩

/-! ### Runs with the same outcome -/

/-- Two runs resolve with the same value, or both fail; the first ends in `I`. -/
def Agree (I : σ → Prop) : EStateM.Result ε σ α → EStateM.Result ε τ α → Prop
  | .ok a s, .ok b _ => I s ∧ a = b
  | .error _ s, .error _ _ => I s
  | _, _ => False

section Agreement

variable {I : σ → Prop} {first : EStateM.Result ε σ α} {second : EStateM.Result ε τ α} {a : α}

theorem Agree.left {s : σ} (agree : Agree I first second) (ran : first = .ok a s) :
    I s ∧ ∃ t, second = .ok a t := by
  rw [ran] at agree
  cases second with
  | ok b t => exact ⟨agree.1, t, by rw [agree.2]⟩
  | error e t => exact agree.elim

theorem Agree.right {t : τ} (agree : Agree I first second) (ran : second = .ok a t) :
    ∃ s, first = .ok a s ∧ I s := by
  rw [ran] at agree
  cases first with
  | ok b s => exact ⟨s, by rw [agree.2], agree.1⟩
  | error e s => exact agree.elim

/-- What follows two runs that agree agrees, if it does after every value. -/
theorem Agree.bind {x : EStateM ε σ α} {y : EStateM ε τ α} {f : α → EStateM ε σ β}
    {g : α → EStateM ε τ β} {s : σ} {t : τ} (agree : Agree I (x s) (y t))
    (rest : ∀ a s' t', I s' → Agree I (f a s') (g a t')) : Agree I ((x >>= f) s) ((y >>= g) t) := by
  rw [bind_run, bind_run]
  cases ran : x s with
  | ok a s' =>
    cases quiet : y t with
    | ok b t' =>
      rw [ran, quiet] at agree
      obtain ⟨kept, rfl⟩ := agree
      exact rest a s' t' kept
    | error e t' => rw [ran, quiet] at agree; exact agree.elim
  | error e s' =>
    cases quiet : y t with
    | ok b t' => rw [ran, quiet] at agree; exact agree.elim
    | error e' t' => rw [ran, quiet] at agree; exact agree

end Agreement

/-! ### Disturbed runs -/

/-- **`x` does what the quiet program `y` does, unless it is disturbed.** A run of `x` that resolves
cost nothing and has the value of `y`; one that fails where `y` resolves has been disturbed. -/
structure Tracks (I : σ → Prop) (cost : σ → ℕ) (x : EStateM ε σ α) (y : EStateM ε τ α) : Prop where
  ends : ∀ s t, I s → match x s, y t with
    | .ok a s', .ok b _ => I s' ∧ cost s' = cost s ∧ a = b
    | .ok _ _, .error _ _ => False
    | .error _ s', .ok _ _ => I s' ∧ cost s < cost s'
    | .error _ s', .error _ _ => I s' ∧ cost s ≤ cost s'

namespace Tracks

variable {I : σ → Prop} {cost : σ → ℕ} {x : EStateM ε σ α} {y : EStateM ε τ α} {s s' : σ} {t : τ}

protected theorem pure (a : α) : Tracks I cost (pure a : EStateM ε σ α) (pure a : EStateM ε τ α) :=
  ⟨fun _ _ start => ⟨start, rfl, rfl⟩⟩

protected theorem throw (e : ε) : Tracks I cost (throw e : EStateM ε σ α) (throw e : EStateM ε τ α) :=
  ⟨fun _ _ start => ⟨start, Nat.le_refl _⟩⟩

protected theorem ofResult (r : Except ε α) :
    Tracks I cost (ofResult r : EStateM ε σ α) (ofResult r : EStateM ε τ α) := by
  cases r with
  | ok a => exact Tracks.pure a
  | error e => exact Tracks.throw e

protected theorem ite {c : Prop} [Decidable c] {x' : EStateM ε σ α} {y' : EStateM ε τ α}
    (first : Tracks I cost x y) (second : Tracks I cost x' y') :
    Tracks I cost (if c then x else x') (if c then y else y') := by
  by_cases holds : c
  · rw [if_pos holds, if_pos holds]
    exact first
  · rw [if_neg holds, if_neg holds]
    exact second

/-- What follows may rely on the value being one of the quiet program. -/
theorem bind_ran {f : α → EStateM ε σ β} {g : α → EStateM ε τ β} (first : Tracks I cost x y)
    (rest : ∀ a, (∃ t t', y t = .ok a t') → Tracks I cost (f a) (g a)) :
    Tracks I cost (x >>= f) (y >>= g) := by
  refine ⟨fun s t start => ?_⟩
  have head := first.ends s t start
  rw [bind_run, bind_run]
  cases ran : x s with
  | ok a s' =>
    cases quiet : y t with
    | ok b t' =>
      rw [ran, quiet] at head
      obtain ⟨kept, free, rfl⟩ := head
      have tail := (rest a ⟨t, t', quiet⟩).ends s' t' kept
      rw [free] at tail
      exact tail
    | error e t' => rw [ran, quiet] at head; exact head.elim
  | error e s' =>
    cases quiet : y t with
    | ok b t' =>
      rw [ran, quiet] at head
      dsimp only
      cases g b t' with
      | ok c t'' => exact head
      | error e' t'' => exact ⟨head.1, Nat.le_of_lt head.2⟩
    | error e' t' => rw [ran, quiet] at head; exact head

protected theorem bind {f : α → EStateM ε σ β} {g : α → EStateM ε τ β} (first : Tracks I cost x y)
    (rest : ∀ a, Tracks I cost (f a) (g a)) : Tracks I cost (x >>= f) (y >>= g) :=
  first.bind_ran fun a _ => rest a

/-- A disturbance of a part of the state is one of the whole. -/
protected theorem onPart {σ' τ' : Type} {J : σ' → Prop} {part : σ' → σ} {put : σ → σ' → σ'}
    {part' : τ' → τ} {put' : τ → τ' → τ'} (inner : Tracks I cost x y) (start : ∀ s, J s → I (part s))
    (keeps : ∀ s r, J s → I r → J (put r s)) (part_put : ∀ s r, part (put r s) = r) :
    Tracks J (fun s => cost (part s)) (onPart part put x) (onPart part' put' y) := by
  refine ⟨fun s t holds => ?_⟩
  have ends := inner.ends (part s) (part' t) (start s holds)
  have costs (r : σ) : cost (part (put r s)) = cost r := congrArg cost (part_put s r)
  unfold Program.onPart
  cases ran : x (part s) with
  | ok a r =>
    cases quiet : y (part' t) with
    | ok b r' =>
      rw [ran, quiet] at ends
      obtain ⟨kept, free, same⟩ := ends
      exact ⟨keeps s r holds kept, (costs r).trans free, same⟩
    | error e r' => rw [ran, quiet] at ends; exact ends.elim
  | error e r =>
    cases quiet : y (part' t) with
    | ok b r' =>
      rw [ran, quiet] at ends
      exact ⟨keeps s r holds ends.1, by rw [costs]; exact ends.2⟩
    | error e' r' =>
      rw [ran, quiet] at ends
      exact ⟨keeps s r holds ends.1, by rw [costs]; exact ends.2⟩

protected theorem collect {f : α → EStateM ε σ (List β)} {g : α → EStateM ε τ (List β)}
    (turn : ∀ a, Tracks I cost (f a) (g a)) :
    ∀ xs : List α, Tracks I cost (collect f xs) (collect g xs)
  | [] => Tracks.pure []
  | a :: xs => Tracks.bind (turn a) fun _ => Tracks.bind (Tracks.collect turn xs) fun _ => Tracks.pure _

/-- Whatever happens, the invariant is kept. -/
theorem preserves (tracks : Tracks I cost x y) (t : τ) : Preserves I x := by
  intro s start
  have ends := tracks.ends s t start
  cases ran : x s with
  | ok a s' =>
    cases quiet : y t with
    | ok b t' => rw [ran, quiet] at ends; exact ends.1
    | error e t' => rw [ran, quiet] at ends; exact ends.elim
  | error e s' =>
    cases quiet : y t with
    | ok b t' => rw [ran, quiet] at ends; exact ends.1
    | error e' t' => rw [ran, quiet] at ends; exact ends.1

/-- **A run that is not disturbed** does what the quiet one does. -/
theorem undisturbed (tracks : Tracks I cost x y) (start : I s) (t : τ)
    (free : ¬ cost s < cost (stateAfter x s)) : Agree I (x s) (y t) := by
  have ends := tracks.ends s t start
  unfold stateAfter at free
  cases ran : x s with
  | ok a s' =>
    cases quiet : y t with
    | ok b t' => rw [ran, quiet] at ends; exact ⟨ends.1, ends.2.2⟩
    | error e t' => rw [ran, quiet] at ends; exact ends.elim
  | error e s' =>
    cases quiet : y t with
    | ok b t' =>
      rw [ran, quiet] at ends
      rw [ran] at free
      exact absurd ends.2 free
    | error e' t' => rw [ran, quiet] at ends; exact ends.1

end Tracks

end Library.Program
