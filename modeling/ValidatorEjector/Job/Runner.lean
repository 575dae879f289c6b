/-
**`lib/job` — handlers that do not overlap.**

All runners of the process share `jobLockMap`. A run of the process interleaves timer ticks, direct calls of
`once`, the ends of handlers, and what `once` does after them.

* `JobLockMap`, `locked` — the map, an object with the names of `Object.prototype` behind its own.
* `call`, `leave` — `once` before its handler runs, and after.
* `JobsState`, `JobEvent`, `step` — the runners of a process.
* `Exclusive` — the invariant: the handlers that are not through are those whose names are locked, one for
  each name.
* **`jobs_exclusive`** — no two handlers of a name run, a call while one runs does nothing, a handler that has
  ended leaves its name free, and names do not block each other.
-/

import Mathlib.Logic.Function.Basic
import ValidatorEjector.Library.Program
import ValidatorEjector.Library.Steps
import ValidatorEjector.Validator

namespace ValidatorEjector

open Library.Program Library.Steps

/-! ### The lock -/

/-- The own entries of `jobLockMap`. -/
abbrev JobLockMap := String → Option Bool

/-- The names every object has. Their values are objects and functions, so they are truthy. -/
def objectPrototype : List String :=
  ["constructor", "__defineGetter__", "__defineSetter__", "hasOwnProperty", "__lookupGetter__",
    "__lookupSetter__", "isPrototypeOf", "propertyIsEnumerable", "toString", "valueOf", "__proto__",
    "toLocaleString"]

/-- `jobLockMap[name]`, as a condition. -/
def locked (jobLockMap : JobLockMap) (name : String) : Bool :=
  (jobLockMap name).getD (objectPrototype.contains name)

/-- `jobLockMap[name] = value`. -/
def setLock (name : String) (value : Bool) (jobLockMap : JobLockMap) : JobLockMap :=
  Function.update jobLockMap name (some value)

theorem locked_setLock (name : String) (value : Bool) (jobLockMap : JobLockMap) :
    locked (setLock name value jobLockMap) name = value := by
  unfold locked setLock
  rw [Function.update_self, Option.getD_some]

theorem locked_setLock_ne {name other : String} (differs : other ≠ name) (value : Bool)
    (jobLockMap : JobLockMap) : locked (setLock name value jobLockMap) other =
      locked jobLockMap other := by
  unfold locked setLock
  rw [Function.update_of_ne differs]

/-- What the calls after a handler do: `end`, with either result, and the logger. -/
structure Afterwards where
  success : Except Failure Unit
  warn : Except Failure Unit
  error : Except Failure Unit
  debug : Except Failure Unit

/-- `once`, from where its handler has ended. -/
def leave (name : String) (handled : Except Failure Unit) (afterwards : Afterwards) :
    EStateM Failure JobLockMap Unit := do
  try
    ofResult handled
    ofResult afterwards.success
  catch _ =>
    ofResult afterwards.warn
    ofResult afterwards.error
  finally
    modify (setLock name false)
    ofResult afterwards.debug

/-- **The lock is released however the handler ends**, and whatever comes after it. -/
theorem stateAfter_leave (name : String) (handled : Except Failure Unit) (afterwards : Afterwards)
    (jobLockMap : JobLockMap) :
    stateAfter (leave name handled afterwards) jobLockMap = setLock name false jobLockMap := by
  obtain ⟨success, warn, error, debug⟩ := afterwards
  cases handled <;> cases success <;> cases warn <;> cases error <;> cases debug <;> rfl

/-! ### The process -/

/-- The runners of a process. -/
structure JobsState (ι : Type) where
  jobLockMap : JobLockMap
  /-- The runners whose handlers run. -/
  running : List ι
  /-- The runners whose handlers have ended, with how, and whose `once` has still to go on. -/
  handled : List (ι × Except Failure Unit)

/-- What happens in a process. -/
inductive JobEvent (ι : Type)
  /-- The timer of a runner fires. -/
  | tick (runner : ι)
  /-- `once` is called. -/
  | once (runner : ι)
  /-- A handler ends. -/
  | settle (runner : ι) (result : Except Failure Unit)
  /-- `once` goes on after it. -/
  | resume (runner : ι) (afterwards : Afterwards)

/-- The runner of an event. -/
def JobEvent.runner {ι : Type} : JobEvent ι → ι
  | tick runner => runner
  | once runner => runner
  | settle runner _ => runner
  | resume runner _ => runner

/-- The event is a call of `once`. -/
def JobEvent.IsCall {ι : Type} : JobEvent ι → Prop
  | tick _ => True
  | once _ => True
  | _ => False

namespace JobsState

variable {ι : Type} (names : ι → String)

/-- A process that starts. -/
def initial : JobsState ι := ⟨fun _ => none, [], []⟩

/-- `once`, up to its handler. -/
def call (s : JobsState ι) (runner : ι) : JobsState ι :=
  if locked s.jobLockMap (names runner) then s
  else { s with jobLockMap := setLock (names runner) true s.jobLockMap, running := runner :: s.running }

/-- The runners whose `once` is not through. -/
def active (s : JobsState ι) : List ι := s.running ++ s.handled.map Prod.fst

/-- **The handlers that are not through hold the locks**, one handler for each. -/
structure Exclusive (names : ι → String) (s : JobsState ι) : Prop where
  apart : s.active.Pairwise fun a b => names a ≠ names b
  held : ∀ runner ∈ s.active, locked s.jobLockMap (names runner) = true
  owned : ∀ name, s.jobLockMap name = some true → ∃ runner ∈ s.active, names runner = name

theorem exclusive_initial : Exclusive names initial :=
  ⟨.nil, fun _ inside => (by cases inside), fun _ set => (by cases set)⟩

variable {names} {s s' : JobsState ι} {event : JobEvent ι}

/-- One handler for a name. -/
theorem Exclusive.at_most_one (exclusive : Exclusive names s) (name : String) :
    (s.active.filter fun runner => names runner = name).length ≤ 1 := by
  have apart := exclusive.apart.filter fun runner => decide (names runner = name)
  have named : ∀ runner ∈ s.active.filter fun runner => names runner = name, names runner = name :=
    fun runner inside => of_decide_eq_true (List.mem_filter.mp inside).2
  generalize (s.active.filter fun runner => names runner = name) = handlers at apart named ⊢
  rcases handlers with _ | ⟨first, _ | ⟨second, rest⟩⟩
  · exact Nat.zero_le 1
  · exact le_rfl
  · have same := (named first List.mem_cons_self).trans
      (named second (List.mem_cons_of_mem first List.mem_cons_self)).symm
    exact absurd same (List.rel_of_pairwise_cons apart List.mem_cons_self)

/-- A call starts the handler when the name is free. -/
theorem call_running (runner : ι) : (call names s runner).running = runner :: s.running ↔
    locked s.jobLockMap (names runner) = false := by
  unfold call
  cases locked s.jobLockMap (names runner) with
  | true => simp
  | false => simp

variable [DecidableEq ι] (names)

/-- One event. A timer fires when nothing is left to go on: continuations run before timers. -/
def step (s : JobsState ι) : JobEvent ι → Option (JobsState ι)
  | .tick runner => if s.handled.isEmpty then some (call names s runner) else none
  | .once runner => some (call names s runner)
  | .settle runner result =>
    if runner ∈ s.running then
      some { s with running := s.running.erase runner, handled := s.handled ++ [(runner, result)] }
    else none
  | .resume runner afterwards =>
    (s.handled.find? fun entry => entry.1 = runner).map fun entry =>
      { s with
        jobLockMap := stateAfter (leave (names runner) entry.2 afterwards) s.jobLockMap
        handled := s.handled.eraseP fun entry => entry.1 = runner }

variable {names}

/-- **What an event does.** -/
theorem step_cases (ran : step names s event = some s') :
    (event.IsCall ∧ s' = call names s event.runner) ∨
    (∃ runner result, event = .settle runner result ∧ s'.jobLockMap = s.jobLockMap ∧
      s.active.Perm s'.active) ∨
    ∃ runner afterwards, event = .resume runner afterwards ∧ s'.running = s.running ∧
      s'.jobLockMap = setLock (names runner) false s.jobLockMap ∧ s.active.Perm
        (runner :: s'.active) := by
  cases event with
  | tick runner =>
    rw [step, Option.ite_none_right_eq_some] at ran
    exact .inl ⟨trivial, (Option.some.inj ran.2).symm⟩
  | once runner => exact .inl ⟨trivial, (Option.some.inj ran).symm⟩
  | settle runner result =>
    rw [step, Option.ite_none_right_eq_some] at ran
    obtain ⟨runs, same⟩ := ran
    cases same
    refine .inr (.inl ⟨runner, result, rfl, rfl, ?_⟩)
    have first := (List.perm_cons_erase runs).append_right (s.handled.map Prod.fst)
    have last := List.perm_append_singleton runner (s.running.erase runner ++ s.handled.map Prod.fst)
    unfold active
    rw [List.map_append, ← List.append_assoc]
    exact first.trans last.symm
  | resume runner afterwards =>
    rw [step] at ran
    obtain ⟨entry, found, same⟩ := Option.map_eq_some_iff.mp ran
    have matches_runner := List.find?_some found
    obtain ⟨first, before, after, _, matched, parts, rest⟩ :=
      List.exists_of_eraseP (p := fun e : ι × Except Failure Unit => e.1 = runner)
        (List.mem_of_find?_eq_some found) matches_runner
    cases same
    refine .inr (.inr ⟨runner, afterwards, rfl, rfl, stateAfter_leave _ _ _ _, ?_⟩)
    unfold active
    dsimp only
    rw [rest, parts, List.map_append, List.map_cons, of_decide_eq_true matched, List.map_append,
      ← List.append_assoc, ← List.append_assoc]
    exact List.perm_middle

/-- Every event keeps the invariant. -/
theorem Exclusive.step (start : Exclusive names s) (ran : step names s event = some s') :
    Exclusive names s' := by
  rcases step_cases ran with ⟨_, rfl⟩ | ⟨runner, result, _, same, moved⟩ |
    ⟨runner, afterwards, _, _, released, moved⟩
  · unfold call
    by_cases busy : locked s.jobLockMap (names event.runner) = true
    · rw [if_pos busy]
      exact start
    · rw [if_neg busy]
      have apart : ∀ other ∈ s.active, names event.runner ≠ names other := fun other inside same =>
        busy (by rw [same]; exact start.held other inside)
      refine ⟨List.pairwise_cons.mpr ⟨apart, start.apart⟩, fun other inside => ?_, fun name set => ?_⟩
      · rcases List.mem_cons.mp inside with rfl | inside
        · exact locked_setLock _ _ _
        · exact (locked_setLock_ne (apart other inside).symm _ _).trans (start.held other inside)
      · by_cases own : name = names event.runner
        · exact ⟨event.runner, List.mem_cons_self, own.symm⟩
        · have kept : Function.update s.jobLockMap (names event.runner) (some true) name = some true :=
              set
          rw [Function.update_of_ne own] at kept
          obtain ⟨runner, inside, named⟩ := start.owned name kept
          exact ⟨runner, List.mem_cons_of_mem _ inside, named⟩
  · refine ⟨(moved.pairwise_iff Ne.symm).mp start.apart, fun other inside => ?_, fun name set => ?_⟩
    · rw [same]
      exact start.held other (moved.mem_iff.mpr inside)
    · rw [same] at set
      obtain ⟨runner, inside, named⟩ := start.owned name set
      exact ⟨runner, moved.mem_iff.mp inside, named⟩
  · obtain ⟨apart, rest⟩ := List.pairwise_cons.mp ((moved.pairwise_iff Ne.symm).mp start.apart)
    refine ⟨rest, fun other inside => ?_, fun name set => ?_⟩
    · rw [released, locked_setLock_ne (apart other inside).symm]
      exact start.held other (moved.mem_iff.mpr (List.mem_cons_of_mem runner inside))
    · by_cases own : name = names runner
      · rw [released, own, setLock, Function.update_self] at set
        cases set
      · rw [released, setLock, Function.update_of_ne own] at set
        obtain ⟨other, inside, named⟩ := start.owned name set
        rcases List.mem_cons.mp (moved.mem_iff.mp inside) with rfl | inside
        · exact absurd named.symm own
        · exact ⟨other, inside, named⟩

/-- A call is the call of its runner. -/
theorem step_call (isCall : event.IsCall) (ran : step names s event = some s') :
    s' = call names s event.runner := by
  rcases step_cases ran with ⟨_, same⟩ | ⟨_, _, rfl, _⟩ | ⟨_, _, rfl, _⟩
  · exact same
  · exact isCall.elim
  · exact isCall.elim

/-- An event leaves the locks of other names. -/
theorem step_locked (ran : step names s event = some s') {name : String}
    (other : names event.runner ≠ name) :
    locked s'.jobLockMap name = locked s.jobLockMap name := by
  rcases step_cases ran with ⟨_, rfl⟩ | ⟨_, _, _, same, _⟩ | ⟨runner, _, rfl, _, released, _⟩
  · unfold call
    split_ifs
    · rfl
    · exact locked_setLock_ne other.symm _ _
  · rw [same]
  · rw [released]
    exact locked_setLock_ne other.symm _ _

/-- A name stays free until it is called. -/
theorem stays_free {name : String} (ran : step names s event = some s')
    (uncalled : event.IsCall → names event.runner ≠ name) (free : locked s.jobLockMap name = false) :
    locked s'.jobLockMap name = false := by
  by_cases own : names event.runner = name
  · rcases step_cases ran with ⟨isCall, _⟩ | ⟨_, _, _, same, _⟩ | ⟨runner, _, rfl, _, released, _⟩
    · exact absurd own (uncalled isCall)
    · rwa [same]
    · rw [released, ← own]
      exact locked_setLock _ _ _
  · rwa [step_locked ran own]

/-- **Jobs never overlap, and locks are not leaked.** After any events, each name has at most one handler that
is not through, and a call of its name does nothing. A handler that is through, however it ended, leaves the
name free, and the next call of the name starts a handler. Events of other names do not change whether a call
starts one. A lock that is set belongs to a handler. -/
theorem jobs_exclusive (names : ι → String) (events : List (JobEvent ι)) (s : JobsState ι)
    (ran : runs (step names) events initial = some s) :
    (∀ name, (s.active.filter fun runner => names runner = name).length ≤ 1) ∧
    (∀ runner ∈ s.active, ∀ event s', event.IsCall → names event.runner = names runner →
      step names s event = some s' → s' = s) ∧
    (∀ runner afterwards s', step names s (.resume runner afterwards) = some s' →
      locked s'.jobLockMap (names runner) = false ∧
      ∀ later t, (∀ event ∈ later, event.IsCall → names event.runner ≠ names runner) →
        runs (step names) later s' = some t →
        ∀ event t', event.IsCall → names event.runner = names runner → step names t event = some t' →
          t'.running = event.runner :: t.running) ∧
    (∀ event s', step names s event = some s' → ∀ runner, names event.runner ≠ names runner →
      ((call names s' runner).running = runner :: s'.running ↔
        (call names s runner).running = runner :: s.running)) ∧
    ∀ name, s.jobLockMap name = some true → ∃ runner ∈ s.active, names runner = name := by
  have all : ∀ event ∈ events, True := fun _ _ => trivial
  have exclusive : Exclusive names s :=
    runs_preserves (fun _ _ _ _ start ran => start.step ran) all (exclusive_initial names) ran
  refine ⟨exclusive.at_most_one, ?_, ?_, ?_, exclusive.owned⟩
  · intro runner inside event s' isCall same ran
    rw [step_call isCall ran, call, same, if_pos (exclusive.held runner inside)]
  · intro runner afterwards s' ran
    have free : locked s'.jobLockMap (names runner) = false := by
      rcases step_cases ran with ⟨isCall, _⟩ | ⟨_, _, other, _⟩ | ⟨_, _, same, _, released, _⟩
      · exact isCall.elim
      · cases other
      · cases same
        rw [released]
        exact locked_setLock _ _ _
    refine ⟨free, fun later t uncalled ran event t' isCall same next => ?_⟩
    have still : locked t.jobLockMap (names runner) = false :=
      runs_preserves (fun _ _ _ uncalled free ran => stays_free ran uncalled free) uncalled free ran
    rw [step_call isCall next]
    exact (call_running event.runner).mpr (by rwa [same])
  · intro event s' ran runner other
    rw [call_running, call_running, step_locked ran other]

/-- Two runners of one name: the second is called while the handler of the first runs, and after it failed. -/
def twoRunners : List (JobEvent Bool) :=
  [.once true, .tick false, .settle true (.error (.error "failed")),
    .resume true ⟨.ok (), .ok (), .ok (), .ok ()⟩, .tick false]

theorem jobs_exclusive_two : ∃ s, runs (step fun _ => "validator-ejector") twoRunners initial = some s ∧
    s.active = [false] ∧ ∀ name, (s.active.filter fun _ => "validator-ejector" = name).length ≤ 1 := by
  obtain ⟨s, ran, active⟩ : ∃ s, runs (step fun _ => "validator-ejector") twoRunners initial = some s ∧
    s.active = [false] := ⟨_, rfl, rfl⟩
  exact ⟨s, ran, active, (jobs_exclusive _ _ s ran).1⟩

end JobsState

end ValidatorEjector
