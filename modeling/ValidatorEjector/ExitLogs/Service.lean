/-
**`services/exit-logs/service` and `cache` — the log of exit requests and how far it reaches.**

The service is over any fetcher: what matters here is that a chunk is fetched or throws, not how. Events
are shared by reference, so an acknowledgement by a job changes the cached entry in place.

* `ExitLogs`, `ExitLogsState` — the service, the cache with its header, and the state of the fetcher.
* `chunk`, `getLogs` — one turn of the loop, and the call.
* `Scan`, `recorded` — a fetch that resolved, and the service that remembers them.
* `Step`, `run` — calls and acknowledgements in any order.
-/

import ValidatorEjector.ExitLogs.Fetcher

namespace ValidatorEjector

open Js Library Library.Program Library.Windows

/-- The header of the cache: the last range that was loaded. -/
structure CacheHeader where
  startBlock : Int
  endBlock : Int
  deriving DecidableEq

/-- **`makeExitLogsService` over a fetcher with states in `σ`.** `fetch` is `fetcher.getLogs` at the
configured scope. -/
structure ExitLogs (σ : Type) where
  fetch : Window → EStateM Failure σ (List ValidatorsToEject)
  BLOCKS_PRELOAD : ℕ+
  LOAD_LOGS_STEP : ℕ+

/-- The cache, its header, and the state of the fetcher. -/
structure ExitLogsState (σ : Type) where
  cache : List ValidatorsToEject
  header : CacheHeader
  fetcher : σ

/-- The empty cache. -/
def ExitLogsState.fresh {σ : Type} (fetcher : σ) : ExitLogsState σ := ⟨[], ⟨0, -1⟩, fetcher⟩

/-- The service over the fetcher of `Fetcher`. -/
def Fetcher.exitLogs {ρ : Type} (f : Fetcher ρ) (ejectorScope : List EjectorScope)
    (BLOCKS_PRELOAD LOAD_LOGS_STEP : ℕ+) : ExitLogs f.State where
  fetch w := f.getLogs (.int w.first) (.int w.last) ejectorScope
  BLOCKS_PRELOAD := BLOCKS_PRELOAD
  LOAD_LOGS_STEP := LOAD_LOGS_STEP

namespace ExitLogs

variable {σ : Type} (e : ExitLogs σ)

/-- The state after a chunk: the logs pushed, the header set. -/
def pushed (w : Window) (logs : List ValidatorsToEject) (s : ExitLogsState σ) : ExitLogsState σ :=
  { s with cache := s.cache ++ logs, header := ⟨w.first, w.last⟩ }

/-- One turn of the loop. -/
def chunk (w : Window) : EStateM Failure (ExitLogsState σ) PUnit := do
  let logs ← onPart ExitLogsState.fetcher (fun fetcher s => { s with fetcher }) (e.fetch w)
  modify (pushed w logs)

/-- The first block of a call. -/
def blockFrom (s : ExitLogsState σ) (lastBlockNumber : Nat) : Int :=
  max (s.header.endBlock + 1) (lastBlockNumber - e.BLOCKS_PRELOAD)

/-- The ranges a call fetches. -/
def ranges (s : ExitLogsState σ) (lastBlockNumber : Nat) : List Window :=
  windows e.LOAD_LOGS_STEP (e.blockFrom s lastBlockNumber) lastBlockNumber

def getLogs (lastBlockNumber : Nat) : EStateM Failure (ExitLogsState σ) (List ValidatorsToEject) := do
  let s ← get
  if s.header.endBlock = lastBlockNumber then pure s.cache
  else
    (e.ranges s lastBlockNumber).forM e.chunk
    let s ← get
    pure s.cache

/-! ### Recording the scans -/

/-- A fetch that resolved: its range and its logs. -/
structure Scan where
  window : Window
  logs : List ValidatorsToEject
  deriving DecidableEq

/-- The service with a fetcher that also remembers the fetches that resolved. -/
def recorded : ExitLogs (σ × List Scan) where
  fetch w := fun s =>
    match e.fetch w s.1 with
    | .ok logs fetcher => .ok logs (fetcher, s.2 ++ [⟨w, logs⟩])
    | .error failure fetcher => .error failure (fetcher, s.2)
  BLOCKS_PRELOAD := e.BLOCKS_PRELOAD
  LOAD_LOGS_STEP := e.LOAD_LOGS_STEP

/-- The state of a run: the state of the recording service. -/
abbrev RunState (σ : Type) := ExitLogsState (σ × List Scan)

/-- The fetches of the run that resolved. -/
def scans (s : RunState σ) : List Scan := s.fetcher.2

/-! ### Runs -/

/-- A step of a run: a call, or the acknowledgement of the event at a place of the cache. -/
inductive Step
  | getLogs (lastBlockNumber : Nat)
  | ack (place : Nat)

/-- The acknowledgement of a cached event. -/
def ackAt (place : Nat) (s : ExitLogsState σ) : ExitLogsState σ :=
  { s with cache := s.cache.modify place ValidatorsToEject.ack }

/-- The state after a step. A call may throw midway; what it has pushed stays. -/
def step (s : RunState σ) : Step → RunState σ
  | .getLogs lastBlockNumber => stateAfter (e.recorded.getLogs lastBlockNumber) s
  | .ack place => ackAt place s

/-- The state after the steps, from an empty cache. -/
def run (fetcher : σ) (steps : List Step) : RunState σ :=
  steps.foldl e.step (.fresh (fetcher, []))

/-! ### What a call does -/

section Call

variable {e} {s : RunState σ} {w : Window} {ws : List Window}

/-- What a list of new scans makes of a state. -/
structure Extends (new : List Scan) (s s' : RunState σ) : Prop where
  scans : scans s' = scans s ++ new
  cache : s'.cache = s.cache ++ new.flatMap Scan.logs
  endBlock : s'.header.endBlock = lastOf s.header.endBlock (new.map Scan.window)

theorem Extends.refl (s : RunState σ) : Extends [] s s :=
  ⟨(List.append_nil _).symm, (List.append_nil _).symm, rfl⟩

theorem Extends.cons {s₁ s₂ : RunState σ} {scan : Scan} {new : List Scan} (first : Extends [scan] s s₁)
    (rest : Extends new s₁ s₂) : Extends (scan :: new) s s₂ where
  scans := by rw [rest.scans, first.scans, List.append_assoc, List.singleton_append]
  cache := by
    rw [rest.cache, first.cache, List.append_assoc, List.flatMap_cons, List.flatMap_cons,
      List.flatMap_nil, List.append_nil]
  endBlock := by
    rw [rest.endBlock, first.endBlock]
    rfl

/-- What a turn does to the whole state. -/
theorem chunk_run : e.recorded.chunk w s = match e.fetch w s.fetcher.1 with
    | .ok logs fetcher =>
      .ok ⟨⟩ (pushed w logs { s with fetcher := (fetcher, s.fetcher.2 ++ [⟨w, logs⟩]) })
    | .error failure fetcher => .error failure { s with fetcher := (fetcher, s.fetcher.2) } := by
  unfold chunk
  rw [bind_run]
  unfold onPart recorded
  dsimp only
  cases e.fetch w s.fetcher.1 with
  | ok logs fetcher => rfl
  | error failure fetcher => rfl

/-- A turn scans its range, or throws and changes nothing. -/
theorem chunk_spec : (∃ logs s', e.recorded.chunk w s = .ok ⟨⟩ s' ∧ Extends [⟨w, logs⟩] s s' ∧
      Resolves (e.fetch w) s.fetcher.1) ∨
    (∃ failure s', e.recorded.chunk w s = .error failure s' ∧ Extends [] s s' ∧
      ¬ Resolves (e.fetch w) s.fetcher.1) := by
  rw [chunk_run]
  cases fetched : e.fetch w s.fetcher.1 with
  | ok logs fetcher =>
    refine .inl ⟨logs, _, rfl, ⟨rfl, ?_, rfl⟩, logs, fetcher, fetched⟩
    rw [List.flatMap_cons, List.flatMap_nil, List.append_nil]
    rfl
  | error failure fetcher =>
    refine .inr ⟨failure, _, rfl, ⟨(List.append_nil _).symm, (List.append_nil _).symm, rfl⟩, ?_⟩
    rintro ⟨_, _, resolved⟩
    rw [fetched] at resolved
    cases resolved

/-- **The loop scans a first part of the ranges**, nothing exactly when the fetch of the first one
throws. -/
theorem chunks_spec : ∀ (ws : List Window) (s : RunState σ),
    ∃ new : List Scan, Extends new s (stateAfter (ws.forM e.recorded.chunk) s) ∧
      new.map Scan.window <+: ws ∧
      (∀ w ∈ ws.head?, (new = [] ↔ ¬ Resolves (e.fetch w) s.fetcher.1))
  | [], s => ⟨[], Extends.refl s, List.prefix_rfl, fun _ member => by cases member⟩
  | w :: ws, s => by
    rcases chunk_spec (e := e) (w := w) (s := s) with
      ⟨logs, s₁, ran, first, resolved⟩ | ⟨failure, s₁, ran, kept, thrown⟩
    · obtain ⟨new, rest, inside, _⟩ := chunks_spec ws s₁
      refine ⟨⟨w, logs⟩ :: new, ?_, List.prefix_cons_inj w |>.mpr inside, ?_⟩
      · rw [stateAfter_forM_ok ran]
        exact first.cons rest
      · rintro w' ⟨⟩
        exact ⟨fun none => (by cases none), fun thrown => absurd resolved thrown⟩
    · refine ⟨[], ?_, List.nil_prefix, ?_⟩
      · rw [stateAfter_forM_error ran]
        exact kept
      · rintro w' ⟨⟩
        exact ⟨fun _ => thrown, fun _ => rfl⟩

/-- A call is its loop, or nothing when the cache is complete. -/
theorem getLogs_run {σ : Type} (e : ExitLogs σ) (s : ExitLogsState σ) (lastBlockNumber : Nat) :
    e.getLogs lastBlockNumber s = if s.header.endBlock = lastBlockNumber then .ok s.cache s
      else ((e.ranges s lastBlockNumber).forM e.chunk >>= fun _ => do
        let s ← get
        pure s.cache) s := by
  show (if s.header.endBlock = lastBlockNumber then _ else _ : EStateM Failure _ _) s = _
  by_cases complete : s.header.endBlock = lastBlockNumber
  · rw [if_pos complete, if_pos complete]
    rfl
  · rw [if_neg complete, if_neg complete]

theorem stateAfter_getLogs {σ : Type} (e : ExitLogs σ) (s : ExitLogsState σ) (lastBlockNumber : Nat) :
    stateAfter (e.getLogs lastBlockNumber) s = if s.header.endBlock = lastBlockNumber then s
      else stateAfter ((e.ranges s lastBlockNumber).forM e.chunk) s := by
  unfold stateAfter
  rw [getLogs_run]
  by_cases complete : s.header.endBlock = lastBlockNumber
  · rw [if_pos complete, if_pos complete]
  · rw [if_neg complete, if_neg complete, bind_run]
    cases (e.ranges s lastBlockNumber).forM e.chunk s with
    | ok _ _ => rfl
    | error _ _ => rfl

/-- **What a call does**: it scans a first part of its ranges; nothing when the cache is complete, and
otherwise nothing exactly when the fetch of the first range throws. -/
theorem getLogs_spec (lastBlockNumber : Nat) : ∃ new : List Scan,
    Extends new s (stateAfter (e.recorded.getLogs lastBlockNumber) s) ∧
      new.map Scan.window <+: e.recorded.ranges s lastBlockNumber ∧
      (s.header.endBlock = lastBlockNumber → new = []) ∧
      (s.header.endBlock ≠ lastBlockNumber → ∀ w ∈ (e.recorded.ranges s lastBlockNumber).head?,
        (new = [] ↔ ¬ Resolves (e.fetch w) s.fetcher.1)) := by
  rw [stateAfter_getLogs]
  by_cases complete : s.header.endBlock = lastBlockNumber
  · rw [if_pos complete]
    exact ⟨[], Extends.refl s, List.nil_prefix, fun _ => rfl, fun other => absurd complete other⟩
  · rw [if_neg complete]
    obtain ⟨new, grown, inside, none⟩ :=
      chunks_spec (e := e) (e.recorded.ranges s lastBlockNumber) s
    exact ⟨new, grown, inside, fun same => absurd same complete, fun _ => none⟩

/-- A call that fetches one range. -/
theorem getLogs_of_fetch {lastBlockNumber : Nat} {logs : List ValidatorsToEject} {fetcher : σ}
    (incomplete : s.header.endBlock ≠ lastBlockNumber) (one : e.recorded.ranges s lastBlockNumber = [w])
    (fetched : e.fetch w s.fetcher.1 = .ok logs fetcher) :
    e.recorded.getLogs lastBlockNumber s = .ok (s.cache ++ logs)
      (pushed w logs { s with fetcher := (fetcher, s.fetcher.2 ++ [⟨w, logs⟩]) }) := by
  have turn := chunk_run (e := e) (w := w) (s := s)
  rw [fetched] at turn
  have looped : ([w].forM e.recorded.chunk : EStateM Failure (RunState σ) PUnit) s
      = .ok ⟨⟩ (pushed w logs { s with fetcher := (fetcher, s.fetcher.2 ++ [⟨w, logs⟩]) }) :=
    bind_ok.mpr ⟨⟨⟩, _, turn, rfl⟩
  rw [← one] at looped
  rw [getLogs_run, if_neg incomplete]
  exact bind_ok.mpr ⟨⟨⟩, _, looped, rfl⟩

end Call

end ExitLogs

end ValidatorEjector
