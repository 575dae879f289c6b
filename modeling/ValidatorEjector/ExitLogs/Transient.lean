/-
**Exit requests and requests that fail.**

A request that fails while a chunk is loaded makes the whole call throw, and the chunk is fetched again. A
request that fails while an event is verified is taken for a failed verification: the event is skipped,
and the header moves past its block.

* `transientService` — the service over nodes that fail requests.
* `Faithful` — the invariant: every scan has the logs of a fetch without failures.
* **`run_faithful`** — a run in which no check of an event that would verify is interrupted loses nothing.
* `run_loses` — a run in which one is, and that loses the event.
* `run_faithful_recovers` — a run in which a call fails, and the next one has the event.
-/

import ValidatorEjector.ExitLogs.Flaky
import ValidatorEjector.ExitLogs.Scans
import ValidatorEjector.Recorded

namespace ValidatorEjector

open Js Library Library.Program Library.Windows

section Runs

variable {config : FetcherConfig} {caches : CachePolicy String} {chain : ChainData}
  {fails : Nat → Bool} {ejectorScope : List EjectorScope} {BLOCKS_PRELOAD : ℕ+}

/-- The service over nodes that fail some requests. -/
def transientService (config : FetcherConfig) (caches : CachePolicy String) (chain : ChainData)
    (fails : Nat → Bool) (ejectorScope : List EjectorScope) (BLOCKS_PRELOAD : ℕ+) :
    ExitLogs (config.flaky caches chain fails).State :=
  (config.flaky caches chain fails).exitLogs ejectorScope BLOCKS_PRELOAD config.LOAD_LOGS_STEP

/-- Its run, from empty caches. -/
def transientRun (config : FetcherConfig) (caches : CachePolicy String) (chain : ChainData)
    (fails : Nat → Bool) (ejectorScope : List EjectorScope) (BLOCKS_PRELOAD : ℕ+)
    (steps : List ExitLogs.Step) : ExitLogs.RunState (config.flaky caches chain fails).State :=
  (transientService config caches chain fails ejectorScope BLOCKS_PRELOAD).run
    ((config.flaky caches chain fails).fresh ⟨0, 0⟩) steps

/-- The logs of a range when no request fails. -/
def CalmLogs (config : FetcherConfig) (caches : CachePolicy String) (chain : ChainData)
    (ejectorScope : List EjectorScope) (w : Window) (logs : List ValidatorsToEject) : Prop :=
  ∃ c, (config.calm caches chain).getLogs (.int w.first) (.int w.last) ejectorScope
    ((config.calm caches chain).fresh ⟨0, 0⟩) = .ok logs c

/-- The events in scope of a range whose pubkeys are valid, when no request fails. -/
def CalmEvents (config : FetcherConfig) (caches : CachePolicy String) (chain : ChainData)
    (ejectorScope : List EjectorScope) (w : Window) (events : List ExitRequestEvent) : Prop :=
  ∃ c, (config.calm caches chain).onNode ((config.calm caches chain).getValidatorExitRequestEvents
    (.int w.first) (.int w.last) ejectorScope) ((config.calm caches chain).fresh ⟨0, 0⟩) = .ok events c

/-- **The invariant of a run**: every scan has the logs of a fetch without failures. -/
structure Faithful (config : FetcherConfig) (caches : CachePolicy String) (chain : ChainData)
    (fails : Nat → Bool) (ejectorScope : List EjectorScope)
    (s : ExitLogs.RunState (config.flaky caches chain fails).State) : Prop where
  consistent : FetcherConsistent config caches chain fails s.fetcher.1
  scans : ∀ scan ∈ ExitLogs.scans s, CalmLogs config caches chain ejectorScope scan.window scan.logs

/-- In a call from the state, no check of an event that would verify is interrupted. -/
def UndisturbedCall (config : FetcherConfig) (caches : CachePolicy String) (chain : ChainData)
    (fails : Nat → Bool) (ejectorScope : List EjectorScope) (BLOCKS_PRELOAD : ℕ+)
    (s : ExitLogs.RunState (config.flaky caches chain fails).State) (lastBlockNumber : Nat) : Prop :=
  let e := transientService config caches chain fails ejectorScope BLOCKS_PRELOAD
  Along e.recorded.chunk (fun w s => Undisturbed config caches chain fails (.int w.first) (.int w.last)
    ejectorScope s.fetcher.1) (e.recorded.ranges s lastBlockNumber) s

/-! ### The invariant of a run -/

theorem faithful_chunks : ∀ (ws : List Window)
    (s : ExitLogs.RunState (config.flaky caches chain fails).State),
    Faithful config caches chain fails ejectorScope s →
    Along (transientService config caches chain fails ejectorScope BLOCKS_PRELOAD).recorded.chunk
      (fun w s => Undisturbed config caches chain fails (.int w.first) (.int w.last) ejectorScope
        s.fetcher.1) ws s →
    Faithful config caches chain fails ejectorScope (stateAfter (ws.forM
      (transientService config caches chain fails ejectorScope BLOCKS_PRELOAD).recorded.chunk) s)
  | [], s, faithful, _ => faithful
  | w :: ws, s, faithful, ⟨here, rest⟩ => by
    let e := transientService config caches chain fails ejectorScope BLOCKS_PRELOAD
    have turn := ExitLogs.chunk_run (e := e) (w := w) (s := s)
    have kept : FetcherConsistent config caches chain fails (stateAfter (e.fetch w) s.fetcher.1) :=
      getLogs_preserves.stateAfter faithful.consistent
    cases fetched : e.fetch w s.fetcher.1 with
    | ok logs fetcher =>
      rw [fetched] at turn
      rw [turn] at rest
      rw [stateAfter_forM_ok turn]
      refine faithful_chunks ws _ ⟨?_, fun scan member => ?_⟩ rest
      · rw [stateAfter_ok fetched] at kept
        exact kept
      · rcases List.mem_append.mp member with old | new
        · exact faithful.scans scan old
        · rw [List.mem_singleton.mp new]
          exact getLogs_calm faithful.consistent here fetched
    | error failure fetcher =>
      rw [fetched] at turn
      rw [stateAfter_forM_error turn]
      refine ⟨?_, faithful.scans⟩
      rw [stateAfter_error fetched] at kept
      exact kept

theorem faithful_call {s : ExitLogs.RunState (config.flaky caches chain fails).State}
    {lastBlockNumber : Nat} (faithful : Faithful config caches chain fails ejectorScope s)
    (undisturbed : UndisturbedCall config caches chain fails ejectorScope BLOCKS_PRELOAD s
      lastBlockNumber) :
    Faithful config caches chain fails ejectorScope (stateAfter ((transientService config caches chain fails
      ejectorScope BLOCKS_PRELOAD).recorded.getLogs lastBlockNumber) s) := by
  rw [ExitLogs.stateAfter_getLogs]
  by_cases complete : s.header.endBlock = lastBlockNumber
  · rw [if_pos complete]
    exact faithful
  · rw [if_neg complete]
    exact faithful_chunks _ _ faithful undisturbed

theorem faithful_fresh : Faithful config caches chain fails ejectorScope
    (.fresh ((config.flaky caches chain fails).fresh ⟨0, 0⟩, [])) where
  consistent := consistent_fresh
  scans := fun _ member => by cases member

/-- Every call of the steps is undisturbed, in the state the steps before it leave. -/
def UndisturbedRun (config : FetcherConfig) (caches : CachePolicy String) (chain : ChainData)
    (fails : Nat → Bool) (ejectorScope : List EjectorScope) (BLOCKS_PRELOAD : ℕ+)
    (steps : List ExitLogs.Step) : Prop :=
  ∀ before lastBlockNumber, before ++ [.getLogs lastBlockNumber] <+: steps →
    UndisturbedCall config caches chain fails ejectorScope BLOCKS_PRELOAD
      (transientRun config caches chain fails ejectorScope BLOCKS_PRELOAD before) lastBlockNumber

theorem faithful_run {steps : List ExitLogs.Step}
    (undisturbed : UndisturbedRun config caches chain fails ejectorScope BLOCKS_PRELOAD steps) :
    Faithful config caches chain fails ejectorScope
      (transientRun config caches chain fails ejectorScope BLOCKS_PRELOAD steps) := by
  induction steps using List.reverseRecOn with
  | nil => exact faithful_fresh
  | append_singleton steps st ih =>
    have before := ih fun earlier last part => undisturbed earlier last (part.trans (List.prefix_append _ _))
    have last : transientRun config caches chain fails ejectorScope BLOCKS_PRELOAD (steps ++ [st])
        = ExitLogs.step _ (transientRun config caches chain fails ejectorScope BLOCKS_PRELOAD steps) st :=
      ExitLogs.run_concat _ steps st
    rw [last]
    cases st with
    | ack place => exact ⟨before.consistent, before.scans⟩
    | getLogs lastBlockNumber =>
      exact faithful_call before (undisturbed steps lastBlockNumber List.prefix_rfl)

/-- Nodes that never fail leave every run undisturbed. -/
theorem undisturbedRun_calm (steps : List ExitLogs.Step) :
    UndisturbedRun config caches chain (fun _ => false) ejectorScope BLOCKS_PRELOAD steps :=
  fun _ _ _ => Along.of_forall (fun _ _ => undisturbed_of_fine fun _ _ => rfl) _ _

/-! ### What a run loses -/

/-- A list of scans without failures is determined by its ranges. -/
theorem scans_unique {as bs : List ExitLogs.Scan}
    (first : ∀ scan ∈ as, CalmLogs config caches chain ejectorScope scan.window scan.logs)
    (second : ∀ scan ∈ bs, CalmLogs config caches chain ejectorScope scan.window scan.logs)
    (windows : as.map ExitLogs.Scan.window = bs.map ExitLogs.Scan.window) : as = bs := by
  induction as generalizing bs with
  | nil => exact (List.map_eq_nil_iff.mp windows.symm).symm
  | cons a as ih =>
    cases bs with
    | nil => cases windows
    | cons b bs =>
      obtain ⟨here, rest⟩ := List.cons.inj windows
      obtain ⟨c, ran⟩ := first a List.mem_cons_self
      obtain ⟨c', ran'⟩ := second b List.mem_cons_self
      rw [here, ran'] at ran
      have same : a = b := by
        obtain ⟨w, logs⟩ := a
        obtain ⟨w', logs'⟩ := b
        cases here
        cases ran
        rfl
      rw [same, ih (fun scan member => first scan (List.mem_cons_of_mem a member))
        (fun scan member => second scan (List.mem_cons_of_mem b member)) rest]

/-- Every log has its entry. -/
theorem exists_entry {entries logs : List ValidatorsToEject}
    (same : List.Forall₂ ExitLogs.SameEvent entries logs) {log : ValidatorsToEject} (member : log ∈ logs) :
    ∃ entry ∈ entries, ExitLogs.SameEvent entry log := by
  induction same with
  | nil => cases member
  | @cons entry other entries logs here rest ih =>
    rcases List.mem_cons.mp member with rfl | member
    · exact ⟨entry, List.mem_cons_self, here⟩
    · obtain ⟨found, inside, event⟩ := ih member
      exact ⟨found, List.mem_cons_of_mem entry inside, event⟩

/-- **A run without interrupted checks loses nothing.** Every scanned range has the logs of a fetch without
failures, so every event of it that would verify is in the cache; and a run without any failure that scans
the same ranges has the same logs. -/
theorem run_faithful (config : FetcherConfig) (caches : CachePolicy String) (chain : ChainData)
    (fails : Nat → Bool) (ejectorScope : List EjectorScope) (BLOCKS_PRELOAD : ℕ+)
    (steps : List ExitLogs.Step)
    (undisturbed : UndisturbedRun config caches chain fails ejectorScope BLOCKS_PRELOAD steps) :
    (∀ scan ∈ ExitLogs.scans (transientRun config caches chain fails ejectorScope BLOCKS_PRELOAD steps),
      CalmLogs config caches chain ejectorScope scan.window scan.logs ∧
      ∀ events, CalmEvents config caches chain ejectorScope scan.window events →
        ∀ event ∈ events, config.TRUST_MODE = true ∨ WouldVerify config caches chain event →
          ∃ validator, (config.calm caches chain).toEject event = .ok validator ∧
            ∃ entry ∈ (transientRun config caches chain fails ejectorScope BLOCKS_PRELOAD steps).cache,
              ExitLogs.SameEvent entry validator) ∧
    ∀ calmSteps, (ExitLogs.scans (transientRun config caches chain (fun _ => false) ejectorScope
          BLOCKS_PRELOAD calmSteps)).map ExitLogs.Scan.window
        = (ExitLogs.scans (transientRun config caches chain fails ejectorScope BLOCKS_PRELOAD
          steps)).map ExitLogs.Scan.window →
      ExitLogs.scans (transientRun config caches chain (fun _ => false) ejectorScope BLOCKS_PRELOAD
          calmSteps)
        = ExitLogs.scans (transientRun config caches chain fails ejectorScope BLOCKS_PRELOAD steps) := by
  have faithful := faithful_run undisturbed
  have cached := (ExitLogs.ordered_run (e := transientService config caches chain fails ejectorScope
    BLOCKS_PRELOAD) ((config.flaky caches chain fails).fresh ⟨0, 0⟩) steps).cache
  refine ⟨fun scan member => ⟨faithful.scans scan member, fun events loaded event inside accepted => ?_⟩,
    fun calmSteps windows => ?_⟩
  · obtain ⟨c, ran⟩ := faithful.scans scan member
    obtain ⟨c₁, loaded⟩ := loaded
    obtain ⟨validator, logged, pushed⟩ := mem_of_wouldVerify consistent_fresh loaded ran inside accepted
    have listed : validator ∈ (ExitLogs.scans (transientRun config caches chain fails ejectorScope
        BLOCKS_PRELOAD steps)).flatMap ExitLogs.Scan.logs := List.mem_flatMap_of_mem member logged
    obtain ⟨entry, inside, same⟩ := exists_entry cached listed
    exact ⟨validator, pushed, entry, inside, same⟩
  · have calm : Faithful config caches chain (fun _ => false) ejectorScope (transientRun config caches chain
        (fun _ => false) ejectorScope BLOCKS_PRELOAD calmSteps) :=
      faithful_run (undisturbedRun_calm calmSteps)
    exact scans_unique calm.scans faithful.scans windows

end Runs

/-! ### A run that loses an event -/

namespace Losing

open HoodiFixture

def log : Log :=
  exitRequestLog 0x125731 HOODI_EXIT_VALIDATOR_PUBKEY HOODI_SUBMIT_EXIT_REQUESTS_DATA_TX

def event : ExitRequestEvent :=
  exitRequestEvent 0x125731 HOODI_EXIT_VALIDATOR_PUBKEY HOODI_SUBMIT_EXIT_REQUESTS_DATA_TX

def table : List (Log × ExitRequestArgs) :=
  [(log, exitRequestArgs 0x125731 HOODI_EXIT_VALIDATOR_PUBKEY)]

def validator : ValidatorData :=
  ⟨"1201969", "active_ongoing", ⟨HOODI_EXIT_VALIDATOR_PUBKEY, FAR_FUTURE_EPOCH⟩⟩

/-- A chain with the recorded exit request. -/
def chain : ChainData where
  el
    | .eth_getTransactionByHash transactionHash =>
      if transactionHash = HOODI_SUBMIT_EXIT_REQUESTS_DATA_TX then .ok (resultJson submitTx.toJson)
      else unrecorded
    | .eth_getLogs _ _ _ _ => .ok (resultJson (.array [log.toJson]))
  cl _ := .ok (validatorsJson [validator])
  hash_of_served {transactionHash json tx} served parsed := by
    dsimp only at served
    by_cases known : transactionHash = HOODI_SUBMIT_EXIT_REQUESTS_DATA_TX
    · rw [if_pos known] at served
      cases served
      rw [txDTO_toJson] at parsed
      cases parsed
      exact known.symm
    · rw [if_neg known] at served
      cases served

def config : FetcherConfig where
  ethers := .recorded (recording table)
  exitBusAddress? := some exitBusAddress
  consensusAddress? := none
  LOAD_LOGS_STEP := 100000
  ORACLE_ADDRESSES_ALLOWLIST := []
  SUBMIT_TX_HASH_ALLOWLIST := [HOODI_SUBMIT_EXIT_REQUESTS_DATA_TX]
  TRUST_MODE := false

def scope : List EjectorScope := [⟨"1", [0x26]⟩]

/-- The third request fails: the one for the transaction of the event. -/
def fails (n : Nat) : Bool := n = 2

section Fetching

variable {failing : Nat → Bool} {first : Nat} {r : Requests}

theorem request_ok {answer : Except Failure Json} {json : Json} (fine : failing r.made = false)
    (answered : answer = .ok json) : request failing answer r = .ok json ⟨r.made + 1, r.failed⟩ := by
  unfold request
  rw [fine, answered]
  rfl

/-- The first request of a fetch is for the logs. -/
theorem logs_run (fine : failing r.made = false) (ordered : first ≤ 0x18bd75)
    (short : 0x18bd75 < first + 100000) :
    (config.flaky (.lru 50) chain failing).loadEvents (.int first) (.int 0x18bd75) scope r =
      .ok [event] ⟨r.made + 1, r.failed⟩ := by
  let f := config.flaky (.lru 50) chain failing
  have parses : f.verifier.el.ethers.parseValidatorExitRequest = recordedValue table := rfl
  have parsed : f.parseEvent log = .ok event := by
    refine parseEvent_exitRequestLog ?_
    rw [parses]
    exact recordedValue_cons
  have step : (f.verifier.el.LOAD_LOGS_STEP : Nat) = 100000 := rfl
  refine loadEvents_served [log] table rfl rfl ordered (by decide)
    (by rwa [step]) (fun _ _ _ => request_ok fine rfl) ?_
  rw [List.mapM_cons, List.mapM_nil, parsed]
  rfl

theorem index_event : toString 0x125731 = "1201969" := by decide

/-- The second is for the validators of its events. -/
theorem events_run (fine : failing r.made = false) (fine' : failing (r.made + 1) = false)
    (ordered : first ≤ 0x18bd75) (short : 0x18bd75 < first + 100000) :
    (config.flaky (.lru 50) chain failing).getValidatorExitRequestEvents (.int first) (.int 0x18bd75) scope r =
      .ok [event] ⟨r.made + 2, r.failed⟩ := by
  let f := config.flaky (.lru 50) chain failing
  have batch : f.cl.fetchBatch "head" ["1201969"] ⟨r.made + 1, r.failed⟩ =
      .ok [validator] ⟨r.made + 2, r.failed⟩ :=
    bind_ok.mpr ⟨_, _, request_ok fine' rfl, ofResult_ok.mpr ⟨validatorsBatchDTO_toJson _, rfl⟩⟩
  have fetched : f.cl.fetchValidatorsBatch ["1201969"] 1000 "head" ⟨r.made + 1, r.failed⟩ =
      .ok [validator] ⟨r.made + 2, r.failed⟩ :=
    collect_cons_ok.mpr ⟨_, _, [], batch, rfl, rfl⟩
  have valid : (([("1201969", HOODI_EXIT_VALIDATOR_PUBKEY)].filter fun info =>
      ConsensusApi.isExpectedPubkey [("1201969", HOODI_EXIT_VALIDATOR_PUBKEY)] info.1 info.2).map
        fun info => info.1) = ["1201969"] := by decide +kernel
  have validated : f.cl.validatePublicKeys [("1201969", HOODI_EXIT_VALIDATOR_PUBKEY)] 1000 "head"
      ⟨r.made + 1, r.failed⟩ = .ok ["1201969"] ⟨r.made + 2, r.failed⟩ := by
    refine bind_ok.mpr ⟨_, _, fetched, ?_⟩
    exact congrArg (fun indices => EStateM.Result.ok indices (⟨r.made + 2, r.failed⟩ : Requests)) valid
  have inside : ["1201969"].contains event.validatorIndex = true := by
    show ["1201969"].contains (toString 0x125731) = true
    rw [index_event]
    decide
  refine bind_ok.mpr ⟨_, _, logs_run fine ordered short,
    bind_ok.mpr ⟨["1201969"], ⟨r.made + 2, r.failed⟩, ?_, ?_⟩⟩
  · show f.cl.validatePublicKeys [(toString 0x125731, _)] 1000 "head" _ = _
    rw [index_event]
    exact validated
  · have kept : [event].filter (fun event => ["1201969"].contains event.validatorIndex) = [event] :=
      List.filter_cons_of_pos inside
    exact congrArg (fun events => EStateM.Result.ok events (⟨r.made + 2, r.failed⟩ : Requests)) kept

/-- Where the second fails, the events are not loaded. -/
theorem events_fail (fine : failing r.made = false) (bad : failing (r.made + 1) = true)
    (ordered : first ≤ 0x18bd75) (short : 0x18bd75 < first + 100000) :
    (config.flaky (.lru 50) chain failing).getValidatorExitRequestEvents (.int first) (.int 0x18bd75) scope r =
      .error (.error "request failed") ⟨r.made + 2, r.failed + 1⟩ := by
  let f := config.flaky (.lru 50) chain failing
  have asked (answer : Except Failure Json) : request failing answer ⟨r.made + 1, r.failed⟩ =
      .error (.error "request failed") ⟨r.made + 2, r.failed + 1⟩ := by
    unfold request
    dsimp only
    rw [bad]
    rfl
  have batch : f.cl.fetchBatch "head" ["1201969"] ⟨r.made + 1, r.failed⟩ =
      .error (.error "request failed") ⟨r.made + 2, r.failed + 1⟩ :=
    bind_of_error (asked (chain.cl (.validators "head" ["1201969"])))
  have fetched : f.cl.fetchValidatorsBatch ["1201969"] 1000 "head" ⟨r.made + 1, r.failed⟩ =
      .error (.error "request failed") ⟨r.made + 2, r.failed + 1⟩ :=
    bind_of_error batch
  have validated : f.cl.validatePublicKeys [(toString 0x125731, HOODI_EXIT_VALIDATOR_PUBKEY)] 1000 "head"
      ⟨r.made + 1, r.failed⟩ = .error (.error "request failed") ⟨r.made + 2, r.failed + 1⟩ := by
    rw [index_event]
    exact bind_of_error fetched
  exact (bind_of_ok (logs_run fine ordered short)).trans (bind_of_error validated)

end Fetching

def window : Window := ⟨1571365, 0x18bd75⟩

/-- The third is for the transaction of the event, which is one of the allowlist. -/
theorem verify_run {failing : Nat → Bool} {r : Requests} (fine : failing r.made = false) :
    Resolves ((config.flaky (.lru 50) chain failing).verify event)
      ((config.flaky (.lru 50) chain failing).fresh r) := by
  let f := config.flaky (.lru 50) chain failing
  have known : chain.el (.eth_getTransactionByHash HOODI_SUBMIT_EXIT_REQUESTS_DATA_TX)
      = .ok (resultJson submitTx.toJson) := by
    unfold chain
    dsimp only
    rw [if_pos rfl]
  have answered : f.verifier.el.elRequest (.eth_getTransactionByHash HOODI_SUBMIT_EXIT_REQUESTS_DATA_TX) r =
      .ok (resultJson submitTx.toJson) ⟨r.made + 1, r.failed⟩ := by
    show request failing (chain.el (.eth_getTransactionByHash HOODI_SUBMIT_EXIT_REQUESTS_DATA_TX)) r = _
    exact request_ok fine known
  obtain ⟨verifier, served⟩ := Verifier.getTransaction_of_answer (v := f.verifier)
    (s := f.verifier.fresh r) rfl answered (txDTO_toJson submitTx)
  have library : f.verifier.el.ethers = .recorded (recording table) := rfl
  exact ⟨(), _, Fetcher.onVerifier_of_ok _ (verifyEvent_submitTx library List.mem_cons_self served)⟩

theorem wouldVerify_event : WouldVerify config (.lru 50) chain event := verify_run rfl

theorem calmEvents_window : CalmEvents config (.lru 50) chain scope window [event] :=
  ⟨_, Fetcher.onVerifier_of_ok _ (Verifier.onNode_of_ok (events_run rfl rfl (by decide) (by decide)))⟩

/-- The verification of the event fails with the request, and the chunk is loaded without the event. -/
theorem fetch_run : ∃ s', (config.flaky (.lru 50) chain fails).getLogs (.int window.first)
    (.int window.last) scope ((config.flaky (.lru 50) chain fails).fresh ⟨0, 0⟩) = .ok [] s' := by
  let f := config.flaky (.lru 50) chain fails
  have loaded : f.onNode (f.getValidatorExitRequestEvents (.int window.first) (.int window.last) scope)
      (f.fresh ⟨0, 0⟩) = .ok [event] (f.fresh ⟨2, 0⟩) :=
    Fetcher.onVerifier_of_ok _ (Verifier.onNode_of_ok (events_run rfl rfl (by decide) (by decide)))
  have thrown : f.verifier.el.elRequest (.eth_getTransactionByHash event.transactionHash) ⟨2, 0⟩
      = .error (.error "request failed") ⟨3, 1⟩ := rfl
  obtain ⟨s, failed⟩ : ∃ s, f.verify event (f.fresh ⟨2, 0⟩) = .error (.error "request failed") s :=
    ⟨_, Fetcher.onVerifier_of_error _ (Verifier.verifyEvent_of_failure (v := f.verifier)
      (s := f.verifier.fresh ⟨2, 0⟩) rfl thrown)⟩
  have turn := (Fetcher.verifyTurn_ok (f := f) rfl).mpr (.inr ⟨_, _, failed, rfl, rfl⟩)
  exact ⟨_, bind_ok.mpr ⟨_, _, loaded, collect_cons_ok.mpr ⟨[], _, [], turn, rfl, rfl⟩⟩⟩

theorem ranges_window (failing : Nat → Bool) (r : Requests) :
    (transientService config (.lru 50) chain failing scope 50000).recorded.ranges
      (.fresh ((config.flaky (.lru 50) chain failing).fresh r, [])) 0x18bd75 = [window] := by
  have step : ((transientService config (.lru 50) chain failing scope 50000).recorded.LOAD_LOGS_STEP : Nat)
      = 100000 := rfl
  have begins : (transientService config (.lru 50) chain failing scope 50000).recorded.blockFrom
      (.fresh ((config.flaky (.lru 50) chain failing).fresh r, [])) 0x18bd75 = window.first := rfl
  unfold ExitLogs.ranges
  rw [begins]
  exact windows_short (by decide) (by rw [step]; decide)

theorem run_call (failing : Nat → Bool) (last : Nat) :
    transientRun config (.lru 50) chain failing scope 50000 [.getLogs last] =
      stateAfter ((transientService config (.lru 50) chain failing scope 50000).recorded.getLogs last)
        (.fresh ((config.flaky (.lru 50) chain failing).fresh ⟨0, 0⟩, [])) :=
  rfl

/-- **An event is lost.** One request fails, the one for its transaction; the call resolves and covers the
block of the event, which would verify, and the cache is empty. -/
theorem run_loses :
    Resolves ((transientService config (.lru 50) chain fails scope 50000).recorded.getLogs 0x18bd75)
      (.fresh ((config.flaky (.lru 50) chain fails).fresh ⟨0, 0⟩, [])) ∧
    ∃ scan ∈ ExitLogs.scans (transientRun config (.lru 50) chain fails scope 50000 [.getLogs 0x18bd75]),
      scan.window.Contains 0x18bd75 ∧
      (∃ events, CalmEvents config (.lru 50) chain scope scan.window events ∧ event ∈ events) ∧
      event.blockNumber = .int 0x18bd75 ∧ WouldVerify config (.lru 50) chain event ∧
      (transientRun config (.lru 50) chain fails scope 50000 [.getLogs 0x18bd75]).cache = [] := by
  obtain ⟨s', fetched⟩ := fetch_run
  have ran := ExitLogs.getLogs_of_fetch
    (e := transientService config (.lru 50) chain fails scope 50000)
    (s := .fresh ((config.flaky (.lru 50) chain fails).fresh ⟨0, 0⟩, [])) (by decide)
    (ranges_window fails ⟨0, 0⟩) fetched
  rw [run_call fails, stateAfter_ok ran]
  have block : window.Contains 0x18bd75 := by decide
  refine ⟨resolves_of_ok ran, ⟨window, []⟩, List.mem_cons_self, block,
    ⟨[event], calmEvents_window, List.mem_cons_self⟩, rfl, wouldVerify_event, rfl⟩

/-! ### A run that recovers it -/

/-- The second request fails: the one for the validators of the first chunk. -/
def flickers (n : Nat) : Bool := n = 1

theorem window_fails : (config.flaky (.lru 50) chain flickers).getValidatorExitRequestEvents
    (.int window.first) (.int window.last) scope ⟨0, 0⟩ = .error (.error "request failed") ⟨2, 1⟩ :=
  events_fail rfl rfl (by decide) (by decide)

/-- The first call throws, and leaves the block to the next one. -/
theorem call_first : (transientService config (.lru 50) chain flickers scope 50000).recorded.getLogs 0x18bd75
    (.fresh ((config.flaky (.lru 50) chain flickers).fresh ⟨0, 0⟩, [])) =
      .error (.error "request failed")
        (.fresh ((config.flaky (.lru 50) chain flickers).fresh ⟨2, 1⟩, [])) := by
  let e := transientService config (.lru 50) chain flickers scope 50000
  have fetched : e.fetch window ((config.flaky (.lru 50) chain flickers).fresh ⟨0, 0⟩) = .error _ _ :=
    bind_of_error (Fetcher.onVerifier_of_error _ (Verifier.onNode_of_error window_fails))
  have turn := ExitLogs.chunk_run (e := e) (w := window)
    (s := .fresh ((config.flaky (.lru 50) chain flickers).fresh ⟨0, 0⟩, []))
  rw [show (ExitLogsState.fresh ((config.flaky (.lru 50) chain flickers).fresh ⟨0, 0⟩,
    ([] : List ExitLogs.Scan))).fetcher.1 = (config.flaky (.lru 50) chain flickers).fresh ⟨0, 0⟩ from rfl,
    fetched] at turn
  rw [ExitLogs.getLogs_run, if_neg (by decide), ranges_window flickers ⟨0, 0⟩]
  exact bind_of_error (bind_of_error turn)

theorem run_first : transientRun config (.lru 50) chain flickers scope 50000 [.getLogs 0x18bd75] =
    .fresh ((config.flaky (.lru 50) chain flickers).fresh ⟨2, 1⟩, []) :=
  (run_call flickers 0x18bd75).trans (stateAfter_error call_first)

/-- The object pushed for the event. -/
def entry : ValidatorsToEject :=
  ⟨1, event.validatorIndex, event.validatorPubkey, event.blockNumber, 0x26, false⟩

theorem toEject_event (failing : Nat → Bool) :
    (config.flaky (.lru 50) chain failing).toEject event = .ok entry := by
  have narrow (n : Nat) (small : n ≤ Hex.MAX_SAFE) :
      (config.flaky (.lru 50) chain failing).verifier.el.ethers.toNumber n = .ok n := if_pos small
  exact except_bind_ok.mpr ⟨1, narrow 1 (by decide),
    except_bind_ok.mpr ⟨0x26, narrow 0x26 (by decide), rfl⟩⟩

/-- The second call pushes the event. -/
theorem second_resolves : ∃ s',
    (config.flaky (.lru 50) chain flickers).getLogs (.int window.first) (.int window.last) scope
      ((config.flaky (.lru 50) chain flickers).fresh ⟨2, 1⟩) = .ok [entry] s' := by
  let f := config.flaky (.lru 50) chain flickers
  have loaded : f.onNode (f.getValidatorExitRequestEvents (.int window.first) (.int window.last) scope)
      (f.fresh ⟨2, 1⟩) = .ok [event] (f.fresh ⟨4, 1⟩) :=
    Fetcher.onVerifier_of_ok _ (Verifier.onNode_of_ok (events_run rfl rfl (by decide) (by decide)))
  have resolves : Resolves (f.verify event) (f.fresh ⟨4, 1⟩) := verify_run rfl
  obtain ⟨_, s₁, verified⟩ := resolves
  have turn : f.verifyTurn event (f.fresh ⟨4, 1⟩) = .ok [entry] (f.counted true s₁) :=
    (Fetcher.verifyTurn_ok rfl).mpr (.inl ⟨s₁, entry, verified, toEject_event flickers, rfl, rfl⟩)
  exact ⟨_, bind_ok.mpr ⟨_, _, loaded, collect_cons_ok.mpr ⟨[entry], _, [], turn, rfl, rfl⟩⟩⟩

theorem run_second : transientRun config (.lru 50) chain flickers scope 50000
    [.getLogs 0x18bd75, .getLogs 0x18bd75] =
      stateAfter ((transientService config (.lru 50) chain flickers scope 50000).recorded.getLogs 0x18bd75)
        (.fresh ((config.flaky (.lru 50) chain flickers).fresh ⟨2, 1⟩, [])) := by
  rw [← run_first]
  exact ExitLogs.run_concat _ [.getLogs 0x18bd75] (.getLogs 0x18bd75)

/-- No check of the two calls is interrupted: the first makes none, and in the second all requests are
served. -/
theorem undisturbed_flickers : UndisturbedRun config (.lru 50) chain flickers scope 50000
    [.getLogs 0x18bd75, .getLogs 0x18bd75] := by
  intro before last part
  rcases List.prefix_concat_iff.mp (show before ++ [.getLogs last] <+: [.getLogs 0x18bd75] ++ [.getLogs 0x18bd75]
    from part) with same | part
  · obtain ⟨rfl, same⟩ := List.append_inj' same rfl
    cases same
    rw [run_first]
    show Along _ _ ((transientService config (.lru 50) chain flickers scope 50000).recorded.ranges _ _) _
    rw [ranges_window flickers ⟨2, 1⟩]
    exact Along.singleton (undisturbed_of_fine fun n later =>
      decide_eq_false (Nat.ne_of_gt (Nat.lt_of_lt_of_le (by decide) later)))
  · rcases List.prefix_concat_iff.mp (show before ++ [.getLogs last] <+: [] ++ [.getLogs 0x18bd75]
      from part) with same | part
    · obtain ⟨rfl, same⟩ := List.append_inj' same rfl
      cases same
      show Along _ _ ((transientService config (.lru 50) chain flickers scope 50000).recorded.ranges _ _) _
      have begins : transientRun config (.lru 50) chain flickers scope 50000 [] =
        .fresh ((config.flaky (.lru 50) chain flickers).fresh ⟨0, 0⟩, []) := rfl
      rw [begins, ranges_window flickers ⟨0, 0⟩]
      exact Along.singleton (undisturbed_of_error
        (Fetcher.onVerifier_of_error _ (Verifier.onNode_of_error window_fails)))
    · exact absurd (List.prefix_nil.mp part) (List.append_ne_nil_of_right_ne_nil _ (List.cons_ne_nil _ _))

/-- **An event is recovered.** The first call throws with the request for the validators of its chunk; the
second resolves over the same range, and the event is in the cache. -/
theorem run_faithful_recovers :
    ¬ Resolves ((transientService config (.lru 50) chain flickers scope 50000).recorded.getLogs 0x18bd75)
      (.fresh ((config.flaky (.lru 50) chain flickers).fresh ⟨0, 0⟩, [])) ∧
    ∃ scan ∈ ExitLogs.scans (transientRun config (.lru 50) chain flickers scope 50000
        [.getLogs 0x18bd75, .getLogs 0x18bd75]),
      scan.window.Contains 0x18bd75 ∧ CalmLogs config (.lru 50) chain scope scan.window scan.logs ∧
      ∃ validator, (config.calm (.lru 50) chain).toEject event = .ok validator ∧
        ∃ entry ∈ (transientRun config (.lru 50) chain flickers scope 50000
            [.getLogs 0x18bd75, .getLogs 0x18bd75]).cache, ExitLogs.SameEvent entry validator := by
  obtain ⟨s', fetched⟩ := second_resolves
  have ran := ExitLogs.getLogs_of_fetch
    (e := transientService config (.lru 50) chain flickers scope 50000)
    (s := .fresh ((config.flaky (.lru 50) chain flickers).fresh ⟨2, 1⟩, [])) (by decide)
    (ranges_window flickers ⟨2, 1⟩) fetched
  have scanned : (⟨window, [entry]⟩ : ExitLogs.Scan) ∈ ExitLogs.scans (transientRun config (.lru 50) chain
      flickers scope 50000 [.getLogs 0x18bd75, .getLogs 0x18bd75]) := by
    rw [run_second, stateAfter_ok ran]
    exact List.mem_cons_self
  obtain ⟨logs, recovered⟩ := (run_faithful config (.lru 50) chain flickers scope 50000 _
    undisturbed_flickers).1 _ scanned
  refine ⟨fun ⟨_, _, resolved⟩ => ?_, _, scanned, by decide, logs, ?_⟩
  · rw [call_first] at resolved
    cases resolved
  · exact recovered [event] calmEvents_window event List.mem_cons_self (.inr wouldVerify_event)

end Losing

end ValidatorEjector
