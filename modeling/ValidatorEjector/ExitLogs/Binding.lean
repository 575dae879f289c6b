/-
**Whose public key was verified: the binding of an exit request to its validator.**

The pubkey check of the consensus side returns indices, and the events are filtered by index. An event
whose pubkey is not the one of its validator gets through when another event with the same index has the
right one; the verifier then looks at the pubkey of the event only.

* `Rides` — an event gets through the filter on another event's pubkey.
* `mem_getValidatorExitRequestEvents` — behind every event that gets through there is one, with the same
  index, whose pubkey is the validator's.
* **`getLogs_bound_iff`** — every entry of a resolved `getLogs` carries the pubkey of its validator, which
  passed the verification itself, exactly when no event that rides is accepted at its turn.
* `getLogs_rides` — a run in which one is.
-/

import ValidatorEjector.ExitLogs.Fetcher
import ValidatorEjector.Recorded

namespace ValidatorEjector

open Js Library Library.Program

/-- The pubkey of the event is not that of its validator, while another event of the batch has it. -/
def ExitRequestEvent.Rides (clPubkey : String → String) (events : List ExitRequestEvent)
    (event : ExitRequestEvent) : Prop :=
  event.validatorPubkey ≠ clPubkey event.validatorIndex ∧
    ∃ other ∈ events, other.validatorIndex = event.validatorIndex ∧
      other.validatorPubkey = clPubkey event.validatorIndex

namespace Fetcher

variable {ρ : Type} {f : Fetcher ρ} {clPubkey : String → String}

/-- The consensus node reports one fixed pubkey for each index. -/
def ReportsPubkeys (f : Fetcher ρ) (clPubkey : String → String) : Prop :=
  f.cl.Reports fun v => v.validator.pubkey = clPubkey v.index

/-- The entry carries the pubkey of its validator, and that pubkey passed `verifyEvent` at a turn of the
loop over the events that started in `s`. -/
def Bound (f : Fetcher ρ) (clPubkey : String → String) (events : List ExitRequestEvent) (s : f.State)
    (entry : ValidatorsToEject) : Prop :=
  entry.validatorPubkey = clPubkey entry.validatorIndex ∧
    ∃ event t, AtTurn f.verifyTurn events s event t ∧ event.validatorIndex = entry.validatorIndex ∧
      Resolves (f.verifier.verifyEvent (clPubkey entry.validatorIndex) event.transactionHash
        event.blockNumber) t.verifier

theorem mem_getValidatorExitRequestEvents {fromBlock toBlock : JsNumber}
    {ejectorScope : List EjectorScope} {events : List ExitRequestEvent} {s s' : ρ}
    (reports : f.ReportsPubkeys clPubkey)
    (loaded : f.getValidatorExitRequestEvents fromBlock toBlock ejectorScope s = .ok events s')
    {event : ExitRequestEvent} (member : event ∈ events) :
    ∃ other ∈ events, other.validatorIndex = event.validatorIndex ∧
      other.validatorPubkey = clPubkey event.validatorIndex := by
  obtain ⟨all, s₁, _, rest⟩ := bind_ok.mp loaded
  obtain ⟨validIndices, s₂, validated, same⟩ := bind_ok.mp rest
  cases same
  obtain ⟨_, valid⟩ := List.mem_filter.mp member
  have index := List.contains_iff_mem.mp valid
  obtain ⟨other, inside, pair⟩ :=
    List.mem_map.mp (ConsensusApi.validatePublicKeys_ok reports validated index)
  simp only [Prod.mk.injEq] at pair
  refine ⟨other, List.mem_filter.mpr ⟨inside, ?_⟩, pair.1, pair.2⟩
  rw [pair.1]
  exact valid

/-- A verification that resolves is one of the verifier, from the verifier's part of the state. -/
theorem resolves_verify {event : ExitRequestEvent} {s : f.State} :
    Resolves (f.verify event) s ↔
      Resolves (f.verifier.verifyEvent event.validatorPubkey event.transactionHash event.blockNumber)
        s.verifier := by
  unfold Resolves verify onVerifier onPart
  cases f.verifier.verifyEvent event.validatorPubkey event.transactionHash event.blockNumber
    s.verifier with
  | ok _ s' => exact ⟨fun _ => ⟨_, _, rfl⟩, fun _ => ⟨_, _, rfl⟩⟩
  | error e s' => exact ⟨by rintro ⟨_, _, ⟨⟩⟩, by rintro ⟨_, _, ⟨⟩⟩⟩

/-- A request of the fetcher is one of the node. -/
theorem onNode_ok {α : Type} {x : EStateM Failure ρ α} {a : α} {s s' : f.State}
    (ran : f.onNode x s = .ok a s') : ∃ node node', x node = .ok a node' := by
  unfold onNode onVerifier Verifier.onNode onPart at ran
  dsimp only at ran
  cases run : x s.verifier.node with
  | ok b node' =>
    rw [run] at ran
    cases ran
    exact ⟨_, node', run⟩
  | error e node' =>
    rw [run] at ran
    cases ran

/-- **When the entries are bound to their validators.** -/
theorem getLogs_bound_iff (f : Fetcher ρ) (clPubkey : String → String)
    (untrusted : f.TRUST_MODE = false) (reports : f.ReportsPubkeys clPubkey)
    {fromBlock toBlock : JsNumber} {ejectorScope : List EjectorScope}
    {result : List ValidatorsToEject} {s s' : f.State}
    (ran : f.getLogs fromBlock toBlock ejectorScope s = .ok result s') :
    ∃ events s₁,
      f.onNode (f.getValidatorExitRequestEvents fromBlock toBlock ejectorScope) s = .ok events s₁ ∧
      ((∀ entry ∈ result, f.Bound clPubkey events s₁ entry) ↔
        Along f.verifyTurn
          (fun event s => ¬ (event.Rides clPubkey events ∧ Resolves (f.verify event) s)) events s₁) := by
  obtain ⟨events, s₁, loaded, looped⟩ := bind_ok.mp ran
  obtain ⟨node, node', asked⟩ := onNode_ok loaded
  refine ⟨events, s₁, loaded, collect_forall looped fun event t here t' reached turn => ?_⟩
  have shares := mem_getValidatorExitRequestEvents reports asked reached.mem
  rcases (verifyTurn_ok untrusted).mp turn with ⟨_, validator, accepted, pushed, rfl, _⟩ |
    ⟨_, _, rejected, rfl, _⟩
  · obtain ⟨index, pubkey, _⟩ := toEject_ok pushed
    have resolved := resolves_of_ok accepted
    rw [List.forall_mem_singleton]
    constructor
    · rintro ⟨same, _⟩ ⟨⟨other, _⟩, _⟩
      rw [pubkey, index] at same
      exact other same
    · intro free
      have same : event.validatorPubkey = clPubkey event.validatorIndex := by
        by_contra other
        exact free ⟨⟨other, shares⟩, resolved⟩
      refine ⟨by rw [pubkey, index, same], event, t, reached, index.symm, ?_⟩
      rw [index, ← same]
      exact resolves_verify.mp resolved
  · -- nothing is pushed, and the verification did not resolve
    refine ⟨fun _ ⟨_, resolved⟩ => ?_, fun _ _ member => by cases member⟩
    obtain ⟨_, _, accepted⟩ := resolved
    rw [rejected] at accepted
    cases accepted

end Fetcher

/-! ### A run in which an event rides -/

namespace Riding

open HoodiFixture

def honestPubkey : String :=
  "0xab50ef06a0e48d9edf43e052f20dc912e0ba8d5b3f07051b6f2a13b094087f791af79b2780d395444a57e258d838083a"

def unknownTx : String := "0xa61ee81e25ba52d6d970be34afc72fddd04712b5ab72918dd064bf3afae36151"

/-- Two logs for validator `7`, both made up by the node: one with its pubkey, one with the pubkey of the
recorded exit request, which is for another validator. -/
def logs : List (Log × ExitRequestArgs) :=
  [(exitRequestLog 7 honestPubkey unknownTx, exitRequestArgs 7 honestPubkey),
    (exitRequestLog 7 HOODI_EXIT_VALIDATOR_PUBKEY HOODI_SUBMIT_EXIT_REQUESTS_DATA_TX,
      exitRequestArgs 7 HOODI_EXIT_VALIDATOR_PUBKEY)]

def fetcher : Fetcher Unit where
  verifier := verifier logs
  cl := .reporting [⟨"7", "active_ongoing", ⟨honestPubkey, FAR_FUTURE_EPOCH⟩⟩]
  TRUST_MODE := false

def clPubkey (validatorIndex : String) : String := if validatorIndex = "7" then honestPubkey else ""

def scope : List EjectorScope := [⟨"1", [0x26]⟩]

def honestEvent : ExitRequestEvent := exitRequestEvent 7 honestPubkey unknownTx

def ridingEvent : ExitRequestEvent :=
  exitRequestEvent 7 HOODI_EXIT_VALIDATOR_PUBKEY HOODI_SUBMIT_EXIT_REQUESTS_DATA_TX

def entry : ValidatorsToEject := ⟨1, "7", HOODI_EXIT_VALIDATOR_PUBKEY, .int 0x18bd75, 0x26, false⟩

theorem reportsPubkeys : fetcher.ReportsPubkeys clPubkey := by
  intro tag batch s vs s' fetched v member
  have same : (ConsensusApi.reporting _).fetchBatch tag batch s = .ok vs s' := fetched
  rw [fetchBatch_reporting] at same
  cases same
  rw [List.mem_singleton.mp member]
  exact (if_pos rfl).symm

theorem loadEvents_run {s : Unit} :
    fetcher.loadEvents (.int 0x18bd75) (.int 0x18bd75) scope s = .ok [honestEvent, ridingEvent] s := by
  have other : exitRequestLog 7 HOODI_EXIT_VALIDATOR_PUBKEY HOODI_SUBMIT_EXIT_REQUESTS_DATA_TX
      ≠ exitRequestLog 7 honestPubkey unknownTx :=
    fun same => absurd (congrArg Log.transactionHash same) (by decide)
  have parses : fetcher.verifier.el.ethers.parseValidatorExitRequest = recordedValue logs := rfl
  have first : fetcher.parseEvent (exitRequestLog 7 honestPubkey unknownTx) = .ok honestEvent := by
    refine parseEvent_exitRequestLog ?_
    rw [parses]
    exact recordedValue_cons
  have second : fetcher.parseEvent (exitRequestLog 7 HOODI_EXIT_VALIDATOR_PUBKEY
      HOODI_SUBMIT_EXIT_REQUESTS_DATA_TX) = .ok ridingEvent := by
    refine parseEvent_exitRequestLog ?_
    rw [parses]
    exact (recordedValue_cons_ne other).trans recordedValue_cons
  refine loadEvents_served (logs.map Prod.fst) logs rfl rfl le_rfl (by decide)
    (Nat.lt_add_of_pos_right (PNat.pos _)) (fun _ _ _ => ?_) ?_
  · rw [List.map_map]
    rfl
  · show [exitRequestLog 7 honestPubkey unknownTx, exitRequestLog 7 HOODI_EXIT_VALIDATOR_PUBKEY
      HOODI_SUBMIT_EXIT_REQUESTS_DATA_TX].mapM fetcher.parseEvent = _
    rw [List.mapM_cons, List.mapM_cons, List.mapM_nil, first, second]
    rfl

theorem getValidatorExitRequestEvents_run {s : Unit} :
    fetcher.getValidatorExitRequestEvents (.int 0x18bd75) (.int 0x18bd75) scope s
      = .ok [honestEvent, ridingEvent] s := by
  have validated : fetcher.cl.validatePublicKeys
      [("7", honestPubkey), ("7", HOODI_EXIT_VALIDATOR_PUBKEY)] 1000 "head" s = .ok ["7"] s := by
    have fetched : fetcher.cl.fetchValidatorsBatch ["7", "7"] 1000 "head" s
        = .ok [⟨"7", "active_ongoing", ⟨honestPubkey, FAR_FUTURE_EPOCH⟩⟩] s :=
      collect_cons_ok.mpr ⟨_, s, [], fetchBatch_reporting, rfl, (List.append_nil _).symm⟩
    have valid : (([("7", honestPubkey), ("7", HOODI_EXIT_VALIDATOR_PUBKEY)].filter fun info =>
        ConsensusApi.isExpectedPubkey [("7", honestPubkey)] info.1 info.2).map fun info => info.1)
        = ["7"] := by decide +kernel
    refine bind_ok.mpr ⟨_, s, fetched, ?_⟩
    exact congrArg (EStateM.Result.ok · s) valid
  refine bind_ok.mpr ⟨_, s, loadEvents_run, bind_ok.mpr ⟨_, s, validated, ?_⟩⟩
  refine congrArg (EStateM.Result.ok · s) (List.filter_eq_self.mpr fun event member => ?_)
  rcases List.mem_cons.mp member with rfl | member
  · exact (by decide : ["7"].contains "7" = true)
  · rw [List.mem_singleton.mp member]
    exact (by decide : ["7"].contains "7" = true)

/-- The event of the validator itself is not accepted: its transaction is unknown. -/
theorem verify_honestEvent : ∃ e, fetcher.verify honestEvent (fetcher.fresh ())
    = .error e (fetcher.fresh ()) := by
  have unknown : unknownTx ≠ HOODI_SUBMIT_EXIT_REQUESTS_DATA_TX := by decide
  exact ⟨_, Fetcher.onVerifier_of_error _ (Verifier.verifyEvent_of_failure (v := fetcher.verifier)
    (s := fetcher.verifier.fresh ()) rfl (node_unknown unknown))⟩

theorem verify_ridingEvent (counts : VerificationCounts) :
    ∃ s', fetcher.verify ridingEvent ⟨fetcher.verifier.fresh (), counts⟩ = .ok () s' := by
  obtain ⟨verifier, served⟩ : ∃ s', fetcher.verifier.getTransaction HOODI_SUBMIT_EXIT_REQUESTS_DATA_TX
      (fetcher.verifier.fresh ()) = .ok submitTx s' :=
    Verifier.getTransaction_of_answer rfl node_serves (txDTO_toJson submitTx)
  exact ⟨_, Fetcher.onVerifier_of_ok _ (verifyEvent_submitTx rfl List.mem_cons_self served)⟩

theorem getLogs_run : ∃ s', fetcher.getLogs (.int 0x18bd75) (.int 0x18bd75) scope (fetcher.fresh ())
    = .ok [entry] s' := by
  obtain ⟨e, rejected⟩ := verify_honestEvent
  have first := (Fetcher.verifyTurn_ok (f := fetcher) rfl).mpr (.inr ⟨e, _, rejected, rfl, rfl⟩)
  obtain ⟨t, accepted⟩ := verify_ridingEvent ⟨0, 1⟩
  have second := (Fetcher.verifyTurn_ok (f := fetcher) rfl).mpr
    (.inl ⟨t, entry, accepted, rfl, rfl, rfl⟩)
  refine ⟨fetcher.counted true t, bind_ok.mpr ⟨[honestEvent, ridingEvent], fetcher.fresh (), ?_, ?_⟩⟩
  · exact Fetcher.onVerifier_of_ok _ (Verifier.onNode_of_ok getValidatorExitRequestEvents_run)
  · exact collect_cons_ok.mpr ⟨_, _, [entry], first,
      collect_cons_ok.mpr ⟨_, _, [], second, rfl, rfl⟩, rfl⟩

/-- **The binding fails.** The entry for validator `7` carries the pubkey of another validator. -/
theorem getLogs_rides : fetcher.TRUST_MODE = false ∧ fetcher.ReportsPubkeys clPubkey ∧
    ∃ s', fetcher.getLogs (.int 0x18bd75) (.int 0x18bd75) scope (fetcher.fresh ())
        = .ok [entry] s' ∧ entry.validatorPubkey ≠ clPubkey entry.validatorIndex := by
  obtain ⟨s', ran⟩ := getLogs_run
  have other : HOODI_EXIT_VALIDATOR_PUBKEY ≠ clPubkey "7" := by decide
  exact ⟨rfl, reportsPubkeys, s', ran, other⟩

/-- The theorem at this run. -/
theorem getLogs_bound_iff_riding :
    ∃ s', fetcher.getLogs (.int 0x18bd75) (.int 0x18bd75) scope (fetcher.fresh ()) = .ok [entry] s' ∧
      ∃ events s₁, fetcher.onNode (fetcher.getValidatorExitRequestEvents (.int 0x18bd75)
          (.int 0x18bd75) scope) (fetcher.fresh ()) = .ok events s₁ ∧
        ((∀ e ∈ [entry], fetcher.Bound clPubkey events s₁ e) ↔
          Along fetcher.verifyTurn (fun event s => ¬ (event.Rides clPubkey events ∧
            Resolves (fetcher.verify event) s)) events s₁) := by
  obtain ⟨s', ran⟩ := getLogs_run
  exact ⟨s', ran, Fetcher.getLogs_bound_iff fetcher clPubkey rfl reportsPubkeys ran⟩

end Riding

end ValidatorEjector
