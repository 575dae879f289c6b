/-
**`services/exit-logs/fetcher` — the exit requests of a block range.**

* `ExitRequestEvent` — a parsed `ValidatorExitRequest` log; `ValidatorsToEject` — an event that passed.
* `loadEvents`, `getValidatorExitRequestEvents` — the events of the scope, and those whose index is
  among the valid ones.
* `verifyTurn`, `getLogs` — the loop over them, in which the error of a verification is counted and the
  event skipped.
-/

import ValidatorEjector.ConsensusApi
import ValidatorEjector.ExitLogs.Verifier

namespace ValidatorEjector

open Js Library Library.Program

/-- A staking module with its operators. -/
structure EjectorScope where
  stakingModuleId : String
  operatorIds : List Nat

/-- A parsed `ValidatorExitRequest` log. -/
structure ExitRequestEvent where
  stakingModuleId : Nat
  validatorIndex : String
  validatorPubkey : String
  nodeOperatorId : Nat
  transactionHash : String
  blockNumber : JsNumber
  deriving DecidableEq

/-- An exit request to act on. `ack` sets `acknowledged`. -/
structure ValidatorsToEject where
  stakingModuleId : Nat
  validatorIndex : String
  validatorPubkey : String
  blockNumber : JsNumber
  nodeOperatorId : Nat
  acknowledged : Bool
  deriving DecidableEq

def ValidatorsToEject.ack (event : ValidatorsToEject) : ValidatorsToEject :=
  { event with acknowledged := true }

/-- The counter `eventSecurityVerification` by its label. -/
structure VerificationCounts where
  success : Nat
  error : Nat
  deriving DecidableEq

/-- **`makeExitLogsFetcherService`.** The execution API is the verifier's. -/
structure Fetcher (ρ : Type) where
  verifier : Verifier ρ
  cl : ConsensusApi ρ
  TRUST_MODE : Bool

/-- The state of a fetcher: its verifier's, and the counter. -/
structure FetcherState (caches : CachePolicy String) (ρ : Type) where
  verifier : VerifierState caches ρ
  eventSecurityVerification : VerificationCounts

namespace Fetcher

variable {ρ : Type} (f : Fetcher ρ)

abbrev State := FetcherState f.verifier.caches ρ

abbrev Run (α : Type) := EStateM Failure f.State α

/-- The state of a new fetcher. -/
def fresh (node : ρ) : f.State := ⟨f.verifier.fresh node, 0, 0⟩

/-- A computation of the verifier. -/
def onVerifier {α : Type} (x : f.verifier.Run α) : f.Run α :=
  onPart FetcherState.verifier (fun verifier s => { s with verifier }) x

theorem onVerifier_of_ok {α : Type} {x : f.verifier.Run α} {a : α} {s : f.State}
    {verifier : f.verifier.State} (ran : x s.verifier = .ok a verifier) :
    f.onVerifier x s = .ok a { s with verifier } := by
  unfold onVerifier onPart
  rw [ran]

theorem onVerifier_of_error {α : Type} {x : f.verifier.Run α} {e : Failure} {s : f.State}
    {verifier : f.verifier.State} (ran : x s.verifier = .error e verifier) :
    f.onVerifier x s = .error e { s with verifier } := by
  unfold onVerifier onPart
  rw [ran]

/-- A request of the fetcher. -/
def onNode {α : Type} (x : EStateM Failure ρ α) : f.Run α := f.onVerifier (f.verifier.onNode x)

/-- The state with one more verification counted. -/
def counted (accepted : Bool) (s : f.State) : f.State :=
  let counts := s.eventSecurityVerification
  { s with eventSecurityVerification :=
    if accepted then { counts with success := counts.success + 1 }
    else { counts with error := counts.error + 1 } }

/-- `eventSecurityVerification.inc`. -/
def count (accepted : Bool) : f.Run Unit := fun s => .ok () (f.counted accepted s)

/-! ### Events -/

/-- The topic of an id. -/
def topic (id : BigNumberish) : Except Failure String := do
  let n ← f.verifier.el.ethers.bigNumberFrom id
  f.verifier.el.ethers.hexZeroPad (f.verifier.el.ethers.toHexString n) 32

/-- The logs of one staking module. -/
def scopeLogs (fromBlock toBlock : JsNumber) (scope : EjectorScope) : EStateM Failure ρ (List Log) := do
  let exitBusAddress ← ofResult f.verifier.el.exitBusAddress
  let module ← ofResult (f.topic (.text scope.stakingModuleId))
  let operators ← ofResult (scope.operatorIds.mapM fun (id : Nat) => f.topic (.number (.int id)))
  f.verifier.el.getLogs fromBlock toBlock exitBusAddress
    [.one validatorExitRequestTopic, .anyOf [module], .anyOf operators]

/-- The event of a log. -/
def parseEvent (log : Log) : Except Failure ExitRequestEvent := do
  let args ← f.verifier.el.ethers.parseValidatorExitRequest log
  pure {
    stakingModuleId := args.stakingModuleId
    validatorIndex := toString args.validatorIndex
    validatorPubkey := args.validatorPubkey
    nodeOperatorId := args.nodeOperatorId
    transactionHash := log.transactionHash
    blockNumber := parseInt log.blockNumber }

/-- The events of the scope in a block range. -/
def loadEvents (fromBlock toBlock : JsNumber) (ejectorScope : List EjectorScope) :
    EStateM Failure ρ (List ExitRequestEvent) := do
  let logs ← collect (f.scopeLogs fromBlock toBlock) ejectorScope
  ofResult (logs.mapM f.parseEvent)

def getValidatorExitRequestEvents (fromBlock toBlock : JsNumber) (ejectorScope : List EjectorScope) :
    EStateM Failure ρ (List ExitRequestEvent) := do
  let events ← f.loadEvents fromBlock toBlock ejectorScope
  let validIndices ← f.cl.validatePublicKeys
    (events.map fun event => (event.validatorIndex, event.validatorPubkey))
  pure (events.filter fun event => validIndices.contains event.validatorIndex)

/-! ### Verification -/

/-- The verification of an event. -/
def verify (event : ExitRequestEvent) : f.Run Unit :=
  f.onVerifier (f.verifier.verifyEvent event.validatorPubkey event.transactionHash event.blockNumber)

/-- The security check of an event: an error is counted, and the event is not accepted. -/
def check (event : ExitRequestEvent) : f.Run Bool :=
  if f.TRUST_MODE then pure true
  else
    tryCatch (do
      f.verify event
      f.count true
      pure true)
    fun _ => do
      f.count false
      pure false

/-- The pushed object. -/
def toEject (event : ExitRequestEvent) : Except Failure ValidatorsToEject := do
  let stakingModuleId ← f.verifier.el.ethers.toNumber event.stakingModuleId
  let nodeOperatorId ← f.verifier.el.ethers.toNumber event.nodeOperatorId
  pure {
    stakingModuleId := stakingModuleId
    validatorIndex := event.validatorIndex
    validatorPubkey := event.validatorPubkey
    blockNumber := event.blockNumber
    nodeOperatorId := nodeOperatorId
    acknowledged := false }

/-- One turn of the loop: what it pushes. -/
def verifyTurn (event : ExitRequestEvent) : f.Run (List ValidatorsToEject) := do
  let accepted ← f.check event
  if accepted then
    let validator ← ofResult (f.toEject event)
    pure [validator]
  else pure []

def getLogs (fromBlock toBlock : JsNumber) (ejectorScope : List EjectorScope) :
    f.Run (List ValidatorsToEject) := do
  let events ← f.onNode (f.getValidatorExitRequestEvents fromBlock toBlock ejectorScope)
  collect f.verifyTurn events

/-! ### A turn of the loop -/

section Turn

variable {f} {event : ExitRequestEvent} {validator : ValidatorsToEject} {s s' : f.State}

/-- A check never fails: it says whether the verification resolved. -/
theorem check_run (untrusted : f.TRUST_MODE = false) :
    f.check event s = match f.verify event s with
      | .ok _ s₁ => .ok true (f.counted true s₁)
      | .error _ s₁ => .ok false (f.counted false s₁) := by
  unfold check
  rw [untrusted]
  show EStateM.tryCatch _ _ s = _
  unfold EStateM.tryCatch
  rw [bind_run]
  cases f.verify event s with
  | ok _ _ => rfl
  | error _ _ => rfl

/-- **What a turn pushes**: the event, if its verification resolves, and nothing otherwise. -/
theorem verifyTurn_ok (untrusted : f.TRUST_MODE = false) {here : List ValidatorsToEject} :
    f.verifyTurn event s = .ok here s' ↔
      (∃ s₁ validator, f.verify event s = .ok () s₁ ∧ f.toEject event = .ok validator ∧
        here = [validator] ∧ s' = f.counted true s₁) ∨
      (∃ e s₁, f.verify event s = .error e s₁ ∧ here = [] ∧ s' = f.counted false s₁) := by
  unfold verifyTurn
  rw [bind_run, check_run untrusted]
  cases f.verify event s with
  | ok _ s₁ =>
    simp only [if_true, bind_ok, ofResult_ok, pure_run, EStateM.Result.ok.injEq, reduceCtorEq,
      false_and, exists_false, or_false]
    constructor
    · rintro ⟨validator, _, ⟨pushed, rfl⟩, rfl, rfl⟩
      exact ⟨s₁, validator, ⟨trivial, rfl⟩, pushed, rfl, rfl⟩
    · rintro ⟨_, validator, ⟨_, rfl⟩, pushed, rfl, rfl⟩
      exact ⟨validator, _, ⟨pushed, rfl⟩, rfl, rfl⟩
  | error e s₁ =>
    simp only [Bool.false_eq_true, if_false, pure_run, EStateM.Result.ok.injEq, reduceCtorEq, false_and,
      exists_false, false_or, EStateM.Result.error.injEq]
    constructor
    · rintro ⟨rfl, rfl⟩
      exact ⟨e, s₁, ⟨rfl, rfl⟩, rfl, rfl⟩
    · rintro ⟨_, _, ⟨rfl, rfl⟩, rfl, rfl⟩
      exact ⟨rfl, rfl⟩

theorem toEject_ok (pushed : f.toEject event = .ok validator) :
    validator.validatorIndex = event.validatorIndex ∧
      validator.validatorPubkey = event.validatorPubkey ∧ validator.acknowledged = false := by
  obtain ⟨_, _, rest⟩ := except_bind_ok.mp pushed
  obtain ⟨_, _, same⟩ := except_bind_ok.mp rest
  cases same
  exact ⟨rfl, rfl, rfl⟩

end Turn

end Fetcher

end ValidatorEjector
