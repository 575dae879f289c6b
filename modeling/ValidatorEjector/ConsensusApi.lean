/-
**`services/consensus-api` — what the consensus node reports about validators.**

* `ClRequest`, `ConsensusApi` — the requests, over a node with states in `ρ`.
* `genesisDTO`, `stateDTO`, `depositContractDTO`, `validatorInfoDTO`, `validatorsBatchDTO` —
  `consensus-api/dto`.
* `fetchValidatorsBatch` — the validators of a list of indices, asked for in batches.
* `fetchValidatorsInfoBatch`, `validatePublicKeys` — the same, as a map by index, and as the indices
  whose public key is the expected one.
* `getExitingValidatorsCount` — how many of them are exiting.
* `Reports` — a property of every validator a node reports; `fetchValidatorsBatch_forall` and
  `validatePublicKeys_ok` read it off the two functions.
-/

import ValidatorEjector.Library.OrderedMap
import ValidatorEjector.Library.Program
import ValidatorEjector.Validator

namespace ValidatorEjector

open Js Library Library.Program Validator

/-- `String(2n ** 64n - 1n)`. -/
def FAR_FUTURE_EPOCH : String := "18446744073709551615"

def isValidatorExiting (exitEpoch : String) : Bool := exitEpoch ≠ FAR_FUTURE_EPOCH

/-- A request to the consensus node. -/
inductive ClRequest
  | genesis
  | fork
  | depositContract
  | validators (state : String) (ids : List String)
  deriving DecidableEq

/-- **The consensus API over a node with states in `ρ`.** -/
structure ConsensusApi (ρ : Type) where
  clRequest : ClRequest → EStateM Failure ρ Json

/-! ### DTOs -/

structure Genesis where
  genesis_time : String
  genesis_validators_root : String
  genesis_fork_version : String

def genesisDTO (json : Json) : Except Failure Genesis :=
  obj (some json) (fun json => obj (json.get "data") fun data => do
    pure {
      genesis_time := ← str (data.get "genesis_time") (some "Invalid genesis_time input")
      genesis_validators_root := ← str (data.get "genesis_validators_root")
        (some "Invalid genesis_validators_root input")
      genesis_fork_version := ← str (data.get "genesis_fork_version")
        (some "Invalid genesis_fork_version input") })
    (some "Invalid genesis response")

structure ForkState where
  previous_version : String
  current_version : String
  epoch : String

def stateDTO (json : Json) : Except Failure ForkState :=
  obj (some json) (fun json => obj (json.get "data") fun data => do
    pure {
      previous_version := ← str (data.get "previous_version") (some "Invalid previous_version input")
      current_version := ← str (data.get "current_version") (some "Invalid current_version input")
      epoch := ← str (data.get "epoch") (some "Invalid epoch input") })
    (some "Invalid state response")

structure DepositContract where
  chain_id : JsNumber
  address : String

def depositContractDTO (json : Json) : Except Failure DepositContract :=
  obj (some json) (fun json => obj (json.get "data") fun data => do
    pure {
      chain_id := ← num (data.get "chain_id") (some "Invalid chain_id input")
      address := ← str (data.get "address") (some "Invalid address input") })
    (some "Invalid spec response")

/-- The `validator` member of an answer. -/
structure ValidatorKeys where
  pubkey : String
  exit_epoch : String
  deriving DecidableEq

/-- One validator of an answer. -/
structure ValidatorData where
  index : String
  status : String
  validator : ValidatorKeys
  deriving DecidableEq

def validatorInfoDTO (json : Json) : Except Failure ValidatorData :=
  obj (some json) (fun json => obj (json.get "data") fun data => do
    pure {
      index := ← str (data.get "index") (some "Invalid validator index")
      status := ← str (data.get "status") (some "Invalid status")
      validator := ← obj (data.get "validator") fun validator => do
        pure {
          pubkey := ← str (validator.get "pubkey") (some "Invalid pubkey")
          exit_epoch := ← str (validator.get "exit_epoch") (some "Invalid exit epoch") } })
    (some "Invalid validator info response")

def validatorsBatchDTO (json : Json) : Except Failure (List ValidatorData) :=
  obj (some json) (fun json =>
    match json.get "data" with
    | some (.array data) => data.mapM fun validatorData =>
        validatorInfoDTO (.object [("data", validatorData)])
    | _ => .error (.error "Invalid validators batch response: data is not an array"))
    (some "Invalid validators batch response")

/-! ### Batches -/

/-- The slices of the loop `for (let i = 0; i < indices.length; i += batchSize)`, at most `fuel`. -/
def batchesFrom {α : Type} (batchSize : ℕ+) : Nat → List α → List (List α)
  | 0, _ => []
  | _ + 1, [] => []
  | fuel + 1, a :: as => (a :: as).take batchSize :: batchesFrom batchSize fuel ((a :: as).drop batchSize)

/-- The slices of the loop. -/
def batches {α : Type} (batchSize : ℕ+) (indices : List α) : List (List α) :=
  batchesFrom batchSize indices.length indices

/-- What `fetchValidatorsInfoBatch` keeps of a validator. -/
structure ValidatorInfo where
  index : String
  pubKey : String
  status : String
  isExiting : Bool
  deriving DecidableEq

def ValidatorData.toInfo (v : ValidatorData) : ValidatorInfo :=
  ⟨v.index, v.validator.pubkey, v.status, isValidatorExiting v.validator.exit_epoch⟩

namespace ConsensusApi

variable {ρ : Type} (cl : ConsensusApi ρ)

def genesis : EStateM Failure ρ Genesis := do
  let json ← cl.clRequest .genesis
  ofResult (genesisDTO json)

def state : EStateM Failure ρ ForkState := do
  let json ← cl.clRequest .fork
  ofResult (stateDTO json)

def depositContract : EStateM Failure ρ DepositContract := do
  let json ← cl.clRequest .depositContract
  ofResult (depositContractDTO json)

def chainId : EStateM Failure ρ JsNumber := do
  let depositContract ← cl.depositContract
  pure depositContract.chain_id

/-- One batch of `fetchValidatorsBatch`. -/
def fetchBatch (state : String) (batch : List String) : EStateM Failure ρ (List ValidatorData) := do
  let json ← cl.clRequest (.validators state batch)
  ofResult (validatorsBatchDTO json)

def fetchValidatorsBatch (indices : List String) (batchSize : ℕ+ := 1000) (state : String := "head") :
    EStateM Failure ρ (List ValidatorData) :=
  collect (cl.fetchBatch state) (batches batchSize indices)

def getExitingValidatorsCount (indices : List String) (batchSize : ℕ+ := 1000)
    (state : String := "head") : EStateM Failure ρ Nat := do
  let validators ← cl.fetchValidatorsBatch indices batchSize state
  pure (validators.countP fun v =>
    v.validator.exit_epoch ≠ "" && isValidatorExiting v.validator.exit_epoch)

def fetchValidatorsInfoBatch (indices : List String) (batchSize : ℕ+ := 1000)
    (tag : String := "head") : EStateM Failure ρ (OrderedMap String ValidatorInfo) := do
  let validators ← cl.fetchValidatorsBatch indices batchSize tag
  pure (OrderedMap.ofEntries (validators.map fun v => (v.index, v.toInfo)))

/-- The pubkey a record of validators has for an index is the expected one. An empty pubkey is taken for
a missing one. -/
def isExpectedPubkey (validatorRecord : List (String × String)) (validatorIndex validatorPubkey : String) :
    Bool :=
  match lastValue? validatorRecord validatorIndex with
  | none => false
  | some expectedPubkey => expectedPubkey ≠ "" && expectedPubkey = validatorPubkey

/-- `validatePublicKeys`: the indices, of the given pairs of an index and a pubkey, that are valid. -/
def validatePublicKeys (validatorData : List (String × String)) (batchSize : ℕ+ := 1000)
    (state : String := "head") : EStateM Failure ρ (List String) := do
  let indices := validatorData.map fun v => v.1
  let validators ← cl.fetchValidatorsBatch indices batchSize state
  let validatorRecord := validators.map fun v => (v.index, v.validator.pubkey)
  pure ((validatorData.filter fun info => isExpectedPubkey validatorRecord info.1 info.2).map
    fun info => info.1)

/-! ### What a node reports -/

section Reports

variable {cl} {Q : ValidatorData → Prop} {indices : List String} {batchSize : ℕ+} {tag : String}
  {s s' : ρ}

/-- Every validator the node reports has the property. -/
def Reports (cl : ConsensusApi ρ) (Q : ValidatorData → Prop) : Prop :=
  ∀ tag batch s vs s', cl.fetchBatch tag batch s = .ok vs s' → ∀ v ∈ vs, Q v

theorem fetchValidatorsBatch_forall {vs : List ValidatorData} (reports : cl.Reports Q)
    (fetched : cl.fetchValidatorsBatch indices batchSize tag s = .ok vs s') : ∀ v ∈ vs, Q v := by
  have turn : ∀ batch, Triple (fun _ => True) (cl.fetchBatch tag batch)
      (fun vs _ => True ∧ ∀ v ∈ vs, Q v) fun _ => True := by
    intro batch s _
    cases run : cl.fetchBatch tag batch s with
    | ok vs s' => exact ⟨trivial, reports tag batch s vs s' run⟩
    | error _ _ => trivial
  exact (Triple.ok (Triple.collect fun batch _ => turn batch) trivial fetched).2

/-- A valid index is the index of a given pair, whose pubkey is the one reported for it. -/
theorem validatePublicKeys_ok {validatorData : List (String × String)} {validIndices : List String}
    {clPubkey : String → String} (reports : cl.Reports fun v => v.validator.pubkey = clPubkey v.index)
    (validated : cl.validatePublicKeys validatorData batchSize tag s = .ok validIndices s')
    {index : String} (valid : index ∈ validIndices) : (index, clPubkey index) ∈ validatorData := by
  obtain ⟨vs, s₁, fetched, same⟩ := bind_ok.mp validated
  cases same
  obtain ⟨⟨i, pubkey⟩, member, rfl⟩ := List.mem_map.mp valid
  obtain ⟨given, expected⟩ := List.mem_filter.mp member
  unfold isExpectedPubkey at expected
  cases found : lastValue? (vs.map fun v => (v.index, v.validator.pubkey)) i with
  | none => rw [found] at expected; cases expected
  | some reported =>
    simp only [found, Bool.and_eq_true, decide_eq_true_eq] at expected
    obtain ⟨v, inside, pair⟩ := List.mem_map.mp (mem_of_lastValue? found)
    have pubkey := fetchValidatorsBatch_forall reports fetched v inside
    cases pair
    rw [← expected.2, pubkey] at given
    exact given

end Reports

end ConsensusApi

end ValidatorEjector
