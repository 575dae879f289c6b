/-
**`services/exit-logs/verifier` — is an exit request backed by a trusted signer?**

The verifier asks the execution node for the transactions behind a `ValidatorExitRequest` event and
keeps two caches of its answers. Its state is the two caches and the state of the node.

* `Tx`, `txDTO` — a transaction as the node reports it.
* `prepareTransactionData`, `verifyTransactionIntegrity`, `recoverAddress` — the transaction
  serialized again, its hash compared, its signer recovered.
* `getTransaction`, `consensusReachedTransactionHash` — the two cached lookups.
* `verifyEvent` — the dispatch on the selector; `verifyOracleEvent` and
  `verifySubmitExitRequestsDataTransaction` — the two finalization paths.
-/

import ValidatorEjector.ExecutionApi
import ValidatorEjector.Library.CachePolicy

namespace ValidatorEjector

open Js Library Library.Program Validator

/-- The number of blocks to look back for `ConsensusReached`. -/
def ORACLE_FRAME_BLOCKS : Int := 7200

/-! ### Transactions -/

/-- A transaction as the node reports it. -/
structure Tx where
  «from» : String
  gas : String
  gasPrice : Option String
  maxFeePerGas : Option String
  maxPriorityFeePerGas : Option String
  hash : String
  input : String
  nonce : String
  «to» : String
  value : String
  type : String
  chainId : String
  v : String
  r : String
  s : String
  deriving DecidableEq

def txDTO (json : Json) : Except Failure Tx :=
  obj (some json) (fun json => obj (json.get "result") fun result => do
    pure {
      «from» := ← str (result.get "from")
      gas := ← str (result.get "gas")
      gasPrice := ← optional (str (result.get "gasPrice"))
      maxFeePerGas := ← optional (str (result.get "maxFeePerGas"))
      maxPriorityFeePerGas := ← optional (str (result.get "maxPriorityFeePerGas"))
      hash := ← str (result.get "hash")
      input := ← str (result.get "input")
      nonce := ← str (result.get "nonce")
      «to» := ← str (result.get "to")
      value := ← str (result.get "value")
      type := ← str (result.get "type")
      chainId := ← str (result.get "chainId")
      v := ← str (result.get "v")
      r := ← str (result.get "r")
      s := ← str (result.get "s") })
    (some "Invalid return for a transaction data call")

/-- An optional text that `!` takes for missing. -/
def missing (text : Option String) : Bool := text.getD "" = ""

/-- `text || fallback`. -/
def orElse (text : Option String) (fallback : String) : String :=
  if missing text then fallback else text.getD ""

/-- `selectorOf`: the first four bytes of a calldata. -/
def selectorOf (input : String) : String := toLowerCase (slice input 0 10)

theorem selectorOf_append {selector rest : String} (bytes : selector.toList.length = 10) :
    selectorOf (selector ++ rest) = toLowerCase selector := by
  unfold selectorOf slice
  rw [String.toList_append, List.take_left' bytes, List.drop_zero, String.ofList_toList]

namespace Tx

/-- `isLegacyTx`. -/
def isLegacyTx (tx : Tx) : Bool :=
  Number tx.type = .int 0 || (missing tx.maxFeePerGas && missing tx.maxPriorityFeePerGas)

end Tx

section Transactions

variable (ethers : Ethers)

def prepareTransactionData (tx : Tx) : Except Failure TransactionFields :=
  if tx.isLegacyTx && missing tx.gasPrice then
    .error (.error "[validateTransactionType] Legacy transaction missing gasPrice")
  else do
    let gasLimit ← ethers.bigNumberFrom (.text tx.gas)
    let value ← ethers.bigNumberFrom (.text tx.value)
    let fee ←
      if tx.isLegacyTx then do
        let gasPrice ← ethers.bigNumberFrom (.text (orElse tx.gasPrice "0"))
        pure (Fee.gasPrice gasPrice)
      else do
        let maxFeePerGas ← ethers.bigNumberFrom (.text (orElse tx.maxFeePerGas "0"))
        let maxPriorityFeePerGas ← ethers.bigNumberFrom (.text (orElse tx.maxPriorityFeePerGas "0"))
        pure (Fee.maxFee maxFeePerGas maxPriorityFeePerGas)
    pure {
      gasLimit := gasLimit
      data := tx.input
      nonce := parseInt tx.nonce
      «to» := tx.to
      value := value
      type := parseInt tx.type
      chainId := parseInt tx.chainId
      fee := fee }

def recoverAddress (tx : Tx) : Except Failure String := do
  let sig ← ethers.joinSignature { r := tx.r, s := tx.s, v := parseInt tx.v }
  let txData ← prepareTransactionData ethers tx
  let encodedTx ← ethers.serializeTransaction txData none
  ethers.recoverAddress (ethers.keccak256 encodedTx) sig

/-- The hash of the transaction serialized with its signature. -/
def computedHash (tx : Tx) : Except Failure String := do
  let txData ← prepareTransactionData ethers tx
  let serialized ← ethers.serializeTransaction txData (some { v := Number tx.v, r := tx.r, s := tx.s })
  pure (ethers.keccak256 serialized)

def verifyTransactionIntegrity (tx : Tx) (expectedHash : String) : Except Failure Unit := do
  let computed ← computedHash ethers tx
  if toLowerCase computed ≠ toLowerCase expectedHash then
    .error (.error "[verifyTransactionIntegrity] Transaction hash mismatch detected")
  else .ok ()

end Transactions

/-! ### The verifier -/

/-- **`makeVerifier`: the node it asks, its cache policy and its allowlists.** -/
structure Verifier (ρ : Type) where
  el : ExecutionApi ρ
  caches : CachePolicy String
  ORACLE_ADDRESSES_ALLOWLIST : List String
  SUBMIT_TX_HASH_ALLOWLIST : List String

/-- The caches of a verifier, and the node. -/
structure VerifierState (caches : CachePolicy String) (ρ : Type) where
  lruTransactionCache : caches.State Tx
  lruConsensusReachedLogsCache : caches.State String
  node : ρ

namespace Verifier

variable {ρ : Type} (v : Verifier ρ)

abbrev State := VerifierState v.caches ρ

/-- A computation of the verifier. -/
abbrev Run (α : Type) := EStateM Failure v.State α

/-- The state of a new verifier. -/
def fresh (node : ρ) : v.State := ⟨v.caches.empty, v.caches.empty, node⟩

/-- A request of the verifier. -/
def onNode {α : Type} (x : EStateM Failure ρ α) : v.Run α :=
  onPart VerifierState.node (fun node s => { s with node }) x

section Requests

variable {v} {α : Type} {x : EStateM Failure ρ α} {s : v.State} {node : ρ}

theorem onNode_of_ok {a : α} (ran : x s.node = .ok a node) : v.onNode x s = .ok a { s with node } := by
  unfold onNode onPart
  rw [ran]

theorem onNode_of_error {e : Failure} (ran : x s.node = .error e node) :
    v.onNode x s = .error e { s with node } := by
  unfold onNode onPart
  rw [ran]

theorem onNode_ok {a : α} {s' : v.State} :
    v.onNode x s = .ok a s' ↔ ∃ node, x s.node = .ok a node ∧ s' = { s with node } := by
  cases run : x s.node with
  | ok b node =>
    rw [onNode_of_ok run]
    constructor
    · intro same
      cases same
      exact ⟨node, rfl, rfl⟩
    · rintro ⟨_, same, rfl⟩
      cases same
      rfl
  | error e node =>
    rw [onNode_of_error run]
    constructor
    · intro same
      cases same
    · rintro ⟨_, same, _⟩
      cases same

end Requests

/-! ### Cached lookups -/

/-- `lruTransactionCache.get`. -/
def cachedTransaction (transactionHash : String) : v.Run (Option Tx) := fun s =>
  let (hit, cache) := v.caches.get transactionHash s.lruTransactionCache
  .ok hit { s with lruTransactionCache := cache }

/-- `lruTransactionCache.set`. -/
def cacheTransaction (transactionHash : String) (tx : Tx) : v.Run Unit := fun s =>
  .ok () { s with lruTransactionCache := v.caches.set transactionHash tx s.lruTransactionCache }

/-- `lruConsensusReachedLogsCache.get`; an empty text is no hit. -/
def cachedConsensusReached (key : String) : v.Run (Option String) := fun s =>
  let (hit, cache) := v.caches.get key s.lruConsensusReachedLogsCache
  .ok (if missing hit then none else hit) { s with lruConsensusReachedLogsCache := cache }

/-- `lruConsensusReachedLogsCache.set`. -/
def cacheConsensusReached (key transactionHash : String) : v.Run Unit := fun s =>
  .ok () { s with
    lruConsensusReachedLogsCache := v.caches.set key transactionHash s.lruConsensusReachedLogsCache }

def getTransaction (transactionHash : String) : v.Run Tx := do
  match ← v.cachedTransaction transactionHash with
  | some result => pure result
  | none =>
    let json ← v.onNode (v.el.elRequest (.eth_getTransactionByHash transactionHash))
    let result ← ofResult (txDTO json)
    v.cacheTransaction result.hash result
    pure result

/-- The key of a lookup. -/
def consensusReachedKey (toBlock : JsNumber) (refSlot hash : String) : String :=
  toBlock.toText ++ "-" ++ refSlot ++ "-" ++ hash

/-- The logs of `ConsensusReached` for a slot, of the frame up to a block. -/
def consensusReachedLogs (toBlock : JsNumber) (refSlot : String) : v.Run (List Log) := do
  let consensusAddress ← ofResult v.el.consensusAddress
  let slot ← ofResult (v.el.ethers.bigNumberFrom (.text refSlot))
  let slotTopic ← ofResult (v.el.ethers.hexZeroPad (v.el.ethers.toHexString slot) 32)
  v.onNode (v.el.getLogs (toBlock.sub ORACLE_FRAME_BLOCKS) toBlock consensusAddress
    [.one consensusReachedTopic, .one slotTopic])

def consensusReachedTransactionHash (toBlock : JsNumber) (refSlot hash : String) : v.Run String := do
  let key := consensusReachedKey toBlock refSlot hash
  match ← v.cachedConsensusReached key with
  | some transactionHash => pure transactionHash
  | none =>
    let result ← v.consensusReachedLogs toBlock refSlot
    let decoded ← ofResult (result.mapM fun event => do
      let report ← v.el.ethers.parseConsensusReached event
      pure (event.transactionHash, report))
    match decoded.find? fun event => event.2 = hash with
    | none => throw (Failure.error "Failed to find transaction by report hash")
    | some found =>
      v.cacheConsensusReached key found.1
      pure found.1

/-! ### The two finalization paths -/

def decodeSubmitReport (tx : Tx) : Except Failure SubmitReport :=
  let selector := selectorOf tx.input
  if selector = SUBMIT_REPORT_SELECTOR then v.el.ethers.decodeSubmitReport tx.input
  else if selector = EXECUTE_SELECTOR then do
    let executeDecoded ← v.el.ethers.decodeExecute tx.input
    let consensusAddress ← v.el.consensusAddress
    if toLowerCase executeDecoded.target ≠ toLowerCase consensusAddress then
      .error (.error (s!"execute() in the ConsensusReached transaction targets {executeDecoded.target} " ++
        s!"instead of the consensus contract (tx: {tx.hash})"))
    else if selectorOf executeDecoded.data ≠ SUBMIT_REPORT_SELECTOR then
      .error (.error s!"execute() in the ConsensusReached transaction wraps an unknown function (tx: {tx.hash})")
    else v.el.ethers.decodeSubmitReport executeDecoded.data
  else
    .error (.error s!"ConsensusReached transaction calls an unknown function (tx: {tx.hash})")

/-- The address is on the oracle allowlist, letter case apart. -/
def isAllowlistedOracle (address : String) : Bool :=
  (v.ORACLE_ADDRESSES_ALLOWLIST.map toLowerCase).contains (toLowerCase address)

/-- The end of `verifyOracleEvent`: the checks of the transaction that reached consensus. -/
def verifyOrigin (originTx : Tx) (originTxHash dataHash : String) : Except Failure Unit := do
  verifyTransactionIntegrity v.el.ethers originTx originTxHash
  let submitReportDecoded ← v.decodeSubmitReport originTx
  if submitReportDecoded.report ≠ dataHash then
    .error (.error
      "Report data hash mismatch detected between the original report and finalized event")
  else do
    let recoveredAddress ← recoverAddress v.el.ethers originTx
    if !v.isAllowlistedOracle recoveredAddress then
      .error (.error "Transaction is not signed by a trusted Oracle")
    else .ok ()

def verifyOracleEvent (validatorPubkey : String) (decoded : Report) (toBlock : JsNumber) :
    v.Run Unit :=
  if !includes decoded.data (sliceFrom validatorPubkey 2) then
    throw (Failure.error "Pubkey for exit was not found in finalized tx data")
  else do
    let dataHash := v.el.ethers.keccak256 (v.el.ethers.encode decoded)
    let originTxHash ← v.consensusReachedTransactionHash toBlock (toString decoded.refSlot) dataHash
    let originTx ← v.getTransaction originTxHash
    ofResult (v.verifyOrigin originTx originTxHash dataHash)

def verifySubmitExitRequestsDataTransaction (validatorPubkey : String) (tx : Tx)
    (transactionHash input : String) : Except Failure Unit :=
  if !v.SUBMIT_TX_HASH_ALLOWLIST.contains (toLowerCase transactionHash) then
    .error (.error "[verifySubmitExitRequestsDataTransaction] transaction is not allowlisted")
  else do
    verifyTransactionIntegrity v.el.ethers tx transactionHash
    let request ← v.el.ethers.decodeSubmitExitRequestsData input
    if !includes request.data (sliceFrom validatorPubkey 2) then
      .error (.error ("[verifySubmitExitRequestsDataTransaction] Pubkey for exit was not found in " ++
        "finalized tx data"))
    else .ok ()

/-- The calldata the Exit Bus was called with, out of `execute` where it is wrapped in it. -/
def exitBusInput (tx : Tx) : Except Failure String :=
  if selectorOf tx.input = EXECUTE_SELECTOR then do
    let executeDecoded ← v.el.ethers.decodeExecute tx.input
    let exitBusAddress ← v.el.exitBusAddress
    if toLowerCase executeDecoded.target ≠ toLowerCase exitBusAddress then
      .error (.error (s!"execute() in the ValidatorExitRequest transaction targets {executeDecoded.target} " ++
        s!"instead of the Exit Bus (tx: {tx.hash})"))
    else .ok executeDecoded.data
  else .ok tx.input

def verifyEvent (validatorPubkey transactionHash : String) (toBlock : JsNumber) : v.Run Unit := do
  let tx ← v.getTransaction transactionHash
  let input ← ofResult (v.exitBusInput tx)
  let selector := selectorOf input
  if selector = SUBMIT_REPORT_DATA_SELECTOR then
    let decoded ← ofResult (v.el.ethers.decodeSubmitReportData input)
    v.verifyOracleEvent validatorPubkey decoded toBlock
  else if selector = SUBMIT_EXIT_REQUESTS_DATA_SELECTOR then
    ofResult (v.verifySubmitExitRequestsDataTransaction validatorPubkey tx transactionHash input)
  else
    throw (Failure.error
      s!"ValidatorExitRequest was emitted by unknown contract function (tx: {tx.hash})")

end Verifier

end ValidatorEjector
