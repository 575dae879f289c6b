/-
**What a resolved check went through.**

Inversion of the verifier's functions, one by one. Nothing is assumed of the node or of the caches.

* `MentionsPubkey`, `HashesTo`, `SignedByOracle`, `CallsSubmitReport`, `CallsExitBus` — what is found
  out about a transaction.
* `verifyTransactionIntegrity_ok`, `decodeSubmitReport_ok`, `exitBusInput_ok`, `verifyOrigin_ok` — the
  checks without state.
* `verifyOracleEvent_ok`, `verifySubmitExitRequestsDataTransaction_ok`, `verifyEvent_ok` — the paths.
-/

import ValidatorEjector.ExitLogs.Verifier

namespace ValidatorEjector

open Js Library Library.Program

/-- The pubkey, without its `0x`, occurs in the hexadecimal data. -/
def MentionsPubkey (data validatorPubkey : String) : Prop :=
  includes data (sliceFrom validatorPubkey 2) = true

/-! ### Transactions -/

section Transactions

variable {ethers : Ethers} {tx : Tx}

/-- The fields of a legacy transaction. -/
theorem prepareTransactionData_legacy {gasLimit value gasPrice : Int} (legacy : tx.isLegacyTx = true)
    (priced : missing tx.gasPrice = false)
    (gas : ethers.bigNumberFrom (.text tx.gas) = .ok gasLimit)
    (amount : ethers.bigNumberFrom (.text tx.value) = .ok value)
    (price : ethers.bigNumberFrom (.text (orElse tx.gasPrice "0")) = .ok gasPrice) :
    prepareTransactionData ethers tx = .ok ⟨gasLimit, tx.input, parseInt tx.nonce, tx.to, value,
      parseInt tx.type, parseInt tx.chainId, .gasPrice gasPrice⟩ := by
  unfold prepareTransactionData
  rw [legacy, priced, gas, amount, price]
  rfl

/-- The fields of a transaction with the fees of EIP-1559. -/
theorem prepareTransactionData_modern {gasLimit value maxFeePerGas maxPriorityFeePerGas : Int}
    (modern : tx.isLegacyTx = false)
    (gas : ethers.bigNumberFrom (.text tx.gas) = .ok gasLimit)
    (amount : ethers.bigNumberFrom (.text tx.value) = .ok value)
    (maxFee : ethers.bigNumberFrom (.text (orElse tx.maxFeePerGas "0")) = .ok maxFeePerGas)
    (maxPriorityFee : ethers.bigNumberFrom (.text (orElse tx.maxPriorityFeePerGas "0"))
      = .ok maxPriorityFeePerGas) :
    prepareTransactionData ethers tx = .ok ⟨gasLimit, tx.input, parseInt tx.nonce, tx.to, value,
      parseInt tx.type, parseInt tx.chainId, .maxFee maxFeePerGas maxPriorityFeePerGas⟩ := by
  unfold prepareTransactionData
  rw [modern, gas, amount, maxFee, maxPriorityFee]
  rfl

/-- The transaction, serialized with its signature, has the hash (as a hexadecimal number, so letter
case apart). -/
def Tx.HashesTo (ethers : Ethers) (tx : Tx) (hash : String) : Prop :=
  ∃ computed, computedHash ethers tx = .ok computed ∧ toLowerCase computed = toLowerCase hash

theorem verifyTransactionIntegrity_ok {hash : String} :
    verifyTransactionIntegrity ethers tx hash = .ok () ↔ tx.HashesTo ethers hash := by
  unfold verifyTransactionIntegrity Tx.HashesTo
  simp only [except_bind_ok, except_guard_ok, not_not, and_true]

end Transactions

namespace Verifier

variable {ρ : Type} {v : Verifier ρ} {tx : Tx}

/-- The transaction is signed by an address of the oracle allowlist. -/
def SignedByOracle (v : Verifier ρ) (tx : Tx) : Prop :=
  ∃ signer, recoverAddress v.el.ethers tx = .ok signer ∧
    ∃ oracle ∈ v.ORACLE_ADDRESSES_ALLOWLIST, toLowerCase oracle = toLowerCase signer

theorem isAllowlistedOracle_iff {address : String} :
    v.isAllowlistedOracle address = true ↔
      ∃ oracle ∈ v.ORACLE_ADDRESSES_ALLOWLIST, toLowerCase oracle = toLowerCase address := by
  unfold isAllowlistedOracle
  rw [List.contains_iff_mem, List.mem_map]

/-- The calldata is `submitReport(_, hash, _)`, or `execute` of it on the consensus contract. -/
def CallsSubmitReport (v : Verifier ρ) (input hash : String) : Prop :=
  (selectorOf input = SUBMIT_REPORT_SELECTOR ∧
    ∃ call, v.el.ethers.decodeSubmitReport input = .ok call ∧ call.report = hash) ∨
  (selectorOf input = EXECUTE_SELECTOR ∧
    ∃ execute consensusAddress, v.el.ethers.decodeExecute input = .ok execute ∧
      v.el.consensusAddress = .ok consensusAddress ∧
      toLowerCase execute.target = toLowerCase consensusAddress ∧
      selectorOf execute.data = SUBMIT_REPORT_SELECTOR ∧
      ∃ call, v.el.ethers.decodeSubmitReport execute.data = .ok call ∧ call.report = hash)

theorem decodeSubmitReport_ok {hash : String} :
    (∃ call, v.decodeSubmitReport tx = .ok call ∧ call.report = hash) ↔
      v.CallsSubmitReport tx.input hash := by
  unfold decodeSubmitReport CallsSubmitReport
  by_cases direct : selectorOf tx.input = SUBMIT_REPORT_SELECTOR
  · have other : SUBMIT_REPORT_SELECTOR ≠ EXECUTE_SELECTOR := by decide
    simp [direct, other]
  · by_cases wrapped : selectorOf tx.input = EXECUTE_SELECTOR
    · have other : EXECUTE_SELECTOR ≠ SUBMIT_REPORT_SELECTOR := by decide
      simp only [wrapped, other, if_false, if_true, false_and, false_or, true_and, except_bind_ok,
        except_guard_ok, not_not]
      constructor
      · rintro ⟨call, ⟨execute, decoded, address, resolved, target, selector, inner⟩, report⟩
        exact ⟨execute, address, decoded, resolved, target, selector, call, inner, report⟩
      · rintro ⟨execute, address, decoded, resolved, target, selector, call, inner, report⟩
        exact ⟨call, ⟨execute, decoded, address, resolved, target, selector, inner⟩, report⟩
    · simp [direct, wrapped]

/-- The calldata the Exit Bus was called with: the input, or what `execute` on the Exit Bus wraps. -/
def CallsExitBus (v : Verifier ρ) (input call : String) : Prop :=
  (selectorOf input ≠ EXECUTE_SELECTOR ∧ call = input) ∨
  (selectorOf input = EXECUTE_SELECTOR ∧
    ∃ execute exitBusAddress, v.el.ethers.decodeExecute input = .ok execute ∧
      v.el.exitBusAddress = .ok exitBusAddress ∧
      toLowerCase execute.target = toLowerCase exitBusAddress ∧ call = execute.data)

theorem exitBusInput_ok {call : String} :
    v.exitBusInput tx = .ok call ↔ v.CallsExitBus tx.input call := by
  unfold exitBusInput CallsExitBus
  by_cases wrapped : selectorOf tx.input = EXECUTE_SELECTOR
  · simp only [wrapped, if_true, ne_eq, not_true_eq_false, false_and, false_or, true_and,
      except_bind_ok, except_guard_ok, not_not, Except.ok.injEq]
    constructor
    · rintro ⟨execute, decoded, address, resolved, target, same⟩
      exact ⟨execute, address, decoded, resolved, target, same.symm⟩
    · rintro ⟨execute, address, decoded, resolved, target, same⟩
      exact ⟨execute, decoded, address, resolved, target, same.symm⟩
  · simp only [wrapped, if_false, ne_eq, not_false_eq_true, true_and, false_and, or_false,
      Except.ok.injEq]
    exact eq_comm

/-! ### Lookups -/

section Unknown

variable {transactionHash : String} {s : v.State} {node : ρ}

/-- A transaction the cache does not know is requested. -/
theorem getTransaction_unknown (unknown : (v.caches.get transactionHash s.lruTransactionCache).1 = none) :
    v.getTransaction transactionHash s = (do
      let json ← v.onNode (v.el.elRequest (.eth_getTransactionByHash transactionHash))
      let result ← ofResult (txDTO json)
      v.cacheTransaction result.hash result
      pure result)
      { s with lruTransactionCache := (v.caches.get transactionHash s.lruTransactionCache).2 } := by
  unfold getTransaction
  rw [bind_of_ok (show v.cachedTransaction transactionHash s = .ok none _ by rw [← unknown]; rfl)]

/-- A transaction the cache knows is not. -/
theorem getTransaction_known
    (known : (v.caches.get transactionHash s.lruTransactionCache).1 = some tx) :
    v.getTransaction transactionHash s = .ok tx { s with
      lruTransactionCache := (v.caches.get transactionHash s.lruTransactionCache).2 } := by
  unfold getTransaction
  rw [bind_of_ok (show v.cachedTransaction transactionHash s = .ok (some tx) _ by rw [← known]; rfl)]
  rfl

/-- It is what the node answers. -/
theorem getTransaction_answered {json : Json}
    (unknown : (v.caches.get transactionHash s.lruTransactionCache).1 = none)
    (answered : v.el.elRequest (.eth_getTransactionByHash transactionHash) s.node = .ok json node)
    (parsed : txDTO json = .ok tx) :
    v.getTransaction transactionHash s = .ok tx
      ⟨v.caches.set tx.hash tx (v.caches.get transactionHash s.lruTransactionCache).2,
        s.lruConsensusReachedLogsCache, node⟩ := by
  rw [getTransaction_unknown unknown]
  exact bind_ok.mpr ⟨json, _, onNode_of_ok answered,
    bind_ok.mpr ⟨tx, _, ofResult_ok.mpr ⟨parsed, rfl⟩, rfl⟩⟩

theorem getTransaction_of_answer {json : Json}
    (unknown : (v.caches.get transactionHash s.lruTransactionCache).1 = none)
    (answered : v.el.elRequest (.eth_getTransactionByHash transactionHash) s.node = .ok json node)
    (parsed : txDTO json = .ok tx) :
    ∃ s', v.getTransaction transactionHash s = .ok tx s' :=
  ⟨_, getTransaction_answered unknown answered parsed⟩

/-- A lookup the cache knows. -/
theorem consensusReached_known (toBlock : JsNumber) (refSlot hash : String)
    (known : (v.caches.get (consensusReachedKey toBlock refSlot hash) s.lruConsensusReachedLogsCache).1
      = some transactionHash) (given : transactionHash ≠ "") :
    v.consensusReachedTransactionHash toBlock refSlot hash s = .ok transactionHash { s with
      lruConsensusReachedLogsCache :=
        (v.caches.get (consensusReachedKey toBlock refSlot hash) s.lruConsensusReachedLogsCache).2 } := by
  have hit : v.cachedConsensusReached (consensusReachedKey toBlock refSlot hash) s
      = .ok (some transactionHash) { s with lruConsensusReachedLogsCache := (v.caches.get
        (consensusReachedKey toBlock refSlot hash) s.lruConsensusReachedLogsCache).2 } := by
    unfold cachedConsensusReached missing
    simp only [known, Option.getD_some, given, decide_false, Bool.false_eq_true, if_false]
  unfold consensusReachedTransactionHash
  exact bind_of_ok hit

/-- A lookup the cache does not know goes through the logs. -/
theorem consensusReached_unknown (toBlock : JsNumber) (refSlot hash : String)
    (unknown : missing (v.caches.get (consensusReachedKey toBlock refSlot hash)
      s.lruConsensusReachedLogsCache).1 = true) :
    v.consensusReachedTransactionHash toBlock refSlot hash s = (do
      let result ← v.consensusReachedLogs toBlock refSlot
      let decoded ← ofResult (result.mapM fun event => do
        let report ← v.el.ethers.parseConsensusReached event
        pure (event.transactionHash, report))
      match decoded.find? fun event : String × String => event.2 = hash with
      | none => throw (Failure.error "Failed to find transaction by report hash")
      | some found =>
        v.cacheConsensusReached (consensusReachedKey toBlock refSlot hash) found.1
        pure found.1)
      { s with lruConsensusReachedLogsCache := (v.caches.get
        (consensusReachedKey toBlock refSlot hash) s.lruConsensusReachedLogsCache).2 } := by
  have miss : v.cachedConsensusReached (consensusReachedKey toBlock refSlot hash) s
      = .ok none { s with lruConsensusReachedLogsCache := (v.caches.get
        (consensusReachedKey toBlock refSlot hash) s.lruConsensusReachedLogsCache).2 } := by
    unfold cachedConsensusReached
    dsimp only
    rw [if_pos unknown]
  unfold consensusReachedTransactionHash
  exact bind_of_ok miss

/-- The logs of the frame, as the lookup reads them: the transaction and the report of each. -/
def reachedReports (v : Verifier ρ) (logs : List Log) : Except Failure (List (String × String)) :=
  logs.mapM fun event => do
    let report ← v.el.ethers.parseConsensusReached event
    pure (event.transactionHash, report)

/-- It is the transaction of the first log with the report. -/
theorem consensusReached_answered (toBlock : JsNumber) (refSlot hash : String) {logs : List Log}
    {decoded : List (String × String)} {found : String × String} {s₁ : v.State}
    (unknown : missing (v.caches.get (consensusReachedKey toBlock refSlot hash)
      s.lruConsensusReachedLogsCache).1 = true)
    (loaded : v.consensusReachedLogs toBlock refSlot { s with lruConsensusReachedLogsCache :=
      (v.caches.get (consensusReachedKey toBlock refSlot hash) s.lruConsensusReachedLogsCache).2 }
        = .ok logs s₁)
    (decodes : v.reachedReports logs = .ok decoded)
    (search : (decoded.find? fun event => event.2 = hash) = some found) :
    v.consensusReachedTransactionHash toBlock refSlot hash s = .ok found.1 { s₁ with
      lruConsensusReachedLogsCache := v.caches.set (consensusReachedKey toBlock refSlot hash) found.1
        s₁.lruConsensusReachedLogsCache } := by
  rw [consensusReached_unknown toBlock refSlot hash unknown]
  refine bind_ok.mpr ⟨logs, s₁, loaded, bind_ok.mpr ⟨decoded, s₁, ofResult_ok.mpr ⟨decodes, rfl⟩, ?_⟩⟩
  rw [search]
  rfl

/-- A failed request is the failure of the verification. -/
theorem verifyEvent_of_failure {validatorPubkey : String} {toBlock : JsNumber} {e : Failure}
    (unknown : (v.caches.get transactionHash s.lruTransactionCache).1 = none)
    (failed : v.el.elRequest (.eth_getTransactionByHash transactionHash) s.node = .error e node) :
    v.verifyEvent validatorPubkey transactionHash toBlock s = .error e { s with
      lruTransactionCache := (v.caches.get transactionHash s.lruTransactionCache).2, node } := by
  unfold verifyEvent
  refine bind_of_error ?_
  rw [getTransaction_unknown unknown]
  exact bind_of_error (onNode_of_error failed)

end Unknown

/-! ### The two paths -/

section Paths

variable {validatorPubkey transactionHash input : String} {decoded : Report} {toBlock : JsNumber}
  {s s' : v.State}

/-- The hash of a report. -/
def reportHash (v : Verifier ρ) (report : Report) : String :=
  v.el.ethers.keccak256 (v.el.ethers.encode report)

theorem reportHash_of_library {ethers : Ethers} (library : v.el.ethers = ethers) (report : Report) :
    v.reportHash report = ethers.keccak256 (ethers.encode report) := by
  unfold reportHash
  rw [library]

theorem verifyOrigin_ok {originTx : Tx} {originTxHash dataHash : String} :
    v.verifyOrigin originTx originTxHash dataHash = .ok () ↔
      originTx.HashesTo v.el.ethers originTxHash ∧ v.CallsSubmitReport originTx.input dataHash ∧
      v.SignedByOracle originTx := by
  unfold verifyOrigin SignedByOracle
  simp only [except_bind_ok, except_guard_ok, not_not, Bool.not_eq_true', Bool.not_eq_false,
    and_true, ← decodeSubmitReport_ok, ← verifyTransactionIntegrity_ok, ← isAllowlistedOracle_iff]
  constructor
  · rintro ⟨_, intact, call, decodes, report, signer, recovered, trusted⟩
    exact ⟨intact, ⟨call, decodes, report⟩, signer, recovered, trusted⟩
  · rintro ⟨intact, ⟨call, decodes, report⟩, signer, recovered, trusted⟩
    exact ⟨(), intact, call, decodes, report, signer, recovered, trusted⟩

theorem verifyOracleEvent_ok :
    v.verifyOracleEvent validatorPubkey decoded toBlock s = .ok () s' ↔
      MentionsPubkey decoded.data validatorPubkey ∧
      ∃ originTxHash s₁ originTx,
        v.consensusReachedTransactionHash toBlock (toString decoded.refSlot) (v.reportHash decoded) s
          = .ok originTxHash s₁ ∧
        v.getTransaction originTxHash s₁ = .ok originTx s' ∧
        originTx.HashesTo v.el.ethers originTxHash ∧
        v.CallsSubmitReport originTx.input (v.reportHash decoded) ∧ v.SignedByOracle originTx := by
  unfold verifyOracleEvent MentionsPubkey
  simp only [guard_ok, bind_ok, ofResult_ok, verifyOrigin_ok, Bool.not_eq_true', Bool.not_eq_false]
  refine and_congr_right fun _ => ?_
  constructor
  · rintro ⟨originTxHash, s₁, found, originTx, _, loaded, checks, rfl⟩
    exact ⟨originTxHash, s₁, originTx, found, loaded, checks⟩
  · rintro ⟨originTxHash, s₁, originTx, found, loaded, checks⟩
    exact ⟨originTxHash, s₁, found, originTx, s', loaded, checks, rfl⟩

theorem verifySubmitExitRequestsDataTransaction_ok :
    v.verifySubmitExitRequestsDataTransaction validatorPubkey tx transactionHash input = .ok () ↔
      toLowerCase transactionHash ∈ v.SUBMIT_TX_HASH_ALLOWLIST ∧
      tx.HashesTo v.el.ethers transactionHash ∧
      ∃ request, v.el.ethers.decodeSubmitExitRequestsData input = .ok request ∧
        MentionsPubkey request.data validatorPubkey := by
  unfold verifySubmitExitRequestsDataTransaction MentionsPubkey
  simp only [except_bind_ok, except_guard_ok, Bool.not_eq_true', Bool.not_eq_false, and_true,
    List.contains_iff_mem, ← verifyTransactionIntegrity_ok]
  refine and_congr_right fun _ => ?_
  exact ⟨fun ⟨_, intact, found⟩ => ⟨intact, found⟩, fun ⟨intact, found⟩ => ⟨(), intact, found⟩⟩

theorem verifyEvent_ok :
    v.verifyEvent validatorPubkey transactionHash toBlock s = .ok () s' ↔
      ∃ tx s₁ call, v.getTransaction transactionHash s = .ok tx s₁ ∧ v.CallsExitBus tx.input call ∧
        ((selectorOf call = SUBMIT_REPORT_DATA_SELECTOR ∧
          ∃ decoded, v.el.ethers.decodeSubmitReportData call = .ok decoded ∧
            v.verifyOracleEvent validatorPubkey decoded toBlock s₁ = .ok () s') ∨
         (selectorOf call = SUBMIT_EXIT_REQUESTS_DATA_SELECTOR ∧ s₁ = s' ∧
          v.verifySubmitExitRequestsDataTransaction validatorPubkey tx transactionHash call
            = .ok ())) := by
  have other : SUBMIT_EXIT_REQUESTS_DATA_SELECTOR ≠ SUBMIT_REPORT_DATA_SELECTOR := by decide
  unfold verifyEvent
  simp only [bind_ok, ofResult_ok, exitBusInput_ok]
  constructor
  · rintro ⟨tx, s₁, loaded, call, _, ⟨exitBus, rfl⟩, rest⟩
    refine ⟨tx, s₁, call, loaded, exitBus, ?_⟩
    by_cases report : selectorOf call = SUBMIT_REPORT_DATA_SELECTOR
    · rw [if_pos report] at rest
      obtain ⟨decoded, _, ran, accepted⟩ := bind_ok.mp rest
      obtain ⟨decodes, rfl⟩ := ofResult_ok.mp ran
      exact .inl ⟨report, decoded, decodes, accepted⟩
    · rw [if_neg report] at rest
      by_cases requests : selectorOf call = SUBMIT_EXIT_REQUESTS_DATA_SELECTOR
      · rw [if_pos requests] at rest
        obtain ⟨accepted, rfl⟩ := ofResult_ok.mp rest
        exact .inr ⟨requests, rfl, accepted⟩
      · rw [if_neg requests] at rest
        cases rest
  · rintro ⟨tx, s₁, call, loaded, exitBus, ⟨report, decoded, decodes, accepted⟩ |
      ⟨requests, rfl, accepted⟩⟩
    · refine ⟨tx, s₁, loaded, call, s₁, ⟨exitBus, rfl⟩, ?_⟩
      rw [if_pos report]
      exact bind_ok.mpr ⟨decoded, s₁, ofResult_ok.mpr ⟨decodes, rfl⟩, accepted⟩
    · refine ⟨tx, s₁, loaded, call, s₁, ⟨exitBus, rfl⟩, ?_⟩
      rw [requests, if_neg other, if_pos rfl]
      exact ofResult_ok.mpr ⟨accepted, rfl⟩

end Paths

end Verifier

end ValidatorEjector
