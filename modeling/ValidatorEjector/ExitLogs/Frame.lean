/-
**What the exit logs leave alone.**

* `AtNode` — a property of the node, of a state of the verifier, and of the fetcher.
* `verifyEvent_node`, `check_node`, `getLogs_node` — what the requests keep of the node, a verification, a check
  and a fetch keep, however they end.
-/

import ValidatorEjector.ExitLogs.Fetcher

namespace ValidatorEjector

open Js Library Library.Program

section Frame

variable {ρ : Type} {W : ρ → Prop}

/-- `getLogs` of the execution API only makes requests. -/
theorem ExecutionApi.getLogs_node {el : ExecutionApi ρ} (asks : ∀ request, Preserves W (el.elRequest request))
    (fromBlock toBlock : JsNumber) (address : String) (topics : List Topic) :
    Preserves W (el.getLogs fromBlock toBlock address topics) := by
  unfold ExecutionApi.getLogs
  split_ifs
  · exact Preserves.throw
  · exact Preserves.throw
  · exact Preserves.throw
  · exact Preserves.throw
  · refine Preserves.collect fun bounds _ => ?_
    refine Triple.bind Preserves.ofResult fun fromBlock => ?_
    refine Triple.bind Preserves.ofResult fun toBlock => ?_
    exact Triple.bind (asks _) fun json => Preserves.ofResult

namespace Verifier

variable {v : Verifier ρ}

/-- A property of the node, of a state of the verifier. -/
abbrev AtNode (W : ρ → Prop) (s : v.State) : Prop := W s.node

theorem onNode_node {α : Type} {x : EStateM Failure ρ α} (keeps : Preserves W x) :
    Preserves (AtNode W) (v.onNode x) :=
  Triple.part (fun _ _ => rfl) keeps

theorem getTransaction_node (asks : ∀ request, Preserves W (v.el.elRequest request)) (transactionHash : String) :
    Preserves (AtNode W) (v.getTransaction transactionHash) := by
  have cached : Preserves (AtNode W) (v.cachedTransaction transactionHash) := fun _ kept => kept
  refine Triple.bind cached fun hit => ?_
  cases hit with
  | some result => exact Preserves.pure
  | none =>
    refine Triple.bind (onNode_node (asks _)) fun json => ?_
    refine Triple.bind Preserves.ofResult fun result => ?_
    have stored : Preserves (AtNode W) (v.cacheTransaction result.hash result) := fun _ kept => kept
    exact stored.bind fun _ => Preserves.pure

theorem consensusReachedTransactionHash_node (asks : ∀ request, Preserves W (v.el.elRequest request))
    (toBlock : JsNumber) (refSlot hash : String) :
    Preserves (AtNode W) (v.consensusReachedTransactionHash toBlock refSlot hash) := by
  have cached : Preserves (AtNode W) (v.cachedConsensusReached (consensusReachedKey toBlock refSlot hash)) :=
    fun _ kept => kept
  have logs : Preserves (AtNode W) (v.consensusReachedLogs toBlock refSlot) := by
    refine Triple.bind Preserves.ofResult fun consensusAddress => ?_
    refine Triple.bind Preserves.ofResult fun slot => ?_
    refine Triple.bind Preserves.ofResult fun slotTopic => ?_
    exact onNode_node (ExecutionApi.getLogs_node asks _ _ _ _)
  refine Triple.bind cached fun hit => ?_
  cases hit with
  | some transactionHash => exact Preserves.pure
  | none =>
    refine Triple.bind logs fun result => ?_
    refine Triple.bind Preserves.ofResult fun decoded => ?_
    cases decoded.find? fun event => event.2 = hash with
    | none => exact Preserves.throw
    | some found =>
      have stored : Preserves (AtNode W)
          (v.cacheConsensusReached (consensusReachedKey toBlock refSlot hash) found.1) := fun _ kept => kept
      exact stored.bind fun _ => Preserves.pure

theorem verifyOracleEvent_node (asks : ∀ request, Preserves W (v.el.elRequest request))
    (validatorPubkey : String)
    (decoded : Report) (toBlock : JsNumber) :
    Preserves (AtNode W) (v.verifyOracleEvent validatorPubkey decoded toBlock) := by
  unfold verifyOracleEvent
  by_cases absent : (!includes decoded.data (sliceFrom validatorPubkey 2)) = true
  · rw [if_pos absent]
    exact Preserves.throw
  rw [if_neg absent]
  refine Triple.bind (consensusReachedTransactionHash_node asks _ _ _) fun originTxHash => ?_
  exact Triple.bind (getTransaction_node asks originTxHash) fun originTx => Preserves.ofResult

/-- **A verification only makes requests**, and fills its caches. -/
theorem verifyEvent_node (asks : ∀ request, Preserves W (v.el.elRequest request))
    (validatorPubkey transactionHash : String) (toBlock : JsNumber) :
    Preserves (AtNode W) (v.verifyEvent validatorPubkey transactionHash toBlock) := by
  unfold verifyEvent
  refine Triple.bind (getTransaction_node asks transactionHash) fun tx => ?_
  generalize v.exitBusInput tx = answer
  refine Triple.bind Preserves.ofResult fun input => ?_
  dsimp only
  generalize selectorOf input = selector
  by_cases oracle : selector = SUBMIT_REPORT_DATA_SELECTOR
  · rw [if_pos oracle]
    exact Triple.bind Preserves.ofResult fun decoded => verifyOracleEvent_node asks _ _ _
  rw [if_neg oracle]
  by_cases submitted : selector = SUBMIT_EXIT_REQUESTS_DATA_SELECTOR
  · rw [if_pos submitted]
    exact Preserves.ofResult
  · rw [if_neg submitted]
    exact Preserves.throw

end Verifier

namespace Fetcher

variable {f : Fetcher ρ}

/-- A property of the node, of a state of the fetcher. -/
abbrev AtNode (W : ρ → Prop) (s : f.State) : Prop := W s.verifier.node

theorem onNode_node {α : Type} {x : EStateM Failure ρ α} (keeps : Preserves W x) :
    Preserves (AtNode W) (f.onNode x) :=
  Triple.part (fun _ _ => rfl) (Verifier.onNode_node keeps)

/-- The check of an event only makes requests. -/
theorem check_node (asks : ∀ request, Preserves W (f.verifier.el.elRequest request))
    (event : ExitRequestEvent) : Preserves (AtNode W) (f.check event) := by
  have verified : Preserves (AtNode W) (f.verify event) :=
    Triple.part (fun _ _ => rfl) (Verifier.verifyEvent_node asks _ _ _)
  have counted (accepted : Bool) : Preserves (AtNode W) (f.count accepted) := fun _ kept => kept
  unfold check
  split_ifs
  · exact Preserves.pure
  · refine Triple.tryCatch (Triple.bind verified fun _ => ?_) fun _ => ?_
    · exact (counted true).bind fun _ => Preserves.pure
    · exact (counted false).bind fun _ => Preserves.pure

theorem verifyTurn_node (asks : ∀ request, Preserves W (f.verifier.el.elRequest request))
    (event : ExitRequestEvent) : Preserves (AtNode W) (f.verifyTurn event) := by
  refine Triple.bind (check_node asks event) fun accepted => ?_
  split_ifs
  · exact Triple.bind Preserves.ofResult fun validator => Preserves.pure
  · exact Preserves.pure

/-- So does the loading of the events. -/
theorem getValidatorExitRequestEvents_node (asksEl : ∀ request, Preserves W (f.verifier.el.elRequest request))
    (asksCl : ∀ request, Preserves W (f.cl.clRequest request)) (fromBlock toBlock : JsNumber)
    (ejectorScope : List EjectorScope) :
    Preserves W (f.getValidatorExitRequestEvents fromBlock toBlock ejectorScope) := by
  have logs (scope : EjectorScope) : Preserves W (f.scopeLogs fromBlock toBlock scope) := by
    refine Triple.bind Preserves.ofResult fun exitBusAddress => ?_
    refine Triple.bind Preserves.ofResult fun module => ?_
    refine Triple.bind Preserves.ofResult fun operators => ?_
    exact ExecutionApi.getLogs_node asksEl _ _ _ _
  have validators (indices : List String) : Preserves W (f.cl.fetchValidatorsBatch indices) :=
    Preserves.collect fun batch _ => Triple.bind (asksCl _) fun json => Preserves.ofResult
  refine Triple.bind (Triple.bind (Preserves.collect fun scope _ => logs scope) fun _ => Preserves.ofResult)
    fun events => ?_
  refine Triple.bind (Triple.bind (validators _) fun _ => Preserves.pure) fun validIndices => ?_
  exact Preserves.pure

/-- **A fetch only makes requests** of the two APIs. -/
theorem getLogs_node (asksEl : ∀ request, Preserves W (f.verifier.el.elRequest request))
    (asksCl : ∀ request, Preserves W (f.cl.clRequest request)) (fromBlock toBlock : JsNumber)
    (ejectorScope : List EjectorScope) : Preserves (AtNode W) (f.getLogs fromBlock toBlock ejectorScope) :=
  Triple.bind (onNode_node (getValidatorExitRequestEvents_node asksEl asksCl _ _ _)) fun _ =>
    Preserves.collect fun event _ => verifyTurn_node asksEl event

end Fetcher

end Frame

end ValidatorEjector
