/-
**What an accepted exit request rests on, whatever the execution node answers.**

The state a verification starts from is arbitrary, so it may be left by any earlier calls against any
answers: what counts is only what is checked after an answer has arrived.

* `OracleBacked`, `AllowlistBacked` — the two ways to accept an event.
* **`verifyEvent_sound`** — a resolved `verifyEvent` is one of the two.
-/

import ValidatorEjector.ExitLogs.Checks
import ValidatorEjector.Recorded

namespace ValidatorEjector

open Js Library Library.Program

namespace Verifier

variable {ρ : Type}

/-! ### The two ways to accept an event -/

/-- **Accepted through the oracle**: the report mentions the pubkey, and the transaction the lookup of
`ConsensusReached` named for its hash submits that hash and is signed by a trusted oracle. `s` is the
state of the verifier at the lookup. -/
def OracleBacked (v : Verifier ρ) (validatorPubkey : String) (toBlock : JsNumber) (s : v.State) :
    Prop :=
  ∃ (report : Report) (originTxHash : String) (s' : v.State) (T : Tx),
    MentionsPubkey report.data validatorPubkey ∧
    v.consensusReachedTransactionHash toBlock (toString report.refSlot) (v.reportHash report) s
      = .ok originTxHash s' ∧
    T.HashesTo v.el.ethers originTxHash ∧ v.SignedByOracle T ∧
    v.CallsSubmitReport T.input (v.reportHash report)

/-- **Accepted through the allowlist**: the transaction hash is allowed, and the transaction with that
hash submits requests that mention the pubkey. -/
def AllowlistBacked (v : Verifier ρ) (validatorPubkey transactionHash : String) : Prop :=
  toLowerCase transactionHash ∈ v.SUBMIT_TX_HASH_ALLOWLIST ∧
    ∃ (T : Tx) (call : String) (request : ExitRequestsData), T.HashesTo v.el.ethers transactionHash ∧
      v.CallsExitBus T.input call ∧
      selectorOf call = SUBMIT_EXIT_REQUESTS_DATA_SELECTOR ∧
      v.el.ethers.decodeSubmitExitRequestsData call = .ok request ∧
      MentionsPubkey request.data validatorPubkey

/-- **Soundness.** From every state of the caches and the node, a resolved `verifyEvent` rests on one of
the two. The lookup of the first starts where the loading of the finalizing transaction ended. -/
theorem verifyEvent_sound (v : Verifier ρ) (validatorPubkey transactionHash : String)
    (toBlock : JsNumber) (s s' : v.State)
    (resolved : v.verifyEvent validatorPubkey transactionHash toBlock s = .ok () s') :
    (∃ tx s₁, v.getTransaction transactionHash s = .ok tx s₁ ∧
      v.OracleBacked validatorPubkey toBlock s₁) ∨
    v.AllowlistBacked validatorPubkey transactionHash := by
  obtain ⟨tx, s₁, call, loaded, exitBus, ⟨_, report, _, accepted⟩ | ⟨requests, _, accepted⟩⟩ :=
    verifyEvent_ok.mp resolved
  · obtain ⟨mentions, originTxHash, s₂, originTx, found, _, intact, calls, signed⟩ :=
      verifyOracleEvent_ok.mp accepted
    exact .inl ⟨tx, s₁, loaded, report, originTxHash, s₂, originTx, mentions, found, intact, signed,
      calls⟩
  · obtain ⟨allowed, intact, request, decodes, mentions⟩ :=
      verifySubmitExitRequestsDataTransaction_ok.mp accepted
    exact .inr ⟨allowed, tx, call, request, intact, exitBus, requests, decodes, mentions⟩

open HoodiFixture in
/-- The recorded exit request is accepted, and rests on the allowlist. -/
theorem verifyEvent_sound_submitTx :
    ∃ s', (verifier []).verifyEvent HOODI_EXIT_VALIDATOR_PUBKEY HOODI_SUBMIT_EXIT_REQUESTS_DATA_TX
        (.int 0x18bd75) ((verifier []).fresh ()) = .ok () s' ∧
      ((∃ tx s₁, (verifier []).getTransaction HOODI_SUBMIT_EXIT_REQUESTS_DATA_TX
          ((verifier []).fresh ()) = .ok tx s₁ ∧
          (verifier []).OracleBacked HOODI_EXIT_VALIDATOR_PUBKEY (.int 0x18bd75) s₁) ∨
        (verifier []).AllowlistBacked HOODI_EXIT_VALIDATOR_PUBKEY
          HOODI_SUBMIT_EXIT_REQUESTS_DATA_TX) := by
  obtain ⟨s', served⟩ : ∃ s', (verifier []).getTransaction HOODI_SUBMIT_EXIT_REQUESTS_DATA_TX
      ((verifier []).fresh ()) = .ok submitTx s' :=
    getTransaction_of_answer rfl node_serves (txDTO_toJson submitTx)
  have accepted : (verifier []).verifyEvent HOODI_EXIT_VALIDATOR_PUBKEY
      HOODI_SUBMIT_EXIT_REQUESTS_DATA_TX (.int 0x18bd75) ((verifier []).fresh ()) = .ok () s' :=
    verifyEvent_submitTx rfl List.mem_cons_self served
  exact ⟨s', accepted, verifyEvent_sound _ _ _ _ _ _ accepted⟩

end Verifier

end ValidatorEjector
