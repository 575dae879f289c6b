/-
**To whom the authenticated report call is sent.**

An event is accepted through the oracle because of the transaction that reached consensus: it has the hash
that the log named, it calls `submitReport` with the report, and a trusted oracle has signed it.

* `AddressedToConsensus`, `IsSubmitReport`, `DeliversReport` — the transaction delivers its `submitReport`
  call to the consensus contract, itself or through `execute`.
* `Origin` — the transaction a verification authenticates.
* **`deliversReport_iff`** — the origin of an accepted event delivers its call to the consensus contract
  exactly when it does not call `submitReport` itself, or is sent to the contract: on that branch
  `decodeSubmitReport` does not look at `to`.
* `not_delivered` — a call that was sent to another contract is accepted.
-/

import ValidatorEjector.ExitLogs.Checks
import ValidatorEjector.RecordedOracle

namespace ValidatorEjector

open Js Library Library.Program

namespace Verifier

variable {ρ : Type} {v : Verifier ρ}

/-! ### Delivery -/

/-- The address is the consensus contract's, letter case apart. -/
def AddressedToConsensus (v : Verifier ρ) (address : String) : Prop :=
  ∃ consensusAddress, v.el.consensusAddress = .ok consensusAddress ∧
    toLowerCase address = toLowerCase consensusAddress

/-- The calldata is a call of `submitReport`. -/
def IsSubmitReport (v : Verifier ρ) (input : String) : Prop :=
  selectorOf input = SUBMIT_REPORT_SELECTOR ∧ ∃ call, v.el.ethers.decodeSubmitReport input = .ok call

/-- **The transaction delivers its `submitReport` call to the consensus contract**: it is sent there, or it
is `execute` of the call on it. -/
def DeliversReport (v : Verifier ρ) (tx : Tx) : Prop :=
  (v.AddressedToConsensus tx.to ∧ v.IsSubmitReport tx.input) ∨
  ∃ execute, selectorOf tx.input = EXECUTE_SELECTOR ∧ v.el.ethers.decodeExecute tx.input = .ok execute ∧
    v.AddressedToConsensus execute.target ∧ v.IsSubmitReport execute.data

/-- **What is checked of the calldata**, against what delivers the call. -/
theorem CallsSubmitReport.delivers_iff {tx : Tx} {hash : String}
    (calls : v.CallsSubmitReport tx.input hash) : v.DeliversReport tx ↔
      (selectorOf tx.input = SUBMIT_REPORT_SELECTOR → v.AddressedToConsensus tx.to) := by
  have other : SUBMIT_REPORT_SELECTOR ≠ EXECUTE_SELECTOR := by decide
  rcases calls with ⟨direct, call, decodes, _⟩ |
    ⟨wrapped, execute, address, decodes, resolved, target, inner, call, innerDecodes, _⟩
  · constructor
    · rintro (⟨addressed, _⟩ | ⟨_, wrapped, _⟩) _
      · exact addressed
      · exact absurd (direct.symm.trans wrapped) other
    · intro addressed
      exact .inl ⟨addressed direct, direct, call, decodes⟩
  · refine iff_of_true (.inr ⟨execute, wrapped, decodes, ?_, inner, call, innerDecodes⟩) ?_
    · exact ⟨address, resolved, target⟩
    · intro direct
      exact absurd (direct.symm.trans wrapped) other

/-! ### The origin transaction -/

/-- **The transaction a verification authenticates**: what the node serves under the hash that the lookup of
`ConsensusReached` names for the report of the finalizing transaction. -/
def Origin (v : Verifier ρ) (transactionHash : String) (toBlock : JsNumber) (s : v.State)
    (originTxHash : String) (originTx : Tx) : Prop :=
  ∃ tx s₁ call report s₂ s₃, v.getTransaction transactionHash s = .ok tx s₁ ∧
    v.exitBusInput tx = .ok call ∧ selectorOf call = SUBMIT_REPORT_DATA_SELECTOR ∧
    v.el.ethers.decodeSubmitReportData call = .ok report ∧
    v.consensusReachedTransactionHash toBlock (toString report.refSlot) (v.reportHash report) s₁
      = .ok originTxHash s₂ ∧
    v.getTransaction originTxHash s₂ = .ok originTx s₃

variable {validatorPubkey transactionHash originTxHash : String} {toBlock : JsNumber}
  {s s' : v.State} {originTx : Tx}

/-- The origin of an accepted event has passed the checks. -/
theorem Origin.checked (origin : v.Origin transactionHash toBlock s originTxHash originTx)
    (resolved : v.verifyEvent validatorPubkey transactionHash toBlock s = .ok () s') :
    originTx.HashesTo v.el.ethers originTxHash ∧ v.SignedByOracle originTx ∧
      ∃ hash, v.CallsSubmitReport originTx.input hash := by
  obtain ⟨tx, s₁, call, report, s₂, s₃, loaded, unwraps, selector, decodes, reached, origin⟩ := origin
  obtain ⟨tx', s₁', call', loaded', exitBus, rest⟩ := verifyEvent_ok.mp resolved
  -- the loads are functions of the state, so the ones the run went through are these
  rw [loaded] at loaded'
  cases loaded'
  have unwraps' := exitBusInput_ok.mpr exitBus
  rw [unwraps] at unwraps'
  cases unwraps'
  rcases rest with ⟨_, report', decodes', accepted⟩ | ⟨requests, _⟩
  · rw [decodes] at decodes'
    cases decodes'
    obtain ⟨_, originTxHash', s₂', originTx', reached', origin', intact, calls, signed⟩ :=
      verifyOracleEvent_ok.mp accepted
    rw [reached] at reached'
    cases reached'
    rw [origin] at origin'
    cases origin'
    exact ⟨intact, signed, _, calls⟩
  · exact absurd (selector.symm.trans requests) (by decide)

/-- **When the authenticated call is delivered to the consensus contract.** -/
theorem deliversReport_iff (v : Verifier ρ) (validatorPubkey transactionHash : String)
    (toBlock : JsNumber) (s s' : v.State)
    (resolved : v.verifyEvent validatorPubkey transactionHash toBlock s = .ok () s')
    (originTxHash : String) (originTx : Tx)
    (origin : v.Origin transactionHash toBlock s originTxHash originTx) :
    v.DeliversReport originTx ↔
      (selectorOf originTx.input = SUBMIT_REPORT_SELECTOR → v.AddressedToConsensus originTx.to) := by
  obtain ⟨_, _, _, calls⟩ := origin.checked resolved
  exact calls.delivers_iff

end Verifier

/-! ### A recorded report -/

namespace OracleFixture

open Verifier

variable {address : String}

theorem origin_recorded (isAddress : address.toList.length = 42) :
    (verifier (.lru 50) address).Origin ORACLE_SUBMIT_REPORT_DATA_TX (.int 0x855ad2)
      ((verifier (.lru 50) address).fresh ()) ORACLE_SUBMIT_REPORT_TX originTx := by
  obtain ⟨s₁, s₂, s', final, reached, origin⟩ := loads (.lru 50) isAddress
  have direct : selectorOf finalTx.input ≠ EXECUTE_SELECTOR := by
    show selectorOf submitReportDataInput ≠ _
    rw [selectorOf_submitReportDataInput]
    decide
  exact ⟨finalTx, s₁, submitReportDataInput, report, s₂, s', final, if_neg direct,
    selectorOf_submitReportDataInput, decodeSubmitReportData_input, reached, origin⟩

/-- The recorded call was sent to the consensus contract. -/
theorem deliversReport_recorded : (verifier (.lru 50) consensusAddress).DeliversReport originTx := by
  obtain ⟨s', resolved⟩ := verifyEvent_recorded (.lru 50)
      (show consensusAddress.toList.length = 42 by decide)
  exact (deliversReport_iff _ _ _ _ _ s' resolved _ _ (origin_recorded (by decide))).mpr
    fun _ => ⟨consensusAddress, rfl, rfl⟩

/-- **The same call is accepted when the consensus contract is another one.** -/
theorem not_delivered : ¬ ∀ (ρ : Type) (v : Verifier ρ) (validatorPubkey transactionHash : String)
    (toBlock : JsNumber) (s s' : v.State),
    v.verifyEvent validatorPubkey transactionHash toBlock s = .ok () s' →
    ∀ originTxHash originTx, v.Origin transactionHash toBlock s originTxHash originTx →
      v.DeliversReport originTx := by
  intro claim
  obtain ⟨s', resolved⟩ := verifyEvent_recorded (.lru 50)
      (show otherAddress.toList.length = 42 by decide)
  have direct : selectorOf originTx.input ≠ EXECUTE_SELECTOR := by
    show selectorOf submitReportInput ≠ _
    rw [selectorOf_submitReportInput]
    decide
  rcases claim _ _ _ _ _ _ _ resolved _ _ (origin_recorded (by decide)) with
    ⟨⟨_, resolves, same⟩, _⟩ | ⟨_, wrapped, _⟩
  · cases resolves
    exact absurd same (by decide)
  · exact direct wrapped

end OracleFixture

end ValidatorEjector
