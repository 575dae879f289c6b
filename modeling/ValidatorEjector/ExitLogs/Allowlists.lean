/-
**The letter case of the allowlists.**

* `withAllowlists`, `Recased` — the verifier with other allowlists; lists that are the same but for letter case.
* `CommitsToExit` — what the path of `submitExitRequestsData` checks besides its allowlist.
* **`recased_iff`** — the verdict does not depend on the letter case exactly when the entry of
  `SUBMIT_TX_HASH_ALLOWLIST` for such a transaction is in lower case in both lists, or in none: its entries are
  compared as they are, those of `ORACLE_ADDRESSES_ALLOWLIST` in lower case.
-/

import ValidatorEjector.RecordedOracle

namespace ValidatorEjector

open Js Library Library.Program

/-- The same texts, letter case apart. -/
def Recased (texts texts' : List String) : Prop :=
  List.Forall₂ (fun text text' => toLowerCase text = toLowerCase text') texts texts'

theorem Recased.map_toLowerCase {texts texts' : List String} (recased : Recased texts texts') :
    texts.map toLowerCase = texts'.map toLowerCase := by
  induction recased with
  | nil => rfl
  | cons same _ ih => rw [List.map_cons, List.map_cons, same, ih]

namespace Verifier

variable {ρ : Type} {v : Verifier ρ} {oracles hashes : List String}

/-- The verifier with other allowlists. -/
abbrev withAllowlists (v : Verifier ρ) (oracles hashes : List String) : Verifier ρ :=
  { v with ORACLE_ADDRESSES_ALLOWLIST := oracles, SUBMIT_TX_HASH_ALLOWLIST := hashes }

/-- The transaction is a call of `submitExitRequestsData` that has the hash, and names the validator. -/
def CommitsToExit (v : Verifier ρ) (validatorPubkey transactionHash : String) (s : v.State) : Prop :=
  ∃ tx s₁ input request, v.getTransaction transactionHash s = .ok tx s₁ ∧
    v.CallsExitBus tx.input input ∧
    selectorOf input = SUBMIT_EXIT_REQUESTS_DATA_SELECTOR ∧ tx.HashesTo v.el.ethers transactionHash ∧
    v.el.ethers.decodeSubmitExitRequestsData input = .ok request ∧
      MentionsPubkey request.data validatorPubkey

section Recased

variable {validatorPubkey transactionHash : String} {toBlock : JsNumber} {s s' : v.State}

/-- **The oracles are compared in lower case.** -/
theorem verifyOracleEvent_recased (recased : Recased v.ORACLE_ADDRESSES_ALLOWLIST oracles) :
    (v.withAllowlists oracles hashes).verifyOracleEvent = v.verifyOracleEvent := by
  have trusts : (v.withAllowlists oracles hashes).isAllowlistedOracle = v.isAllowlistedOracle := by
    funext address
    unfold isAllowlistedOracle
    rw [recased.map_toLowerCase]
  have origin : (v.withAllowlists oracles hashes).verifyOrigin = v.verifyOrigin := by
    funext originTx originTxHash dataHash
    unfold verifyOrigin
    rw [trusts]
    rfl
  funext validatorPubkey decoded toBlock
  unfold verifyOracleEvent
  rw [origin]
  rfl

/-- What a resolved verification went through, path by path. -/
theorem resolves_verifyEvent (v : Verifier ρ) (validatorPubkey transactionHash : String)
    (toBlock : JsNumber) (s : v.State) :
    Resolves (v.verifyEvent validatorPubkey transactionHash toBlock) s ↔
    (∃ tx s₁ input decoded s', v.getTransaction transactionHash s = .ok tx s₁ ∧
      v.CallsExitBus tx.input input ∧
      selectorOf input = SUBMIT_REPORT_DATA_SELECTOR ∧ v.el.ethers.decodeSubmitReportData input =
        .ok decoded ∧
      v.verifyOracleEvent validatorPubkey decoded toBlock s₁ = .ok () s') ∨
    (v.CommitsToExit validatorPubkey transactionHash s ∧
      toLowerCase transactionHash ∈ v.SUBMIT_TX_HASH_ALLOWLIST) := by
  constructor
  · rintro ⟨_, s', ran⟩
    obtain ⟨tx, s₁, input, loaded, exitBus, ⟨report, decoded, decodes, accepted⟩ |
      ⟨requests, rfl, accepted⟩⟩ := verifyEvent_ok.mp ran
    · exact .inl ⟨tx, s₁, input, decoded, s', loaded, exitBus, report, decodes, accepted⟩
    · obtain ⟨listed, intact, request, decodes, mentions⟩ :=
        verifySubmitExitRequestsDataTransaction_ok.mp accepted
      exact .inr ⟨⟨tx, s₁, input, request, loaded, exitBus, requests, intact, decodes, mentions⟩,
        listed⟩
  · rintro (⟨tx, s₁, input, decoded, s', loaded, exitBus, report, decodes, accepted⟩ |
      ⟨⟨tx, s₁, input, request, loaded, exitBus, requests, intact, decodes, mentions⟩, listed⟩)
    · exact ⟨(), s', verifyEvent_ok.mpr ⟨tx, s₁, input, loaded, exitBus, .inl ⟨report, decoded, decodes,
        accepted⟩⟩⟩
    · exact ⟨(), s₁, verifyEvent_ok.mpr ⟨tx, s₁, input, loaded, exitBus, .inr ⟨requests, rfl,
        verifySubmitExitRequestsDataTransaction_ok.mpr ⟨listed, intact, request, decodes, mentions⟩⟩⟩⟩

/-- The transaction is on one of the two paths. -/
theorem CommitsToExit.not_report (commits : v.CommitsToExit validatorPubkey transactionHash s)
    {tx : Tx} {s₁ : v.State} {input : String}
    (loaded : v.getTransaction transactionHash s = .ok tx s₁)
    (exitBus : v.CallsExitBus tx.input input) : selectorOf input ≠ SUBMIT_REPORT_DATA_SELECTOR := by
  obtain ⟨tx', s₁', input', _, loaded', exitBus', requests, _⟩ := commits
  rw [loaded] at loaded'
  cases loaded'
  have same := (exitBusInput_ok.mpr exitBus).symm.trans (exitBusInput_ok.mpr exitBus')
  cases same
  rw [requests]
  decide

/-- **When the letter case does not matter.** Of the oracles it never does; of the hashes it does for a
transaction that needs its own among them. -/
theorem recased_iff (v : Verifier ρ) (oracles hashes : List String)
    (recased : Recased v.ORACLE_ADDRESSES_ALLOWLIST oracles)
    (validatorPubkey transactionHash : String) (toBlock : JsNumber) (s : v.State) :
    (Resolves (v.verifyEvent validatorPubkey transactionHash toBlock) s ↔
      Resolves ((v.withAllowlists oracles hashes).verifyEvent validatorPubkey transactionHash toBlock) s) ↔
    (v.CommitsToExit validatorPubkey transactionHash s →
      (toLowerCase transactionHash ∈ v.SUBMIT_TX_HASH_ALLOWLIST ↔
        toLowerCase transactionHash ∈ hashes)) := by
  have other := resolves_verifyEvent (v.withAllowlists oracles hashes) validatorPubkey transactionHash toBlock s
  rw [verifyOracleEvent_recased recased] at other
  have commits : (v.withAllowlists oracles hashes).CommitsToExit validatorPubkey transactionHash s ↔
      v.CommitsToExit validatorPubkey transactionHash s := Iff.rfl
  rw [resolves_verifyEvent, other, commits]
  constructor
  · intro same found
    constructor
    · intro listed
      rcases same.mp (.inr ⟨found, listed⟩) with ⟨_, _, _, _, _, loaded, exitBus, report, _⟩ |
        ⟨_, listed⟩
      · exact absurd report (found.not_report loaded exitBus)
      · exact listed
    · intro listed
      rcases same.mpr (.inr ⟨found, listed⟩) with ⟨_, _, _, _, _, loaded, exitBus, report, _⟩ |
        ⟨_, listed⟩
      · exact absurd report (found.not_report loaded exitBus)
      · exact listed
  · intro same
    exact or_congr Iff.rfl (and_congr_right same)

end Recased

end Verifier

/-! ### Recorded events -/

namespace OracleFixture

/-- The oracle may be listed with its checksum. -/
theorem recased_signer :
    Resolves ((verifier (.lru 50) consensusAddress).verifyEvent ORACLE_VALIDATOR_PUBKEY
      ORACLE_SUBMIT_REPORT_DATA_TX (.int 0x855ad2)) ((verifier (.lru 50) consensusAddress).fresh ()) ↔
    Resolves (((verifier (.lru 50) consensusAddress).withAllowlists [signer] []).verifyEvent
      ORACLE_VALIDATOR_PUBKEY ORACLE_SUBMIT_REPORT_DATA_TX (.int 0x855ad2))
        ((verifier (.lru 50) consensusAddress).fresh ()) := by
  have recased : Recased [ORACLE_ADDRESS] [signer] := .cons (by decide +kernel) .nil
  exact (Verifier.recased_iff (verifier (.lru 50) consensusAddress) [signer] [] recased _ _ _ _).mpr
    fun _ => Iff.rfl

end OracleFixture

namespace HoodiFixture

/-- The hash in capitals. -/
def capitals : String := "0x45AF2D8FB225B6C58168A4FA92D812ED8F88A67CDF28E352680DD777C2E44C59"

/-- The fixture's verifier, and its transaction in it. -/
theorem commitsToExit_submitTx : (verifier []).CommitsToExit HOODI_EXIT_VALIDATOR_PUBKEY
    HOODI_SUBMIT_EXIT_REQUESTS_DATA_TX ((verifier []).fresh ()) := by
  have direct : selectorOf submitTx.input ≠ EXECUTE_SELECTOR := by
    show selectorOf HOODI_SUBMIT_EXIT_REQUESTS_DATA_INPUT ≠ _
    rw [selectorOf_input]
    decide
  obtain ⟨s', served⟩ := Verifier.getTransaction_of_answer (v := verifier [])
      (s := (verifier []).fresh ())
    rfl node_serves (txDTO_toJson submitTx)
  exact ⟨submitTx, s', submitTx.input, requestsData, served, .inl ⟨direct, rfl⟩, selectorOf_input,
    hashesTo_submitTx, recordedValue_cons, mentionsPubkey_requestsData⟩

/-- **The transaction is not accepted when its hash is listed in capitals.** -/
theorem not_recased : ¬ ∀ (ρ : Type) (v : Verifier ρ) (oracles hashes : List String),
    Recased v.ORACLE_ADDRESSES_ALLOWLIST oracles → Recased v.SUBMIT_TX_HASH_ALLOWLIST hashes →
    ∀ (validatorPubkey transactionHash : String) (toBlock : JsNumber) (s : v.State),
      Resolves (v.verifyEvent validatorPubkey transactionHash toBlock) s ↔
        Resolves ((v.withAllowlists oracles hashes).verifyEvent validatorPubkey transactionHash toBlock) s := by
  intro claim
  have same := claim Unit (verifier []) [] [capitals] .nil (.cons (by decide +kernel) .nil)
    HOODI_EXIT_VALIDATOR_PUBKEY HOODI_SUBMIT_EXIT_REQUESTS_DATA_TX (.int 0) ((verifier []).fresh ())
  have lower : toLowerCase HOODI_SUBMIT_EXIT_REQUESTS_DATA_TX = HOODI_SUBMIT_EXIT_REQUESTS_DATA_TX := by
    decide +kernel
  rw [Verifier.resolves_verifyEvent, Verifier.resolves_verifyEvent] at same
  rcases same.mp (.inr ⟨commitsToExit_submitTx, by rw [lower]; exact List.mem_singleton_self _⟩) with
    ⟨_, _, _, _, _, loaded, exitBus, report, _⟩ | ⟨_, listed⟩
  · exact commitsToExit_submitTx.not_report loaded exitBus report
  · rw [lower] at listed
    exact absurd (List.mem_singleton.mp listed) (by decide)

end HoodiFixture

end ValidatorEjector
