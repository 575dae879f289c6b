/-
**The oracle transactions of the exit-log fixtures.**

A member of the oracle called `submitReport`, which reached consensus, and then `submitReportData`.

* `report`, `finalTx`, `originTx`, `consensusReachedLog` — the recorded data; `recording`, what the library
  computes on it.
* `config`, `chain` — a verifier with any consensus address, over a node that serves the data.
* `verifyEvent_recorded` — the exit request is accepted, whatever the cache keeps, and whatever address the
  consensus contract has.
-/

import ValidatorEjector.ExitLogs.Flaky
import ValidatorEjector.Recorded

namespace ValidatorEjector

open Js Hex Library Library.Program

namespace OracleFixture

open HoodiFixture (digits)

def ORACLE_ADDRESS : String := "0x7ee534a6081d57afb25b5cff627d4d26217bb0e9"

/-- The same address, with its checksum. -/
def signer : String := "0x7eE534a6081d57AFB25b5Cff627d4d26217BB0E9"

def ORACLE_SUBMIT_REPORT_DATA_TX : String :=
  "0xa61ee81e25ba52d6d970be34afc72fddd04712b5ab72918dd064bf3afae36151"

def ORACLE_SUBMIT_REPORT_TX : String :=
  "0x5ed7945d37bbee8f0ecb68b5f9d7b2843bfaf8da66431ae4638c31c9bdadf176"

def ORACLE_VALIDATOR_PUBKEY : String :=
  "0xab50ef06a0e48d9edf43e052f20dc912e0ba8d5b3f07051b6f2a13b094087f791af79b2780d395444a57e258d838083a"

def exitBusAddress : String := "0xb75a55efab5a8f5224ae93b34b25741edd3da98b"

/-- The contract that `submitReport` was sent to. -/
def consensusAddress : String := "0x8374b4ac337d7e367ea1ef54bb29880c3f036a51"

/-- Another contract. -/
def otherAddress : String := "0x1111111111111111111111111111111111111111"

/-- One request: validator `0x55d94` of operator `0x29` of module `1`. -/
def report : Report where
  consensusVersion := 1
  refSlot := 0x50dfbf
  requestsCount := 1
  dataFormat := 1
  data := "0x0000010000000029" ++ "0000000000055d94" ++ digits ORACLE_VALIDATOR_PUBKEY

def reportHash : String := "0xe166591e85d2fbb507a6111cdb8b9f23e093202254b10a2a334f8b4f35f5d3a8"

/-- The fields of the report as ABI words. -/
def reportWords : String :=
  word 1 ++ word 0x50dfbf ++ word 1 ++ word 1 ++ word 0xa0 ++ word 0x40 ++ digits report.data

@[irreducible] def encodedReport : String := "0x" ++ word 0x20 ++ reportWords

@[irreducible] def submitReportDataInput : String :=
  SUBMIT_REPORT_DATA_SELECTOR ++ (word 0x40 ++ word 1 ++ reportWords)

@[irreducible] def submitReportInput : String :=
  SUBMIT_REPORT_SELECTOR ++ (word 0x50dfbf ++ digits reportHash ++ word 1)

def finalTx : Tx where
  «from» := ORACLE_ADDRESS
  gas := "0x1f8d4"
  gasPrice := some "0x1353627781"
  maxFeePerGas := some "0x28373c05f4"
  maxPriorityFeePerGas := some "0x15752a00"
  hash := ORACLE_SUBMIT_REPORT_DATA_TX
  input := submitReportDataInput
  nonce := "0xa2"
  «to» := exitBusAddress
  value := "0x0"
  type := "0x2"
  chainId := "0x5"
  v := "0x0"
  r := "0x11835aa656583cf2000b97f11a31d7ad9feab703267db724fb50ffb9d3e571e8"
  s := "0x4b5612dcd9218d337520eb9d7aa4dcae3ac0438bfbbe90d8e0a36d14713da1c2"

def originTx : Tx where
  «from» := ORACLE_ADDRESS
  gas := "0x1a3a4"
  gasPrice := some "0x1385e0747f"
  maxFeePerGas := some "0x27fdeae104"
  maxPriorityFeePerGas := some "0x15752a00"
  hash := ORACLE_SUBMIT_REPORT_TX
  input := submitReportInput
  nonce := "0xa1"
  «to» := consensusAddress
  value := "0x0"
  type := "0x2"
  chainId := "0x5"
  v := "0x0"
  r := "0x5e6ea6f5e19667ab4bed8d12cef874d68f95318cb6c196676a8a363c64f66b31"
  s := "0x1d7c48feb50382b165263d4ca8f660384b5981b5e8da652811a55f8d7a7542ad"

def originFields : TransactionFields where
  gasLimit := 0x1a3a4
  data := submitReportInput
  nonce := .int 0xa1
  «to» := consensusAddress
  value := 0
  type := .int 2
  chainId := .int 5
  fee := .maxFee 0x27fdeae104 0x15752a00

def originSignature : Signature := ⟨originTx.r, originTx.s, .int 0⟩

/-- The payload of the serialization, up to the signature. -/
def payload : String :=
  "05" ++ "81a1" ++ "8415752a00" ++ "8527fdeae104" ++ "8301a3a4" ++ "94" ++ digits consensusAddress ++ "80"
    ++ "b864" ++ digits submitReportInput ++ "c0"

@[irreducible] def serialized : String :=
  "0x02f8d2" ++ payload ++ "80" ++ "a0" ++ digits originTx.r ++ "a0" ++ digits originTx.s

@[irreducible] def unsigned : String := "0x02f88f" ++ payload

def unsignedHash : String := "0xc88e4af272e722e379a087ffb24eb3186fff146351eddcc8dd420b06ae9f7e81"

@[irreducible] def joinedSignature : String := originTx.r ++ digits originTx.s ++ "1b"

def consensusReachedLog : Log where
  topics := [consensusReachedTopic, "0x" ++ word 0x50dfbf]
  data := reportHash ++ word 2
  blockNumber := "0x855acc"
  transactionHash := ORACLE_SUBMIT_REPORT_TX

def recording : Recording where
  keccak256 := [(encodedReport, reportHash), (serialized, ORACLE_SUBMIT_REPORT_TX),
    (unsigned, unsignedHash)]
  encode := [(report, encodedReport)]
  serializeTransaction :=
    [((originFields, some originSignature), serialized), ((originFields, none), unsigned)]
  joinSignature := [(originSignature, joinedSignature)]
  recoverAddress := [((unsignedHash, joinedSignature), signer)]
  decodeSubmitReportData := [(submitReportDataInput, report)]
  decodeSubmitExitRequestsData := []
  decodeSubmitReport := [(submitReportInput, ⟨0x50dfbf, reportHash, 1⟩)]
  parseConsensusReached := [(consensusReachedLog, reportHash)]
  parseValidatorExitRequest := []

/-- A verifier that trusts the member, with the consensus contract at the address. -/
def config (consensusAddress : String) : FetcherConfig where
  ethers := .recorded recording
  exitBusAddress? := some exitBusAddress
  consensusAddress? := some consensusAddress
  LOAD_LOGS_STEP := Nat.succPNat 9999
  ORACLE_ADDRESSES_ALLOWLIST := [ORACLE_ADDRESS]
  SUBMIT_TX_HASH_ALLOWLIST := []
  TRUST_MODE := false

/-- The served transaction. -/
def transaction (transactionHash : String) : Option Tx :=
  [finalTx, originTx].find? fun tx => tx.hash = transactionHash

/-- The answer to `eth_getTransactionByHash`. -/
def answer (transactionHash : String) : Except Failure Json :=
  match transaction transactionHash with
  | some tx => .ok (resultJson tx.toJson)
  | none => unrecorded

theorem answer_finalTx : answer ORACLE_SUBMIT_REPORT_DATA_TX = .ok (resultJson finalTx.toJson) := by
  have found : transaction ORACLE_SUBMIT_REPORT_DATA_TX = some finalTx :=
    List.find?_cons_of_pos (decide_eq_true rfl)
  unfold answer
  rw [found]

theorem answer_originTx : answer ORACLE_SUBMIT_REPORT_TX = .ok (resultJson originTx.toJson) := by
  have other : decide (finalTx.hash = ORACLE_SUBMIT_REPORT_TX) = false :=
    decide_eq_false (show ORACLE_SUBMIT_REPORT_DATA_TX ≠ ORACLE_SUBMIT_REPORT_TX by decide)
  have found : transaction ORACLE_SUBMIT_REPORT_TX = some originTx := by
    unfold transaction
    rw [List.find?_cons, other]
    exact List.find?_cons_of_pos (decide_eq_true rfl)
  unfold answer
  rw [found]

theorem hash_of_answer {transactionHash : String} {json : Json} {tx : Tx}
    (served : answer transactionHash = .ok json) (parsed : txDTO json = .ok tx) :
    tx.hash = transactionHash := by
  unfold answer at served
  cases found : transaction transactionHash with
  | none => rw [found] at served; cases served
  | some known =>
    rw [found] at served
    cases served
    rw [txDTO_toJson] at parsed
    cases parsed
    unfold transaction at found
    have same := List.find?_some found
    exact of_decide_eq_true same

/-- A node that serves the two transactions, and the log to every `eth_getLogs`. -/
def chain : ChainData where
  el
    | .eth_getTransactionByHash transactionHash => answer transactionHash
    | .eth_getLogs _ _ _ _ => .ok (resultJson (.array [consensusReachedLog.toJson]))
  cl _ := unrecorded
  hash_of_served := hash_of_answer

/-- The verifier over the node. -/
abbrev verifier (caches : CachePolicy String) (consensusAddress : String) : Verifier Unit :=
  (config consensusAddress).verifier caches fun r => ofResult (chain.el r)

/-! ### The transaction that reached consensus -/

/-- The first characters of a text that goes on. -/
theorem take_append {head rest : String} (n : Nat) (long : n ≤ head.toList.length) :
    (head ++ rest).toList.take n = head.toList.take n := by
  rw [String.toList_append, List.take_append_of_le_length long]

theorem take_encodedReport : encodedReport.toList.take 8 = "0x000000".toList := by
  unfold encodedReport
  rw [take_append 8 (by decide +kernel)]
  decide +kernel

theorem take_serialized : serialized.toList.take 8 = "0x02f8d2".toList := by
  unfold serialized
  simp only [String.append_assoc]
  rw [take_append 8 (by decide)]
  decide

theorem take_unsigned : unsigned.toList.take 8 = "0x02f88f".toList := by
  unfold unsigned
  rw [take_append 8 (by decide)]
  decide

/-- Texts that start differently differ. -/
theorem ne_of_take {first second : String} (other : first.toList.take 8 ≠ second.toList.take 8) :
    first ≠ second := by
  rintro rfl
  exact other rfl

theorem encode_report : (Ethers.recorded recording).encode report = encodedReport := by
  unfold Ethers.recorded recording
  dsimp only
  rw [List.lookup_cons_self]
  rfl

theorem keccak256_encodedReport : (Ethers.recorded recording).keccak256 encodedReport = reportHash := by
  unfold Ethers.recorded recording
  dsimp only
  rw [List.lookup_cons_self]
  rfl

theorem keccak256_serialized :
    (Ethers.recorded recording).keccak256 serialized = ORACLE_SUBMIT_REPORT_TX := by
  have other : serialized ≠ encodedReport := by
    refine ne_of_take ?_
    rw [take_serialized, take_encodedReport]
    decide
  unfold Ethers.recorded recording
  dsimp only
  rw [List.lookup_cons, beq_false_of_ne other, List.lookup_cons_self]
  rfl

theorem keccak256_unsigned : (Ethers.recorded recording).keccak256 unsigned = unsignedHash := by
  have other : unsigned ≠ encodedReport := by
    refine ne_of_take ?_
    rw [take_unsigned, take_encodedReport]
    decide
  have signed : unsigned ≠ serialized := by
    refine ne_of_take ?_
    rw [take_unsigned, take_serialized]
    decide
  unfold Ethers.recorded recording
  dsimp only
  rw [List.lookup_cons, beq_false_of_ne other, List.lookup_cons, beq_false_of_ne signed,
    List.lookup_cons_self]
  rfl

theorem prepareTransactionData_originTx :
    prepareTransactionData (.recorded recording) originTx = .ok originFields := by
  have type : Number "0x2" = .int 2 ∧ parseInt "0x2" = .int 2 := by decide +kernel
  have nonce : parseInt "0xa1" = .int 0xa1 := by decide +kernel
  have chainId : parseInt "0x5" = .int 5 := by decide +kernel
  have modern : originTx.isLegacyTx = false := by
    unfold Tx.isLegacyTx originTx
    rw [type.1]
    rfl
  have prepared : prepareTransactionData (.recorded recording) originTx = _ :=
      prepareTransactionData_modern modern
    (recorded_text 0x1a3a4 (by decide +kernel))
    (recorded_text 0 (by decide +kernel))
    (recorded_text 0x27fdeae104 (by decide +kernel))
    (recorded_text 0x15752a00 (by decide +kernel))
  rw [prepared]
  unfold originTx
  dsimp only
  rw [nonce, chainId, type.2]
  rfl

theorem hashesTo_originTx : originTx.HashesTo (.recorded recording) ORACLE_SUBMIT_REPORT_TX := by
  have v : Number "0x0" = .int 0 := by decide +kernel
  have signature : (⟨originTx.r, originTx.s, Number originTx.v⟩ : Signature) = originSignature := by
    unfold originSignature
    rw [← v]
    rfl
  refine ⟨ORACLE_SUBMIT_REPORT_TX, ?_, rfl⟩
  refine except_bind_ok.mpr ⟨originFields, prepareTransactionData_originTx,
    except_bind_ok.mpr ⟨serialized, ?_, ?_⟩⟩
  · rw [signature]
    exact recordedValue_cons
  · rw [keccak256_serialized]
    rfl

theorem serializeTransaction_unsigned : (Ethers.recorded recording).serializeTransaction originFields none
    = .ok unsigned := by
  have other : (originFields, none) ≠ (originFields, some originSignature) := fun same => by
    cases (Prod.mk.inj same).2
  show recordedValue recording.serializeTransaction (originFields, none) = _
  unfold recording
  dsimp only
  rw [recordedValue_cons_ne other]
  exact recordedValue_cons

theorem joinSignature_origin : (Ethers.recorded recording).joinSignature originSignature
    = .ok joinedSignature := by
  show recordedValue recording.joinSignature originSignature = _
  exact recordedValue_cons

theorem recoverAddress_unsigned : (Ethers.recorded recording).recoverAddress
    ((Ethers.recorded recording).keccak256 unsigned) joinedSignature = .ok signer := by
  rw [keccak256_unsigned]
  show recordedValue recording.recoverAddress (unsignedHash, joinedSignature) = _
  exact recordedValue_cons

theorem recoverAddress_originTx : recoverAddress (.recorded recording) originTx
    = .ok signer := by
  have v : parseInt "0x0" = .int 0 := by decide +kernel
  have signature : (⟨originTx.r, originTx.s, parseInt originTx.v⟩ : Signature) = originSignature := by
    unfold originSignature
    rw [← v]
    rfl
  refine except_bind_ok.mpr ⟨joinedSignature, ?_, except_bind_ok.mpr ⟨originFields,
    prepareTransactionData_originTx, except_bind_ok.mpr ⟨unsigned, serializeTransaction_unsigned,
      recoverAddress_unsigned⟩⟩⟩
  rw [signature]
  exact joinSignature_origin

theorem selectorOf_submitReportInput : selectorOf submitReportInput = SUBMIT_REPORT_SELECTOR := by
  unfold submitReportInput
  rw [selectorOf_append (by decide)]
  decide

theorem selectorOf_submitReportDataInput :
    selectorOf submitReportDataInput = SUBMIT_REPORT_DATA_SELECTOR := by
  unfold submitReportDataInput
  rw [selectorOf_append (by decide)]
  decide

theorem decodeSubmitReportData_input :
    (Ethers.recorded recording).decodeSubmitReportData submitReportDataInput = .ok report := by
  show recordedValue recording.decodeSubmitReportData submitReportDataInput = _
  exact recordedValue_cons

theorem mentionsPubkey_report : MentionsPubkey report.data ORACLE_VALIDATOR_PUBKEY := by
  unfold MentionsPubkey includes report
  rw [decide_eq_true_iff, String.toList_append]
  exact (List.suffix_append _ _).isInfix

section Verification

variable {caches : CachePolicy String} {address : String}

theorem library : (verifier caches address).el.ethers = .recorded recording := rfl

theorem reportHash_report : (verifier caches address).reportHash report = reportHash := by
  rw [Verifier.reportHash_of_library library, encode_report, keccak256_encodedReport]

theorem callsSubmitReport_originTx : (verifier caches address).CallsSubmitReport originTx.input
    ((verifier caches address).reportHash report) := by
  refine .inl ⟨selectorOf_submitReportInput, ⟨0x50dfbf, reportHash, 1⟩, ?_, reportHash_report.symm⟩
  show recordedValue recording.decodeSubmitReport submitReportInput = _
  exact recordedValue_cons

theorem signedByOracle_originTx : (verifier caches address).SignedByOracle originTx := by
  refine ⟨signer, ?_, ORACLE_ADDRESS, List.mem_singleton_self _, ?_⟩
  · rw [library]
    exact recoverAddress_originTx
  · decide +kernel

/-- The frame up to the event is one request, answered with the one log. -/
theorem consensusReachedLogs_recorded (isAddress : address.toList.length = 42)
    (s : (verifier caches address).State) :
    (verifier caches address).consensusReachedLogs (.int 0x855ad2) (toString report.refSlot) s
      = .ok [consensusReachedLog] s := by
  have slot : (Ethers.recorded recording).bigNumberFrom (.text (toString report.refSlot))
      = .ok 0x50dfbf := recorded_text _ (by decide +kernel)
  obtain ⟨topic, padded⟩ : ∃ topic, (Ethers.recorded recording).hexZeroPad
      ((Ethers.recorded recording).toHexString 0x50dfbf) 32 = .ok topic :=
    hexZeroPad_ok (Hex.toHexString 0x50dfbf) 32 (by decide +kernel)
  have first : JsNumber.sub (.int 0x855ad2) ORACLE_FRAME_BLOCKS = .int (8732338 : Nat) :=
    JsNumber.sub_int (by decide)
  have logs : ((config address).executionApi fun r =>
      (ofResult (chain.el r) : EStateM Failure Unit Json)).getLogs
      (.int (8732338 : Nat)) (.int (8739538 : Nat)) address [.one consensusReachedTopic,
        .one topic] s.node
        = .ok [consensusReachedLog] s.node :=
    getLogs_recorded rfl isAddress (by decide) (by decide)
      (show 8739538 < 8732338 + 10000 by decide) fun _ _ => rfl
  refine bind_ok.mpr ⟨address, s, rfl, bind_ok.mpr ⟨0x50dfbf, s, ofResult_ok.mpr ⟨slot, rfl⟩,
    bind_ok.mpr ⟨topic, s, ofResult_ok.mpr ⟨padded, rfl⟩, ?_⟩⟩⟩
  rw [first]
  exact Verifier.onNode_of_ok logs

theorem node_serves {transactionHash : String} {tx : Tx} {s : Unit}
    (served : answer transactionHash = .ok (resultJson tx.toJson)) :
    (verifier caches address).el.elRequest (.eth_getTransactionByHash transactionHash) s
      = .ok (resultJson tx.toJson) s := by
  show ofResult (answer transactionHash) s = _
  rw [served]
  rfl

/-- The lookup of the report, from an empty cache of lookups. -/
theorem looked (isAddress : address.toList.length = 42) (s : (verifier caches address).State)
    (empty : s.lruConsensusReachedLogsCache = caches.empty) : ∃ s',
    (verifier caches address).consensusReachedTransactionHash (.int 0x855ad2) (toString report.refSlot)
      ((verifier caches address).reportHash report) s = .ok ORACLE_SUBMIT_REPORT_TX s' ∧
    s'.lruTransactionCache = s.lruTransactionCache := by
  have unknown {key : String} :
      missing (caches.get key s.lruConsensusReachedLogsCache).1 = true := by
    rw [empty, CachePolicy.get_unheld fun _ => caches.not_holds_empty]
    rfl
  have parsed : (verifier caches address).reachedReports [consensusReachedLog]
      = .ok [(ORACLE_SUBMIT_REPORT_TX, reportHash)] := by
    unfold Verifier.reachedReports
    rw [List.mapM_cons]
    refine except_bind_ok.mpr ⟨_, except_bind_ok.mpr ⟨reportHash, ?_, rfl⟩, rfl⟩
    show recordedValue recording.parseConsensusReached consensusReachedLog = _
    exact recordedValue_cons
  have found : ([(ORACLE_SUBMIT_REPORT_TX, reportHash)].find? fun event : String × String =>
      event.2 = (verifier caches address).reportHash report) =
        some (ORACLE_SUBMIT_REPORT_TX, reportHash) := by
    rw [reportHash_report]
    exact List.find?_cons_of_pos (decide_eq_true rfl)
  exact ⟨_, Verifier.consensusReached_answered _ _ _ unknown (consensusReachedLogs_recorded isAddress _)
    parsed found, rfl⟩

/-- **The three loads of the verification**, from empty caches. -/
theorem loads (caches : CachePolicy String) (isAddress : address.toList.length = 42) : ∃ s₁ s₂ s',
    (verifier caches address).getTransaction ORACLE_SUBMIT_REPORT_DATA_TX
      ((verifier caches address).fresh ()) = .ok finalTx s₁ ∧
    (verifier caches address).consensusReachedTransactionHash (.int 0x855ad2) (toString report.refSlot)
      ((verifier caches address).reportHash report) s₁ = .ok ORACLE_SUBMIT_REPORT_TX s₂ ∧
    (verifier caches address).getTransaction ORACLE_SUBMIT_REPORT_TX s₂ = .ok originTx s' := by
  have final : (verifier caches address).getTransaction ORACLE_SUBMIT_REPORT_DATA_TX _ = _ :=
    Verifier.getTransaction_answered (s := (verifier caches address).fresh ())
      (CachePolicy.get_unheld fun _ => CachePolicy.not_holds_empty _) (node_serves answer_finalTx)
      (txDTO_toJson finalTx)
  obtain ⟨s₂, reached, same⟩ := looked isAddress
    ⟨caches.set finalTx.hash finalTx (caches.get ORACLE_SUBMIT_REPORT_DATA_TX caches.empty).2,
      caches.empty, ()⟩ rfl
  have unknown : (caches.get ORACLE_SUBMIT_REPORT_TX s₂.lruTransactionCache).1 = none := by
    rw [same]
    refine CachePolicy.get_unheld fun tx held => ?_
    rcases caches.set_holds held with ⟨other, _⟩ | held
    · exact absurd other (show ORACLE_SUBMIT_REPORT_TX ≠ ORACLE_SUBMIT_REPORT_DATA_TX by decide)
    · exact caches.not_holds_empty (caches.get_keeps held)
  exact ⟨_, s₂, _, final, reached,
    Verifier.getTransaction_answered unknown (node_serves answer_originTx) (txDTO_toJson originTx)⟩

/-- **The recorded exit request is accepted**, wherever the consensus contract is. -/
theorem verifyEvent_recorded (caches : CachePolicy String) (isAddress : address.toList.length = 42) :
    ∃ s',
    (verifier caches address).verifyEvent ORACLE_VALIDATOR_PUBKEY ORACLE_SUBMIT_REPORT_DATA_TX
      (.int 0x855ad2) ((verifier caches address).fresh ()) = .ok () s' := by
  obtain ⟨s₁, s₂, s', final, reached, origin⟩ := loads caches isAddress
  have direct : selectorOf submitReportDataInput ≠ EXECUTE_SELECTOR := by
    rw [selectorOf_submitReportDataInput]
    decide
  have oracle := Verifier.verifyOracleEvent_ok.mpr ⟨mentionsPubkey_report, ORACLE_SUBMIT_REPORT_TX, s₂,
    originTx, reached, origin, hashesTo_originTx, callsSubmitReport_originTx, signedByOracle_originTx⟩
  exact ⟨s', Verifier.verifyEvent_ok.mpr ⟨finalTx, s₁, submitReportDataInput, final, .inl ⟨direct, rfl⟩,
    .inl ⟨selectorOf_submitReportDataInput, report, decodeSubmitReportData_input, oracle⟩⟩⟩

end Verification

end OracleFixture

end ValidatorEjector
