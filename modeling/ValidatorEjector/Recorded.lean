/-
**`ethers` and an execution node with recorded answers.**

The arithmetic helpers are the documented ones of `Hex`. Hashing, serialization, signatures and decoding
answer from a `Recording`, the table of what the library computes on the transactions of a test; off the
table they throw, or return an empty text.

* `Tx.toJson`, `Log.toJson` — transactions and logs as a node serves them; `txDTO_toJson`,
  `logsDTO_toJson` read them back.
* `ConsensusApi.reporting` — a consensus node with fixed validators.
* `Recording`, `Ethers.recorded` — the tables, and the library that answers from them.
* `HoodiFixture` — the `submitExitRequestsData` transaction of the fetcher's fixtures;
  `verifyEvent_submitTx`, its verification over any node that serves it, and `loadEvents_served`, the
  loading of served logs.
-/

import ValidatorEjector.ExitLogs.Checks
import ValidatorEjector.ExitLogs.Fetcher
import ValidatorEjector.Hex

namespace ValidatorEjector

open Js Hex Library Library.Program Validator

/-! ### Served values -/

section Served

/-- An object with text members. -/
def textObject (members : List (String × String)) : Json :=
  .object (members.map fun member => (member.1, .string member.2))

/-- A served transaction. -/
def Tx.toJson (tx : Tx) : Json :=
  let optionals := [("gasPrice", tx.gasPrice), ("maxFeePerGas", tx.maxFeePerGas),
    ("maxPriorityFeePerGas", tx.maxPriorityFeePerGas)]
  textObject ([("from", tx.from), ("gas", tx.gas), ("hash", tx.hash), ("input", tx.input),
    ("nonce", tx.nonce), ("to", tx.to), ("value", tx.value), ("type", tx.type),
    ("chainId", tx.chainId), ("v", tx.v), ("r", tx.r), ("s", tx.s)] ++
    optionals.filterMap fun member => member.2.map fun text => (member.1, text))

/-- A served log. -/
def Log.toJson (log : Log) : Json :=
  .object [("topics", .array (log.topics.map .string)), ("data", .string log.data),
    ("blockNumber", .string log.blockNumber), ("transactionHash", .string log.transactionHash)]

/-- The answer with a result. -/
def resultJson (result : Json) : Json := .object [("result", result)]

theorem txDTO_toJson (tx : Tx) : txDTO (resultJson tx.toJson) = .ok tx := by
  obtain ⟨sender, gas, gasPrice, maxFee, maxPriorityFee, rest⟩ := tx
  cases gasPrice <;> cases maxFee <;> cases maxPriorityFee <;> rfl

theorem Log.parse_toJson (log : Log) : Log.parse log.toJson = .ok log := by
  have topics : (log.topics.map Json.string).mapM (fun topic => str (some topic))
      = .ok log.topics := mapM_map_ok (g := Json.string) (fun _ => rfl) _
  show obj (some log.toJson) _ = _
  refine obj_ok.mpr ⟨_, rfl, except_bind_ok.mpr ⟨log.topics, ?_, rfl⟩⟩
  exact arr_ok.mpr ⟨_, rfl, topics⟩

theorem logsDTO_toJson (logs : List Log) :
    logsDTO (resultJson (.array (logs.map Log.toJson))) = .ok logs :=
  obj_ok.mpr ⟨_, rfl, arr_ok.mpr ⟨_, rfl, mapM_map_ok Log.parse_toJson logs⟩⟩

/-- The answer to `eth_getLogs` of a node with the logs, each at its block. Bounds that are no quantities are
refused. -/
def answerRange (logs : List (Nat × Log)) (fromBlock toBlock : String) : Json :=
  match quantity? fromBlock, quantity? toBlock with
  | some first, some last => resultJson (.array ((logs.filter fun log =>
      first ≤ log.1 ∧ log.1 ≤ last).map fun log => log.2.toJson))
  | _, _ => .object [("error", .string "invalid argument")]

theorem answerRange_quantity (logs : List (Nat × Log)) (first last : Nat) :
    answerRange logs (quantity first) (quantity last) = resultJson (.array (((logs.filter fun log =>
      first ≤ log.1 ∧ log.1 ≤ last).map Prod.snd).map Log.toJson)) := by
  unfold answerRange
  rw [quantity?_quantity, quantity?_quantity, List.map_map]
  rfl

theorem answerRange_refused {logs : List (Nat × Log)} {fromBlock toBlock : String}
    (refused : quantity? fromBlock = none) :
    answerRange logs fromBlock toBlock = .object [("error", .string "invalid argument")] := by
  unfold answerRange
  rw [refused]

/-- A served validator. -/
def ValidatorData.toJson (v : ValidatorData) : Json :=
  .object [("index", .string v.index), ("status", .string v.status),
    ("validator", textObject [("pubkey", v.validator.pubkey), ("exit_epoch", v.validator.exit_epoch)])]

/-- The answer with served validators. -/
def validatorsJson (vs : List ValidatorData) : Json :=
  .object [("data", .array (vs.map ValidatorData.toJson))]

theorem validatorsBatchDTO_toJson (vs : List ValidatorData) :
    validatorsBatchDTO (validatorsJson vs) = .ok vs :=
  obj_ok.mpr ⟨_, rfl, mapM_map_ok (g := ValidatorData.toJson) (fun _ => rfl) vs⟩

/-- A consensus node that reports the same validators to every request. -/
def ConsensusApi.reporting (vs : List ValidatorData) : ConsensusApi Unit where
  clRequest _ := pure (validatorsJson vs)

theorem fetchBatch_reporting {vs : List ValidatorData} {tag : String} {batch : List String} {s : Unit} :
    (ConsensusApi.reporting vs).fetchBatch tag batch s = .ok vs s :=
  bind_ok.mpr ⟨_, s, rfl, ofResult_ok.mpr ⟨validatorsBatchDTO_toJson vs, rfl⟩⟩

end Served

/-! ### Recordings -/

/-- What a recording does not know. -/
def unrecorded {α : Type} : Except Failure α := .error (.error "not recorded")

/-- The recorded value, if there is one. -/
def recordedValue {α β : Type} [DecidableEq α] (table : List (α × β)) (a : α) : Except Failure β :=
  match table.lookup a with
  | some b => .ok b
  | none => unrecorded

theorem recordedValue_cons {α β : Type} [DecidableEq α] {table : List (α × β)} {a : α} {b : β} :
    recordedValue ((a, b) :: table) a = .ok b := by
  unfold recordedValue
  rw [List.lookup_cons_self]

theorem recordedValue_cons_ne {α β : Type} [DecidableEq α] {table : List (α × β)} {a c : α} {b : β}
    (other : a ≠ c) : recordedValue ((c, b) :: table) a = recordedValue table a := by
  unfold recordedValue
  rw [List.lookup_cons, beq_false_of_ne other]

/-- The tables of a recording. -/
structure Recording where
  keccak256 : List (String × String)
  encode : List (Report × String)
  serializeTransaction : List ((TransactionFields × Option Signature) × String)
  joinSignature : List (Signature × String)
  recoverAddress : List ((String × String) × String)
  decodeSubmitReportData : List (String × Report)
  decodeSubmitExitRequestsData : List (String × ExitRequestsData)
  decodeSubmitReport : List (String × SubmitReport)
  parseConsensusReached : List (Log × String)
  parseValidatorExitRequest : List (Log × ExitRequestArgs)

/-- The library with the recorded answers. -/
def Ethers.recorded (recording : Recording) : Ethers where
  bigNumberFrom := Hex.bigNumberFrom
  toHexString := Hex.toHexString
  toNumber n := if n ≤ MAX_SAFE then .ok n else .error (.error "overflow")
  hexStripZeros := Hex.hexStripZeros
  hexZeroPad := Hex.hexZeroPad
  isAddress address := address.toList.length = 42
  keccak256 data := (recording.keccak256.lookup data).getD ""
  encode report := (recording.encode.lookup report).getD ""
  serializeTransaction fields signature :=
    recordedValue recording.serializeTransaction (fields, signature)
  joinSignature := recordedValue recording.joinSignature
  recoverAddress digest signature := recordedValue recording.recoverAddress (digest, signature)
  decodeSubmitReportData := recordedValue recording.decodeSubmitReportData
  decodeSubmitExitRequestsData := recordedValue recording.decodeSubmitExitRequestsData
  decodeSubmitReport := recordedValue recording.decodeSubmitReport
  decodeExecute _ := unrecorded
  parseConsensusReached := recordedValue recording.parseConsensusReached
  parseValidatorExitRequest := recordedValue recording.parseValidatorExitRequest

theorem documented_recorded (recording : Recording) : (Ethers.recorded recording).Documented :=
  ⟨rfl, rfl, rfl, rfl⟩

theorem recorded_text {recording : Recording} {text : String} (z : Int) (read : integer? text = some z) :
    (Ethers.recorded recording).bigNumberFrom (.text text) = .ok z := bigNumberFrom_text read

section Requests

variable {ρ : Type} {el : ExecutionApi ρ} {recording : Recording} {address : String} {logs : List Log}
  {first last : Nat} {s s' : ρ}

/-- A range of one turn is one request. -/
theorem getLogs_recorded (library : el.ethers = .recorded recording)
    (isAddress : address.toList.length = 42) (ordered : first ≤ last) (safe : last < MAX_SAFE)
    (short : last < first + (el.LOAD_LOGS_STEP : Nat)) {topics : List Topic}
    (served : ∀ fromBlock toBlock, el.elRequest (.eth_getLogs fromBlock toBlock address topics) s
      = .ok (resultJson (.array (logs.map Log.toJson))) s') :
    el.getLogs (.int first) (.int last) address topics s = .ok logs s' := by
  have valid : el.ethers.isAddress address = true := by
    rw [library]
    exact decide_eq_true isAddress
  have number (block : Nat) (small : block < MAX_SAFE) :
      el.ethers.bigNumberFrom (.number (.int block)) = .ok (block : Int) := by
    rw [library]
    show (if (block : Int).natAbs < MAX_SAFE then _ else _) = _
    rw [if_pos (by omega)]
  have one : el.getLogsBetween address topics (.int first, .int last) s = .ok logs s' := by
    unfold ExecutionApi.getLogsBetween ExecutionApi.quantity
    dsimp only
    rw [number first (by omega), number last safe]
    refine bind_ok.mpr ⟨_, s, rfl, bind_ok.mpr ⟨_, s, rfl, bind_ok.mpr ⟨_, s', served _ _, ?_⟩⟩⟩
    exact ofResult_ok.mpr ⟨logsDTO_toJson logs, rfl⟩
  have turn : turns el.LOAD_LOGS_STEP (.int first) (.int last) = [(.int first, .int last)] := by
    rw [turns_int, Windows.windows_short (by omega) (by omega)]
    rfl
  unfold ExecutionApi.getLogs
  rw [if_neg (by simp), if_neg (by simp), if_neg (by simpa using ordered), if_neg (by simp [valid]),
    turn, collect_cons_ok]
  exact ⟨_, s', [], one, rfl, (List.append_nil _).symm⟩

end Requests

/-! ### The exit requests of the fetcher's Hoodi fixtures -/

namespace HoodiFixture

/-- The digits of a hexadecimal text. -/
def digits (hex : String) : String := sliceFrom hex 2

def HOODI_SUBMIT_EXIT_REQUESTS_DATA_TX : String :=
  "0x45af2d8fb225b6c58168a4fa92d812ed8f88a67cdf28e352680dd777c2e44c59"

def HOODI_EXIT_VALIDATOR_PUBKEY : String :=
  "0x93fa9b2007bdea9ea3b2a06a612efeedb5c90392e43ceb8b4278fd79435fe8ff47b8499d590027b86eceab9693ec3a77"

def exitBusAddress : String := "0x8664d394c2b3278f26a1b44b967aef99707eeab2"

/-- One request: validator `0x125731` of operator `0x26` of module `1`. -/
def requestsData : ExitRequestsData where
  data := "0x0000010000000026" ++ "0000000000125731" ++ digits HOODI_EXIT_VALIDATOR_PUBKEY
  dataFormat := 1

@[irreducible] def HOODI_SUBMIT_EXIT_REQUESTS_DATA_INPUT : String :=
  SUBMIT_EXIT_REQUESTS_DATA_SELECTOR ++
    (word 0x20 ++ word 0x40 ++ word 1 ++ word 0x40 ++ digits requestsData.data)

def submitTx : Tx where
  «from» := "0x98255c8d4bd6d964e58e7ba91457ff2947306345"
  gas := "0xe980"
  gasPrice := some "0x439de189"
  maxFeePerGas := some "0x7f59c369"
  maxPriorityFeePerGas := some "0x2978891"
  hash := HOODI_SUBMIT_EXIT_REQUESTS_DATA_TX
  input := HOODI_SUBMIT_EXIT_REQUESTS_DATA_INPUT
  nonce := "0x2a"
  «to» := exitBusAddress
  value := "0x0"
  type := "0x2"
  chainId := "0x88bb0"
  v := "0x0"
  r := "0x9c8fd3e84b7298e1b60ec728fea0f6ae004020b919890b535e03a01731d03ec3"
  s := "0x68ed3b316b2712c3943ec8d2e8c479909ad13a9f42eda5cae1de64fb61258ffe"

def submitFields : TransactionFields where
  gasLimit := 0xe980
  data := HOODI_SUBMIT_EXIT_REQUESTS_DATA_INPUT
  nonce := .int 0x2a
  «to» := exitBusAddress
  value := 0
  type := .int 2
  chainId := .int 0x88bb0
  fee := .maxFee 0x7f59c369 0x2978891

def submitSignature : Signature := ⟨submitTx.r, submitTx.s, .int 0⟩

/-- The signed serialization. -/
@[irreducible] def serialized : String :=
  "0x02f90132" ++ "83088bb0" ++ "2a" ++ "8402978891" ++ "847f59c369" ++ "82e980" ++ "94"
    ++ digits exitBusAddress ++ "80" ++ "b8c4" ++ digits HOODI_SUBMIT_EXIT_REQUESTS_DATA_INPUT
    ++ "c0" ++ "80" ++ "a0" ++ digits submitTx.r ++ "a0" ++ digits submitTx.s

/-- A log of `ValidatorExitRequest`. -/
def exitRequestLog (validatorIndex : Nat) (validatorPubkey transactionHash : String) : Log where
  topics := [validatorExitRequestTopic, "0x" ++ word 1, "0x" ++ word 0x26, "0x" ++ word validatorIndex]
  data := "0x" ++ word 0x40 ++ word 1763148708 ++ word 0x30 ++ digits validatorPubkey
    ++ "00000000000000000000000000000000"
  blockNumber := "0x18bd75"
  transactionHash := transactionHash

/-- What the log is parsed to. -/
def exitRequestArgs (validatorIndex : Nat) (validatorPubkey : String) : ExitRequestArgs :=
  ⟨1, 0x26, validatorIndex, validatorPubkey⟩

def recording (parseValidatorExitRequest : List (Log × ExitRequestArgs)) : Recording where
  keccak256 := [(serialized, HOODI_SUBMIT_EXIT_REQUESTS_DATA_TX)]
  encode := []
  serializeTransaction := [((submitFields, some submitSignature), serialized)]
  joinSignature := []
  recoverAddress := []
  decodeSubmitReportData := []
  decodeSubmitExitRequestsData := [(HOODI_SUBMIT_EXIT_REQUESTS_DATA_INPUT, requestsData)]
  decodeSubmitReport := []
  parseConsensusReached := []
  parseValidatorExitRequest

/-- A node that serves the transaction, and the logs to every `eth_getLogs`. -/
def node (logs : List (Log × ExitRequestArgs)) : ExecutionApi Unit where
  ethers := .recorded (recording logs)
  elRequest
    | .eth_getTransactionByHash transactionHash =>
      if transactionHash = HOODI_SUBMIT_EXIT_REQUESTS_DATA_TX then pure (resultJson submitTx.toJson)
      else throw (.error "not recorded")
    | .eth_getLogs _ _ _ _ => pure (resultJson (.array (logs.map fun log => log.1.toJson)))
  exitBusAddress? := some exitBusAddress
  consensusAddress? := none
  LOAD_LOGS_STEP := 5000

def verifier (logs : List (Log × ExitRequestArgs)) : Verifier Unit where
  el := node logs
  caches := CachePolicy.lru 50
  ORACLE_ADDRESSES_ALLOWLIST := []
  SUBMIT_TX_HASH_ALLOWLIST := [HOODI_SUBMIT_EXIT_REQUESTS_DATA_TX]

section Verification

variable {logs : List (Log × ExitRequestArgs)}

theorem node_serves {s : Unit} :
    (node logs).elRequest (.eth_getTransactionByHash HOODI_SUBMIT_EXIT_REQUESTS_DATA_TX) s
      = .ok (resultJson submitTx.toJson) s := by
  unfold node
  dsimp only
  rw [if_pos rfl]
  rfl

theorem node_unknown {transactionHash : String} {s : Unit}
    (other : transactionHash ≠ HOODI_SUBMIT_EXIT_REQUESTS_DATA_TX) :
    (node logs).elRequest (.eth_getTransactionByHash transactionHash) s
      = .error (.error "not recorded") s := by
  unfold node
  dsimp only
  rw [if_neg other]
  rfl

theorem selectorOf_input : selectorOf HOODI_SUBMIT_EXIT_REQUESTS_DATA_INPUT =
    SUBMIT_EXIT_REQUESTS_DATA_SELECTOR := by
  unfold HOODI_SUBMIT_EXIT_REQUESTS_DATA_INPUT
  rw [selectorOf_append (by decide)]
  decide

theorem prepareTransactionData_submitTx :
    prepareTransactionData (.recorded (recording logs)) submitTx = .ok submitFields := by
  have type : Number "0x2" = .int 2 ∧ parseInt "0x2" = .int 2 := by decide +kernel
  have nonce : parseInt "0x2a" = .int 0x2a := by decide +kernel
  have chainId : parseInt "0x88bb0" = .int 0x88bb0 := by decide +kernel
  have modern : submitTx.isLegacyTx = false := by
    unfold Tx.isLegacyTx submitTx
    rw [type.1]
    rfl
  have prepared : prepareTransactionData (.recorded (recording logs)) submitTx = _ :=
    prepareTransactionData_modern modern
    (recorded_text 0xe980 (by decide +kernel))
    (recorded_text 0 (by decide +kernel))
    (recorded_text 0x7f59c369 (by decide +kernel))
    (recorded_text 0x2978891 (by decide +kernel))
  rw [prepared]
  unfold submitTx
  dsimp only
  rw [nonce, chainId, type.2]
  rfl

theorem hashesTo_submitTx :
    submitTx.HashesTo (.recorded (recording logs)) HOODI_SUBMIT_EXIT_REQUESTS_DATA_TX := by
  have v : Number "0x0" = .int 0 := by decide +kernel
  have signature : (⟨submitTx.r, submitTx.s, Number submitTx.v⟩ : Signature) = submitSignature := by
    unfold submitSignature
    rw [← v]
    rfl
  refine ⟨HOODI_SUBMIT_EXIT_REQUESTS_DATA_TX, ?_, rfl⟩
  refine except_bind_ok.mpr ⟨submitFields, prepareTransactionData_submitTx,
    except_bind_ok.mpr ⟨serialized, ?_, ?_⟩⟩
  · rw [signature]
    exact recordedValue_cons
  · unfold Ethers.recorded recording
    dsimp only
    rw [List.lookup_cons_self]
    rfl

theorem mentionsPubkey_requestsData :
    MentionsPubkey requestsData.data HOODI_EXIT_VALIDATOR_PUBKEY := by
  unfold MentionsPubkey includes requestsData
  rw [decide_eq_true_iff, String.toList_append]
  exact (List.suffix_append _ _).isInfix

/-- **The verification of the recorded exit request**, over any node that serves its transaction. -/
theorem verifyEvent_submitTx {ρ : Type} {v : Verifier ρ} {s s' : v.State} {toBlock : JsNumber}
    (library : v.el.ethers = .recorded (recording logs))
    (allowed : HOODI_SUBMIT_EXIT_REQUESTS_DATA_TX ∈ v.SUBMIT_TX_HASH_ALLOWLIST)
    (served : v.getTransaction HOODI_SUBMIT_EXIT_REQUESTS_DATA_TX s = .ok submitTx s') :
    v.verifyEvent HOODI_EXIT_VALIDATOR_PUBKEY HOODI_SUBMIT_EXIT_REQUESTS_DATA_TX toBlock s
      = .ok () s' := by
  have lower : toLowerCase HOODI_SUBMIT_EXIT_REQUESTS_DATA_TX
      = HOODI_SUBMIT_EXIT_REQUESTS_DATA_TX := by decide +kernel
  have direct : selectorOf submitTx.input ≠ EXECUTE_SELECTOR := by
    show selectorOf HOODI_SUBMIT_EXIT_REQUESTS_DATA_INPUT ≠ _
    rw [selectorOf_input]
    decide
  have decodes : v.el.ethers.decodeSubmitExitRequestsData HOODI_SUBMIT_EXIT_REQUESTS_DATA_INPUT
      = .ok requestsData := by
    rw [library]
    exact recordedValue_cons
  refine Verifier.verifyEvent_ok.mpr ⟨submitTx, s', submitTx.input, served, .inl ⟨direct, rfl⟩, .inr
    ⟨selectorOf_input, rfl, Verifier.verifySubmitExitRequestsDataTransaction_ok.mpr ⟨?_, ?_, ?_⟩⟩⟩
  · rwa [lower]
  · rw [library]
    exact hashesTo_submitTx
  · exact ⟨requestsData, decodes, mentionsPubkey_requestsData⟩

end Verification

/-! ### Fetching recorded logs -/

section Fetching

variable {ρ : Type} {logs : List Log} {table : List (Log × ExitRequestArgs)} {first last : Nat}
  {s s' : ρ}

variable {f : Fetcher ρ}

theorem topic_recorded (library : f.verifier.el.ethers = .recorded (recording table)) (id : BigNumberish)
    (n : Int) (number : Hex.bigNumberFrom id = .ok n) (fits : ((Hex.toHexString n).toList.drop 2).length ≤ 64) :
    ∃ topic, f.topic id = .ok topic := by
  have pad : (Ethers.recorded (recording table)).hexZeroPad = Hex.hexZeroPad := rfl
  have hex : (Ethers.recorded (recording table)).toHexString = Hex.toHexString := rfl
  obtain ⟨padded, same⟩ := Hex.hexZeroPad_ok (Hex.toHexString n) 32 fits
  refine ⟨padded, ?_⟩
  unfold Fetcher.topic
  rw [library, pad, hex]
  exact except_bind_ok.mpr ⟨n, number, same⟩

theorem loadEvents_served (logs : List Log) (table : List (Log × ExitRequestArgs))
    (library : f.verifier.el.ethers = .recorded (recording table))
    (exitBus : f.verifier.el.exitBusAddress? = some exitBusAddress) (ordered : first ≤ last)
    (safe : last < MAX_SAFE) (short : last < first + (f.verifier.el.LOAD_LOGS_STEP : Nat))
    (served : ∀ fromBlock toBlock topics,
      f.verifier.el.elRequest (.eth_getLogs fromBlock toBlock exitBusAddress topics) s
        = .ok (resultJson (.array (logs.map Log.toJson))) s')
    {events : List ExitRequestEvent} (parsed : logs.mapM f.parseEvent = .ok events) :
    f.loadEvents (.int first) (.int last) [⟨"1", [0x26]⟩] s = .ok events s' := by
  obtain ⟨module, moduleTopic⟩ := topic_recorded library (.text "1") 1
    (Hex.bigNumberFrom_text (by decide +kernel)) (by decide +kernel)
  obtain ⟨operator, operatorTopic⟩ := topic_recorded library (.number (.int 0x26)) 0x26
    rfl (by decide +kernel)
  have bus : f.verifier.el.exitBusAddress = .ok exitBusAddress := by
    unfold ExecutionApi.exitBusAddress
    rw [exitBus]
  have scope : f.scopeLogs (.int first) (.int last) ⟨"1", [0x26]⟩ s = .ok logs s' := by
    refine bind_ok.mpr ⟨exitBusAddress, s, ofResult_ok.mpr ⟨bus, rfl⟩, bind_ok.mpr ⟨module, s,
      ofResult_ok.mpr ⟨moduleTopic, rfl⟩, bind_ok.mpr ⟨[operator], s, ofResult_ok.mpr ⟨?_, rfl⟩, ?_⟩⟩⟩
    · rw [List.mapM_cons, List.mapM_nil]
      exact except_bind_ok.mpr ⟨operator, operatorTopic, rfl⟩
    · exact getLogs_recorded library (by decide +kernel) ordered safe short fun _ _ => served _ _ _
  have collected : collect (f.scopeLogs (.int first) (.int last)) [⟨"1", [0x26]⟩] s = .ok logs s' :=
    collect_cons_ok.mpr ⟨_, s', [], scope, rfl, (List.append_nil _).symm⟩
  exact bind_ok.mpr ⟨_, s', collected, ofResult_ok.mpr ⟨parsed, rfl⟩⟩

/-- The event of a recorded log. -/
def exitRequestEvent (validatorIndex : Nat) (validatorPubkey transactionHash : String) :
    ExitRequestEvent :=
  ⟨1, toString validatorIndex, validatorPubkey, 0x26, transactionHash, .int 0x18bd75⟩

theorem parseEvent_exitRequestLog {validatorIndex : Nat} {validatorPubkey transactionHash : String}
    (parses : f.verifier.el.ethers.parseValidatorExitRequest
      (exitRequestLog validatorIndex validatorPubkey transactionHash)
        = .ok (exitRequestArgs validatorIndex validatorPubkey)) :
    f.parseEvent (exitRequestLog validatorIndex validatorPubkey transactionHash)
      = .ok (exitRequestEvent validatorIndex validatorPubkey transactionHash) := by
  have block : parseInt "0x18bd75" = .int 0x18bd75 := by decide +kernel
  refine except_bind_ok.mpr ⟨_, parses, ?_⟩
  show Except.ok (ExitRequestEvent.mk 1 (toString validatorIndex) validatorPubkey 0x26 transactionHash
    (parseInt "0x18bd75")) = _
  rw [block]
  rfl

end Fetching

end HoodiFixture

end ValidatorEjector
