/-
**What the ejector takes from `ethers`.**

The library is not part of the repository, so it is a parameter: the functions the execution side calls,
each of them free to return or throw what it likes. A theorem that depends on what one of them does says
so in a hypothesis.

* `Transaction` types — `TransactionFields` (the argument of `serializeTransaction`), `Signature`.
* Calldata — `Report`, `SubmitReport`, `Execute`, `ExitRequestsData`: what the four interfaces decode.
* `Log`, `ExitRequestArgs` — an event log, and the arguments of `ValidatorExitRequest`.
* The selectors and topics, which `getSighash` and `getEventTopic` compute from constant signatures.
-/

import ValidatorEjector.Validator

namespace ValidatorEjector

open Js

/-! ### Values -/

/-- What `BigNumber.from` is called with. -/
inductive BigNumberish
  | text (value : String)
  | number (value : JsNumber)
  deriving DecidableEq

/-- An expanded signature. -/
structure Signature where
  r : String
  s : String
  v : JsNumber
  deriving DecidableEq

/-- The fee fields of a transaction: one price, or the two of EIP-1559. -/
inductive Fee
  | gasPrice (gasPrice : Int)
  | maxFee (maxFeePerGas maxPriorityFeePerGas : Int)
  deriving DecidableEq

/-- The unsigned transaction handed to `serializeTransaction`. -/
structure TransactionFields where
  gasLimit : Int
  data : String
  nonce : JsNumber
  «to» : String
  value : Int
  type : JsNumber
  chainId : JsNumber
  fee : Fee
  deriving DecidableEq

/-- The report of `submitReportData`. -/
structure Report where
  consensusVersion : Nat
  refSlot : Nat
  requestsCount : Nat
  dataFormat : Nat
  data : String
  deriving DecidableEq

/-- The arguments of `submitReport`. -/
structure SubmitReport where
  slot : Nat
  report : String
  consensusVersion : Nat
  deriving DecidableEq

/-- The arguments of `execute`. -/
structure Execute where
  target : String
  data : String
  deriving DecidableEq

/-- The request of `submitExitRequestsData`. -/
structure ExitRequestsData where
  data : String
  dataFormat : Nat
  deriving DecidableEq

/-- An event log. -/
structure Log where
  topics : List String
  data : String
  blockNumber : String
  transactionHash : String
  deriving DecidableEq

/-- The arguments of `ValidatorExitRequest`. -/
structure ExitRequestArgs where
  stakingModuleId : Nat
  nodeOperatorId : Nat
  validatorIndex : Nat
  validatorPubkey : String
  deriving DecidableEq

/-! ### Selectors and topics -/

def SUBMIT_REPORT_DATA_SELECTOR : String := "0x294492c8"

def SUBMIT_EXIT_REQUESTS_DATA_SELECTOR : String := "0xb8fe0ad0"

def SUBMIT_REPORT_SELECTOR : String := "0xe33a8d39"

def EXECUTE_SELECTOR : String := "0x1cff79cd"

/-- The topic of `ConsensusReached(uint256,bytes32,uint256)`. -/
def consensusReachedTopic : String :=
  "0x2b6bc782c916fa763822f1e50c6db0f95dade36d6541a8a4cbe070735b8b226d"

/-- The topic of `ValidatorExitRequest(uint256,uint256,uint256,bytes,uint256)`. -/
def validatorExitRequestTopic : String :=
  "0x96395f55c4997466e5035d777f0e1ba82b8cae217aaad05cf07839eb7c75bcf2"

/-! ### Functions -/

/-- **The functions of `ethers` the ejector calls.** -/
structure Ethers where
  /-- `BigNumber.from`. -/
  bigNumberFrom : BigNumberish → Except Failure Int
  /-- `BigNumber.toHexString`. -/
  toHexString : Int → String
  /-- `BigNumber.toNumber`. -/
  toNumber : Nat → Except Failure Nat
  hexStripZeros : String → String
  hexZeroPad : String → Nat → Except Failure String
  isAddress : String → Bool
  keccak256 : String → String
  /-- `defaultAbiCoder.encode` at the report tuple. -/
  encode : Report → String
  serializeTransaction : TransactionFields → Option Signature → Except Failure String
  joinSignature : Signature → Except Failure String
  recoverAddress : String → String → Except Failure String
  /-- `decodeFunctionData`, one for each interface. -/
  decodeSubmitReportData : String → Except Failure Report
  decodeSubmitExitRequestsData : String → Except Failure ExitRequestsData
  decodeSubmitReport : String → Except Failure SubmitReport
  decodeExecute : String → Except Failure Execute
  /-- `parseLog`, one for each event; of `ConsensusReached` the `report`. -/
  parseConsensusReached : Log → Except Failure String
  parseValidatorExitRequest : Log → Except Failure ExitRequestArgs

end ValidatorEjector
