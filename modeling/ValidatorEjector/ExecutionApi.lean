/-
**`services/execution-api` — requests to the execution node.**

What the node answers, and whether a request throws, is up to the node's own state, of an arbitrary type
`ρ`: a theorem about every `ExecutionApi ρ` is about every node, an adversarial one included.

* `ElRequest` — the requests of the exit-log side.
* `Log.parse`, `logsDTO` — `execution-api/dto`.
* `getLogs` — `eth_getLogs` over a range, in sub-requests of at most `LOAD_LOGS_STEP` blocks (`turns`).
-/

import ValidatorEjector.Ethers
import ValidatorEjector.Library.Program
import ValidatorEjector.Library.Windows

namespace ValidatorEjector

open Js Library Library.Program Library.Windows Validator

/-- One position of a topic filter: one topic, or any of some. -/
inductive Topic
  | one (topic : String)
  | anyOf (topics : List String)
  deriving DecidableEq

/-- A request to the execution node. -/
inductive ElRequest
  | eth_getTransactionByHash (transactionHash : String)
  | eth_getLogs (fromBlock toBlock address : String) (topics : List Topic)
  deriving DecidableEq

/-- **The execution API over a node with states in `ρ`.** The addresses are those last resolved. -/
structure ExecutionApi (ρ : Type) where
  ethers : Ethers
  elRequest : ElRequest → EStateM Failure ρ Json
  exitBusAddress? : Option String
  consensusAddress? : Option String
  LOAD_LOGS_STEP : ℕ+

/-! ### DTOs -/

/-- The check of one log. -/
def Log.parse (event : Json) : Except Failure Log :=
  obj (some event) fun event => do
    let topics ← arr (event.get "topics") fun topics => topics.mapM fun topic => str (some topic)
    let data ← str (event.get "data")
    let blockNumber ← str (event.get "blockNumber")
    let transactionHash ← str (event.get "transactionHash")
    pure { topics, data, blockNumber, transactionHash }

def logsDTO (json : Json) : Except Failure (List Log) :=
  obj (some json) (fun json => arr (json.get "result") fun result => result.mapM Log.parse)
    (some "Empty or invalid data for events")

/-! ### Logs -/

/-- The turns of the loop `for (let from = fromBlock; from <= toBlock; from += LOAD_LOGS_STEP)`. A turn whose
bounds are no safe integers is the last one, since `BigNumber.from` throws there. -/
def turns (step : ℕ+) (fromBlock toBlock : JsNumber) : List (JsNumber × JsNumber) :=
  match fromBlock, toBlock with
  | .int first, .int last => (windows step first last).map fun w => (.int w.first, .int w.last)
  -- without an end: up to the first bound that is not safe
  | .int first, .infinity false => (windows step first (max first (2 ^ 53))).map fun w =>
      (.int w.first, .int (w.first + step - 1))
  -- only a turn that is cut short ends at a fraction
  | .int first, .fraction last => (windows step first ⌊last⌋).map fun w =>
      (.int w.first, if w.first + step - 1 ≤ ⌊last⌋ then .int w.last else toBlock)
  | .nan, _ => []
  | _, .nan => []
  | _, .infinity true => []
  | _, _ => [(fromBlock, toBlock)]

theorem turns_int (step : ℕ+) (first last : Int) : turns step (.int first) (.int last) =
    (windows step first last).map fun w => (.int w.first, .int w.last) := rfl

namespace ExecutionApi

variable {ρ : Type} (el : ExecutionApi ρ)

/-- The getter `exitBusAddress`. -/
def exitBusAddress : Except Failure String :=
  match el.exitBusAddress? with
  | some address => .ok address
  | none => .error (.error "Exit Bus address is not resolved yet")

/-- The getter `consensusAddress`. -/
def consensusAddress : Except Failure String :=
  match el.consensusAddress? with
  | some address => .ok address
  | none => .error (.error "Consensus address is not resolved yet")

/-- The JSON-RPC quantity of a block number. -/
def quantity (block : JsNumber) : Except Failure String := do
  let n ← el.ethers.bigNumberFrom (.number block)
  pure (el.ethers.hexStripZeros (el.ethers.toHexString n))

/-- One sub-request of `getLogs`. -/
def getLogsBetween (address : String) (topics : List Topic) (bounds : JsNumber × JsNumber) :
    EStateM Failure ρ (List Log) := do
  let fromBlock ← ofResult (el.quantity bounds.1)
  let toBlock ← ofResult (el.quantity bounds.2)
  let json ← el.elRequest (.eth_getLogs fromBlock toBlock address topics)
  ofResult (logsDTO json)

/-- `getLogs`. -/
def getLogs (fromBlock toBlock : JsNumber) (address : String) (topics : List Topic) :
    EStateM Failure ρ (List Log) :=
  if fromBlock.lt (.int 0) then
    throw (Failure.template [.text "fromBlock must be non-negative, got: ", .number fromBlock])
  else if toBlock.lt (.int 0) then
    throw (Failure.template [.text "toBlock must be non-negative, got: ", .number toBlock])
  else if toBlock.lt fromBlock then
    throw (Failure.template [.text "fromBlock (", .number fromBlock, .text ") must be <= toBlock (",
      .number toBlock, .text ")"])
  else if !el.ethers.isAddress address then
    throw (Failure.error s!"Invalid Ethereum address: {address}")
  else collect (el.getLogsBetween address topics) (turns el.LOAD_LOGS_STEP fromBlock toBlock)

end ExecutionApi

end ValidatorEjector
