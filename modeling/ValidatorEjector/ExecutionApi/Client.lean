/-
**`services/execution-api` and `services/jwt` — the requests to the execution nodes, on the wire.**

* `JwtService`, `bufferFromHex` — the secret as it is read, and a token for each request.
* `ExecutionClient`, `elRequest` — a JSON-RPC call with a fallback over the endpoints.
* `checkSync`, `latestBlockNumber`, `resolveExitBusAddress`, `resolveConsensusAddress` — the calls of
  `makeExecutionApi` itself; `ElRequest.call` — those of the exit logs.
* `readRpc` — what an answer is worth; `callAt_asks` — a call at an endpoint.
* `elRequest_preserves` — what an observer sees of a call.
-/

import ValidatorEjector.ExecutionApi
import ValidatorEjector.Request.Wire

namespace ValidatorEjector

open Js Library Library.Program Request Validator

/-! ### JWT -/

/-- `Buffer.from(text, 'hex')`: the bytes up to the first pair that is not two digits. -/
def bufferFromHex : List Char → List UInt8
  | high :: low :: rest =>
    match digitValue? 16 high, digitValue? 16 low with
    | some h, some l => UInt8.ofNat (16 * h + l) :: bufferFromHex rest
    | _, _ => []
  | _ => []

/-- **`makeJwtService`**, with `fs.readFile` and `jwt.sign`, each of which may fail with a message. -/
structure JwtService where
  JWT_SECRET_PATH : String
  readFile : String → Except String String
  sign : Int → List UInt8 → Except String String

/-- `initialize`: the `secretBuffer`, where a path is configured. -/
def JwtService.initialize (j : JwtService) : Except Failure (Option (List UInt8)) :=
  if j.JWT_SECRET_PATH = "" then .ok none
  else
    match j.readFile j.JWT_SECRET_PATH with
    | .ok hexSecret => .ok (some (bufferFromHex (trim hexSecret.toList)))
    | .error _ => .error (.error
        "Unable to load JWT secret, ensure JWT_SECRET_PATH is configured correctly")

/-! ### Nodes -/

/-- **The nodes as the ejector sees them**: the wire, and the addresses last resolved. -/
structure Node (ν : Type) where
  wire : Wire ν
  exitBusAddress? : Option String
  consensusAddress? : Option String

/-- A computation on the wire. -/
def Node.onWire {ν ε α : Type} (x : EStateM ε (Wire ν) α) : EStateM ε (Node ν) α :=
  onPart Node.wire (fun wire s => { s with wire }) x

/-! ### JSON-RPC -/

def jsonRpc (method : String) (params : List Json) : Json :=
  .object [("jsonrpc", .string "2.0"), ("method", .string method), ("params", .array params),
    ("id", .number (.int 1))]

/-- The member `error` of an answer. -/
def rpcError? : Json → Option Json
  | .object members => Json.member? members "error"
  | _ => none

/-- `RPC_SERVER_ERROR_CODES`. -/
def RPC_SERVER_ERROR_CODES : List JsNumber := [.int (-32603), .int (-32005), .int (-32000)]

def isRpcServerError (json : Json) : Bool :=
  match rpcError? json with
  | some (.object members) =>
    match Json.member? members "code" with
    | some (.number code) => RPC_SERVER_ERROR_CODES.contains code
    | _ => false
  | _ => false

/-- `new JsonRpcServerError(error)`. -/
def JsonRpcServerError (json : Json) : Thrown :=
  match HttpException ((rpcError? json).getD .null) 502 with
  | .ok exception => exception
  | .error failure => failure

/-- The call of a request of the exit logs. -/
def ElRequest.call : ElRequest → Json
  | eth_getTransactionByHash transactionHash => jsonRpc "eth_getTransactionByHash" [.string transactionHash]
  | eth_getLogs fromBlock toBlock address topics => jsonRpc "eth_getLogs" [.object [
      ("fromBlock", .string fromBlock), ("toBlock", .string toBlock), ("address", .string address),
      ("topics", .array (topics.map fun
        | .one topic => .string topic
        | .anyOf topics => .array (topics.map .string)))]]

/-- An `eth_call` at the finalized block. An address that is `undefined` has no member. -/
def ethCall («to» : Option String) (data : String) : Json :=
  jsonRpc "eth_call" [.object ([("from", .null)] ++ («to».toList.map fun address => ("to", .string address)) ++
    [("data", .string data)]), .string "finalized"]

/-- The selector of `validatorsExitBusOracle()`. -/
def VALIDATORS_EXIT_BUS_ORACLE_SELECTOR : String := "0x12f8d4b9"

/-- The selector of `getConsensusContract()`. -/
def GET_CONSENSUS_CONTRACT_SELECTOR : String := "0x8f55b571"

/-! ### DTOs -/

/-- `!value`. -/
def falsy (value : Option Json) : Bool :=
  match value with
  | none => true
  | value => (printer.truthy value).isNone

/-- `typeof value`, of a JSON value. -/
def typeOf : Option Json → String
  | none => "undefined"
  | some (.bool _) => "boolean"
  | some (.number _) => "number"
  | some (.string _) => "string"
  | some _ => "object"

/-- The member of an object, of a value that may be none. -/
def memberOf (key : String) : Json → Option Json
  | .object members => Json.member? members key
  | _ => none

/-- `syncingDTO`. A node that is syncing answers with an object, which is thrown. -/
def elSyncingDTO (json : Json) : Except Failure Bool := do
  let members ← obj (some json) .ok (some "Invalid syncing response")
  match members.get "result" with
  | some (.bool result) => .ok result
  | some (.object result) =>
    if falsy (memberOf "currentBlock" (.object result)) || falsy (memberOf "highestBlock" (.object result)) then
      .error (.error "Invalid syncing object: missing currentBlock or highestBlock")
    else .error (.error "EL node is not synced")
  | some (.array _) => .error (.error "Invalid syncing object: missing currentBlock or highestBlock")
  | result => .error (.error s!"Invalid syncing response type: {typeOf result}")

def lastBlockNumberDTO (json : Json) : Except Failure String :=
  obj (some json) (fun json => obj (json.get "result") fun result =>
      str (result.get "number") (some "Invalid latest block number"))
    (some "Invalid LastBlockNumber response")

def funcDTO (json : Json) : Except Failure String :=
  obj (some json) (fun json => str (json.get "result")) (some "Invalid function call response")

def genericArrayOfStringsDTO (json : Json) : Except Failure (List String) :=
  arr (some json) (fun json => json.mapM fun address => str (some address))
    (some "Decoded generic function return format is not an array of strings")

/-! ### The client -/

/-- **`makeExecutionApi`** over a network, once its secret is read. `decodeFunctionResult` is the one of `ethers`
for a function that returns an address. -/
structure ExecutionClient (ν : Type) where
  network : Network ν
  EXECUTION_NODE : List String
  LOCATOR_ADDRESS : String
  JWT_SECRET_PATH : Option String
  LOAD_LOGS_STEP : ℕ+
  jwtService : JwtService
  secretBuffer : Option (List UInt8)
  ethers : Ethers
  decodeFunctionResult : String → Except Failure Json

namespace ExecutionClient

variable {ν : Type} (c : ExecutionClient ν)

/-- `generateToken`. -/
def generateToken : EStateM Thrown (Wire ν) (Option String) :=
  match c.secretBuffer with
  | none => pure none
  | some secretBuffer => fun wire =>
    let (now, after) := c.network.now wire.network
    match c.jwtService.sign (now / 1000) secretBuffer with
    | .ok token => .ok (some token) ⟨after, wire.calls⟩
    | .error message => .error (.error "Error" message) ⟨after, wire.calls⟩

/-- The headers of every call. -/
def contentType : OrderedMap String String := OrderedMap.empty.set "Content-Type" "application/json"

/-- The headers with a token. -/
def withToken (token : Option String) : OrderedMap String String :=
  match token.filter (· ≠ "") with
  | none => contentType
  | some token => contentType.set "Authorization" s!"Bearer {token}"

def createExecutionRequestHeaders : EStateM Thrown (Wire ν) (OrderedMap String String) :=
  if (c.JWT_SECRET_PATH.filter (· ≠ "")).isNone then pure contentType
  else do
    let token ← c.generateToken
    pure (withToken token)

/-- A call at one endpoint. -/
def callAt (call : Json) (url : String) : EStateM Thrown (Wire ν) Json := do
  let headers ← c.createExecutionRequestHeaders
  let res ← executionHttp c.network
    { method := "POST", headers, body := some (Json.stringify JsNumber.toText call) } url
  let json ← ofResult (safelyParseJsonResponse res)
  if isRpcServerError json then throw (JsonRpcServerError json)
  pure json

/-- `elRequest`. -/
def elRequest (call : Json) : EStateM Thrown (Wire ν) Json := makeFallback c.EXECUTION_NODE "EL" (c.callAt call)

/-- `checkSync`. -/
def checkSync : EStateM Failure (Wire ν) Bool := do
  let json ← orFail (c.elRequest (jsonRpc "eth_syncing" []))
  ofResult (elSyncingDTO json)

/-- `latestBlockNumber`. -/
def latestBlockNumber : EStateM Failure (Wire ν) Nat := do
  let json ← orFail (c.elRequest (jsonRpc "eth_getBlockByNumber" [.string "finalized", .bool false]))
  let number ← ofResult (lastBlockNumberDTO json)
  let n ← ofResult (c.ethers.bigNumberFrom (.text number))
  ofResult (c.ethers.toNumber n.toNat)

/-- The address that a contract function returns. -/
def addressAt («to» : Option String) (selector : String) : EStateM Failure (Wire ν) (Option String) := do
  let json ← orFail (c.elRequest (ethCall «to» selector))
  let result ← ofResult (funcDTO json)
  let decoded ← ofResult (c.decodeFunctionResult result)
  let validated ← ofResult (genericArrayOfStringsDTO decoded)
  pure validated.head?

/-- `resolveExitBusAddress`. -/
def resolveExitBusAddress : EStateM Failure (Node ν) Unit :=
  tryCatch (do
      let address ← Node.onWire (c.addressAt (some c.LOCATOR_ADDRESS) VALIDATORS_EXIT_BUS_ORACLE_SELECTOR)
      modify fun s => { s with exitBusAddress? := address })
    fun _ => throw (Failure.error ("Unable to resolve Exit Bus contract address using the Locator. " ++
      "Please make sure LOCATOR_ADDRESS is correct."))

/-- `resolveConsensusAddress`. -/
def resolveConsensusAddress : EStateM Failure (Node ν) Unit :=
  tryCatch (do
      let s ← get
      let address ← Node.onWire (c.addressAt s.exitBusAddress? GET_CONSENSUS_CONTRACT_SELECTOR)
      modify fun s => { s with consensusAddress? := address })
    fun _ => throw (Failure.error "Unable to resolve Consensus contract.")

/-- The execution API of the exit logs. An address that is empty is not resolved. -/
def api (exitBusAddress consensusAddress : Option String) : ExecutionApi (Node ν) where
  ethers := c.ethers
  elRequest request := Node.onWire (orFail (c.elRequest request.call))
  exitBusAddress? := exitBusAddress.filter (· ≠ "")
  consensusAddress? := consensusAddress.filter (· ≠ "")
  LOAD_LOGS_STEP := c.LOAD_LOGS_STEP

/-! ### A call on the wire -/

/-- What a response is worth: a value, or an error that says whether to go on. -/
def readRpc (res : HttpResponse) : Except Thrown Json := do
  let json ← safelyParseJsonResponse res
  if isRpcServerError json then .error (JsonRpcServerError json) else .ok json

/-- The headers that a call may have: a token is one of the service, under the configured secret. -/
def Headers (headers : OrderedMap String String) : Prop :=
  headers = contentType ∨ c.JWT_SECRET_PATH.filter (· ≠ "") ≠ none ∧ ∃ secretBuffer iat token,
    c.secretBuffer = some secretBuffer ∧ c.jwtService.sign iat secretBuffer = .ok token ∧
    headers = withToken (some token)

/-- **The request of a call** to an endpoint. -/
def Posts (call : Json) (url : String) (request : FetchRequest) : Prop :=
  ∃ headers, c.Headers headers ∧
    request = ⟨url, "POST", headers, some (Json.stringify JsNumber.toText call)⟩

section Wires

variable {c}

theorem generateToken_run {secretBuffer : List UInt8} (read : c.secretBuffer = some secretBuffer)
    (s : Wire ν) : ∃ iat after, c.generateToken s = match c.jwtService.sign iat secretBuffer with
      | .ok token => .ok (some token) ⟨after, s.calls⟩
      | .error message => .error (.error "Error" message) ⟨after, s.calls⟩ := by
  unfold generateToken
  rw [read]
  exact ⟨_, _, rfl⟩

/-- The headers are made without a call. -/
theorem headers_run (s : Wire ν) : ∃ after,
    (∃ headers, c.Headers headers ∧ c.createExecutionRequestHeaders s = .ok headers ⟨after, s.calls⟩) ∨
    ∃ message, c.createExecutionRequestHeaders s = .error (.error "Error" message) ⟨after, s.calls⟩ := by
  unfold createExecutionRequestHeaders
  cases configured : c.JWT_SECRET_PATH.filter (· ≠ "") with
  | none => exact ⟨s.network, .inl ⟨contentType, .inl rfl, rfl⟩⟩
  | some path =>
    have given : c.JWT_SECRET_PATH.filter (· ≠ "") ≠ none := by
      rw [configured]
      exact Option.some_ne_none path
    rw [if_neg (by simp)]
    cases read : c.secretBuffer with
    | none =>
      have absent : c.generateToken s = .ok none s := by
        unfold generateToken
        rw [read]
        rfl
      exact ⟨s.network, .inl ⟨contentType, .inl rfl, bind_of_ok absent⟩⟩
    | some secretBuffer =>
      obtain ⟨iat, after, ran⟩ := generateToken_run read s
      refine ⟨after, ?_⟩
      cases signed : c.jwtService.sign iat secretBuffer with
      | ok token =>
        rw [signed] at ran
        exact .inl ⟨withToken (some token), .inr ⟨given, secretBuffer, iat, token, read, signed, rfl⟩,
          bind_of_ok ran⟩
      | error message =>
        rw [signed] at ran
        exact .inr ⟨message, bind_of_error ran⟩

/-- **A call at one endpoint** ends as is read off the response. -/
theorem callAt_asks (call : Json) : Asks c.network (c.Posts call) notOk 3 readRpc (c.callAt call) := by
  intro url s
  obtain ⟨after, ⟨headers, known, made⟩ | ⟨message, failed⟩⟩ := headers_run (c := c) s
  · let init : RequestInit :=
      { method := "POST", headers, body := some (Json.stringify JsNumber.toText call) }
    obtain ⟨calls, answered, after', ran, tried⟩ := executionHttp_tried c.network init url ⟨after, s.calls⟩
    refine ⟨calls, answered.bind readRpc, after', ?_,
      .inl ⟨init.at url, answered, ⟨headers, known, rfl⟩, tried, rfl⟩⟩
    unfold callAt
    rw [bind_of_ok made]
    cases answered with
    | error error => exact bind_of_error ran
    | ok res =>
      rw [bind_of_ok ran]
      show _ = ends (readRpc res) _
      unfold readRpc
      cases parsed : safelyParseJsonResponse res with
      | error error => rfl
      | ok json =>
        rw [bind_of_ok ofResult_run_ok]
        show _ = ends (if isRpcServerError json then .error (JsonRpcServerError json) else .ok json) _
        cases isRpcServerError json with
        | true => rfl
        | false => rfl
  · refine ⟨[], .error (.error "Error" message), after, ?_, .inr ⟨rfl, ?_, fun value same => by cases same⟩⟩
    · unfold callAt
      rw [bind_of_error failed, List.append_nil]
      rfl
    · rintro ⟨error, same, worth⟩
      cases same
      have aborted : "Error" = "AbortError" := worth
      exact absurd aborted (by decide)

/-- **What an observer sees of a call**: posts of it to the configured endpoints. -/
theorem elRequest_preserves {before : List Call} {allowed : FetchRequest → Prop} {call : Json}
    (posts : ∀ url ∈ c.EXECUTION_NODE, ∀ request, c.Posts call url request → allowed request) :
    Preserves (Added before allowed) (c.elRequest call) :=
  makeFallback_preserves fun url inside => (callAt_asks call).preserves (posts url inside)

theorem checkSync_preserves {before : List Call} {allowed : FetchRequest → Prop}
    (posts : ∀ url ∈ c.EXECUTION_NODE, ∀ request, c.Posts (jsonRpc "eth_syncing" []) url request →
      allowed request) :
    Preserves (Added before allowed) c.checkSync :=
  Triple.bind (orFail_triple (elRequest_preserves posts)) fun _ => Preserves.ofResult

end Wires

end ExecutionClient

end ValidatorEjector
