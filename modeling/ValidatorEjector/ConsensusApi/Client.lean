/-
**`services/consensus-api` — the requests to the consensus nodes, on the wire.**

* `ClRequest.path`, `clRequest` — a read with a fallback over the endpoints.
* `syncing`, `spec`, `validatorInfo` — the reads of `makeConsensusApi` that no job makes.
* `exitRequest` — an exit message is posted to every endpoint.
* `get_asks`, `exitRequest_wire` — how the two go over the endpoints; `exitBody_parse` — what an endpoint
  reads in the body of an exit.
-/

import ValidatorEjector.ConsensusApi
import ValidatorEjector.ExecutionApi.Client
import ValidatorEjector.Messages.Recorded
import ValidatorEjector.Request.Broadcast

namespace ValidatorEjector

open Js Library Library.Program Request Validator

/-! ### Paths and DTOs -/

def ClRequest.path : ClRequest → String
  | genesis => "/eth/v1/beacon/genesis"
  | fork => "/eth/v1/beacon/states/finalized/fork"
  | depositContract => "/eth/v1/config/deposit_contract"
  | validators state ids => s!"/eth/v1/beacon/states/{state}/validators?id=" ++ ",".intercalate ids

/-- The path an exit is posted to. -/
def VOLUNTARY_EXITS : String := "/eth/v1/beacon/pool/voluntary_exits"

/-- The data of `syncingDTO`. -/
structure ClSyncing where
  head_slot : String
  sync_distance : String
  is_syncing : Bool
  is_optimistic : Bool

def clSyncingDTO (json : Json) : Except Failure ClSyncing :=
  obj (some json) (fun json => obj (json.get "data") fun data => do
    pure {
      head_slot := ← str (data.get "head_slot")
      sync_distance := ← str (data.get "sync_distance")
      is_syncing := ← bool (data.get "is_syncing")
      is_optimistic := ← bool (data.get "is_optimistic") })
    (some "Invalid syncing response")

/-- `response.json()`. -/
def responseJson (res : HttpResponse) : Except Thrown Json :=
  match res.body with
  | .error cause => .error cause.thrown
  | .ok text =>
    match Json.parse text with
    | some json => .ok json
    | none => .error (.fetchError "invalid json response body")

/-- **What is posted is a message the ejector would load**, and the same one. -/
theorem exitMessageDTO_toJson (m : ExitMessage) : exitMessageDTO (some m.toJson) = .ok m := rfl

/-- What an endpoint reads in the body of an exit. -/
theorem exitBody_parse (m : ExitMessage) (numeral : JsNumber → String) :
    Json.parse (Json.stringify numeral m.toJson) = some m.toJson :=
  Json.parse_stringify m.textual

/-! ### The client -/

/-- **`makeConsensusApi`** over a network. -/
structure ConsensusClient (ν : Type) where
  network : Network ν
  CONSENSUS_NODE : List String

namespace ConsensusClient

variable {ν : Type} (c : ConsensusClient ν)

/-- A read of a path. -/
def get (path : String) (own : Middleware (Wire ν) HttpResponse) : EStateM Thrown (Wire ν) HttpResponse :=
  makeFallback c.CONSENSUS_NODE "CL" fun url => consensusHttp c.network {} own (url ++ path)

/-- A read of a job, with the value of its body. -/
def clRequest (request : ClRequest) : EStateM Thrown (Wire ν) Json := do
  let res ← c.get request.path notOkError
  ofResult (match request with
    | .depositContract => responseJson res
    | _ => safelyParseJsonResponse res)

def syncing : EStateM Failure (Wire ν) Bool := do
  let res ← orFail (c.get "/eth/v1/node/syncing" notOkError)
  let json ← orFail (ofResult (safelyParseJsonResponse res))
  let data ← ofResult (clSyncingDTO json)
  pure data.is_syncing

/-- `checkSync`. A node that is syncing is only warned about. -/
def checkSync : EStateM Failure (Wire ν) Unit := do
  let _ ← c.syncing
  pure ()

/-- `spec`: the `CAPELLA_FORK_VERSION` of the node. -/
def spec : EStateM Failure (Wire ν) String := do
  let res ← orFail (c.get "/eth/v1/config/spec" notOkError)
  let json ← orFail (ofResult (safelyParseJsonResponse res))
  ofResult (obj (some json) (fun json => obj (json.get "data") fun data =>
      str (data.get "CAPELLA_FORK_VERSION") (some "Invalid CAPELLA_FORK_VERSION input"))
    (some "Invalid spec response"))

def validatorInfo (id : String) (tag : String := "head") : EStateM Failure (Wire ν) ValidatorInfo := do
  let res ← orFail (c.get s!"/eth/v1/beacon/states/{tag}/validators/{id}" clErrorMessage)
  let json ← orFail (ofResult (safelyParseJsonResponse res))
  let result ← ofResult (validatorInfoDTO json)
  pure result.toInfo

/-- The post of an exit. -/
def exitInit (message : ExitMessage) : RequestInit where
  method := "POST"
  headers := OrderedMap.empty.set "Content-Type" "application/json"
  body := some (Json.stringify JsNumber.toText message.toJson)

/-- `exitRequest`. -/
def exitRequest (message : ExitMessage) : EStateM Thrown (Wire ν) Unit := do
  let _ ← broadcastAll (consensusRetrying c.network clErrorMessage) (pickOn c.network) c.CONSENSUS_NODE
    (fun url => Operation.start (exitInit message) (url ++ VOLUNTARY_EXITS)) "CL"
  pure ()

/-- The consensus API of a job. -/
def api : ConsensusApi (Node ν) where
  clRequest request := Node.onWire (orFail (c.clRequest request))

/-! ### Reads on the wire -/

/-- The request of a read to an endpoint. -/
def Gets (path url : String) (request : FetchRequest) : Prop := request = ⟨url ++ path, "GET", .empty, none⟩

section Wires

variable {c}

theorem get_asks (path : String) (bad : HttpResponse → Thrown) : Asks c.network (Gets path) bad 3 .ok
    fun url => consensusHttp c.network {} (rejecting bad) (url ++ path) := by
  intro url s
  obtain ⟨calls, outcome, after, ran, tried⟩ := consensusHttp_tried c.network {} bad (url ++ path) s
  refine ⟨calls, outcome, after, ran, .inl ⟨_, outcome, rfl, tried, ?_⟩⟩
  cases outcome <;> rfl

theorem get_preserves {before : List Call} {allowed : FetchRequest → Prop} {path : String}
    {bad : HttpResponse → Thrown}
    (gets : ∀ url ∈ c.CONSENSUS_NODE, ∀ request, Gets path url request → allowed request) :
    Preserves (Added before allowed) (c.get path (rejecting bad)) :=
  makeFallback_preserves fun url inside => (get_asks path bad).preserves (gets url inside)

/-- **What an observer sees of a read.** -/
theorem clRequest_preserves {before : List Call} {allowed : FetchRequest → Prop} {request : ClRequest}
    (gets : ∀ url ∈ c.CONSENSUS_NODE, ∀ sent, Gets request.path url sent → allowed sent) :
    Preserves (Added before allowed) (c.clRequest request) :=
  Triple.bind (get_preserves gets) fun _ => Preserves.ofResult

theorem checkSync_preserves {before : List Call} {allowed : FetchRequest → Prop}
    (gets : ∀ url ∈ c.CONSENSUS_NODE, ∀ sent, Gets "/eth/v1/node/syncing" url sent → allowed sent) :
    Preserves (Added before allowed) c.checkSync := by
  have got : Preserves (Added before allowed) (c.get "/eth/v1/node/syncing" (rejecting notOk)) :=
    get_preserves gets
  refine Triple.bind (Triple.bind (orFail_triple got) fun res => ?_) fun _ => Preserves.pure
  refine Triple.bind (orFail_triple Preserves.ofResult) fun json => ?_
  exact Triple.bind Preserves.ofResult fun data => Preserves.pure

/-! ### Exits on the wire -/

/-- **The calls of an exit**: the message to every endpoint, in any order among them, and at each as often as it
takes. -/
structure Broadcast (c : ConsensusClient ν) (message : ExitMessage) (answered : Answered) (block : List Call) :
    Prop where
  shuffled : Interleaved (answered.map Prod.fst) block
  tried : List.Forall₂ (fun url pair =>
    Tried c.network clError ((exitInit message).at (url ++ VOLUNTARY_EXITS)) 3 pair.1 pair.2)
      c.CONSENSUS_NODE answered

/-- **An exit is broadcast**, and the request resolves exactly if an endpoint accepts it. -/
theorem exitRequest_wire (some_url : c.CONSENSUS_NODE ≠ []) (message : ExitMessage) (s : Wire ν) :
    ∃ (answered : Answered) (block : List Call) (s' : Wire ν),
      c.Broadcast message answered block ∧ s'.calls = s.calls ++ block ∧
      (Accepted answered ∧ c.exitRequest message s = .ok () s' ∨
        Rejected answered ∧ c.exitRequest message s =
          .error (.aggregateError ((answered.map Prod.snd).filterMap reason?)
            s!"CL broadcast failed at all {c.CONSENSUS_NODE.length} endpoints") s') := by
  obtain ⟨answered, block, s', record, shuffled, tried, ended⟩ :=
    broadcastAll_wire c.network (exitInit message) clError VOLUNTARY_EXITS "CL" some_url s
  refine ⟨answered, block, s', ⟨shuffled, tried⟩, record, ?_⟩
  rcases ended with ⟨accepted, ran⟩ | ⟨rejected, ran⟩
  · exact .inl ⟨accepted, bind_of_ok ran⟩
  · exact .inr ⟨rejected, bind_of_error ran⟩

end Wires

end ConsensusClient

end ValidatorEjector
