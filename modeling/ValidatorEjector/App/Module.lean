/-
**`app/module` — the services put together, over one network.**

The requests to the nodes and to the webhook go through `fetch`, whose calls are on record; what is read of
files, buckets and the environment is not. The services that other modules have over any world are here over
that one.

* `App` — the configurations of a host, and what comes from outside.
* `execution`, `consensus`, `webhookRequest` — the three clients.
* **`elRequest_failover`**, **`exitRequest_broadcast`** — how a call and an exit go over their endpoints.
* `World`, `outside`, `exitLogs`, `jobProcessor` — the world of a job, and the job processor of the app.
-/

import ValidatorEjector.Config.WellFormed
import ValidatorEjector.ConsensusApi.Client
import ValidatorEjector.Job.ExitSafety

namespace ValidatorEjector

open Js Library Library.Program Library.Windows Request Validator

/-! ### Configurations -/

/-- **`makeAppModule`**: the accepted configurations of a host, whose counts are whole numbers, with the
network, the stores and the third parties. -/
structure App (ν : Type) where
  host : Host
  config : AppConfig
  webhookConfig : WebhookProcessorConfig
  configured : host.makeConfig = .ok config
  hooked : host.makeWebhookProcessorConfig = .ok webhookConfig
  BLOCKS_PRELOAD : ℕ+
  LOAD_LOGS_STEP : ℕ+
  VALIDATORS_BATCH_SIZE : ℕ+
  WEBHOOK_MAX_RETRIES : Nat
  preload_eq : config.BLOCKS_PRELOAD = .int (BLOCKS_PRELOAD : Nat)
  step_eq : config.LOAD_LOGS_STEP = .int (LOAD_LOGS_STEP : Nat)
  batch_eq : config.VALIDATORS_BATCH_SIZE = .int (VALIDATORS_BATCH_SIZE : Nat)
  retries_eq : webhookConfig.WEBHOOK_MAX_RETRIES = .int WEBHOOK_MAX_RETRIES
  jwtService : JwtService
  secretBuffer : Option (List UInt8)
  jwt_path : jwtService.JWT_SECRET_PATH = config.JWT_SECRET_PATH.getD ""
  initialized : jwtService.initialize = .ok secretBuffer
  network : Network ν
  s3Read : String → EStateM Failure ν (List MessageFile)
  gsRead : String → EStateM Failure ν (List MessageFile)
  readFilesFromFolder : String → EStateM Failure ν (List MessageFile)
  readFile : String → EStateM Failure ν String
  hostOf : String → String
  ethers : Ethers
  decodeFunctionResult : String → Except Failure Json
  crypto : Crypto
  caches : CachePolicy String

/-! ### Clients -/

/-- The object of an event, as `JSON.stringify` prints it; its method `ack` is left out. -/
def ValidatorsToEject.toJson (event : ValidatorsToEject) : Json :=
  .object [("validatorIndex", .string event.validatorIndex), ("validatorPubkey", .string event.validatorPubkey),
    ("blockNumber", .number event.blockNumber), ("stakingModuleId", .number (.int event.stakingModuleId)),
    ("nodeOperatorId", .number (.int event.nodeOperatorId)), ("acknowledged", .bool event.acknowledged)]

namespace App

variable {ν : Type} (app : App ν)

theorem execution_ne_nil : app.config.EXECUTION_NODE ≠ [] := by
  obtain ⟨⟨message, read⟩, -⟩ := makeConfig_ok app.configured
  exact (url_list_endpoints read).1

theorem consensus_ne_nil : app.config.CONSENSUS_NODE ≠ [] := by
  obtain ⟨-, ⟨message, read⟩, -⟩ := makeConfig_ok app.configured
  exact (url_list_endpoints read).1

/-- The execution API. -/
def execution : ExecutionClient ν where
  network := app.network
  EXECUTION_NODE := app.config.EXECUTION_NODE
  LOCATOR_ADDRESS := app.config.LOCATOR_ADDRESS
  JWT_SECRET_PATH := app.config.JWT_SECRET_PATH
  LOAD_LOGS_STEP := app.LOAD_LOGS_STEP
  jwtService := app.jwtService
  secretBuffer := app.secretBuffer
  ethers := app.ethers
  decodeFunctionResult := app.decodeFunctionResult

/-- The consensus API. -/
def consensus : ConsensusClient ν where
  network := app.network
  CONSENSUS_NODE := app.config.CONSENSUS_NODE

/-- **A call of the execution API goes over the configured endpoints**, on every network. At each it is posted
up to three times, as long as the answers are worth another try; an endpoint is left for the next one when its
last answer is, be it for its status or, in a response that is let through, for its body. The first answer
that is not ends the call; where all endpoints are left, the call ends with the last error of each. -/
theorem elRequest_failover (call : Json) (s : Wire ν) : ∃ rounds after,
    (Fallen app.network (app.execution.Posts call)
      notOk 3 ExecutionClient.readRpc app.config.EXECUTION_NODE rounds ∧
      app.execution.elRequest call s = .error (.aggregateError (rounds.map Prod.snd)
        s!"EL fallback failed at all {app.config.EXECUTION_NODE.length} endpoints")
        ⟨after, s.calls ++ rounds.flatMap Prod.fst⟩) ∨
    ∃ before url rest calls outcome, app.config.EXECUTION_NODE = before ++ url :: rest ∧
      Fallen app.network (app.execution.Posts call) notOk 3 ExecutionClient.readRpc before rounds ∧
        ¬ Again outcome ∧
      (Asked app.network (app.execution.Posts call) notOk 3 ExecutionClient.readRpc url calls outcome ∨
        calls = [] ∧ ∀ value, outcome ≠ .ok value) ∧
      app.execution.elRequest call s = ends outcome ⟨after, s.calls ++ rounds.flatMap Prod.fst ++ calls⟩ :=
  makeFallback_wire (ExecutionClient.callAt_asks (c := app.execution) call) app.execution_ne_nil "EL" s

/-- **An exit is posted to every configured consensus node**, on every network and in every order of the
answers. The request resolves exactly if one of them accepts it, and ends otherwise with the error of each. -/
theorem exitRequest_broadcast (message : ExitMessage) (s : Wire ν) :
    ∃ (answered : Answered) (block : List Call) (s' : Wire ν),
      app.consensus.Broadcast message answered block ∧ s'.calls = s.calls ++ block ∧
      (Accepted answered ∧ app.consensus.exitRequest message s = .ok () s' ∨
        Rejected answered ∧ app.consensus.exitRequest message s =
          .error (.aggregateError ((answered.map Prod.snd).filterMap reason?)
            s!"CL broadcast failed at all {app.config.CONSENSUS_NODE.length} endpoints") s') :=
  ConsensusClient.exitRequest_wire (c := app.consensus) app.consensus_ne_nil message s

/-- The headers of the webhook, which depend neither on what `fetch` takes nor on how its calls end. -/
def webhookHeaders : OrderedMap String String :=
  WebhookProcessor.headers {
    WEBHOOK_MAX_RETRIES := app.WEBHOOK_MAX_RETRIES
    WEBHOOK_TOKEN := app.webhookConfig.WEBHOOK_TOKEN
    WEBHOOK_HEADER := some app.webhookConfig.WEBHOOK_HEADER
    refuses := fun _ => none
    fetch := fun _ _ => .error (.typeError "") }

/-- The post of an event. -/
def webhookInit (event : ValidatorsToEject) : RequestInit where
  method := "POST"
  headers := app.webhookHeaders
  body := some (Json.stringify JsNumber.toText event.toJson)

/-- The request of `webhookProcessor.send`. -/
def webhookRequest (url : String) (event : ValidatorsToEject) : EStateM Thrown (Wire ν) HttpResponse :=
  let middlewares := [logger, notOkError, abort]
  makeRequest (fetchCall app.network (app.webhookInit event))
    (if 0 < app.WEBHOOK_MAX_RETRIES then [retry app.WEBHOOK_MAX_RETRIES] ++ middlewares else middlewares) url

/-- The number of tries at the webhook. -/
def webhookTries : Nat := max 1 app.WEBHOOK_MAX_RETRIES

/-- **The calls of an event to the webhook.** -/
theorem webhookRequest_tried (url : String) (event : ValidatorsToEject) (s : Wire ν) : ∃ calls outcome after,
    app.webhookRequest url event s = ends outcome ⟨after, s.calls ++ calls⟩ ∧
    Tried app.network notOk ((app.webhookInit event).at url) app.webhookTries calls outcome := by
  unfold webhookRequest webhookTries
  by_cases retrying : 0 < app.WEBHOOK_MAX_RETRIES
  · rw [if_pos retrying]
    exact retryLoop_tried app.network (app.webhookInit event) notOk url app.WEBHOOK_MAX_RETRIES s
  · rw [if_neg retrying]
    cases refusal : app.network.refuses ((app.webhookInit event).at url) with
    | none =>
      obtain ⟨answer, after, ran⟩ := attempt_run ⟨url, 0⟩ refusal notOk s
      exact ⟨_, _, after, ran, Tried.once refusal notOk (Nat.le_max_left 1 _) fun _ => by omega⟩
    | some message =>
      have ran := attempt_refused ⟨url, 0⟩ refusal notOk s
      refine ⟨[], .error (.error "TypeError" message), s.network, ?_, .of_refused refusal notOk _⟩
      rw [List.append_nil]
      exact ran

/-! ### The world of a job -/

/-- What the services change: the caches of the verifier, its counter, and the nodes. -/
abbrev World : Type := FetcherState app.caches (Node ν)

/-- A computation on the nodes. -/
def onNode {ε α : Type} (x : EStateM ε (Node ν) α) : EStateM ε app.World α :=
  onPart (fun world => world.verifier.node)
    (fun node world => { world with verifier := { world.verifier with node } }) x

/-- A computation on the wire. -/
def onWire {ε α : Type} (x : EStateM ε (Wire ν) α) : EStateM ε app.World α := app.onNode (Node.onWire x)

/-- A computation on the network itself, which makes no calls. -/
def onNetwork {ε α : Type} (x : EStateM ε ν α) : EStateM ε app.World α :=
  app.onWire (onPart Wire.network (fun network wire => { wire with network }) x)

/-- The world at the start. -/
def fresh (network : ν) : app.World :=
  ⟨⟨app.caches.empty, app.caches.empty, ⟨⟨network, []⟩, none, none⟩⟩, 0, 0⟩

/-- `Date.now()`. -/
def now (world : app.World) : Int × app.World :=
  let node := world.verifier.node
  let (now, network) := app.network.now node.wire.network
  let wire : Wire ν := { node.wire with network }
  (now, { world with verifier := { world.verifier with node := { node with wire } } })

/-- **The requests of a job.** -/
def outside : Outside app.World where
  cl := ⟨fun request => app.onNode (app.consensus.api.clRequest request)⟩
  now := app.now
  s3Read uri := app.onNetwork (app.s3Read uri)
  gsRead uri := app.onNetwork (app.gsRead uri)
  readFilesFromFolder uri := app.onNetwork (app.readFilesFromFolder uri)
  exitRequest message := app.onWire (orFail (app.consensus.exitRequest message))
  webhookRequest url event := app.onWire (do
    let _ ← orFail (app.webhookRequest url event)
    pure ())
  resolveExitBusAddress := app.onNode app.execution.resolveExitBusAddress
  resolveConsensusAddress := app.onNode app.execution.resolveConsensusAddress
  latestBlockNumber := app.onWire app.execution.latestBlockNumber

/-- The fetcher, at the addresses that are resolved. -/
def fetcher (node : Node ν) : Fetcher (Node ν) where
  verifier := {
    el := app.execution.api node.exitBusAddress? node.consensusAddress?
    caches := app.caches
    ORACLE_ADDRESSES_ALLOWLIST := app.config.ORACLE_ADDRESSES_ALLOWLIST
    SUBMIT_TX_HASH_ALLOWLIST := app.config.SUBMIT_TX_HASH_ALLOWLIST }
  cl := app.consensus.api
  TRUST_MODE := app.config.TRUST_MODE

/-- The fetcher's `getLogs`. -/
def fetch (w : Window) : EStateM Failure app.World (List ValidatorsToEject) := fun world =>
  (app.fetcher world.verifier.node).getLogs (.int w.first) (.int w.last) app.config.EJECTOR_SCOPE world

def exitLogs : ExitLogs app.World where
  fetch := app.fetch
  BLOCKS_PRELOAD := app.BLOCKS_PRELOAD
  LOAD_LOGS_STEP := app.LOAD_LOGS_STEP

def messagesProcessor : MessagesProcessor app.World where
  outside := app.outside
  crypto := app.crypto
  forkVersionResolver := ⟨app.config.FORCE_DENCUN_FORK_MODE, app.config.CAPELLA_FORK_VERSION⟩
  MESSAGES_LOCATION := app.config.MESSAGES_LOCATION
  MESSAGES_PASSWORD := app.config.MESSAGES_PASSWORD
  VALIDATORS_BATCH_SIZE := app.VALIDATORS_BATCH_SIZE

/-- **The job processor of the app.** -/
def jobProcessor : JobProcessor app.World where
  messagesProcessor := app.messagesProcessor
  exitLogs := app.exitLogs
  DRY_RUN := app.config.DRY_RUN
  VALIDATOR_EXIT_WEBHOOK := app.config.VALIDATOR_EXIT_WEBHOOK

/-- All calls of a world. -/
def callsOf (world : app.World) : List Call := world.verifier.node.wire.calls

variable {app} {P E : List Call → Prop} {α : Type} {Q : α → List Call → Prop}

theorem onNode_calls {x : EStateM Failure (Node ν) α}
    (triple : Triple (fun node => P node.wire.calls) x (fun a node => Q a node.wire.calls)
      fun node => E node.wire.calls) :
    Triple (fun world => P (app.callsOf world)) (app.onNode x) (fun a world => Q a (app.callsOf world))
      fun world => E (app.callsOf world) :=
  Triple.part (fun _ _ => rfl) triple

/-- What a computation does to the calls of the wire, it does to those of the world. -/
theorem onWire_calls {x : EStateM Failure (Wire ν) α}
    (triple : Triple (fun wire => P wire.calls) x (fun a wire => Q a wire.calls) fun wire => E wire.calls) :
    Triple (fun world => P (app.callsOf world)) (app.onWire x) (fun a world => Q a (app.callsOf world))
      fun world => E (app.callsOf world) :=
  onNode_calls (Triple.part (fun _ _ => rfl) triple)

theorem onNetwork_calls (x : EStateM Failure ν α) :
    Preserves (fun world => P (app.callsOf world)) (app.onNetwork x) := by
  refine onWire_calls fun wire kept => ?_
  unfold onPart
  cases x wire.network with
  | ok a network => exact kept
  | error e network => exact kept

end App

/-! ### A host -/

/-- The app of a host, over a network where no call is answered. -/
def SampleHost.app : App Unit where
  host := host
  config := config
  webhookConfig := ⟨.int 10000, .int 0, none, "Authorization"⟩
  configured := makeConfig_host
  hooked := rfl
  BLOCKS_PRELOAD := Nat.succPNat 49999
  LOAD_LOGS_STEP := Nat.succPNat 9999
  VALIDATORS_BATCH_SIZE := Nat.succPNat 999
  WEBHOOK_MAX_RETRIES := 0
  preload_eq := by decide +kernel
  step_eq := by decide +kernel
  batch_eq := by decide +kernel
  retries_eq := rfl
  jwtService := ⟨"", fun _ => .error "", fun _ _ => .error ""⟩
  secretBuffer := none
  jwt_path := by decide +kernel
  initialized := rfl
  network := {
    refuses := fun _ => none
    fetch := fun _ _ => (.error (.network (.fetchError "fetch failed")), ())
    now := fun _ => (0, ())
    next := fun _ => (0, ()) }
  s3Read _ := pure []
  gsRead _ := pure []
  readFilesFromFolder _ := pure []
  readFile _ := pure "\x7b\"version\":\"1.9.0\"\x7d"
  hostOf url := url
  ethers := .recorded ⟨[], [], [], [], [], [], [], [], [], []⟩
  decodeFunctionResult _ := .ok (.array [])
  crypto := HoleskyFixture.crypto
  caches := .lru (Nat.succPNat 49)

/-- A call at its one endpoint is tried three times. -/
example : (stateAfter (SampleHost.app.execution.elRequest (jsonRpc "eth_syncing" [])) ⟨(), []⟩).calls.length =
    3 := by
  decide +kernel

end ValidatorEjector
