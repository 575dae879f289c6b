/-
**`services/config` — the configuration of the app.**

* `Host` — the environment variables, and the files that they name.
* `envOrFile`, `webhookToken`, `resolveLoggerSecretValues` — a secret, from its variable or its file.
* `ejector_scope`, `makeLegacyEjectorScope` — the operators to act for.
* `makeConfig`, `makeLoggerConfig`, `makeWebhookProcessorConfig` — the configurations; the checks run in
  the order of the source, and the first error is thrown.
-/

import ValidatorEjector.ExitLogs.Fetcher

namespace ValidatorEjector

open Js Validator

/-- `process.env` and the file system. -/
structure Host where
  env : String → Option String
  /-- `readFileSync(path, 'utf-8')`; `none` when it throws. -/
  readFileSync : String → Option String

/-- The configuration of the app. -/
structure AppConfig where
  EXECUTION_NODE : List String
  CONSENSUS_NODE : List String
  JWT_SECRET_PATH : Option String
  LOCATOR_ADDRESS : String
  STAKING_MODULE_ID : Option String
  EJECTOR_SCOPE : List EjectorScope
  OPERATOR_ID : Option Nat
  OPERATOR_IDENTIFIERS : Option (List Nat)
  ORACLE_ADDRESSES_ALLOWLIST : List String
  SUBMIT_TX_HASH_ALLOWLIST : List String
  MESSAGES_LOCATION : Option String
  VALIDATOR_EXIT_WEBHOOK : Option String
  MESSAGES_PASSWORD : Option String
  BLOCKS_PRELOAD : JsNumber
  LOAD_LOGS_STEP : JsNumber
  VALIDATORS_BATCH_SIZE : JsNumber
  JOB_INTERVAL : JsNumber
  HTTP_PORT : JsNumber
  RUN_METRICS : Bool
  RUN_HEALTH_CHECK : Bool
  DRY_RUN : Bool
  TRUST_MODE : Bool
  PROM_PREFIX : Option String
  FORCE_DENCUN_FORK_MODE : Bool
  CAPELLA_FORK_VERSION : Option String
  OPERATOR_IDS : List Nat
  STAKING_MODULE_IDS : List String

/-- The configuration of the logger. -/
structure LoggerConfig where
  LOGGER_LEVEL : LogLevel
  LOGGER_FORMAT : Format
  LOGGER_SECRETS : List String

/-- The configuration of the webhook. -/
structure WebhookProcessorConfig where
  WEBHOOK_ABORT_TIMEOUT_MS : JsNumber
  WEBHOOK_MAX_RETRIES : JsNumber
  WEBHOOK_TOKEN : Option String
  WEBHOOK_HEADER : String

/-! ### Checks -/

/-- `nonNegativeInteger`. -/
def nonNegativeInteger (value : Option Json) (name : String) : Except Failure Nat := do
  let parsed ← num value (some s!"{name} must be a non-negative integer")
  match parsed with
  | .int z =>
    if 0 ≤ z then .ok z.toNat else .error (.error s!"{name} must be a non-negative integer")
  | _ => .error (.error s!"{name} must be a non-negative integer")

/-- One member of `EJECTOR_SCOPE`. -/
def scopeOf (stakingModuleId : String) (operatorIds : Json) : Except Failure EjectorScope := do
  let parsedOperatorIds ← arr operatorIds
    (fun ids => ids.mapM fun id =>
      nonNegativeInteger id s!"EJECTOR_SCOPE operators for staking module {stakingModuleId}")
    (some s!"Invalid EJECTOR_SCOPE operators for staking module {stakingModuleId}")
  if parsedOperatorIds = [] then
    .error (.error s!"EJECTOR_SCOPE for staking module {stakingModuleId} must include at least one operator id")
  else do
    let id ← nonNegativeInteger (some (.string stakingModuleId)) "EJECTOR_SCOPE staking module id"
    .ok { stakingModuleId := (JsNumber.int id).toText, operatorIds := parsedOperatorIds.eraseDups }

/-- `ejector_scope`. -/
def ejector_scope (input : Option Json) : Except Failure (List EjectorScope) := do
  let scopes ← json_obj input
    (fun scope => (Json.entries scope).mapM fun (stakingModuleId, operatorIds) =>
      scopeOf stakingModuleId operatorIds)
    "Please, setup EJECTOR_SCOPE. Example: \x7b\"1\":[123],\"2\":[7,8]\x7d"
  match scopes with
  | [] => .error (.error "EJECTOR_SCOPE must include at least one staking module")
  | scopes => .ok scopes

/-- `makeLegacyEjectorScope`. -/
def makeLegacyEjectorScope (stakingModuleId : Option String) (operatorIds : List Nat) :
    Except Failure (List EjectorScope) :=
  match stakingModuleId.filter (· ≠ ""), operatorIds with
  | none, _ => .error (.error "At least one of EJECTOR_SCOPE or STAKING_MODULE_ID must be provided.")
  | some _, [] => .error (.error
      "At least one of EJECTOR_SCOPE, OPERATOR_ID or OPERATOR_IDENTIFIERS must be provided.")
  | some stakingModuleId, operatorIds =>
    .ok [{ stakingModuleId, operatorIds := operatorIds.eraseDups }]

/-- A list of texts. -/
def texts (elements : List Json) : Except Failure (List String) :=
  elements.mapM fun (element : Json) => str element

namespace Host

variable (host : Host)

/-- `env.NAME`, as a check takes it. -/
def unknown (name : String) : Option Json := (host.env name).map Json.string

/-- `env.NAME`, if it is truthy. -/
def filled (name : String) : Option String := (host.env name).filter (· ≠ "")

/-- `envOrFile`. -/
def envOrFile (envName : String) : Except Failure (Option String) :=
  match host.filled envName, host.filled (envName ++ "_FILE") with
  | some value, _ => .ok (some value)
  | none, some path =>
    match host.readFileSync path with
    | some content => .ok (some content)
    | none => .error (.error s!"Unable to load {envName}_FILE")
  | none, none => .ok none

/-- `webhookToken`. -/
def webhookToken : Except Failure (Option String) :=
  match host.filled "WEBHOOK_TOKEN", host.filled "WEBHOOK_TOKEN_FILE" with
  | some token, _ => .ok (some token)
  | none, some tokenFile =>
    match host.readFileSync tokenFile with
    | some content => .ok (some (String.ofList (trim content.toList)))
    | none => .error (.error "Unable to load WEBHOOK_TOKEN_FILE")
  | none, none => .ok none

def LOGGER_SECRET_URL_LIST_ENV_VARS : List String := ["EXECUTION_NODE", "CONSENSUS_NODE"]

/-- `resolveLoggerSecretValues`. -/
def resolveLoggerSecretValues (envVar : String) : Except Failure (List String) := do
  let value ← host.envOrFile envVar
  match value.filter (· ≠ "") with
  | none => .ok [envVar]
  | some value =>
    if envVar ∈ LOGGER_SECRET_URL_LIST_ENV_VARS then .ok (value :: normalizeUrlList value)
    else .ok [value]

/-- `Math.max(1, Math.floor(optional(() => num(env.NAME)) || fallback))`. -/
def countOf (name : String) (fallback : Int) : Except Failure JsNumber := do
  let value ← optional (num (host.unknown name))
  .ok (JsNumber.max (.int 1) (JsNumber.orElse value (.int fallback)).floor)

/-- `optional(() => bool(env.NAME, …))`. -/
def flag (name : String) : Except Failure (Option Bool) :=
  optional (bool (host.unknown name) (some s!"Invalid {name} value: expected true or false"))

/-- `optional(() => str(env.NAME))`. -/
def text (name : String) : Except Failure (Option String) := optional (str (host.unknown name))

/-! ### The configurations -/

/-- The operators of the legacy variables, if `EJECTOR_SCOPE` is not set. -/
def legacyOperators (OPERATOR_IDENTIFIERS : Option (List Nat)) (OPERATOR_ID : Option Nat) : List Nat :=
  match OPERATOR_IDENTIFIERS.getD [], OPERATOR_ID with
  | [], some id => [id]
  | ids, _ => ids

/-- A variable that is read if `EJECTOR_SCOPE` is not set. -/
def legacy {α : Type} (useLegacyScope : Bool) (read : Except Failure α) : Except Failure (Option α) :=
  if useLegacyScope then optional read else .ok none

/-- `TRUST_MODE`, or the variable it had before. -/
def trustMode : Except Failure Bool := do
  match ← host.flag "TRUST_MODE" with
  | some value => .ok value
  | none => .ok ((← host.flag "DISABLE_SECURITY_DONT_USE_IN_PRODUCTION").getD false)

/-- Messages come from a folder, or exits go to a webhook. -/
def checkMode (MESSAGES_LOCATION VALIDATOR_EXIT_WEBHOOK : Option String) : Except Failure Unit :=
  match MESSAGES_LOCATION.filter (· ≠ ""), VALIDATOR_EXIT_WEBHOOK.filter (· ≠ "") with
  | some _, some _ => .error (.error
      "Both MESSAGES_LOCATION and VALIDATOR_EXIT_WEBHOOK are defined. Ensure only one is set.")
  | none, none => .error (.error
      "Neither MESSAGES_LOCATION nor VALIDATOR_EXIT_WEBHOOK are defined. Please set one of them.")
  | _, _ => .ok ()

/-- The scope that is set, or the legacy one. -/
def scopeOrLegacy (ejectorScope : List EjectorScope) (STAKING_MODULE_ID : Option String)
    (operatorIds : List Nat) : Except Failure (List EjectorScope) :=
  if ejectorScope.isEmpty then makeLegacyEjectorScope STAKING_MODULE_ID operatorIds else .ok ejectorScope

/-- `makeConfig`. -/
def makeConfig : Except Failure AppConfig := do
  let ejectorScope := (← optional (ejector_scope (host.unknown "EJECTOR_SCOPE"))).getD []
  let useLegacyScope := ejectorScope.isEmpty
  let EXECUTION_NODE ← url_list (host.unknown "EXECUTION_NODE") (some
    ("Please, setup EXECUTION_NODE address. Example: http://1.2.3.4:8545 or " ++
      "http://primary:8545,http://backup:8545"))
  let CONSENSUS_NODE ← url_list (host.unknown "CONSENSUS_NODE") (some
    ("Please, setup CONSENSUS_NODE address. Example: http://1.2.3.4:5051 or " ++
      "http://primary:5051,http://backup:5051"))
  let JWT_SECRET_PATH ← host.text "JWT_SECRET_PATH"
  let LOCATOR_ADDRESS ← str (host.unknown "LOCATOR_ADDRESS") (some
    "Please, setup LOCATOR_ADDRESS address. Example: 0xXXXXXXXXXXXXXXXXXXXXXXXXXXXXXXXXXXXXXXXX")
  let STAKING_MODULE_ID ← legacy useLegacyScope
    ((nonNegativeInteger (host.unknown "STAKING_MODULE_ID") "STAKING_MODULE_ID").map
      fun (id : Nat) => (JsNumber.int id).toText)
  let OPERATOR_ID ← legacy useLegacyScope (nonNegativeInteger (host.unknown "OPERATOR_ID") "OPERATOR_ID")
  let OPERATOR_IDENTIFIERS ← legacy useLegacyScope (json_arr (host.unknown "OPERATOR_IDENTIFIERS")
    (fun oracles => oracles.mapM fun (oracle : Json) => nonNegativeInteger oracle "OPERATOR_IDENTIFIERS")
    "Please, setup OPERATOR_IDENTIFIERS. Example: [1,2,3]")
  let ORACLE_ADDRESSES_ALLOWLIST ← json_arr (host.unknown "ORACLE_ADDRESSES_ALLOWLIST") texts
    "Please, setup ORACLE_ADDRESSES_ALLOWLIST. Example: [\"0x123\",\"0x123\"]"
  let SUBMIT_TX_HASH_ALLOWLIST ← optional (json_arr (host.unknown "SUBMIT_TX_HASH_ALLOWLIST") texts
    "Please, setup SUBMIT_TX_HASH_ALLOWLIST. Example: [\"0x123abc\",\"0x456def\"]")
  let MESSAGES_LOCATION ← host.text "MESSAGES_LOCATION"
  let VALIDATOR_EXIT_WEBHOOK ← host.text "VALIDATOR_EXIT_WEBHOOK"
  let MESSAGES_PASSWORD ← optional do str ((← host.envOrFile "MESSAGES_PASSWORD").map Json.string)
  let BLOCKS_PRELOAD ← host.countOf "BLOCKS_PRELOAD" 50000
  let LOAD_LOGS_STEP ← host.countOf "LOAD_LOGS_STEP" 10000
  let VALIDATORS_BATCH_SIZE ← host.countOf "VALIDATORS_BATCH_SIZE" 1000
  let JOB_INTERVAL ← optional (num (host.unknown "JOB_INTERVAL"))
  let HTTP_PORT ← optional (num (host.unknown "HTTP_PORT"))
  let RUN_METRICS ← host.flag "RUN_METRICS"
  let RUN_HEALTH_CHECK ← host.flag "RUN_HEALTH_CHECK"
  let DRY_RUN ← host.flag "DRY_RUN"
  let TRUST_MODE ← host.trustMode
  let PROM_PREFIX ← host.text "PROM_PREFIX"
  let FORCE_DENCUN_FORK_MODE ← host.flag "FORCE_DENCUN_FORK_MODE"
  let CAPELLA_FORK_VERSION ← host.text "CAPELLA_FORK_VERSION"
  checkMode MESSAGES_LOCATION VALIDATOR_EXIT_WEBHOOK
  let EJECTOR_SCOPE ← scopeOrLegacy ejectorScope STAKING_MODULE_ID
    (legacyOperators OPERATOR_IDENTIFIERS OPERATOR_ID)
  .ok {
    EXECUTION_NODE, CONSENSUS_NODE, JWT_SECRET_PATH, LOCATOR_ADDRESS, STAKING_MODULE_ID, EJECTOR_SCOPE,
    OPERATOR_ID, OPERATOR_IDENTIFIERS, ORACLE_ADDRESSES_ALLOWLIST, MESSAGES_LOCATION,
    VALIDATOR_EXIT_WEBHOOK, MESSAGES_PASSWORD, BLOCKS_PRELOAD, LOAD_LOGS_STEP, VALIDATORS_BATCH_SIZE,
    TRUST_MODE, PROM_PREFIX, CAPELLA_FORK_VERSION
    SUBMIT_TX_HASH_ALLOWLIST := SUBMIT_TX_HASH_ALLOWLIST.getD []
    JOB_INTERVAL := JOB_INTERVAL.getD (.int 384000)
    HTTP_PORT := HTTP_PORT.getD (.int 8989)
    RUN_METRICS := RUN_METRICS.getD false
    RUN_HEALTH_CHECK := RUN_HEALTH_CHECK.getD true
    DRY_RUN := DRY_RUN.getD false
    FORCE_DENCUN_FORK_MODE := FORCE_DENCUN_FORK_MODE.getD false
    OPERATOR_IDS := (EJECTOR_SCOPE.flatMap EjectorScope.operatorIds).eraseDups
    STAKING_MODULE_IDS := EJECTOR_SCOPE.map EjectorScope.stakingModuleId }

/-- The entries of `LOGGER_SECRETS`. -/
def loggerSecrets : Except Failure (List String) := do
  let secrets ← optional (json_arr (host.unknown "LOGGER_SECRETS") texts
    "Please, setup LOGGER_SECRETS. Example: [\"EXECUTION_NODE\",\"CONSENSUS_NODE\"]")
  .ok (secrets.getD [])

/-- `makeLoggerConfig`. -/
def makeLoggerConfig : Except Failure LoggerConfig := do
  let LOGGER_LEVEL ← optional (level_attr (host.unknown "LOGGER_LEVEL"))
  let LOGGER_FORMAT ← optional (log_format (host.unknown "LOGGER_FORMAT"))
  let secrets ← host.loggerSecrets
  let values ← secrets.mapM host.resolveLoggerSecretValues
  .ok {
    LOGGER_LEVEL := LOGGER_LEVEL.getD .info
    LOGGER_FORMAT := LOGGER_FORMAT.getD .simple
    LOGGER_SECRETS := values.flatten.eraseDups }

/-- `makeWebhookProcessorConfig`. -/
def makeWebhookProcessorConfig : Except Failure WebhookProcessorConfig := do
  let WEBHOOK_ABORT_TIMEOUT_MS ← optional (num (host.unknown "WEBHOOK_ABORT_TIMEOUT_MS"))
  let WEBHOOK_MAX_RETRIES ← optional (num (host.unknown "WEBHOOK_MAX_RETRIES"))
  let WEBHOOK_TOKEN ← host.webhookToken
  let WEBHOOK_HEADER ← host.text "WEBHOOK_HEADER"
  .ok {
    WEBHOOK_ABORT_TIMEOUT_MS := WEBHOOK_ABORT_TIMEOUT_MS.getD (.int 10000)
    WEBHOOK_MAX_RETRIES := WEBHOOK_MAX_RETRIES.getD (.int 0)
    WEBHOOK_TOKEN
    WEBHOOK_HEADER := WEBHOOK_HEADER.getD "Authorization" }

end Host

end ValidatorEjector
