/-
**`services/job-processor` — one job: reload, read the log of exit requests, send the exits.**

* `JobProcessor`, `JobState` — the service over its message side and its exit logs, which share a world.
* `createExitingValidatorsRecord`, `isDistant` — what an event is judged by.
* `loadEvents`, `fetchValidators`, `prepare`, `handleEvent`, `handleEvents`, `updateLeftMessages`, `handleJob` —
  the parts of a job.
* `run` — jobs one after the other; a job that throws leaves what it has done.
-/

import ValidatorEjector.ExitLogs.Service
import ValidatorEjector.Messages.Processor

namespace ValidatorEjector

open Js Library Library.Program

def FINALIZED_BLOCK_EQUIVALENT : Int := 120

/-- **`makeJobProcessor`.** -/
structure JobProcessor (σ : Type) where
  messagesProcessor : MessagesProcessor σ
  exitLogs : ExitLogs σ
  DRY_RUN : Bool
  VALIDATOR_EXIT_WEBHOOK : Option String

/-- The gauges `updateLeftMessages` sets. -/
structure LeftMessages where
  exitMessagesLeftNumber : Int
  exitMessagesLeftPercent : JsNumber
  deriving DecidableEq

/-- The state of a job processor: the cache of exit logs, the message side with the world, and the
gauges. -/
structure JobState (σ : Type) where
  cache : List ValidatorsToEject
  header : CacheHeader
  messages : MessagesState σ
  leftMessages : LeftMessages

/-- The state of a new processor. -/
def JobState.fresh {σ : Type} (world : σ) : JobState σ :=
  ⟨[], ⟨0, -1⟩, .fresh world, ⟨0, .int 0⟩⟩

/-- The record of the validators that are exiting, by index. The keys are the decimal indices of
validators, none of which is a member every object has. -/
def createExitingValidatorsRecord (validators : List ValidatorData) : List (String × Bool) :=
  validators.map fun v => (v.index, isValidatorExiting v.validator.exit_epoch)

/-- A record says that the validator is exiting. -/
def isExitingIn (record : List (String × Bool)) (validatorIndex : String) : Bool :=
  (lastValue? record validatorIndex).getD false

/-- `lastBlockNumber - blockNumber > FINALIZED_BLOCK_EQUIVALENT`. -/
def isDistant (lastBlockNumber : Nat) (event : ValidatorsToEject) : Bool :=
  (JsNumber.int FINALIZED_BLOCK_EQUIVALENT).lt ((JsNumber.int lastBlockNumber).minus event.blockNumber)

/-- What a job has before its loop. -/
structure Prepared where
  lastBlockNumber : Nat
  eventsForEject : List ValidatorsToEject
  exitingValidatorsRecord : List (String × Bool)
  exitingValidatorsFinalizedRecord : List (String × Bool)

namespace JobProcessor

variable {σ : Type} (p : JobProcessor σ)

abbrev Run (σ α : Type) := EStateM Failure (JobState σ) α

/-- A computation of the message side. -/
def onMessages {α : Type} (x : MessagesProcessor.Run σ α) : Run σ α :=
  onPart JobState.messages (fun messages s => { s with messages }) x

/-- A computation of the exit logs. -/
def onExitLogs {α : Type} (x : EStateM Failure (ExitLogsState σ) α) : Run σ α :=
  onPart (fun s => ⟨s.cache, s.header, s.messages.world⟩)
    (fun logs s => { s with
      cache := logs.cache
      header := logs.header
      messages := { s.messages with world := logs.fetcher } }) x

/-- A request to the world. -/
def onWorld {α : Type} (x : EStateM Failure σ α) : Run σ α :=
  onMessages (MessagesProcessor.onWorld x)

/-- A job up to its events: the last block, and the events of the cache. -/
def loadEvents : Run σ (Nat × List ValidatorsToEject) := do
  onMessages (MessagesProcessor.note .jobStarted)
  onMessages p.messagesProcessor.reloadAndVerifyMessages
  onWorld p.messagesProcessor.outside.resolveExitBusAddress
  onWorld p.messagesProcessor.outside.resolveConsensusAddress
  let lastBlockNumber ← onWorld p.messagesProcessor.outside.latestBlockNumber
  let eventsForEject ← onExitLogs (p.exitLogs.getLogs lastBlockNumber)
  pure (lastBlockNumber, eventsForEject)

/-- The validators of the events, in a state of the consensus chain. -/
def fetchValidators (eventsForEject : List ValidatorsToEject) (state : String) : Run σ (List ValidatorData) :=
  let validatorIndices := eventsForEject.map ValidatorsToEject.validatorIndex
  onWorld (p.messagesProcessor.outside.cl.fetchValidatorsBatch validatorIndices
    p.messagesProcessor.VALIDATORS_BATCH_SIZE state)

/-- A job up to its loop. -/
def prepare : Run σ Prepared := do
  let (lastBlockNumber, eventsForEject) ← p.loadEvents
  let validatorsHead ← p.fetchValidators eventsForEject "head"
  let validatorsFinalized ← p.fetchValidators eventsForEject "finalized"
  pure {
    lastBlockNumber
    eventsForEject
    exitingValidatorsRecord := createExitingValidatorsRecord validatorsHead
    exitingValidatorsFinalizedRecord := createExitingValidatorsRecord validatorsFinalized }

/-- The acknowledgement of the event at a place of the cache. -/
def ackAt (place : Nat) : Run σ Unit :=
  modify fun s => { s with cache := s.cache.modify place ValidatorsToEject.ack }

/-- `webhookProcessor.send`. -/
def send (url : String) (event : ValidatorsToEject) : MessagesProcessor.Run σ Unit :=
  MessagesProcessor.countOutcome (p.messagesProcessor.outside.webhookRequest url event)

/-- An event is passed on, to the webhook where there is one. -/
def handOver (event : ValidatorsToEject) : MessagesProcessor.Run σ Unit := do
  MessagesProcessor.note (.handed event)
  if missing p.VALIDATOR_EXIT_WEBHOOK then p.messagesProcessor.exit event
  else p.send (p.VALIDATOR_EXIT_WEBHOOK.getD "") event

/-- One turn of the loop, for the event at a place of the cache. -/
def handleEvent (prepared : Prepared) (event : ValidatorsToEject × Nat) : Run σ Unit :=
  if event.1.acknowledged then pure ()
  else
    tryCatch (
        if isExitingIn prepared.exitingValidatorsRecord event.1.validatorIndex then
          if isDistant prepared.lastBlockNumber event.1
              || isExitingIn prepared.exitingValidatorsFinalizedRecord event.1.validatorIndex then
            ackAt event.2
          else pure ()
        else if p.DRY_RUN then pure ()
        else onMessages (p.handOver event.1))
      fun _ => onMessages (MessagesProcessor.countAction false)

def handleEvents (prepared : Prepared) : Run σ Unit :=
  prepared.eventsForEject.zipIdx.forM (p.handleEvent prepared)

/-- `metrics.updateLeftMessages`. -/
def leftMessagesOf (size exitingCount : Nat) : LeftMessages :=
  let numberLeft : Int := size - exitingCount
  { exitMessagesLeftNumber := numberLeft
    exitMessagesLeftPercent :=
      if 0 < size then ofRat ((ofRat (numberLeft / size)).toRat * 100) else .int 0 }

/-- The end of a job, whose error is caught. -/
def updateLeftMessages : Run σ Unit :=
  tryCatch (do
      let s ← get
      let validatorIndices :=
        s.messages.messageStorage.messages.map fun msg => msg.message.validator_index
      let exitingCount ← onWorld (p.messagesProcessor.outside.cl.getExitingValidatorsCount
        validatorIndices p.messagesProcessor.VALIDATORS_BATCH_SIZE)
      modify fun s => { s with
        leftMessages := leftMessagesOf s.messages.messageStorage.size exitingCount })
    fun _ => pure ()

def handleJob : Run σ Unit := do
  let prepared ← p.prepare
  p.handleEvents prepared
  p.updateLeftMessages

/-! ### Runs -/

/-- The state after some jobs, from an empty cache and an empty storage. What happens between two jobs is
part of what the world does at the next request. -/
def run (world : σ) : Nat → JobState σ
  | 0 => .fresh world
  | jobs + 1 => stateAfter p.handleJob (run world jobs)

end JobProcessor

end ValidatorEjector
