/-
**`services/messages-processor` and `message-reloader` — from message files to stored messages.**

A reload reads the folder, checks what it has not seen, prunes the storage and adds what passed.

* `MessagesProcessor`, `MessagesState` — the service, and its state: the storage, the names of the bad
  files, the metrics, and the world.
* `Occurrence` — the journal, which no function reads: the theorems speak about it.
* `fileMessage`, `loadFile`, `loadNewMessages` — what a file is taken for.
* `isValidSignature`, `verifyMessage`, `verify` — the check against the consensus node.
* `exit` — the message of a validator is sent out.
* `loadToMemoryStorage`, `getForkVersionInfo`, `reloadAndVerifyMessages` — the whole reload.
-/

import ValidatorEjector.Outside

namespace ValidatorEjector

open Js Library Library.Program

/-- The counter `exitActions` by its label. -/
structure ExitActions where
  success : Nat
  error : Nat
  deriving DecidableEq

/-- The counter `exitMessages` by its label. -/
structure ExitMessages where
  valid : Nat
  invalid : Nat
  deriving DecidableEq

/-- What the signing domain of an exit is made of. -/
structure SigningContext where
  isDencun : Bool
  capellaForkVersion : String
  genesis : Genesis
  state : ForkState

/-- What `verify` asked with, and what the consensus node told it. -/
structure Verification extends SigningContext where
  validatorsInfoMap : OrderedMap String ValidatorInfo

/-- **What the ejector did**, for the theorems. -/
inductive Occurrence
  | jobStarted
  | verified (verification : Verification)
  | reloaded (forkInfo : ForkVersionInfo)
  /-- An event was passed to `webhookProcessor.send` or `messagesProcessor.exit`. -/
  | handed (event : ValidatorsToEject)
  /-- `consensusApi.exitRequest` was called with a message of the storage for an event. -/
  | exitRequested (event : ValidatorsToEject) (storage : MessageStorage) (message : ExitMessage)
  /-- The storage had no message for an event. -/
  | unstored (event : ValidatorsToEject) (storage : MessageStorage)

/-- **`makeMessagesProcessor`, with the fork version resolver.** -/
structure MessagesProcessor (σ : Type) where
  outside : Outside σ
  crypto : Crypto
  forkVersionResolver : ForkVersionResolver
  MESSAGES_LOCATION : Option String
  MESSAGES_PASSWORD : Option String
  VALIDATORS_BATCH_SIZE : ℕ+

/-- The state of the message side, and the world. -/
structure MessagesState (σ : Type) where
  world : σ
  isDencunActivated : Bool
  messageStorage : MessageStorage
  /-- A `Set`, in the order of insertion. -/
  invalidExitMessageFiles : List String
  exitMessages : ExitMessages
  exitActions : ExitActions
  journal : List Occurrence

/-- The state of a new processor, with an empty storage. -/
def MessagesState.fresh {σ : Type} (world : σ) : MessagesState σ :=
  ⟨world, false, .fresh, [], ⟨0, 0⟩, ⟨0, 0⟩, []⟩

@[simp] theorem MessagesState.fresh_messageStorage {σ : Type} {world : σ} :
    (MessagesState.fresh world).messageStorage = .fresh := rfl

namespace MessagesProcessor

variable {σ : Type} (p : MessagesProcessor σ)

abbrev Run (σ α : Type) := EStateM Failure (MessagesState σ) α

/-- A request to the world. -/
def onWorld {α : Type} (x : EStateM Failure σ α) : Run σ α :=
  onPart MessagesState.world (fun world s => { s with world }) x

/-- An entry of the journal. -/
def note (occurrence : Occurrence) : Run σ Unit :=
  modify fun s => { s with journal := s.journal ++ [occurrence] }

/-- A computation on the storage. -/
def onStorage {α : Type} (f : MessageStorage → α × MessageStorage) : Run σ α := fun s =>
  let (a, messageStorage) := f s.messageStorage
  .ok a { s with messageStorage }

/-- `invalidExitMessageFiles.add`. -/
def markInvalid (filename : String) : Run σ Unit :=
  modify fun s => { s with invalidExitMessageFiles :=
    if filename ∈ s.invalidExitMessageFiles then s.invalidExitMessageFiles
    else s.invalidExitMessageFiles ++ [filename] }

/-- `exitActions.inc`. -/
def countAction (succeeded : Bool) : Run σ Unit :=
  modify fun s => { s with exitActions :=
    if succeeded then { s.exitActions with success := s.exitActions.success + 1 }
    else { s.exitActions with error := s.exitActions.error + 1 } }

/-! ### Loading -/

def decryptMessage (input : Json) : Except Failure Json :=
  if missing p.MESSAGES_PASSWORD then .error (.error "Password was not supplied")
  else do
    let checked ← encryptedMessageDTO (some input)
    let content ← p.crypto.decrypt checked (p.MESSAGES_PASSWORD.getD "")
    match Json.parse (p.crypto.decodeText content) with
    | some json => .ok json
    | none => .error (.error "Unparseable JSON after decryption")

/-- The message in a content that is not empty; `none` when a stage fails whose error is caught. Only the
operator `in` is outside of every `try`. -/
def fileMessage (content : String) : Except Failure (Option ExitMessage) :=
  match Json.parse content with
  | none => .ok none
  | some json =>
    match json.hasKey "crypto" with
    | none => .error ⟨.typeError,
        [.text "Cannot use 'in' operator to search for 'crypto' in ", .json json]⟩
    | some encrypted =>
      match if encrypted then p.decryptMessage json else .ok json with
      | .error _ => .ok none
      | .ok json =>
        match exitOrEthDoExitDTO (some json) with
        | .error _ => .ok none
        | .ok validated => .ok (some validated.message)

/-- One turn of the loop over the folder. -/
def loadFile (forkVersion : String) (messageFile : MessageFile) :
    Run σ (List ExitMessageWithMetadata) :=
  if messageFile.content = "" then do
    markInvalid messageFile.filename
    pure []
  else do
    let fileChecksum := p.crypto.sha256 messageFile.content
    if ← onStorage (·.touchMessageWithChecksum fileChecksum) then pure []
    else
      match ← ofResult (p.fileMessage messageFile.content) with
      | none =>
        markInvalid messageFile.filename
        pure []
      | some message => pure [⟨message, ⟨fileChecksum, messageFile.filename, forkVersion⟩⟩]

def loadNewMessages (forkVersion : String) : Run σ (List ExitMessageWithMetadata) :=
  if missing p.MESSAGES_LOCATION then pure []
  else do
    let folder ← onWorld (p.outside.readFolder (p.MESSAGES_LOCATION.getD ""))
    collect (p.loadFile forkVersion) folder

/-! ### Verification -/

/-- `verifyFork`, the signature over the signing domain of a fork. -/
def verifyFork (pubKey signature GENESIS_VALIDATORS_ROOT : Bytes) (message : VoluntaryExit)
    (fork : Bytes) : Bool :=
  let domain := p.crypto.computeDomain DOMAIN_VOLUNTARY_EXIT fork GENESIS_VALIDATORS_ROOT
  let signingRoot := p.crypto.computeSigningRoot (parseInt message.epoch 10)
    (parseInt message.validator_index 10) domain
  p.crypto.blsVerify pubKey signingRoot signature

/-- The check of the signature of a message against the key of its validator. -/
def isValidSignature (c : SigningContext) (pubKey : String) (m : ExitMessage) : Except Failure Bool := do
  let pubKey ← p.crypto.fromHex pubKey
  let signature ← p.crypto.fromHex m.signature
  let GENESIS_VALIDATORS_ROOT ← p.crypto.fromHex c.genesis.genesis_validators_root
  let CURRENT_FORK ← p.crypto.fromHex c.state.current_version
  let PREVIOUS_FORK ← p.crypto.fromHex c.state.previous_version
  let CAPELLA_FORK_VERSION ← p.crypto.fromHex c.capellaForkVersion
  let verifyFork := p.verifyFork pubKey signature GENESIS_VALIDATORS_ROOT m.message
  pure (if c.isDencun then verifyFork CAPELLA_FORK_VERSION
    else verifyFork CURRENT_FORK || verifyFork PREVIOUS_FORK)

/-- One turn of the loop over the messages. The signature for a validator that is exiting is not looked
at. -/
def verifyMessage (v : Verification) (m : ExitMessageWithMetadata) :
    Run σ (List ExitMessageWithMetadata) :=
  match v.validatorsInfoMap.get? m.index with
  | none => do
    markInvalid m.meta.filename
    pure []
  | some validatorInfo =>
    if validatorInfo.isExiting then pure []
    else do
      if ← ofResult (p.isValidSignature v.toSigningContext validatorInfo.pubKey m.data) then pure [m]
      else
        markInvalid m.meta.filename
        pure []

def verify (messages : List ExitMessageWithMetadata) (isDencun : Bool) (capellaForkVersion : String) :
    Run σ (List ExitMessageWithMetadata) :=
  if missing p.MESSAGES_LOCATION then pure []
  else do
    let genesis ← onWorld p.outside.cl.genesis
    let state ← onWorld p.outside.cl.state
    let validatorIndices := (messages.map ExitMessageWithMetadata.index).eraseDups
    let validatorsInfoMap ← onWorld
      (p.outside.cl.fetchValidatorsInfoBatch validatorIndices p.VALIDATORS_BATCH_SIZE)
    let v : Verification := ⟨⟨isDencun, capellaForkVersion, genesis, state⟩, validatorsInfoMap⟩
    note (.verified v)
    collect (p.verifyMessage v) messages

/-! ### Exits -/

/-- A request in a `try`, counted as a success or an error. -/
def countOutcome (request : EStateM Failure σ Unit) : Run σ Unit :=
  tryCatch (do
      onWorld request
      countAction true)
    fun _ => countAction false

def exit (event : ValidatorsToEject) : Run σ Unit := do
  let s ← get
  match s.messageStorage.findByValidatorIndex event.validatorIndex with
  | none =>
    note (.unstored event s.messageStorage)
    countAction false
  | some message =>
    note (.exitRequested event s.messageStorage message)
    countOutcome (p.outside.exitRequest message)

/-! ### Reloading -/

/-- What `loadToMemoryStorage` returns; the set of bad files is in the state. -/
structure LoadStats where
  updated : Nat
  added : Nat
  removed : Nat
  deriving DecidableEq

/-- The start of a cycle: no bad files, a new stamp, and no message of another fork. -/
def startCycle (currentVersion : String) : Run σ Unit := fun s =>
  let (now, world) := p.outside.now s.world
  .ok () { s with
    world := world
    invalidExitMessageFiles := []
    messageStorage :=
      (s.messageStorage.startUpdateCycle now).removeOldForkVersionMessages currentVersion }

/-- `metrics.exitMessages`, reset and counted. -/
def updateExitMessages : Run σ Unit :=
  modify fun s => { s with
    exitMessages := ⟨s.messageStorage.size, s.invalidExitMessageFiles.length⟩ }

def loadToMemoryStorage (forkInfo : ForkVersionInfo) : Run σ LoadStats := do
  p.startCycle forkInfo.currentVersion
  let newMessages ← p.loadNewMessages forkInfo.currentVersion
  let verifiedNewMessages ← p.verify newMessages forkInfo.isDencun forkInfo.capellaVersion
  let removed ← onStorage (·.removeOldMessages)
  let stats ← onStorage (·.updateMessages verifiedNewMessages)
  updateExitMessages
  pure ⟨stats.updated, stats.added, removed⟩

/-- `isDencunHappened`: once it has, it is remembered. -/
def isDencunHappened (currentVersion capellaVersion : String) : Run σ Bool := fun s =>
  let happened := s.isDencunActivated || p.forkVersionResolver.isActivated currentVersion capellaVersion
  .ok happened { s with isDencunActivated := happened }

def getForkVersionInfo : Run σ ForkVersionInfo := do
  let currentVersion ← onWorld (ForkVersionResolver.getCurrentForkVersion p.outside.cl)
  let capellaVersion ← onWorld (p.forkVersionResolver.getCapellaForkVersion p.outside.cl)
  let isDencun ← p.isDencunHappened currentVersion capellaVersion
  pure { currentVersion, capellaVersion, isDencun }

def reloadAndVerifyMessages : Run σ Unit :=
  if missing p.MESSAGES_LOCATION then pure ()
  else do
    let forkInfo ← p.getForkVersionInfo
    let _ ← p.loadToMemoryStorage forkInfo
    note (.reloaded forkInfo)

end MessagesProcessor

end ValidatorEjector
