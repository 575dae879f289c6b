/-
**Nodes with fixed answers, and a signed message with recorded answers.**

* `ExitMessage.toJson`, `EthDoExitMessage.toJson` — the two shapes of a file; `fileMessage_toJson`,
  `fileMessage_ethDo` — a file of either shape is read as its message.
* `FixedWorld`, `Moment`, `Outside.fixed` — nodes that answer every request alike, and the clock and folder
  of a moment; `told_fixed` — what a load is told there.
* `HoleskyFixture` — the exit message the processor's tests load: its file, the key of its validator, and
  what hashing, SSZ and BLS give on it.
-/

import ValidatorEjector.Js.Stringify
import ValidatorEjector.Messages.Load
import ValidatorEjector.Recorded

namespace ValidatorEjector

open Js Library Library.Program

/-! ### Files -/

/-- A message as a JSON value. -/
def ExitMessage.toJson (m : ExitMessage) : Json :=
  .object [("message", .object [("epoch", .string m.message.epoch),
    ("validator_index", .string m.message.validator_index)]), ("signature", .string m.signature)]

/-- A message as `ethdo` writes it. -/
def EthDoExitMessage.toJson (m : EthDoExitMessage) : Json :=
  .object [("exit", m.exit.toJson), ("fork_version", .string m.fork_version)]

/-- `JSON.stringify`, with no number in the value. -/
def textOf (json : Json) : String := Json.stringify JsNumber.toText json

theorem ExitMessage.textual (m : ExitMessage) : m.toJson.Textual :=
  ⟨⟨trivial, trivial, trivial⟩, trivial, trivial⟩

theorem EthDoExitMessage.textual (m : EthDoExitMessage) : m.toJson.Textual :=
  ⟨m.exit.textual, trivial, trivial⟩

/-- A printed value is not empty. -/
theorem textOf_ne_empty {json : Json} (textual : json.Textual) : textOf json ≠ "" := by
  intro empty
  have parsed : Json.parse (textOf json) = some json := Json.parse_stringify textual
  have nothing : (Json.parse "").isNone = true := by decide +kernel
  rw [← empty, parsed] at nothing
  cases nothing

section Files

variable {σ : Type} {p : MessagesProcessor σ}

theorem fileMessage_of_parse {content : String} {json : Json} {validated : Validated}
    (parsed : Json.parse content = some json) (plain : json.hasKey "crypto" = some false)
    (shape : exitOrEthDoExitDTO (some json) = .ok validated) :
    p.fileMessage content = .ok (some validated.message) := by
  unfold MessagesProcessor.fileMessage
  simp [parsed, plain, shape]

/-- **A printed message is read.** -/
theorem fileMessage_toJson (m : ExitMessage) : p.fileMessage (textOf m.toJson) = .ok (some m) :=
  fileMessage_of_parse (Json.parse_stringify m.textual) rfl
    (show exitOrEthDoExitDTO (some m.toJson) = .ok (.exitMessage m) from rfl)

/-- So is one that `ethdo` has printed. -/
theorem fileMessage_ethDo (m : EthDoExitMessage) :
    p.fileMessage (textOf m.toJson) = .ok (some m.exit) :=
  fileMessage_of_parse (Json.parse_stringify m.textual) rfl
    (show exitOrEthDoExitDTO (some m.toJson) = .ok (.ethDo m) from rfl)

/-- The two shapes have different texts. -/
theorem textOf_ne (m : ExitMessage) (m' : EthDoExitMessage) : textOf m.toJson ≠ textOf m'.toJson := by
  intro same
  have parsed := congrArg Json.parse same
  unfold textOf at parsed
  rw [Json.parse_stringify m.textual, Json.parse_stringify m'.textual] at parsed
  injection parsed with objects
  injection objects with members
  injection members with first
  injection first with key
  exact absurd key (by decide)

end Files

/-! ### Fixed answers -/

/-- The answers of the nodes. -/
structure FixedWorld where
  genesis : Genesis
  state : ForkState
  chainId : String
  head : List ValidatorData
  finalized : List ValidatorData
  lastBlockNumber : Nat

/-- The clock, and the folder. -/
structure Moment where
  now : Int
  folder : List MessageFile

/-- An answer of the consensus node. -/
def dataJson (members : List (String × String)) : Json := .object [("data", textObject members)]

def Genesis.toJson (genesis : Genesis) : Json :=
  dataJson [("genesis_time", genesis.genesis_time),
    ("genesis_validators_root", genesis.genesis_validators_root),
    ("genesis_fork_version", genesis.genesis_fork_version)]

def ForkState.toJson (state : ForkState) : Json :=
  dataJson [("previous_version", state.previous_version), ("current_version", state.current_version),
    ("epoch", state.epoch)]

/-- **The world that always answers the same** at a moment, and takes whatever is sent to it. -/
def Outside.fixed (w : FixedWorld) : Outside Moment where
  cl := { clRequest := fun
    | .genesis => pure w.genesis.toJson
    | .fork => pure w.state.toJson
    | .depositContract => pure (dataJson [("chain_id", w.chainId), ("address", "0x000000001")])
    | .validators tag _ => pure (validatorsJson (if tag = "head" then w.head else w.finalized)) }
  now moment := (moment.now, moment)
  s3Read _ := fun moment => .ok moment.folder moment
  gsRead _ := fun moment => .ok moment.folder moment
  readFilesFromFolder _ := fun moment => .ok moment.folder moment
  exitRequest _ := pure ()
  webhookRequest _ _ := pure ()
  resolveExitBusAddress := pure ()
  resolveConsensusAddress := pure ()
  latestBlockNumber := pure w.lastBlockNumber

/-- What the node reports at head, asked for some indices. -/
def FixedWorld.infos (w : FixedWorld) (batchSize : ℕ+) (indices : List String) :
    OrderedMap String ValidatorInfo :=
  OrderedMap.ofEntries (((batches batchSize indices).flatMap fun _ => w.head).map fun v =>
    (v.index, v.toInfo))

section Fixed

variable {w : FixedWorld} {moment : Moment} {batchSize : ℕ+} {indices : List String}

theorem readFolder_fixed {location : String} :
    (Outside.fixed w).readFolder location moment = .ok moment.folder moment := by
  unfold Outside.readFolder
  by_cases s3 : "s3://".toList <+: location.toList
  · rw [if_pos s3]
    rfl
  · rw [if_neg s3]
    by_cases gs : "gs://".toList <+: location.toList
    · rw [if_pos gs]
      rfl
    · rw [if_neg gs]
      rfl

theorem fetchBatch_fixed {tag : String} {batch : List String} :
    (Outside.fixed w).cl.fetchBatch tag batch moment =
      .ok (if tag = "head" then w.head else w.finalized) moment :=
  bind_ok.mpr ⟨_, moment, rfl, ofResult_ok.mpr ⟨validatorsBatchDTO_toJson _, rfl⟩⟩

theorem fetchValidatorsInfoBatch_fixed :
    (Outside.fixed w).cl.fetchValidatorsInfoBatch indices batchSize "head" moment =
      .ok (w.infos batchSize indices) moment := by
  have turns : Turns ((Outside.fixed w).cl.fetchBatch "head") (fun _ => True) (fun _ => w.head)
      (fun moment _ => moment) fun _ => True := by
    refine ⟨fun _ moment _ bs moment' => ?_, fun _ _ _ => trivial⟩
    rw [fetchBatch_fixed]
    exact ok_iff_of_ok rfl trivial bs moment'
  have stays : ∀ (bs : List (List String)), bs.foldl (fun moment _ => moment) moment = moment := by
    intro bs
    induction bs with
    | nil => rfl
    | cons _ _ ih => exact ih
  have fetched := (turns.collect (batches batchSize indices) moment trivial _ moment).mpr
    ⟨fun _ _ => trivial, rfl, (stays _).symm⟩
  exact bind_ok.mpr ⟨_, moment, fetched, rfl⟩

/-- The only validator the node reports is found under its index. -/
theorem infos_get? {v : ValidatorData} (only : w.head = [v]) (asked : indices ≠ []) :
    (w.infos batchSize indices).get? v.index = some v.toInfo := by
  obtain ⟨first, rest, some⟩ := List.exists_cons_of_ne_nil asked
  have entry : (v.index, v.toInfo) ∈ ((batches batchSize indices).flatMap fun _ => w.head).map fun v =>
      (v.index, v.toInfo) := by
    rw [only, some]
    exact List.mem_cons_self
  unfold FixedWorld.infos
  rw [OrderedMap.get?_ofEntries]
  cases found : lastValue? _ v.index with
  | none => exact absurd entry (lastValue?_eq_none.mp found v.toInfo)
  | some info =>
    obtain ⟨u, member, pair⟩ := List.mem_map.mp (mem_of_lastValue? found)
    obtain ⟨_, _, member⟩ := List.mem_flatMap.mp member
    rw [only, List.mem_singleton] at member
    rw [← (Prod.mk.inj pair).2, member]

end Fixed

/-! ### The fixture -/

/-- The bytes of pairs of hexadecimal digits. -/
def digitBytes : List Char → Option Bytes
  | [] => some []
  | [_] => none
  | high :: low :: rest => do
    let high ← digitValue? 16 high
    let low ← digitValue? 16 low
    let bytes ← digitBytes rest
    some (UInt8.ofNat (16 * high + low) :: bytes)

namespace HoleskyFixture

def VALIDATOR_PUB_KEY : String :=
  "0x970d7295d60f14c76937487dd14e4b792fdf1e2e3510ba8b0531a5ec2a4ccf6ab4f9b352d2a71f2861b509dddaeaa271"

def CAPELLA_FORK_VERSION : String := "0x04017000"

def genesis : Genesis :=
  ⟨"1695902400", "0x9143aa7c615a7f7115e2b6aac319c03529df8242ae705fba9df39b79c59fa8b1", "0x01017000"⟩

def forkState : ForkState := ⟨CAPELLA_FORK_VERSION, CAPELLA_FORK_VERSION, "28624"⟩

def signature : String :=
  "0xa7e459f559b16c4a6fa9184612a09dfcb8fed6b605c5e7228c66d73ac0cea80524a4e516592759596518d5c4873e9aef" ++
    "00d1a961b111233b38aa5455459a6b82882605df9f5a3e1429aa9c542204a7cf5c18c7935d98cbf534afc42e5c6c8617"

/-- The signed exit of validator `828943`. -/
def message : ExitMessage := ⟨⟨"28624", "828943"⟩, signature⟩

/-- The message as `ethdo` writes it. -/
def ethDoMessage : EthDoExitMessage := ⟨message, CAPELLA_FORK_VERSION⟩

/-- The file of the message. -/
def file : MessageFile := ⟨"capella.json", textOf message.toJson⟩

/-- The file of the same message in the other shape. -/
def ethDoFile : MessageFile := ⟨"ethdo.json", textOf ethDoMessage.toJson⟩

def fileChecksum : String := "ba1a848019cae07f9cb47a685a35016340089c2731707dfa6eb755600f8cba21"

def ethDoChecksum : String := "5a32daca777070f541c9abd6d228036278385c6f30ad871d8fb333dda9dba367"

def domain : String := "0x0400000017e2dad36f1d3595152042a9ad23430197557e2e7e82bc7f7fc72972"

def signingRoot : String := "0x7911d422c83e58603beafc3856340aaac838f5f89fa370b78062e926161dccb0"

@[irreducible] def bytes (s : String) : Bytes := (digitBytes (s.toList.drop 2)).getD []

/-- The signing domain of an exit on the fork of the fixture. -/
def computeDomain (domainType fork root : Bytes) : Bytes :=
  if domainType = DOMAIN_VOLUNTARY_EXIT ∧ fork = bytes CAPELLA_FORK_VERSION
    ∧ root = bytes genesis.genesis_validators_root then bytes domain else []

/-- The signing root of the message. -/
def computeSigningRoot (epoch validatorIndex : JsNumber) (objectDomain : Bytes) : Bytes :=
  if epoch = .int 28624 ∧ validatorIndex = .int 828943 ∧ objectDomain = bytes domain then
    bytes signingRoot else []

/-- The signature of the message. -/
def blsVerify (pubKey root signed : Bytes) : Bool :=
  decide (pubKey = bytes VALIDATOR_PUB_KEY ∧ root = bytes signingRoot ∧ signed = bytes signature)

/-- The checksums of the two files, and some other text for any other content. -/
@[irreducible] def sha256 (content : String) : String :=
  if content = file.content then fileChecksum
  else if content = ethDoFile.content then ethDoChecksum
  else "~" ++ content

/-- The libraries, with what they give on the message. Nothing is decrypted, and every text that is
decoded is hexadecimal. -/
def crypto : Crypto where
  sha256 := sha256
  decrypt _ _ := unrecorded
  decodeText _ := ""
  fromHex s := .ok (bytes s)
  computeDomain := computeDomain
  computeSigningRoot := computeSigningRoot
  blsVerify := blsVerify

def validator (exit_epoch : String) : ValidatorData :=
  ⟨"828943", "active", ⟨VALIDATOR_PUB_KEY, exit_epoch⟩⟩

/-- The nodes of the fixture. -/
def world (exit_epoch : String) : FixedWorld where
  genesis := genesis
  state := forkState
  chainId := "17000"
  head := [validator exit_epoch]
  finalized := [validator exit_epoch]
  lastBlockNumber := 1000

/-- The message side over the fixture. -/
def processor (exit_epoch : String) : MessagesProcessor Moment where
  outside := .fixed (world exit_epoch)
  crypto := crypto
  forkVersionResolver := ⟨false, none⟩
  MESSAGES_LOCATION := some "messages"
  MESSAGES_PASSWORD := none
  VALIDATORS_BATCH_SIZE := ⟨16, Nat.zero_lt_succ 15⟩

/-- The fork the chain is on. -/
def forkInfo : ForkVersionInfo := ⟨CAPELLA_FORK_VERSION, CAPELLA_FORK_VERSION, false⟩

section Answers

variable {exit_epoch : String}

/-- What a load of the fixture is told at a moment. -/
def answers (exit_epoch : String) (s : MessageStorage) (moment : Moment) : MessagesProcessor.Answers where
  now := moment.now
  folder := moment.folder
  genesis := genesis
  state := forkState
  infos := (world exit_epoch).infos ⟨16, Nat.zero_lt_succ 15⟩
    (((processor exit_epoch).newMessages forkInfo s
      ⟨moment.now, moment.folder, genesis, forkState, .empty⟩).map ExitMessageWithMetadata.index).eraseDups

/-- **The fixture gives these answers.** -/
theorem told (s : MessageStorage) (moment : Moment) :
    (processor exit_epoch).Told forkInfo s (answers exit_epoch s moment) moment moment := by
  have present : missing (some "messages") = false := by decide
  exact .messages present rfl readFolder_fixed rfl rfl fetchValidatorsInfoBatch_fixed

/-- What the fixture tells about its clock and its folder. -/
theorem of_told {s : MessageStorage} {x : MessagesProcessor.Answers} {moment w : Moment}
    (told : (processor exit_epoch).Told forkInfo s x moment w) :
    x.now = moment.now ∧ x.folder = moment.folder := by
  cases told with
  | webhook absent =>
    have present : missing (some "messages") = false := by decide
    exact absurd (present.symm.trans absent) Bool.false_ne_true
  | messages _ now folder =>
    obtain ⟨same, rfl⟩ := Prod.mk.inj now
    have read := readFolder_fixed.symm.trans folder
    injection read with files
    exact ⟨same.symm, files.symm⟩

/-- The validator is reported when there is a message to check. -/
theorem known {s : MessageStorage} {moment : Moment} {m : ExitMessageWithMetadata}
    (new : m ∈ (processor exit_epoch).newMessages forkInfo s (answers exit_epoch s moment)) :
    (answers exit_epoch s moment).infos.get? "828943" = some (validator exit_epoch).toInfo := by
  have asked := List.mem_eraseDups.mpr (List.mem_map_of_mem (f := ExitMessageWithMetadata.index) new)
  exact infos_get? (w := world exit_epoch) (v := validator exit_epoch) rfl (List.ne_nil_of_mem asked)

/-- The message passes the check of the fixture, until its validator is exiting. -/
theorem checked_message {x : MessagesProcessor.Answers} {registry : String → Option ValidatorInfo}
    (genesis' : x.genesis = genesis) (state' : x.state = forkState)
    (known : registry "828943" = some (validator exit_epoch).toInfo) :
    (processor exit_epoch).checked (x.context forkInfo) registry message =
      if isValidatorExiting exit_epoch then .exiting else .accepted := by
  have valid : (processor exit_epoch).isValidSignature (x.context forkInfo) VALIDATOR_PUB_KEY message =
      .ok true := by
    have epoch : parseInt message.message.epoch 10 = .int 28624 := by decide +kernel
    have index : parseInt message.message.validator_index 10 = .int 828943 := by decide +kernel
    have current : blsVerify (bytes VALIDATOR_PUB_KEY) (computeSigningRoot (.int 28624) (.int 828943)
        (computeDomain DOMAIN_VOLUNTARY_EXIT (bytes CAPELLA_FORK_VERSION)
          (bytes genesis.genesis_validators_root))) (bytes signature) = true := by
      unfold computeDomain
      rw [if_pos ⟨rfl, rfl, rfl⟩]
      unfold computeSigningRoot
      rw [if_pos ⟨rfl, rfl, rfl⟩]
      exact decide_eq_true ⟨rfl, rfl, rfl⟩
    rw [← epoch, ← index] at current
    unfold MessagesProcessor.isValidSignature MessagesProcessor.Answers.context
    rw [genesis', state']
    show Except.ok (blsVerify (bytes VALIDATOR_PUB_KEY) (computeSigningRoot
      (parseInt message.message.epoch 10) (parseInt message.message.validator_index 10)
        (computeDomain DOMAIN_VOLUNTARY_EXIT (bytes CAPELLA_FORK_VERSION)
          (bytes genesis.genesis_validators_root))) (bytes signature) || _) = _
    rw [current, Bool.true_or]
  unfold MessagesProcessor.checked
  rw [show message.message.validator_index = "828943" from rfl, known]
  dsimp only
  by_cases exiting : isValidatorExiting exit_epoch = true
  · rw [if_pos exiting]
    exact if_pos exiting
  · rw [if_neg exiting]
    rw [if_neg (show ¬ (validator exit_epoch).toInfo.isExiting = true from exiting)]
    rw [show (validator exit_epoch).toInfo.pubKey = VALIDATOR_PUB_KEY from rfl, valid]

theorem read_signed {f : MessageFile} (signed : f = file ∨ f = ethDoFile) :
    (processor exit_epoch).fileMessage f.content = .ok (some message) := by
  rcases signed with rfl | rfl
  · exact fileMessage_toJson message
  · exact fileMessage_ethDo ethDoMessage

/-- A folder of the two files has one message. -/
theorem data_of_signed {s : MessageStorage} {moment : Moment}
    (signed : ∀ f ∈ moment.folder, f = file ∨ f = ethDoFile) {m : ExitMessageWithMetadata}
    (new : m ∈ (processor exit_epoch).newMessages forkInfo s (answers exit_epoch s moment)) :
    m.data = message := by
  obtain ⟨f, present, opened, -⟩ := MessagesProcessor.mem_newMessages.mp new
  obtain ⟨-, -, read⟩ := MessagesProcessor.opened_message opened
  exact Option.some.inj (Except.ok.inj (read.symm.trans (read_signed (signed f present))))

/-- The message passes its check while its validator is active. -/
theorem accepted_message {x : MessagesProcessor.Answers} {registry : String → Option ValidatorInfo}
    (genesis' : x.genesis = genesis) (state' : x.state = forkState)
    (known : registry "828943" = some (validator FAR_FUTURE_EPOCH).toInfo) :
    (processor FAR_FUTURE_EPOCH).checked (x.context forkInfo) registry message = .accepted := by
  have staying : isValidatorExiting FAR_FUTURE_EPOCH = false := by decide
  rw [checked_message genesis' state' known, staying, if_neg Bool.false_ne_true]

/-- A folder of the two files: every new message of it passes its check. -/
theorem verifiedMessages_signed {s : MessageStorage} {moment : Moment}
    (signed : ∀ f ∈ moment.folder, f = file ∨ f = ethDoFile) :
    (processor FAR_FUTURE_EPOCH).verifiedMessages forkInfo s (answers FAR_FUTURE_EPOCH s moment) =
      (processor FAR_FUTURE_EPOCH).newMessages forkInfo s (answers FAR_FUTURE_EPOCH s moment) := by
  unfold MessagesProcessor.verifiedMessages
  refine (List.flatMap_congr fun m new => ?_).trans (List.flatMap_singleton' _)
  unfold MessagesProcessor.verifiedMessage
  rw [data_of_signed signed new, accepted_message rfl rfl (known new)]

theorem sha256_file : (processor exit_epoch).crypto.sha256 file.content = fileChecksum := by
  show sha256 file.content = fileChecksum
  unfold sha256
  exact if_pos rfl

/-- The content with a checksum. -/
def contentOf (checksum : String) : String :=
  if checksum = fileChecksum then file.content
  else if checksum = ethDoChecksum then ethDoFile.content
  else String.ofList checksum.toList.tail

/-- No two contents have the same checksum. -/
theorem sha256_injective : Function.Injective (processor exit_epoch).crypto.sha256 := by
  show Function.Injective sha256
  refine Function.LeftInverse.injective (g := contentOf) fun content => ?_
  unfold sha256
  by_cases plain : content = file.content
  · rw [if_pos plain, plain]
    exact if_pos rfl
  rw [if_neg plain]
  by_cases ethDo : content = ethDoFile.content
  · rw [if_pos ethDo, ethDo]
    have differ : ethDoChecksum ≠ fileChecksum := by decide
    exact (if_neg differ).trans (if_pos rfl)
  rw [if_neg ethDo]
  have text : ("~" ++ content).toList = '~' :: content.toList := String.toList_append
  have other (checksum : String) (digit : checksum.toList.head? ≠ some '~') :
      "~" ++ content ≠ checksum := by
    intro same
    rw [← same, text] at digit
    exact digit rfl
  have back : contentOf ("~" ++ content) = String.ofList ("~" ++ content).toList.tail :=
    (if_neg (other fileChecksum (by decide))).trans (if_neg (other ethDoChecksum (by decide)))
  rw [back, text, List.tail_cons, String.ofList_toList]

end Answers

end HoleskyFixture

end ValidatorEjector
