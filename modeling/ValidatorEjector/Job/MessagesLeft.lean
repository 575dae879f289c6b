/-
**How many exit messages are left.**

The gauge is the difference of two counts: of the messages in the storage, and of the validators the node
reports exiting, over all batches. It is the number of messages that are left because no stored index is
counted twice, and none is missed.

* `Reloaded` — the storages that reloads lead to.
* `Known` — every stored message is for a validator as the node reports them; `reloaded_known` — reloads lead to
  nothing else.
* `prepare_known`, `handleEvents_known` — neither does a job.
* `MessagesLeft` — what the gauges say; `messagesLeft_exact` — and do at the end of every job.
-/

import ValidatorEjector.ConsensusApi.Batches
import ValidatorEjector.Job.ExitSafety
import ValidatorEjector.Messages.History

namespace ValidatorEjector

open Js Library Library.Program

namespace MessagesProcessor

variable {σ : Type} {p : MessagesProcessor σ}

/-- **The storages that reloads lead to**, successful and failed ones. The world may change in between. -/
inductive Reloaded (p : MessagesProcessor σ) : MessageStorage → Prop
  | fresh : Reloaded p .fresh
  | reload {s : MessagesState σ} (before : Reloaded p s.messageStorage) :
      Reloaded p (stateAfter p.reloadAndVerifyMessages s).messageStorage

/-- Every stored message is for the index of a validator with the property. -/
def Known (Q : ValidatorData → Prop) (s : MessageStorage) : Prop :=
  ∀ m, s.Stores m → ∃ v, Q v ∧ v.index = m.index

/-! ### Reloads -/

section Reload

variable {Q : ValidatorData → Prop} {forkInfo : ForkVersionInfo}

theorem steady_known : Steady fun s : MessagesState σ => Known Q s.messageStorage := by
  intro s s' start stored _ m inside
  unfold MessageStorage.Stores at inside
  rw [stored] at inside
  exact start m inside

/-- A message that passes its check is for a validator the node has reported. -/
theorem verifiedMessages_known (reports : p.outside.cl.Reports Q) {s : MessageStorage} {x : Answers} {w w' : σ}
    (told : p.Told forkInfo s x w w') {m : ExitMessageWithMetadata}
    (verified : m ∈ p.verifiedMessages forkInfo s x) : ∃ v, Q v ∧ v.index = m.index := by
  obtain ⟨-, accepted⟩ := mem_verifiedMessages.mp verified
  unfold checked at accepted
  cases found : x.infos.get? m.index with
  | none =>
    rw [found] at accepted
    cases accepted
  | some info =>
    cases told with
    | webhook _ _ unasked =>
      rw [unasked] at found
      cases found
    | messages _ _ _ _ _ infos =>
      obtain ⟨validators, asked, v, member, index, -⟩ := reported_of_infos infos found
      exact ⟨v, ConsensusApi.fetchValidatorsBatch_forall reports asked v member, index⟩

/-- The files of a folder add no message. -/
theorem touched_known {s : MessageStorage} {now : Int} (start : Known Q s) (files : List MessageFile) :
    Known Q (files.foldl p.touchFile (opening forkInfo s now)) := by
  intro m stored
  unfold MessageStorage.Stores at stored
  rw [touchFiles_messages] at stored
  exact start m (MessageStorage.stores_removeOldForkVersionMessages.mp stored).1

/-- **A load stores nothing else**, however it ends. -/
theorem load_known (reports : p.outside.cl.Reports Q) :
    Preserves (fun s => Known Q s.messageStorage) (p.loadToMemoryStorage forkInfo) := by
  intro s start
  cases run : p.loadToMemoryStorage forkInfo s with
  | ok stats s' =>
    obtain ⟨x, w, told, -, -, rfl⟩ := load_ok_iff.mp run
    intro m stored
    rcases MessageStorage.of_stores_updateMessages stored with before | new
    · exact touched_known start x.folder m (MessageStorage.of_stores_removeOldMessages before)
    · exact verifiedMessages_known reports told new
  | error e s' =>
    obtain ⟨files, touched⟩ := load_failed run
    show Known Q s'.messageStorage
    rw [touched]
    exact touched_known start files

theorem reload_known (reports : p.outside.cl.Reports Q) :
    Preserves (fun s => Known Q s.messageStorage) p.reloadAndVerifyMessages := by
  unfold reloadAndVerifyMessages
  by_cases webhook : missing p.MESSAGES_LOCATION
  · rw [if_pos webhook]
    exact Preserves.pure
  rw [if_neg webhook]
  refine Triple.bind (getForkVersionInfo_steady steady_known) fun forkInfo => ?_
  refine Triple.bind (load_known reports) fun _ => ?_
  exact fun s kept => kept

/-- **Reloads lead only to messages for reported validators.** -/
theorem reloaded_known (reports : p.outside.cl.Reports Q) {s : MessageStorage} (reachable : p.Reloaded s) :
    Known Q s := by
  induction reachable with
  | fresh => exact fun m stored => absurd stored MessageStorage.not_stores_fresh
  | reload before ih => exact Preserves.stateAfter (reload_known reports) ih

end Reload

/-! ### A reload that resolves -/

section Resolve

variable {forkInfo : ForkVersionInfo}

theorem reload_of_load {s s₁ s₂ : MessagesState σ} {stats : LoadStats}
    (present : ¬ missing p.MESSAGES_LOCATION = true) (fork : p.getForkVersionInfo s = .ok forkInfo s₁)
    (loaded : p.loadToMemoryStorage forkInfo s₁ = .ok stats s₂) :
    ∃ s', p.reloadAndVerifyMessages s = .ok () s' ∧ s'.world = s₂.world ∧
      s'.messageStorage = s₂.messageStorage := by
  unfold reloadAndVerifyMessages
  rw [if_neg present, bind_of_ok fork, bind_of_ok loaded]
  exact ⟨_, rfl, rfl, rfl⟩

variable (outside : Outside σ)

/-- What is found in the files is not up to the world. -/
theorem newMessages_outside {s : MessageStorage} {x : Answers} :
    ({ p with outside } : MessagesProcessor σ).newMessages forkInfo s x = p.newMessages forkInfo s x := rfl

/-- Neither is what a signature is worth, once the world has answered. -/
theorem checked_outside {c : SigningContext} {registry : String → Option ValidatorInfo} {m : ExitMessage} :
    ({ p with outside } : MessagesProcessor σ).checked c registry m = p.checked c registry m := rfl

end Resolve

end MessagesProcessor

/-! ### Jobs -/

namespace JobProcessor

open MessagesProcessor

variable {σ : Type} {p : JobProcessor σ} {Q : ValidatorData → Prop}

/-- Handing an event over stores nothing. -/
theorem handOver_known (event : ValidatorsToEject) :
    Preserves (fun s => Known Q s.messageStorage) (p.handOver event) :=
  handOver_keeps (fun _ _ kept => kept) (fun _ kept => kept) (fun _ => countOutcome_steady steady_known _)
    (fun _ _ => countOutcome_steady steady_known _) event

theorem handleEvents_known (prepared : Prepared) :
    Preserves (fun s => Known Q s.messages.messageStorage) (p.handleEvents prepared) :=
  handleEvents_preserves handOver_known fun _ kept => kept

theorem prepare_known (reports : p.messagesProcessor.outside.cl.Reports Q) :
    Preserves (fun s => Known Q s.messages.messageStorage) p.prepare :=
  prepare_steady steady_known steady_known (fun _ kept => kept) (fun _ kept => kept) (reload_known reports)

theorem onMessages_of_ok {α : Type} {x : MessagesProcessor.Run σ α} {s : JobState σ} {a : α}
    {messages : MessagesState σ} (ran : x s.messages = .ok a messages) :
    onMessages x s = .ok a { s with messages } := by
  unfold onMessages onPart
  rw [ran]

/-! ### The gauges -/

/-- **The gauges are right** for a node's registry: the number is that of the stored messages whose validator is
not reported exiting, and the percentage is of the messages that are stored. -/
structure MessagesLeft (registry : Registry) (storage : MessageStorage) (left : LeftMessages) : Prop where
  number : left.exitMessagesLeftNumber =
    (storage.messages.countP fun m => !registry.isExiting m.message.validator_index : Nat)
  least : 0 ≤ left.exitMessagesLeftNumber
  most : left.exitMessagesLeftNumber ≤ storage.size
  empty : storage.size = 0 → left.exitMessagesLeftPercent = .int 0
  filled : 0 < storage.size → left.exitMessagesLeftPercent.Between 0 100

/-- The percentage of a part of the storage. -/
theorem percent_between {size exitingCount : Nat} (within : exitingCount ≤ size) (filled : 0 < size) :
    (leftMessagesOf size exitingCount).exitMessagesLeftPercent.Between 0 100 := by
  have positive : (0 : ℚ) < size := by exact_mod_cast filled
  have part : (((size : Int) - exitingCount : Int) : ℚ) = size - exitingCount := by push_cast; rfl
  have low : (0 : ℚ) ≤ (((size : Int) - exitingCount : Int) : ℚ) / size := by
    refine div_nonneg ?_ positive.le
    rw [part, sub_nonneg]
    exact_mod_cast within
  have high : (((size : Int) - exitingCount : Int) : ℚ) / size ≤ (1 : Nat) := by
    rw [div_le_iff₀ positive, part, Nat.cast_one, one_mul]
    exact sub_le_self _ (Nat.cast_nonneg exitingCount)
  obtain ⟨ratio, rounded, least, most⟩ := ofRat_between low high (by norm_num)
  show (if 0 < size then _ else _ : JsNumber).Between 0 100
  rw [if_pos filled, rounded, JsNumber.toRat_exactly]
  have bounds : ratio * 100 ≤ (100 : Nat) := by
    rw [Nat.cast_one] at most
    norm_num
    linarith
  exact ofRat_between (mul_nonneg least (by norm_num)) bounds (by norm_num)

/-- The indices of the stored messages are distinct. -/
theorem indices_nodup (storage : MessageStorage) :
    (storage.messages.map fun msg => msg.message.validator_index).Nodup := by
  have keys : (storage.messages.map fun msg => msg.message.validator_index) = storage.messagesMetadata.keys := by
    unfold MessageStorage.messages OrderedMap.values OrderedMap.keys
    rw [List.map_map, List.map_map]
    exact List.map_congr_left fun entry member => storage.indexed entry.1 entry.2 member
  rw [keys]
  exact storage.messagesMetadata.nodup

/-- The stored messages without those whose validator is exiting. -/
theorem leftMessagesOf_exact (registry : Registry) (storage : MessageStorage) :
    MessagesLeft registry storage (leftMessagesOf storage.size
      ((storage.messages.map fun msg => msg.message.validator_index).countP registry.isExiting)) := by
  have size : storage.size = storage.messages.length := by
    unfold MessageStorage.messages OrderedMap.values MessageStorage.size OrderedMap.size
    rw [List.length_map, List.length_map]
  have parts := storage.messages.length_eq_countP_add_countP
    fun m => registry.isExiting m.message.validator_index
  have count : (storage.messages.map fun msg => msg.message.validator_index).countP registry.isExiting =
      storage.messages.countP fun m => registry.isExiting m.message.validator_index := by
    rw [List.countP_map]
    rfl
  have rest : (storage.messages.countP fun m => ¬ registry.isExiting m.message.validator_index) =
      storage.messages.countP fun m => !registry.isExiting m.message.validator_index :=
    List.countP_congr fun m _ => by simp
  rw [rest, ← size] at parts
  rw [count]
  have difference : (leftMessagesOf storage.size (storage.messages.countP fun m =>
      registry.isExiting m.message.validator_index)).exitMessagesLeftNumber =
      (storage.size : Int) - (storage.messages.countP fun m =>
        registry.isExiting m.message.validator_index : Nat) := rfl
  refine ⟨?_, ?_, ?_, fun empty => ?_, percent_between (by omega)⟩
  · rw [difference]
    omega
  · rw [difference]
    omega
  · rw [difference]
    omega
  · exact if_neg (by omega)

/-- The end of a job sets the gauges when the node answers. -/
theorem updateLeftMessages_of_ok {s : JobState σ} {exitingCount : Nat} {world : σ}
    (asked : p.messagesProcessor.outside.cl.getExitingValidatorsCount
      (s.messages.messageStorage.messages.map fun msg => msg.message.validator_index)
      p.messagesProcessor.VALIDATORS_BATCH_SIZE "head" s.messages.world = .ok exitingCount world) :
    p.updateLeftMessages s = .ok () { s with
      messages := { s.messages with world }
      leftMessages := leftMessagesOf s.messages.messageStorage.size exitingCount } := by
  have request : (onWorld (p.messagesProcessor.outside.cl.getExitingValidatorsCount
      (s.messages.messageStorage.messages.map fun msg => msg.message.validator_index)
      p.messagesProcessor.VALIDATORS_BATCH_SIZE) : Run σ Nat) s =
      .ok exitingCount { s with messages := { s.messages with world } } := by
    unfold onWorld onMessages MessagesProcessor.onWorld onPart
    rw [asked]
  exact tryCatch_of_ok (bind_of_ok request)

variable {W : σ → Prop} {registry : Registry}

/-- **The gauges are right at the end of a job**, from every storage that reloads lead to and for every batch
size, if the node answers from a registry then: with one entry for every registered validator that is asked
for, in canonical decimal form. -/
theorem messagesLeft_exact (decimal : p.messagesProcessor.outside.cl.Reports ValidatorData.Decimal)
    {s s₁ t : JobState σ} {prepared : Prepared}
    (reachable : p.messagesProcessor.Reloaded s.messages.messageStorage)
    (ready : p.prepare s = .ok prepared s₁) (handled : p.handleEvents prepared s₁ = .ok () t)
    (serves : p.messagesProcessor.outside.cl.ServesOnce W "head" registry) (served : W t.messages.world) :
    ∃ s', p.handleJob s = .ok () s' ∧ s'.messages.messageStorage = t.messages.messageStorage ∧
      MessagesLeft registry s'.messages.messageStorage s'.leftMessages := by
  have known : Known ValidatorData.Decimal t.messages.messageStorage :=
    (handleEvents_known prepared).ok ((prepare_known decimal).ok (reloaded_known decimal reachable) ready)
      handled
  have indices : ∀ id ∈ t.messages.messageStorage.messages.map fun msg => msg.message.validator_index,
      IsDecimal id := by
    intro id member
    obtain ⟨msg, inside, rfl⟩ := List.mem_map.mp member
    obtain ⟨m, value, rfl⟩ := List.mem_map.mp inside
    obtain ⟨v, reported, index⟩ := known m (MessageStorage.mem_values.mp value)
    have same : m.data.message.validator_index = v.index := index.symm
    rw [same]
    exact reported.index
  obtain ⟨world, counted⟩ := ConsensusApi.getExitingValidatorsCount_served serves (indices_nodup _) indices
    p.messagesProcessor.VALIDATORS_BATCH_SIZE served
  have body : p.handleJob s = p.updateLeftMessages t := (bind_of_ok ready).trans (bind_of_ok handled)
  have ran := body.trans (updateLeftMessages_of_ok counted)
  exact ⟨_, ran, rfl, leftMessagesOf_exact registry t.messages.messageStorage⟩

end JobProcessor

namespace HoleskyFixture

open MessagesProcessor JobProcessor ConsensusApi Validator

/-- The node of the fixture, which reports the validator only to those who ask for it. -/
def listed : Outside Moment where
  __ := Outside.fixed (world FAR_FUTURE_EPOCH)
  cl := { clRequest := fun
    | .validators _ ids => pure (validatorsJson ([validator FAR_FUTURE_EPOCH].filter fun v => v.index ∈ ids))
    | request => (Outside.fixed (world FAR_FUTURE_EPOCH)).cl.clRequest request }

/-- A job over this node, without requests to exit. -/
def listedJob : JobProcessor Moment where
  messagesProcessor := { processor FAR_FUTURE_EPOCH with outside := listed }
  exitLogs := {
    fetch := fun _ => pure []
    BLOCKS_PRELOAD := Nat.succPNat 499
    LOAD_LOGS_STEP := Nat.succPNat 500 }
  DRY_RUN := false
  VALIDATOR_EXIT_WEBHOOK := none

/-- The file of the message is in the folder. -/
def filed : Moment := ⟨1, [file]⟩

/-- What a load is told then. -/
def listedAnswers : Answers :=
  ⟨1, [file], genesis, forkState, .ofEntries [("828943", (validator FAR_FUTURE_EPOCH).toInfo)]⟩

theorem lists_listed : listed.cl.Lists [validator FAR_FUTURE_EPOCH] :=
  fun _ _ s => bind_ok.mpr ⟨_, s, rfl, ofResult_ok.mpr ⟨validatorsBatchDTO_toJson _, rfl⟩⟩

theorem newMessages_listed :
    listedJob.messagesProcessor.newMessages forkInfo .fresh listedAnswers = [stored] :=
  (newMessages_outside listed).trans (newMessages_first rfl sha256_file)

theorem told_listed : listedJob.messagesProcessor.Told forkInfo .fresh listedAnswers filed filed := by
  have present : missing (some "messages") = false := by decide
  have indices : ((listedJob.messagesProcessor.newMessages forkInfo .fresh listedAnswers).map
      ExitMessageWithMetadata.index).eraseDups = ["828943"] := by
    rw [newMessages_listed]
    rfl
  have folder : listed.readFolder "messages" filed = .ok [file] filed :=
    readFolder_fixed (w := world FAR_FUTURE_EPOCH)
  have asked : listed.cl.genesis filed = .ok genesis filed := rfl
  have infos : listed.cl.fetchValidatorsInfoBatch ["828943"] ⟨16, Nat.zero_lt_succ 15⟩ "head" filed =
      .ok listedAnswers.infos filed := by
    refine bind_ok.mpr ⟨[validator FAR_FUTURE_EPOCH], filed, ?_, rfl⟩
    exact collect_cons_ok.mpr ⟨_, _, [], lists_listed "head" ["828943"] _, rfl, rfl⟩
  rw [← indices] at infos
  exact .messages present rfl folder asked rfl infos

/-- The message passes its check. -/
theorem checked_listed : listedJob.messagesProcessor.checked (listedAnswers.context forkInfo)
    listedAnswers.infos.get? message = .accepted := by
  have known : listedAnswers.infos.get? "828943" = some (validator FAR_FUTURE_EPOCH).toInfo := rfl
  exact (checked_outside listed).trans (accepted_message rfl rfl known)

/-- No file throws. -/
theorem orderly_listed : listedJob.messagesProcessor.Orderly forkInfo .fresh listedAnswers where
  opened f member failure thrown := by
    have new : stored ∈ listedJob.messagesProcessor.newMessages forkInfo .fresh listedAnswers := by
      rw [newMessages_listed]
      exact List.mem_singleton_self stored
    obtain ⟨f', member', opened, -⟩ := mem_newMessages.mp new
    rw [List.mem_singleton.mp member] at thrown
    rw [List.mem_singleton.mp member', thrown] at opened
    cases opened
  checked m member failure thrown := by
    rw [newMessages_listed, List.mem_singleton] at member
    rw [member, show stored.data = message from rfl, checked_listed] at thrown
    cases thrown

theorem verifiedMessages_listed :
    listedJob.messagesProcessor.verifiedMessages forkInfo .fresh listedAnswers = [stored] := by
  unfold verifiedMessages
  rw [newMessages_listed, List.flatMap_singleton]
  exact verifiedMessage_of_checked checked_listed

/-- The message is stored. -/
theorem messages_listed :
    (listedJob.messagesProcessor.storageAfter forkInfo .fresh listedAnswers).messages = [message] := by
  rw [storageAfter_fresh verifiedMessages_listed]
  rfl

/-- The message side when the job starts. -/
def starting : MessagesState Moment := { MessagesState.fresh filed with journal := [.jobStarted] }

theorem chainId_listed : listed.cl.chainId filed = .ok (.int 17000) filed := by
  have number : Number "17000" ≠ .nan := by decide +kernel
  have float : parseFloat "17000" = .int 17000 := by decide +kernel
  have chain : Validator.num (some (.string "17000")) (some "Invalid chain_id input") = .ok (.int 17000) := by
    show (if Number "17000" = .nan then _ else Except.ok (parseFloat "17000")) = _
    rw [if_neg number, float]
  have read : depositContractDTO (dataJson [("chain_id", "17000"), ("address", "0x000000001")]) =
      .ok ⟨.int 17000, "0x000000001"⟩ :=
    obj_ok.mpr ⟨_, rfl, obj_ok.mpr ⟨_, rfl, except_bind_ok.mpr ⟨_, chain, rfl⟩⟩⟩
  have contract : listed.cl.depositContract filed = .ok ⟨.int 17000, "0x000000001"⟩ filed :=
    bind_ok.mpr ⟨_, _, rfl, ofResult_ok.mpr ⟨read, rfl⟩⟩
  exact bind_ok.mpr ⟨_, _, contract, rfl⟩

theorem getForkVersionInfo_listed :
    listedJob.messagesProcessor.getForkVersionInfo starting = .ok forkInfo starting := by
  have current : (MessagesProcessor.onWorld (ForkVersionResolver.getCurrentForkVersion listed.cl)) starting =
      .ok CAPELLA_FORK_VERSION starting := rfl
  have capella : (MessagesProcessor.onWorld
      (listedJob.messagesProcessor.forkVersionResolver.getCapellaForkVersion listed.cl)) starting =
      .ok CAPELLA_FORK_VERSION starting := by
    refine onWorld_ok_iff.mpr ⟨filed, ?_, rfl⟩
    exact bind_ok.mpr ⟨_, _, chainId_listed, rfl⟩
  have activated : listedJob.messagesProcessor.forkVersionResolver.isActivated CAPELLA_FORK_VERSION
      CAPELLA_FORK_VERSION = false := by decide +kernel
  have happened : listedJob.messagesProcessor.isDencunHappened CAPELLA_FORK_VERSION CAPELLA_FORK_VERSION
      starting = .ok false starting := by
    unfold isDencunHappened
    rw [activated]
    rfl
  exact bind_ok.mpr ⟨_, _, current, bind_ok.mpr ⟨_, _, capella, bind_ok.mpr ⟨_, _, happened, rfl⟩⟩⟩

theorem prepare_listed {messages : MessagesState Moment}
    (reloaded : listedJob.messagesProcessor.reloadAndVerifyMessages starting = .ok () messages)
    (world : messages.world = filed) : ∃ prepared s₁, listedJob.prepare (.fresh filed) = .ok prepared s₁ ∧
      prepared.eventsForEject = [] ∧ s₁.messages.messageStorage = messages.messageStorage := by
  have started : onMessages (note .jobStarted) (JobState.fresh filed) =
      .ok () { JobState.fresh filed with messages := starting } := rfl
  obtain ⟨_, _, _, _, _, _, _⟩ := messages
  cases world
  have loads : listedJob.loadEvents (.fresh filed) = .ok _ _ :=
    (bind_of_ok started).trans ((bind_of_ok (onMessages_of_ok reloaded)).trans rfl)
  exact ⟨_, _, (bind_of_ok loads).trans rfl, rfl, rfl⟩

/-- The job stores the message. -/
theorem reload_listed : ∃ messages,
    listedJob.messagesProcessor.reloadAndVerifyMessages starting = .ok () messages ∧
      messages.world = filed ∧ messages.messageStorage.messages = [message] := by
  have loaded : listedJob.messagesProcessor.loadToMemoryStorage forkInfo starting = .ok _ _ :=
    load_ok_iff.mpr ⟨listedAnswers, filed, told_listed, orderly_listed, rfl, rfl⟩
  have present : ¬ missing listedJob.messagesProcessor.MESSAGES_LOCATION = true := by decide
  obtain ⟨messages, ran, world, storage⟩ := reload_of_load present getForkVersionInfo_listed loaded
  refine ⟨messages, ran, world, ?_⟩
  rw [storage, afterLoad_messageStorage]
  exact messages_listed

/-- **One message is left**, all of what is stored. -/
theorem messagesLeft_exact_listed : ∃ s', listedJob.handleJob (.fresh filed) = .ok () s' ∧
    s'.messages.messageStorage.messages = [message] ∧ s'.leftMessages.exitMessagesLeftNumber = 1 := by
  obtain ⟨messages, reloaded, world, kept⟩ := reload_listed
  obtain ⟨prepared, s₁, ready, none, storage⟩ := prepare_listed reloaded world
  have handled : listedJob.handleEvents prepared s₁ = .ok () s₁ := by
    unfold handleEvents
    rw [none]
    rfl
  have decimal : (validator FAR_FUTURE_EPOCH).Decimal :=
    ⟨⟨828943, by decide⟩, ⟨18446744073709551615, by decide⟩⟩
  have reports : listed.cl.Reports ValidatorData.Decimal := by
    intro tag batch s vs s' fetched v member
    rw [lists_listed tag batch s] at fetched
    cases fetched
    rw [List.mem_singleton.mp (List.mem_of_mem_filter member)]
    exact decimal
  have serves : listed.cl.ServesOnce (fun _ => True) "head" (registryOf [validator FAR_FUTURE_EPOCH]) :=
    lists_listed.servesOnce (List.nodup_singleton _) (List.forall_mem_singleton.mpr decimal) "head"
  obtain ⟨s', ran, left, exact⟩ := messagesLeft_exact reports .fresh ready handled serves trivial
  have storage' : s'.messages.messageStorage.messages = [message] := by rw [left, storage, kept]
  refine ⟨s', ran, storage', ?_⟩
  rw [exact.number, storage']
  decide

end HoleskyFixture

end ValidatorEjector
