/-
**What a job leaves alone.**

* `JobProcessor.Keeps` — a property of the world that no request changes, the fetches included.
* `Grown` — such a property is kept, no exit is counted, nothing is handed over, and the cache has only
  grown; `prepare_grows` — so it is up to the loop, however it ends.
* `handleEvents_preserves` — the loop keeps what its requests and counters keep.
* `updateLeftMessages_run` — the end of a job never throws, and only asks and sets gauges.
-/

import ValidatorEjector.Job.Processor
import ValidatorEjector.Messages.Frame

namespace ValidatorEjector

open Js Library Library.Program

/-! ### The log of exit requests -/

/-- The cache has grown by events with a property. -/
def GrownBy (Q : ValidatorsToEject → Prop) (cache cache' : List ValidatorsToEject) : Prop :=
  ∃ new, cache' = cache ++ new ∧ ∀ event ∈ new, Q event

theorem GrownBy.refl (Q : ValidatorsToEject → Prop) (cache : List ValidatorsToEject) :
    GrownBy Q cache cache :=
  ⟨[], (List.append_nil _).symm, fun _ member => by cases member⟩

theorem GrownBy.push {Q : ValidatorsToEject → Prop} {cache cache' logs : List ValidatorsToEject}
    (grown : GrownBy Q cache cache') (good : ∀ event ∈ logs, Q event) :
    GrownBy Q cache (cache' ++ logs) := by
  obtain ⟨new, rfl, before⟩ := grown
  refine ⟨new ++ logs, List.append_assoc _ _ _, fun event member => ?_⟩
  rcases List.mem_append.mp member with member | member
  · exact before event member
  · exact good event member

namespace ExitLogs

variable {σ : Type} {e : ExitLogs σ} {W : σ → Prop} {Q : ValidatorsToEject → Prop}
  {cache : List ValidatorsToEject}

/-- Every fetched event has the property. -/
def Fetches (e : ExitLogs σ) (Q : ValidatorsToEject → Prop) : Prop :=
  ∀ w s logs s', e.fetch w s = .ok logs s' → ∀ event ∈ logs, Q event

/-- The fetcher's state has a property, and the cache has grown. -/
def Extended (W : σ → Prop) (Q : ValidatorsToEject → Prop) (cache : List ValidatorsToEject)
    (s : ExitLogsState σ) : Prop :=
  W s.fetcher ∧ GrownBy Q cache s.cache

theorem chunk_extends (keeps : ∀ w, Preserves W (e.fetch w)) (fetches : e.Fetches Q)
    (w : Library.Windows.Window) : Preserves (Extended W Q cache) (e.chunk w) := by
  have fetch : Triple W (e.fetch w) (fun logs s => W s ∧ ∀ event ∈ logs, Q event) W := by
    intro s start
    have ends := keeps w s start
    cases ran : e.fetch w s with
    | ok logs s' => rw [ran] at ends; exact ⟨ends, fetches w s logs s' ran⟩
    | error _ _ => rw [ran] at ends; exact ends
  refine Triple.bind (Q := fun logs s => Extended W Q cache s ∧ ∀ event ∈ logs, Q event)
    (Triple.onPart fetch (fun _ start => start.1) (fun _ _ _ start good => ⟨⟨good.1, start.2⟩, good.2⟩)
      fun _ _ start kept => ⟨kept, start.2⟩) fun logs => ?_
  rintro s ⟨⟨kept, grown⟩, good⟩
  exact ⟨kept, grown.push good⟩

/-- A call extends the cache and returns it. -/
theorem getLogs_extends (keeps : ∀ w, Preserves W (e.fetch w)) (fetches : e.Fetches Q)
    (lastBlockNumber : Nat) : Triple (Extended W Q cache) (e.getLogs lastBlockNumber)
      (fun events s => Extended W Q cache s ∧ events = s.cache) (Extended W Q cache) := by
  intro s start
  rw [getLogs_run]
  by_cases complete : s.header.endBlock = lastBlockNumber
  · rw [if_pos complete]
    exact ⟨start, rfl⟩
  · rw [if_neg complete]
    have loop : Preserves (Extended W Q cache) ((e.ranges s lastBlockNumber).forM e.chunk) :=
      Triple.forM (chunk_extends keeps fetches) _
    refine Triple.bind (Q := fun _ => Extended W Q cache) loop (fun _ => ?_) s start
    exact fun s' kept => ⟨kept, rfl⟩

end ExitLogs

/-! ### A job up to its loop -/

namespace JobProcessor

/-- No request of a job changes a property of the world. -/
structure Keeps {σ : Type} (p : JobProcessor σ) (W : σ → Prop) : Prop where
  outside : p.messagesProcessor.outside.Keeps W
  fetch : ∀ w, Preserves W (p.exitLogs.fetch w)

theorem keeps_true {σ : Type} (p : JobProcessor σ) : p.Keeps fun _ => True where
  outside := p.messagesProcessor.outside.keeps_true
  fetch w s _ := by
    cases p.exitLogs.fetch w s with
    | ok _ _ => trivial
    | error _ _ => trivial

/-- The message side is untouched, and the cache has grown. -/
structure Grown {σ : Type} (W : σ → Prop) (actions : ExitActions) (handed : List ValidatorsToEject)
    (Q : ValidatorsToEject → Prop) (cache : List ValidatorsToEject) (s : JobState σ) : Prop where
  messages : Untouched W actions handed s.messages
  cache : GrownBy Q cache s.cache

section Prepare

variable {σ α : Type} {p : JobProcessor σ} {W : σ → Prop} {actions : ExitActions}
  {handed : List ValidatorsToEject} {Q : ValidatorsToEject → Prop} {cache : List ValidatorsToEject}

theorem onMessages_grown {x : MessagesProcessor.Run σ α}
    (keeps : Preserves (Untouched W actions handed) x) :
    Preserves (Grown W actions handed Q cache) (onMessages x) :=
  Triple.onPart keeps (fun _ start => start.messages) (fun _ _ _ start kept => ⟨kept, start.cache⟩)
    fun _ _ start kept => ⟨kept, start.cache⟩

theorem onWorld_grown {x : EStateM Failure σ α} (keeps : Preserves W x) :
    Preserves (Grown W actions handed Q cache) (onWorld x) :=
  onMessages_grown (MessagesProcessor.onWorld_untouched keeps)

theorem getLogs_grown (keeps : p.Keeps W) (fetches : p.exitLogs.Fetches Q) (lastBlockNumber : Nat) :
    Triple (Grown W actions handed Q cache) (onExitLogs (p.exitLogs.getLogs lastBlockNumber))
      (fun events s => Grown W actions handed Q cache s ∧ events = s.cache)
      (Grown W actions handed Q cache) :=
  Triple.onPart (ExitLogs.getLogs_extends keeps.fetch fetches lastBlockNumber)
    (fun _ start => ⟨start.messages.world, start.cache⟩)
    (fun _ _ _ start kept =>
      ⟨⟨⟨kept.1.1, start.messages.exitActions, start.messages.journal⟩, kept.1.2⟩, kept.2⟩)
    fun _ _ start kept => ⟨⟨kept.1, start.messages.exitActions, start.messages.journal⟩, kept.2⟩

/-- Up to its events a job hands nothing over, counts nothing and only adds to the cache, whose events they
are. -/
theorem loadEvents_grows (keeps : p.Keeps W) (fetches : p.exitLogs.Fetches Q) :
    Triple (Grown W actions handed Q cache) p.loadEvents
      (fun loaded s => Grown W actions handed Q cache s ∧ loaded.2 = s.cache)
      (Grown W actions handed Q cache) := by
  refine Triple.bind (onMessages_grown (MessagesProcessor.note_untouched rfl)) fun _ => ?_
  refine Triple.bind (onMessages_grown (MessagesProcessor.reload_untouched keeps.outside)) fun _ => ?_
  refine Triple.bind (onWorld_grown keeps.outside.resolveExitBusAddress) fun _ => ?_
  refine Triple.bind (onWorld_grown keeps.outside.resolveConsensusAddress) fun _ => ?_
  refine Triple.bind (onWorld_grown keeps.outside.latestBlockNumber) fun lastBlockNumber => ?_
  refine Triple.bind (getLogs_grown keeps fetches lastBlockNumber) fun events => ?_
  exact Triple.pure fun _ kept => kept

theorem fetchValidators_grows (keeps : p.Keeps W) (events : List ValidatorsToEject) (state : String) :
    Triple (fun s => Grown W actions handed Q cache s ∧ events = s.cache) (p.fetchValidators events state)
      (fun _ s => Grown W actions handed Q cache s ∧ events = s.cache)
      (Grown W actions handed Q cache) := by
  have fetch := keeps.outside.fetchValidatorsBatch (events.map ValidatorsToEject.validatorIndex)
    p.messagesProcessor.VALIDATORS_BATCH_SIZE state
  have inner : Preserves (Untouched W actions handed) (MessagesProcessor.onWorld
      (p.messagesProcessor.outside.cl.fetchValidatorsBatch
        (events.map ValidatorsToEject.validatorIndex) p.messagesProcessor.VALIDATORS_BATCH_SIZE state)) :=
    MessagesProcessor.onWorld_untouched fetch
  exact Triple.onPart inner (fun _ start => start.1.messages)
    (fun _ _ _ start kept => ⟨⟨kept, start.1.cache⟩, start.2⟩)
    fun _ _ start kept => ⟨kept, start.1.cache⟩

/-- **Up to its loop a job hands nothing over, counts nothing and only adds to the cache**, which is what
the loop goes over. -/
theorem prepare_grows (keeps : p.Keeps W) (fetches : p.exitLogs.Fetches Q) :
    Triple (Grown W actions handed Q cache) p.prepare
      (fun prepared s => Grown W actions handed Q cache s ∧ prepared.eventsForEject = s.cache)
      (Grown W actions handed Q cache) := by
  refine Triple.bind (loadEvents_grows keeps fetches) fun loaded => ?_
  obtain ⟨lastBlockNumber, events⟩ := loaded
  refine Triple.bind (fetchValidators_grows keeps events "head") fun validatorsHead => ?_
  refine Triple.bind (fetchValidators_grows keeps events "finalized") fun validatorsFinalized => ?_
  exact Triple.pure fun _ kept => kept

end Prepare

/-! ### The loop -/

section Loop

variable {σ : Type} {p : JobProcessor σ} {I : MessagesState σ → Prop} {prepared : Prepared}

/-- A turn keeps what handing an event over and counting an action keep. -/
theorem handleEvent_preserves (handOver : ∀ event, Preserves I (p.handOver event))
    (count : Preserves I (MessagesProcessor.countAction false)) (event : ValidatorsToEject × Nat) :
    Preserves (fun s => I s.messages) (p.handleEvent prepared event) := by
  have onMessages {x : MessagesProcessor.Run σ Unit} (keeps : Preserves I x) :
      Preserves (fun s => I s.messages) (JobProcessor.onMessages x) :=
    Triple.part (fun _ _ => rfl) keeps
  have body : Preserves (fun s => I s.messages) (
      if isExitingIn prepared.exitingValidatorsRecord event.1.validatorIndex then
        if isDistant prepared.lastBlockNumber event.1
            || isExitingIn prepared.exitingValidatorsFinalizedRecord event.1.validatorIndex then
          ackAt event.2
        else pure ()
      else if p.DRY_RUN then pure ()
      else JobProcessor.onMessages (p.handOver event.1)) := by
    cases isExitingIn prepared.exitingValidatorsRecord event.1.validatorIndex with
    | true =>
      cases isDistant prepared.lastBlockNumber event.1
          || isExitingIn prepared.exitingValidatorsFinalizedRecord event.1.validatorIndex with
      | true => exact fun _ kept => kept
      | false => exact Preserves.pure
    | false =>
      cases p.DRY_RUN with
      | true => exact Preserves.pure
      | false => exact onMessages (handOver event.1)
  unfold handleEvent
  cases event.1.acknowledged with
  | true => exact Preserves.pure
  | false => exact Triple.tryCatch body fun _ => onMessages count

theorem handleEvents_preserves (handOver : ∀ event, Preserves I (p.handOver event))
    (count : Preserves I (MessagesProcessor.countAction false)) :
    Preserves (fun s => I s.messages) (p.handleEvents prepared) :=
  Triple.forM (handleEvent_preserves handOver count) _

/-- Handing an event over keeps what notes, counters and its request keep. -/
theorem handOver_keeps (noted : ∀ occurrence, Preserves I (MessagesProcessor.note occurrence))
    (missed : Preserves I (MessagesProcessor.countAction false))
    (exits : ∀ message, Preserves I
      (MessagesProcessor.countOutcome (p.messagesProcessor.outside.exitRequest message)))
    (hooks : ∀ url event, Preserves I
      (MessagesProcessor.countOutcome (p.messagesProcessor.outside.webhookRequest url event)))
    (event : ValidatorsToEject) : Preserves I (p.handOver event) := by
  have read : Preserves I (get : MessagesProcessor.Run σ _) := fun _ kept => kept
  refine Triple.bind (noted _) fun _ => ?_
  by_cases messages : missing p.VALIDATOR_EXIT_WEBHOOK
  · rw [if_pos messages]
    refine Triple.bind read fun s => ?_
    cases s.messageStorage.findByValidatorIndex event.validatorIndex with
    | none => exact Triple.bind (noted _) fun _ => missed
    | some message => exact Triple.bind (noted _) fun _ => exits message
  · rw [if_neg messages]
    exact hooks _ event

/-- Handing an event over only makes requests. -/
theorem handOver_world {W : σ → Prop} (keeps : p.Keeps W) (event : ValidatorsToEject) :
    Preserves (fun s => W s.world) (p.handOver event) := by
  have counted {request : EStateM Failure σ Unit} (kept : Preserves W request) :
      Preserves (fun s => W s.world) (MessagesProcessor.countOutcome request) := by
    have asked : Preserves (fun s => W s.world) (MessagesProcessor.onWorld request) :=
      Triple.part (fun _ _ => rfl) kept
    exact Triple.tryCatch (Triple.bind asked fun _ _ kept => kept) fun _ _ kept => kept
  exact handOver_keeps (fun _ _ kept => kept) (fun _ kept => kept)
    (fun message => counted (keeps.outside.exitRequest message))
    (fun url event => counted (keeps.outside.webhookRequest url event)) event

end Loop

/-! ### The end of a job -/

/-- The end of a job asks the world and sets the gauges; it never throws. -/
theorem updateLeftMessages_run {σ : Type} {p : JobProcessor σ} {W : σ → Prop} (keeps : p.Keeps W)
    (s : JobState σ) (start : W s.messages.world) :
    ∃ world leftMessages, p.updateLeftMessages s
      = .ok () { s with messages := { s.messages with world }, leftMessages } ∧ W world := by
  let count := p.messagesProcessor.outside.cl.getExitingValidatorsCount
    (s.messages.messageStorage.messages.map fun msg => msg.message.validator_index)
    p.messagesProcessor.VALIDATORS_BATCH_SIZE
  have kept := keeps.outside.getExitingValidatorsCount
    (s.messages.messageStorage.messages.map fun msg => msg.message.validator_index)
    p.messagesProcessor.VALIDATORS_BATCH_SIZE
  have request : (onWorld count : Run σ Nat) s = match count s.messages.world with
      | .ok exitingCount world => .ok exitingCount { s with messages := { s.messages with world } }
      | .error e world => .error e { s with messages := { s.messages with world } } := by
    unfold onWorld onMessages MessagesProcessor.onWorld onPart
    cases count s.messages.world with
    | ok _ _ => rfl
    | error _ _ => rfl
  unfold updateLeftMessages
  cases asked : count s.messages.world with
  | ok exitingCount world =>
    rw [asked] at request
    exact ⟨world, _, tryCatch_of_ok (bind_of_ok request), kept.ok start asked⟩
  | error e world =>
    rw [asked] at request
    refine ⟨world, s.leftMessages, tryCatch_of_error (e := e) ?_, kept.error start asked⟩
    rw [bind_of_ok (show (get : Run σ _) s = .ok s s from rfl)]
    exact bind_of_error request

end JobProcessor

end ValidatorEjector
