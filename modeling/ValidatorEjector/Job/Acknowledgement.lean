/-
**When an acknowledgement is safe.**

An acknowledged event is never looked at again, so its exit should be one that cannot be reorganised
away. A job also acknowledges an event for its age, which says nothing about the exit.

* `FinalizedView` — the validators that are exiting in the finalized state: nothing takes one back, and
  the node reports no other.
* `isOverdue`, `NoOverdue` — an event that would be acknowledged for its age alone, and a job without one.
* `AcksFinalized` — a job acknowledges only events whose validator it was told to be exiting in the
  finalized state; `acksFinalized_iff` — it does so exactly without overdue events.
* `handleJob_safe`, `run_acknowledges_finalized` — a step, and whole runs.
* `run_acknowledges_early` — the job that acknowledges an event by its age.
-/

import ValidatorEjector.Job.Events

namespace ValidatorEjector

open Js Library Library.Program

/-- The fetcher pushes events that are not acknowledged. -/
theorem Fetcher.exitLogs_unacknowledged {ρ : Type} (f : Fetcher ρ) (ejectorScope : List EjectorScope)
    (BLOCKS_PRELOAD LOAD_LOGS_STEP : ℕ+) :
    (f.exitLogs ejectorScope BLOCKS_PRELOAD LOAD_LOGS_STEP).Fetches
      fun event => event.acknowledged = false := by
  have turn (event : ExitRequestEvent) : Triple (fun _ => True) (f.verifyTurn event)
      (fun here _ => True ∧ ∀ event ∈ here, event.acknowledged = false) fun _ => True := by
    intro s _
    cases run : f.verifyTurn event s with
    | error _ _ => trivial
    | ok here s' =>
      refine ⟨trivial, fun pushed member => ?_⟩
      obtain ⟨accepted, s₁, _, rest⟩ := bind_ok.mp run
      cases accepted with
      | false => cases rest; cases member
      | true =>
        obtain ⟨validator, s₂, made, last⟩ := bind_ok.mp rest
        cases last
        rw [List.mem_singleton.mp member]
        exact (toEject_ok (ofResult_ok.mp made).1).2.2
  intro w s logs s' fetched
  obtain ⟨events, s₁, _, verified⟩ := bind_ok.mp fetched
  exact (Triple.ok (Triple.collect fun event _ => turn event) trivial verified).2

namespace JobProcessor

variable {σ : Type} {p : JobProcessor σ}

/-- **The finalized view of the consensus node.** A validator that is exiting in it stays so, and only
such validators are reported as exiting in the finalized state. -/
structure FinalizedView (p : JobProcessor σ) (finalizedExiting : σ → String → Prop) : Prop where
  monotone : ∀ validatorIndex, p.Keeps fun world => finalizedExiting world validatorIndex
  answers : ∀ batch world validators world',
    p.messagesProcessor.outside.cl.fetchBatch "finalized" batch world = .ok validators world' →
    ∀ v ∈ validators, isValidatorExiting v.validator.exit_epoch = true →
      finalizedExiting world' v.index

/-- The event would be acknowledged although its validator is not reported exiting in the finalized
state. -/
def isOverdue (prepared : Prepared) (event : ValidatorsToEject) : Bool :=
  !event.acknowledged && isExitingIn prepared.exitingValidatorsRecord event.validatorIndex &&
    isDistant prepared.lastBlockNumber event &&
    !isExitingIn prepared.exitingValidatorsFinalizedRecord event.validatorIndex

/-- The job from a state has no overdue event before it. -/
def NoOverdue (p : JobProcessor σ) (s : JobState σ) : Prop :=
  ∀ prepared s₁, p.prepare s = .ok prepared s₁ → ∀ event ∈ prepared.eventsForEject,
    isOverdue prepared event = false

/-- The job from a state sets the flag only of events whose validator is reported exiting in the
finalized state. -/
def AcksFinalized (p : JobProcessor σ) (s : JobState σ) : Prop :=
  ∀ prepared s₁, p.prepare s = .ok prepared s₁ → ∀ (place : Nat) (event event' : ValidatorsToEject),
    prepared.eventsForEject[place]? = some event →
    (stateAfter p.handleJob s).cache[place]? = some event' →
    event.acknowledged = false → event'.acknowledged = true →
    isExitingIn prepared.exitingValidatorsFinalizedRecord event.validatorIndex = true

/-! ### One job -/

theorem afterTurn_acknowledged {prepared : Prepared} {event : ValidatorsToEject} :
    (afterTurn prepared event).acknowledged = true ↔
      event.acknowledged = true ∨ prepared.isAcked event = true := by
  unfold afterTurn
  cases acked : prepared.isAcked event with
  | true => exact iff_of_true rfl (.inr rfl)
  | false => simp

@[simp] theorem afterTurn_validatorIndex {prepared : Prepared} {event : ValidatorsToEject} :
    (afterTurn prepared event).validatorIndex = event.validatorIndex := by
  unfold afterTurn
  cases prepared.isAcked event with
  | true => rfl
  | false => rfl

/-- An event that is not overdue is acknowledged for the finalized state. -/
theorem isAcked_finalized {prepared : Prepared} {event : ValidatorsToEject}
    (acked : prepared.isAcked event = true) : isOverdue prepared event = false ↔
      isExitingIn prepared.exitingValidatorsFinalizedRecord event.validatorIndex = true := by
  unfold Prepared.isAcked at acked
  unfold isOverdue
  rw [Bool.and_eq_true, Bool.or_eq_true] at acked
  rw [acked.1, Bool.true_and]
  cases final : isExitingIn prepared.exitingValidatorsFinalizedRecord event.validatorIndex with
  | true => simp
  | false =>
    have old : isDistant prepared.lastBlockNumber event = true :=
      acked.2.resolve_right (by rw [final]; exact Bool.false_ne_true)
    simp [old]

theorem isAcked_of_isOverdue {prepared : Prepared} {event : ValidatorsToEject}
    (overdue : isOverdue prepared event = true) : prepared.isAcked event = true := by
  unfold isOverdue at overdue
  unfold Prepared.isAcked
  rw [Bool.and_eq_true, Bool.and_eq_true] at overdue
  rw [overdue.1.1, overdue.1.2]
  rfl

/-- **A job acknowledges by the finalized state alone exactly when it has no overdue event.** -/
theorem acksFinalized_iff (s : JobState σ) : p.AcksFinalized s ↔ p.NoOverdue s := by
  unfold AcksFinalized NoOverdue
  refine forall₃_congr fun prepared s₁ ready => ?_
  obtain ⟨s', ran, _, _, _, cached⟩ := handleJob_prepared ready
  have after : (stateAfter p.handleJob s).cache = prepared.eventsForEject.map (afterTurn prepared) := by
    rw [stateAfter_ok ran]
    exact cached
  rw [after]
  constructor
  · intro safe event member
    by_contra overdue
    have acked := isAcked_of_isOverdue (Bool.eq_true_of_not_eq_false overdue)
    have fresh : event.acknowledged = false := by
      unfold Prepared.isAcked at acked
      simp only [Bool.and_eq_true, Bool.not_eq_true'] at acked
      exact acked.1.1
    obtain ⟨place, here⟩ := List.mem_iff_getElem?.mp member
    have there : (prepared.eventsForEject.map (afterTurn prepared))[place]?
        = some (afterTurn prepared event) := by
      rw [List.getElem?_map, here]
      rfl
    exact overdue ((isAcked_finalized acked).mpr
      (safe place event _ here there fresh (afterTurn_acknowledged.mpr (.inr acked))))
  · intro calm place event event' here there fresh set
    rw [List.getElem?_map, here] at there
    cases there
    rcases afterTurn_acknowledged.mp set with old | acked
    · rw [old] at fresh
      cases fresh
    · exact (isAcked_finalized acked).mp (calm event (List.mem_of_getElem? here))

/-! ### Runs -/

/-- Every acknowledged event of the cache is of a validator that is exiting in the finalized state. -/
def Acknowledged (finalizedExiting : σ → String → Prop) (s : JobState σ) : Prop :=
  ∀ event ∈ s.cache, event.acknowledged = true →
    finalizedExiting s.messages.world event.validatorIndex

section Runs

variable {finalizedExiting : σ → String → Prop} {s : JobState σ}

/-- What is reported exiting in the finalized state is so, also when the last batch has been asked. -/
theorem FinalizedView.fetched (view : FinalizedView p finalizedExiting) : ∀ {batches : List (List String)}
    {world world' : σ} {validators : List ValidatorData},
    collect (p.messagesProcessor.outside.cl.fetchBatch "finalized") batches world
      = .ok validators world' →
    ∀ v ∈ validators, isValidatorExiting v.validator.exit_epoch = true →
      finalizedExiting world' v.index
  | [], _, _, _, fetched, v, member, _ => by
    cases fetched
    cases member
  | batch :: batches, world, world', validators, fetched, v, member, exiting => by
    obtain ⟨here, world₁, rest, first, others, rfl⟩ := collect_cons_ok.mp fetched
    rcases List.mem_append.mp member with member | member
    · have reported := view.answers batch world here world₁ first v member exiting
      have keeps : Preserves (fun world => finalizedExiting world v.index)
          (collect (p.messagesProcessor.outside.cl.fetchBatch "finalized") batches) :=
        Preserves.collect fun batch _ =>
          Preserves.thenResult ((view.monotone v.index).outside.clRequest (.validators _ batch))
      exact keeps.ok reported others
    · exact view.fetched others v member exiting

/-- What a ready job takes to be exiting in the finalized state is so. -/
theorem FinalizedView.prepared (view : FinalizedView p finalizedExiting) {prepared : Prepared}
    {s₁ : JobState σ} (ready : p.prepare s = .ok prepared s₁) {validatorIndex : String}
    (exiting : isExitingIn prepared.exitingValidatorsFinalizedRecord validatorIndex = true) :
    finalizedExiting s₁.messages.world validatorIndex := by
  obtain ⟨⟨_, events⟩, _, _, ready⟩ := bind_ok.mp ready
  obtain ⟨_, s₂, _, ready⟩ := bind_ok.mp ready
  obtain ⟨validators, s₃, fetched, last⟩ := bind_ok.mp ready
  cases last
  have asked : p.messagesProcessor.outside.cl.fetchValidatorsBatch
      (events.map ValidatorsToEject.validatorIndex) p.messagesProcessor.VALIDATORS_BATCH_SIZE
      "finalized" s₂.messages.world = .ok validators s₁.messages.world := by
    unfold fetchValidators onWorld onMessages MessagesProcessor.onWorld onPart at fetched
    cases answer : p.messagesProcessor.outside.cl.fetchValidatorsBatch
      (events.map ValidatorsToEject.validatorIndex) p.messagesProcessor.VALIDATORS_BATCH_SIZE
      "finalized" s₂.messages.world with
    | ok validators' world =>
      rw [answer] at fetched
      cases fetched
      rfl
    | error _ _ => rw [answer] at fetched; cases fetched
  unfold isExitingIn at exiting
  cases found : lastValue? (createExitingValidatorsRecord validators) validatorIndex with
  | none => rw [found] at exiting; cases exiting
  | some flag =>
    rw [found, Option.getD_some] at exiting
    obtain ⟨v, member, pair⟩ := List.mem_map.mp (mem_of_lastValue? found)
    cases pair
    exact view.fetched asked v member exiting

/-- Up to the loop, what is acknowledged stays final: the cache has only grown by new events. -/
theorem Acknowledged.grown {s₁ : JobState σ} (start : Acknowledged finalizedExiting s)
    (grows : ∀ validatorIndex, finalizedExiting s.messages.world validatorIndex →
      finalizedExiting s₁.messages.world validatorIndex)
    (cache : GrownBy (fun event => event.acknowledged = false) s.cache s₁.cache) :
    Acknowledged finalizedExiting s₁ := by
  obtain ⟨new, grew, unacknowledged⟩ := cache
  intro event member acknowledged
  rw [grew] at member
  rcases List.mem_append.mp member with before | pushed
  · exact grows _ (start event before acknowledged)
  · rw [unacknowledged event pushed] at acknowledged
    cases acknowledged

/-- **One job**: without overdue events, what is acknowledged stays final. -/
theorem handleJob_safe (view : FinalizedView p finalizedExiting)
    (fresh : p.exitLogs.Fetches fun event => event.acknowledged = false) (calm : p.NoOverdue s)
    (start : Acknowledged finalizedExiting s) :
    Acknowledged finalizedExiting (stateAfter p.handleJob s) := by
  have untouched {W : σ → Prop} (world : W s.messages.world) : Grown W s.messages.exitActions
      (handedEvents s.messages.journal) (fun event => event.acknowledged = false) s.cache s :=
    ⟨⟨world, rfl, rfl⟩, GrownBy.refl _ _⟩
  cases ready : p.prepare s with
  | error e s₁ =>
    have failed : p.handleJob s = .error e s₁ := bind_of_error ready
    rw [stateAfter_error failed]
    refine start.grown (fun validatorIndex exiting => ?_) ?_
    · exact ((prepare_grows (view.monotone validatorIndex) fresh).error (untouched exiting)
        ready).messages.world
    · exact ((prepare_grows p.keeps_true fresh).error (untouched trivial) ready).cache
  | ok prepared s₁ =>
    obtain ⟨⟨_, cache⟩, handed⟩ := (prepare_grows p.keeps_true fresh).ok (untouched trivial) ready
    have before : Acknowledged finalizedExiting s₁ := by
      refine start.grown (fun validatorIndex exiting => ?_) cache
      exact ((prepare_grows (view.monotone validatorIndex) fresh).ok (untouched exiting)
        ready).1.messages.world
    have after (validatorIndex : String) (exiting : finalizedExiting s₁.messages.world validatorIndex) :
        finalizedExiting (stateAfter p.handleJob s).messages.world validatorIndex := by
      obtain ⟨s', ran, kept, _⟩ := handleJob_run (view.monotone validatorIndex) ready handed exiting
      rw [stateAfter_ok ran]
      exact kept
    obtain ⟨s', ran, _, cached, _⟩ := handleJob_run p.keeps_true ready handed trivial
    intro event' member acknowledged
    rw [stateAfter_ok ran, cached] at member
    obtain ⟨event, inside, rfl⟩ := List.mem_map.mp member
    rw [afterTurn_validatorIndex]
    refine after _ ?_
    rcases afterTurn_acknowledged.mp acknowledged with old | acked
    · exact before event (handed ▸ inside) old
    · exact view.prepared ready ((isAcked_finalized acked).mp (calm prepared s₁ ready event inside))

/-- **Acknowledgements over whole runs.** The jobs of a run acknowledge by the finalized state alone
exactly when none of them has an overdue event. Without overdue events, every acknowledged event is of a
validator whose exit is final in the state reached. -/
theorem run_acknowledges_finalized (view : FinalizedView p finalizedExiting)
    (fresh : p.exitLogs.Fetches fun event => event.acknowledged = false) (world : σ) (jobs : Nat) :
    ((∀ k < jobs, p.AcksFinalized (p.run world k)) ↔ ∀ k < jobs, p.NoOverdue (p.run world k)) ∧
    ((∀ k < jobs, p.NoOverdue (p.run world k)) → ∀ event ∈ (p.run world jobs).cache,
      event.acknowledged = true →
        finalizedExiting (p.run world jobs).messages.world event.validatorIndex) := by
  refine ⟨forall₂_congr fun k _ => acksFinalized_iff (p.run world k), ?_⟩
  induction jobs with
  | zero => exact fun _ _ member => by cases member
  | succ jobs ih =>
    intro calm
    exact handleJob_safe view fresh (calm jobs (Nat.lt_succ_self jobs))
      (ih fun k earlier => calm k (Nat.lt_succ_of_lt earlier))

end Runs

/-! ### An acknowledgement by age -/

section Early

open Sample

theorem sample_keeps {head finalized : List ValidatorData} {lastBlockNumber : Nat}
    {logs : List ValidatorsToEject} {W : Unit → Prop} :
    (processor head finalized lastBlockNumber logs).Keeps W := by
  have unit {α : Type} (x : EStateM Failure Unit α) : Preserves W x := by
    intro s start
    cases x s with
    | ok _ _ => exact start
    | error _ _ => exact start
  exact ⟨⟨fun _ => unit _, fun _ start => start, fun _ => unit _, fun _ => unit _, fun _ => unit _,
    fun _ => unit _, fun _ _ => unit _, unit _, unit _, unit _⟩, fun _ => unit _⟩

/-- The sample's nodes report the same validators to every request. -/
theorem sample_finalizedView {head finalized : List ValidatorData} {lastBlockNumber : Nat}
    {logs : List ValidatorsToEject} : FinalizedView (processor head finalized lastBlockNumber logs)
      fun _ validatorIndex => ∃ v ∈ finalized, v.index = validatorIndex ∧
        isValidatorExiting v.validator.exit_epoch = true where
  monotone _ := sample_keeps
  answers batch world validators world' fetched v member exiting := by
    obtain ⟨json, _, asked, read⟩ := bind_ok.mp fetched
    cases asked
    have same := (ofResult_ok.mp read).1
    rw [if_neg (by decide), validatorsBatchDTO_toJson] at same
    cases same
    exact ⟨v, member, rfl, exiting⟩

/-- The view of the nodes whose finalized state has one validator. -/
abbrev sampleView (finalized : List ValidatorData) (_ : Unit) (validatorIndex : String) : Prop :=
  ∃ v ∈ finalized, v.index = validatorIndex ∧ isValidatorExiting v.validator.exit_epoch = true

/-- **Validator `7` is exiting at head only, and its request is 300 blocks old**: the job acknowledges the
request, so it is not looked at again when the exit is reorganised away. -/
theorem run_acknowledges_early :
    FinalizedView (processor [exiting "7"] [active "7"] 1000 [event "7" 700]) (sampleView [active "7"]) ∧
    ¬ (processor [exiting "7"] [active "7"] 1000 [event "7" 700]).AcksFinalized (.fresh ()) ∧
    (((processor [exiting "7"] [active "7"] 1000 [event "7" 700]).run () 1).cache
      = [(event "7" 700).ack] ∧ ¬ sampleView [active "7"] () "7") := by
  refine ⟨sample_finalizedView, ?_, ?_, ?_⟩
  · rw [acksFinalized_iff]
    intro calm
    have overdue := calm _ _ rfl (event "7" 700) List.mem_cons_self
    exact absurd overdue (by decide +kernel)
  · decide +kernel
  · rintro ⟨v, member, _, reported⟩
    cases List.mem_singleton.mp member
    exact absurd reported (by decide +kernel)

/-- With the exit in the finalized state as well, the same job acknowledges the request for good. -/
theorem run_acknowledges_finalized_sample :
    ((processor [exiting "7"] [exiting "7"] 1000 [event "7" 700]).run () 1).cache
      = [(event "7" 700).ack] ∧ sampleView [exiting "7"] () "7" := by
  have cached : ((processor [exiting "7"] [exiting "7"] 1000 [event "7" 700]).run () 1).cache
      = [(event "7" 700).ack] := by decide +kernel
  have fresh : (processor [exiting "7"] [exiting "7"] 1000 [event "7" 700]).exitLogs.Fetches
      fun e => e.acknowledged = false := by
    intro w s logs s' fetched e member
    cases fetched
    rw [List.mem_singleton.mp member]
    rfl
  have calm : (processor [exiting "7"] [exiting "7"] 1000 [event "7" 700]).NoOverdue (.fresh ()) := by
    intro prepared s₁ ready e member
    have known : (processor [exiting "7"] [exiting "7"] 1000 [event "7" 700]).prepare (.fresh ())
        = .ok _ _ := rfl
    rw [known] at ready
    cases ready
    rw [List.mem_singleton.mp member]
    decide +kernel
  refine ⟨cached, (run_acknowledges_finalized sample_finalizedView fresh () 1).2 (fun k first => ?_)
    (event "7" 700).ack (by rw [cached]; exact List.mem_cons_self) rfl⟩
  rw [Nat.lt_one_iff.mp first]
  exact calm

end Early

end JobProcessor

end ValidatorEjector
