/-
**A job acts on the right events.**

* `Acted` — what a part of a job has handed over and counted.
* `exit_acts`, `send_acts`, `handOver_acts` — an event that is handed over counts one action, whatever
  becomes of it, and nothing is thrown.
* `Prepared.isDue`, `Prepared.isAcked` — the two things a turn can do with an event; `handleEvent_run` — it does
  just that.
* `handleEvents_run` — the loop, by induction on what is left of the cache.
* `handleJob_run`, `handleJob_prepared` — the whole job, by its records.
* `reportsExiting`, `isDue`, `isAcked` — what a list of validators says about an event; `isDistant_int` — how far
  back an event is, for blocks that are exact numbers.
* **`handleJob_events`** — the whole job, by the lists that the consensus node returns.
* `Within`, `run_within` — what holds of everything that is fetched, holds of everything that is handed over.
* `Sample` — a job in webhook mode, over nodes with fixed answers.
-/

import ValidatorEjector.Job.Frame
import ValidatorEjector.Recorded

namespace ValidatorEjector

open Js Library Library.Program

/-- From one state to the other, events were handed over and actions counted. -/
structure Acted {σ : Type} (handed : List ValidatorsToEject) (counted : Nat)
    (s s' : MessagesState σ) : Prop where
  journal : handedEvents s'.journal = handedEvents s.journal ++ handed
  exitActions : s'.exitActions.total = s.exitActions.total + counted

theorem Acted.trans {σ : Type} {first second : List ValidatorsToEject} {m n : Nat}
    {s s' s'' : MessagesState σ} (left : Acted first m s s') (right : Acted second n s' s'') :
    Acted (first ++ second) (m + n) s s'' where
  journal := by rw [right.journal, left.journal, List.append_assoc]
  exitActions := by rw [right.exitActions, left.exitActions, Nat.add_assoc]

theorem Acted.refl {σ : Type} (s : MessagesState σ) : Acted [] 0 s s := ⟨(List.append_nil _).symm, rfl⟩

namespace MessagesProcessor

variable {σ : Type} {p : MessagesProcessor σ} {s : MessagesState σ}

theorem countAction_acts (succeeded : Bool) (s : MessagesState σ) :
    ∃ s', (countAction succeeded : Run σ Unit) s = .ok () s' ∧ Acted [] 1 s s' := by
  refine ⟨_, rfl, (List.append_nil _).symm, ?_⟩
  cases succeeded with
  | true => exact Nat.add_right_comm _ 1 _
  | false => rfl

theorem note_acts (occurrence : Occurrence) (s : MessagesState σ) :
    ∃ s', (note occurrence : Run σ Unit) s = .ok () s' ∧ Acted (handedEvents [occurrence]) 0 s s' :=
  ⟨_, rfl, List.filterMap_append, rfl⟩

/-- A request counts one action, whatever becomes of it. -/
theorem countOutcome_acts (request : EStateM Failure σ Unit) (s : MessagesState σ) :
    ∃ s', countOutcome request s = .ok () s' ∧ Acted [] 1 s s' := by
  unfold countOutcome
  cases ran : request s.world with
  | ok _ world =>
    have asked : (onWorld request : Run σ Unit) s = .ok () { s with world } := by
      unfold onWorld onPart
      rw [ran]
    obtain ⟨s', counted, acted⟩ := countAction_acts true { s with world }
    exact ⟨s', tryCatch_of_ok ((bind_of_ok asked).trans counted), acted.journal, acted.exitActions⟩
  | error e world =>
    have asked : (onWorld request : Run σ Unit) s = .error e { s with world } := by
      unfold onWorld onPart
      rw [ran]
    obtain ⟨s', counted, acted⟩ := countAction_acts false { s with world }
    exact ⟨s', (tryCatch_of_error (bind_of_error asked)).trans counted, acted.journal,
      acted.exitActions⟩

/-- An exit counts one action, with or without a message to send. -/
theorem exit_acts (event : ValidatorsToEject) (s : MessagesState σ) :
    ∃ s', p.exit event s = .ok () s' ∧ Acted [] 1 s s' := by
  unfold exit
  rw [bind_of_ok (show (get : Run σ _) s = .ok s s from rfl)]
  cases s.messageStorage.findByValidatorIndex event.validatorIndex with
  | none =>
    obtain ⟨s₁, noted, quiet⟩ := note_acts (.unstored event s.messageStorage) s
    obtain ⟨s', ran, acted⟩ := countAction_acts false s₁
    exact ⟨s', (bind_of_ok noted).trans ran, quiet.trans acted⟩
  | some message =>
    obtain ⟨s₁, noted, quiet⟩ := note_acts (.exitRequested event s.messageStorage message) s
    obtain ⟨s', ran, acted⟩ := countOutcome_acts (p.outside.exitRequest message) s₁
    exact ⟨s', (bind_of_ok noted).trans ran, quiet.trans acted⟩

end MessagesProcessor

/-! ### Turns -/

/-- The event is to be handed over: it is not acknowledged, and its validator not recorded as exiting. -/
def Prepared.isDue (prepared : Prepared) (event : ValidatorsToEject) : Bool :=
  !event.acknowledged && !isExitingIn prepared.exitingValidatorsRecord event.validatorIndex

/-- The event is to be acknowledged: it is not yet, its validator is recorded as exiting at head, and the
event is old or the validator is recorded as exiting in the finalized state. -/
def Prepared.isAcked (prepared : Prepared) (event : ValidatorsToEject) : Bool :=
  !event.acknowledged && isExitingIn prepared.exitingValidatorsRecord event.validatorIndex &&
    (isDistant prepared.lastBlockNumber event ||
      isExitingIn prepared.exitingValidatorsFinalizedRecord event.validatorIndex)

namespace JobProcessor

variable {σ : Type} {p : JobProcessor σ} {prepared : Prepared}

/-- An event that is handed over counts one action. -/
theorem handOver_acts (event : ValidatorsToEject) (s : MessagesState σ) :
    ∃ s', p.handOver event s = .ok () s' ∧ Acted [event] 1 s s' := by
  obtain ⟨s₁, noted, handed⟩ := MessagesProcessor.note_acts (.handed event) s
  unfold handOver
  rw [bind_of_ok noted]
  by_cases messages : missing p.VALIDATOR_EXIT_WEBHOOK
  · obtain ⟨s', ran, acted⟩ := MessagesProcessor.exit_acts (p := p.messagesProcessor) event s₁
    rw [if_pos messages]
    exact ⟨s', ran, handed.trans acted⟩
  · obtain ⟨s', ran, acted⟩ := MessagesProcessor.countOutcome_acts
      (p.messagesProcessor.outside.webhookRequest (p.VALIDATOR_EXIT_WEBHOOK.getD "") event) s₁
    rw [if_neg messages]
    exact ⟨s', ran, handed.trans acted⟩

/-- The event after its turn. -/
def afterTurn (prepared : Prepared) (event : ValidatorsToEject) : ValidatorsToEject :=
  if prepared.isAcked event then event.ack else event

/-- The events a job hands over, out of a list. -/
def dueEvents (p : JobProcessor σ) (prepared : Prepared) (events : List ValidatorsToEject) :
    List ValidatorsToEject :=
  if p.DRY_RUN then [] else events.filter prepared.isDue

theorem dueEvents_cons (event : ValidatorsToEject) (events : List ValidatorsToEject) :
    p.dueEvents prepared (event :: events) =
      p.dueEvents prepared [event] ++ p.dueEvents prepared events := by
  unfold dueEvents
  cases p.DRY_RUN with
  | true => rfl
  | false => exact List.filter_append [event] events

theorem modify_at_length {α : Type} (f : α → α) (before : List α) (a : α) (after : List α) :
    (before ++ a :: after).modify before.length f = before ++ f a :: after := by
  rw [List.modify_eq_take_cons_drop (by simp)]
  simp

/-- A turn that does nothing. -/
theorem turn_skips {before after : List ValidatorsToEject} {event : ValidatorsToEject} {s : JobState σ}
    (cached : s.cache = before ++ event :: after) (kept : prepared.isAcked event = false)
    (none : p.dueEvents prepared [event] = []) :
    s.cache = before ++ afterTurn prepared event :: after ∧
      Acted (p.dueEvents prepared [event]) (p.dueEvents prepared [event]).length
        s.messages s.messages := by
  rw [none, afterTurn, kept]
  exact ⟨cached, Acted.refl _⟩

variable (p prepared) in
/-- **One turn**: it does with the event what is to be done, and nothing else. -/
theorem handleEvent_run {before after : List ValidatorsToEject} {event : ValidatorsToEject}
    {s : JobState σ} (cached : s.cache = before ++ event :: after) :
    ∃ s', p.handleEvent prepared (event, before.length) s = .ok () s' ∧
      s'.cache = before ++ afterTurn prepared event :: after ∧
      Acted (p.dueEvents prepared [event]) (p.dueEvents prepared [event]).length
        s.messages s'.messages := by
  unfold handleEvent
  dsimp only
  cases old : event.acknowledged with
  | true =>
    exact ⟨s, rfl, turn_skips cached (by simp [Prepared.isAcked, old])
      (by simp [dueEvents, Prepared.isDue, old])⟩
  | false =>
    cases exiting : isExitingIn prepared.exitingValidatorsRecord event.validatorIndex with
    | true =>
      have none : p.dueEvents prepared [event] = [] := by simp [dueEvents, Prepared.isDue, exiting]
      cases final : isDistant prepared.lastBlockNumber event
          || isExitingIn prepared.exitingValidatorsFinalizedRecord event.validatorIndex with
      | true =>
        have acked : prepared.isAcked event = true := by simp only [Prepared.isAcked, old, exiting, final]; rfl
        refine ⟨{ s with cache := s.cache.modify before.length ValidatorsToEject.ack }, rfl, ?_, ?_⟩
        · rw [afterTurn, acked, cached]
          exact modify_at_length _ before event after
        · rw [none]
          exact Acted.refl _
      | false =>
        exact ⟨s, rfl, turn_skips cached (by simp only [Prepared.isAcked, final, Bool.and_false]) none⟩
    | false =>
      have kept : prepared.isAcked event = false := by simp [Prepared.isAcked, exiting]
      cases dry : p.DRY_RUN with
      | true => exact ⟨s, rfl, turn_skips cached kept (by rw [dueEvents, dry]; rfl)⟩
      | false =>
        have due : p.dueEvents prepared [event] = [event] := by
          simp [dueEvents, dry, Prepared.isDue, old, exiting]
        obtain ⟨messages, ran, acted⟩ := handOver_acts (p := p) event s.messages
        refine ⟨{ s with messages }, ?_, ?_, ?_⟩
        · refine tryCatch_of_ok ?_
          show onMessages (p.handOver event) s = _
          unfold onMessages onPart
          rw [ran]
        · rw [afterTurn, kept]
          exact cached
        · rw [due]
          exact acted

variable (p prepared) in
/-- **The loop**: over what is left of the cache, it hands over the events that are due, in order, and
acknowledges those that are to be acknowledged. -/
theorem handleEvents_run : ∀ (after before : List ValidatorsToEject) (s : JobState σ),
    s.cache = before ++ after →
    ∃ s', (after.zipIdx before.length).forM (p.handleEvent prepared) s = .ok () s' ∧
      s'.cache = before ++ after.map (afterTurn prepared) ∧
      Acted (p.dueEvents prepared after) (p.dueEvents prepared after).length s.messages s'.messages
  | [], before, s, cached => by
    have none : p.dueEvents prepared [] = [] := by
      unfold dueEvents
      cases p.DRY_RUN <;> rfl
    rw [none]
    exact ⟨s, rfl, cached, Acted.refl _⟩
  | event :: after, before, s, cached => by
    obtain ⟨s₁, turn, cached₁, acted⟩ := handleEvent_run p prepared cached
    have next : s₁.cache = (before ++ [afterTurn prepared event]) ++ after := by
      rw [cached₁, List.append_cons]
    obtain ⟨s', rest, cached', others⟩ := handleEvents_run after _ s₁ next
    rw [List.length_append, List.length_singleton] at rest
    refine ⟨s', ?_, ?_, ?_⟩
    · rw [List.zipIdx_cons, forM_cons_of_ok turn, rest]
    · rw [cached', List.map_cons, ← List.append_cons]
    · rw [dueEvents_cons, List.length_append]
      exact acted.trans others

/-- A job that is ready goes through its loop and its end. -/
theorem handleJob_run {W : σ → Prop} (keeps : p.Keeps W) {s s₁ : JobState σ}
    (ready : p.prepare s = .ok prepared s₁) (handed : prepared.eventsForEject = s₁.cache)
    (start : W s₁.messages.world) :
    ∃ s', p.handleJob s = .ok () s' ∧ W s'.messages.world ∧
      s'.cache = prepared.eventsForEject.map (afterTurn prepared) ∧
      Acted (p.dueEvents prepared prepared.eventsForEject)
        (p.dueEvents prepared prepared.eventsForEject).length s₁.messages s'.messages := by
  obtain ⟨s₂, looped, cached, acted⟩ :=
    handleEvents_run p prepared prepared.eventsForEject [] s₁ handed.symm
  have kept : W s₂.messages.world := (handleEvents_preserves (I := fun s => W s.world)
    (handOver_world keeps) fun _ kept => kept).ok start looped
  obtain ⟨world, leftMessages, ended, kept'⟩ := updateLeftMessages_run keeps s₂ kept
  refine ⟨{ s₂ with messages := { s₂.messages with world }, leftMessages }, ?_, kept', cached,
    acted.journal, acted.exitActions⟩
  unfold handleJob
  rw [bind_of_ok ready, bind_of_ok (show p.handleEvents prepared s₁ = .ok () s₂ from looped), ended]

/-- What a ready job does, by its records. -/
theorem handleJob_prepared {s s₁ : JobState σ} (ready : p.prepare s = .ok prepared s₁) :
    ∃ s', p.handleJob s = .ok () s' ∧
      handedEvents s'.messages.journal = handedEvents s.messages.journal ++
        p.dueEvents prepared prepared.eventsForEject ∧
      s'.messages.exitActions.total = s.messages.exitActions.total +
        (p.dueEvents prepared prepared.eventsForEject).length ∧
      s.cache <+: prepared.eventsForEject ∧
      s'.cache = prepared.eventsForEject.map (afterTurn prepared) := by
  have start : Grown (fun _ => True) s.messages.exitActions (handedEvents s.messages.journal)
      (fun _ => True) s.cache s := ⟨⟨trivial, rfl, rfl⟩, GrownBy.refl _ _⟩
  obtain ⟨⟨untouched, grown⟩, handed⟩ :=
    (prepare_grows p.keeps_true fun _ _ _ _ _ _ _ => trivial).ok start ready
  obtain ⟨s', ran, _, cached, acted⟩ := handleJob_run p.keeps_true ready handed trivial
  obtain ⟨new, grew, _⟩ := grown
  refine ⟨s', ran, ?_, ?_, ?_, cached⟩
  · rw [acted.journal, untouched.journal]
  · rw [acted.exitActions, untouched.exitActions]
  · rw [handed, grew]
    exact List.prefix_append _ _

/-! ### What the consensus node reports -/

/-- The list reports the validator exiting: its last entry for the index does. -/
def reportsExiting (validators : List ValidatorData) (validatorIndex : String) : Bool :=
  (validators.filter fun v => v.index = validatorIndex).getLast?.any fun v =>
    isValidatorExiting v.validator.exit_epoch

/-- **The record of a list says what the list reports**: the last entry of an index wins. -/
theorem isExitingIn_createExitingValidatorsRecord (validators : List ValidatorData) (validatorIndex : String) :
    isExitingIn (createExitingValidatorsRecord validators) validatorIndex =
      reportsExiting validators validatorIndex := by
  unfold isExitingIn lastValue? createExitingValidatorsRecord reportsExiting
  rw [List.getLast?_filter, ← List.map_reverse]
  induction validators.reverse with
  | nil => rfl
  | cons v rest ih =>
    rw [List.map_cons, List.lookup_cons, List.find?_cons]
    by_cases same : v.index = validatorIndex
    · simp [same]
    · rw [beq_false_of_ne (Ne.symm same), decide_eq_false same]
      exact ih

/-- The event is to be handed over: it is not acknowledged, and its validator not reported exiting at head. -/
def isDue (head : List ValidatorData) (event : ValidatorsToEject) : Bool :=
  !event.acknowledged && !reportsExiting head event.validatorIndex

/-- The event is to be acknowledged: it is not yet, its validator is reported exiting at head, and the event
is old or the validator is reported exiting in the finalized state. -/
def isAcked (lastBlockNumber : Nat) (head finalized : List ValidatorData) (event : ValidatorsToEject) : Bool :=
  !event.acknowledged && reportsExiting head event.validatorIndex &&
    (isDistant lastBlockNumber event || reportsExiting finalized event.validatorIndex)

section Records

variable {head finalized : List ValidatorData} {lastBlockNumber : Nat} {events : List ValidatorsToEject}

/-- By the records of the lists an event is due as by the lists. -/
theorem isDue_records (event : ValidatorsToEject) :
    Prepared.isDue ⟨lastBlockNumber, events, createExitingValidatorsRecord head,
      createExitingValidatorsRecord finalized⟩ event = isDue head event := by
  unfold Prepared.isDue isDue
  rw [isExitingIn_createExitingValidatorsRecord]

/-- By the records of the lists an event is to be acknowledged as by the lists. -/
theorem isAcked_records (event : ValidatorsToEject) :
    Prepared.isAcked ⟨lastBlockNumber, events, createExitingValidatorsRecord head,
      createExitingValidatorsRecord finalized⟩ event = isAcked lastBlockNumber head finalized event := by
  unfold Prepared.isAcked isAcked
  rw [isExitingIn_createExitingValidatorsRecord, isExitingIn_createExitingValidatorsRecord]

end Records

/-- Blocks that are exact numbers are compared as numbers. -/
theorem isDistant_int {lastBlockNumber : Nat} {event : ValidatorsToEject} {block : Int}
    (exact : event.blockNumber = .int block) (small : (lastBlockNumber - block).natAbs ≤ 2 ^ 53) :
    isDistant lastBlockNumber event = decide (block + 120 < lastBlockNumber) := by
  unfold isDistant
  rw [exact]
  show (JsNumber.int _).lt (ofRat (((lastBlockNumber : Int) : ℚ) - (block : ℚ))) = _
  rw [← Int.cast_sub, ofRat_intCast small, JsNumber.lt_int]
  refine decide_eq_decide.mpr ?_
  unfold FINALIZED_BLOCK_EQUIVALENT
  omega

/-- **A job acts on exactly the right events.** Once its events and the two lists of their validators are
fetched it does not throw. What it hands over are the events of the cache that are due by the list at head, in
order and each once, and it counts one action for each of them; of the events of the cache it acknowledges
those that are to be acknowledged by the two lists and no other. An event is old when its block is more than
120 below the last one. -/
theorem handleJob_events {s s₁ s₂ s₃ : JobState σ} {lastBlockNumber : Nat} {events : List ValidatorsToEject}
    {head finalized : List ValidatorData} (loaded : p.loadEvents s = .ok (lastBlockNumber, events) s₁)
    (atHead : p.fetchValidators events "head" s₁ = .ok head s₂)
    (inFinalized : p.fetchValidators events "finalized" s₂ = .ok finalized s₃) :
    ∃ s', p.handleJob s = .ok () s' ∧
      handedEvents s'.messages.journal = handedEvents s.messages.journal ++
        (if p.DRY_RUN then [] else events.filter (isDue head)) ∧
      s'.messages.exitActions.total = s.messages.exitActions.total +
        (if p.DRY_RUN then [] else events.filter (isDue head)).length ∧
      s.cache <+: events ∧
      s'.cache = events.map (fun event =>
        if isAcked lastBlockNumber head finalized event then { event with acknowledged := true } else event) ∧
      ∀ event ∈ events, ∀ block : Int, event.blockNumber = .int block →
        (lastBlockNumber - block).natAbs ≤ 2 ^ 53 →
        (isDistant lastBlockNumber event = true ↔ block + 120 < lastBlockNumber) := by
  have ready : p.prepare s = .ok ⟨lastBlockNumber, events, createExitingValidatorsRecord head,
      createExitingValidatorsRecord finalized⟩ s₃ :=
    bind_ok.mpr ⟨_, s₁, loaded, bind_ok.mpr ⟨head, s₂, atHead, bind_ok.mpr ⟨finalized, s₃, inFinalized, rfl⟩⟩⟩
  obtain ⟨s', ran, handed, counted, grown, cached⟩ := handleJob_prepared ready
  have due : p.dueEvents ⟨lastBlockNumber, events, createExitingValidatorsRecord head,
      createExitingValidatorsRecord finalized⟩ events =
        if p.DRY_RUN then [] else events.filter (isDue head) := by
    unfold dueEvents
    congr 2
    funext event
    exact isDue_records event
  refine ⟨s', ran, due ▸ handed, due ▸ counted, grown, cached.trans (List.map_congr_left fun event _ => ?_),
    fun event _ block exact small => ?_⟩
  · unfold afterTurn
    rw [isAcked_records]
    rfl
  · rw [isDistant_int exact small, decide_eq_true_eq]

/-! ### Where the events come from -/

/-- What is cached, and what was handed over, has a property. -/
structure Within (Q : ValidatorsToEject → Prop) (s : JobState σ) : Prop where
  cached : ∀ event ∈ s.cache, Q event
  handed : ∀ event ∈ handedEvents s.messages.journal, Q event

section Within

variable {Q : ValidatorsToEject → Prop} {s : JobState σ}

/-- What a job hands over is of its cache. -/
theorem mem_of_mem_dueEvents {events : List ValidatorsToEject} {event : ValidatorsToEject}
    (due : event ∈ p.dueEvents prepared events) : event ∈ events := by
  unfold dueEvents at due
  cases dry : p.DRY_RUN with
  | true => simp [dry] at due
  | false =>
    simp only [dry, Bool.false_eq_true, if_false] at due
    exact List.mem_of_mem_filter due

/-- **A job keeps what the fetches and the acknowledgements keep.** -/
theorem handleJob_within (fetches : p.exitLogs.Fetches Q) (acks : ∀ event, Q event → Q event.ack)
    (start : Within Q s) : Within Q (stateAfter p.handleJob s) := by
  have untouched : Grown (fun _ => True) s.messages.exitActions (handedEvents s.messages.journal) Q s.cache s :=
    ⟨⟨trivial, rfl, rfl⟩, GrownBy.refl _ _⟩
  -- up to the loop the cache grows by what was fetched, and nothing is handed over
  have before {s₁ : JobState σ} (grown : Grown (fun _ => True) s.messages.exitActions
      (handedEvents s.messages.journal) Q s.cache s₁) : Within Q s₁ := by
    obtain ⟨kept, new, grew, good⟩ := grown
    refine ⟨fun event member => ?_, kept.journal ▸ start.handed⟩
    rw [grew] at member
    exact (List.mem_append.mp member).elim (start.cached event) (good event)
  cases ready : p.prepare s with
  | error e s₁ =>
    have failed : p.handleJob s = .error e s₁ := bind_of_error ready
    rw [stateAfter_error failed]
    exact before ((prepare_grows p.keeps_true fetches).error untouched ready)
  | ok prepared s₁ =>
    obtain ⟨grown, handed⟩ := (prepare_grows p.keeps_true fetches).ok untouched ready
    obtain ⟨cached, earlier⟩ := before grown
    obtain ⟨s', ran, _, turned, acted⟩ := handleJob_run p.keeps_true ready handed trivial
    rw [stateAfter_ok ran]
    refine ⟨fun event' member => ?_, fun event member => ?_⟩
    · rw [turned] at member
      obtain ⟨event, inside, rfl⟩ := List.mem_map.mp member
      have good : Q event := cached event (handed ▸ inside)
      unfold afterTurn
      split_ifs
      · exact acks event good
      · exact good
    · rw [acted.journal] at member
      rcases List.mem_append.mp member with old | due
      · exact earlier event old
      · exact cached event (handed ▸ mem_of_mem_dueEvents due)

/-- **What holds of everything that is fetched, holds of everything a run hands over.** -/
theorem run_within (fetches : p.exitLogs.Fetches Q) (acks : ∀ event, Q event → Q event.ack) (world : σ) :
    ∀ jobs, Within Q (p.run world jobs)
  | 0 => ⟨fun _ member => (by cases member), fun _ member => (by cases member)⟩
  | jobs + 1 => handleJob_within fetches acks (run_within fetches acks world jobs)

end Within

end JobProcessor

/-! ### A sample -/

namespace Sample

/-- Nodes with fixed answers, in webhook mode. -/
def outside (head finalized : List ValidatorData) (lastBlockNumber : Nat) : Outside Unit where
  cl := { clRequest := fun
    | .validators tag _ => pure (validatorsJson (if tag = "head" then head else finalized))
    | _ => unserved }
  now world := (0, world)
  s3Read _ := unserved
  gsRead _ := unserved
  readFilesFromFolder _ := unserved
  exitRequest _ := unserved
  webhookRequest _ _ := pure ()
  resolveExitBusAddress := pure ()
  resolveConsensusAddress := pure ()
  latestBlockNumber := pure lastBlockNumber
where
  unserved {α : Type} : EStateM Failure Unit α := throw (.error "not served")

/-- A job over these nodes, with the exit requests of its only fetch. No message is ever checked. -/
def processor (head finalized : List ValidatorData) (lastBlockNumber : Nat)
    (logs : List ValidatorsToEject) : JobProcessor Unit where
  messagesProcessor := {
    outside := outside head finalized lastBlockNumber
    crypto := {
      sha256 := fun _ => ""
      decrypt := fun _ _ => unrecorded
      decodeText := fun _ => ""
      fromHex := fun _ => unrecorded
      computeDomain := fun _ _ _ => []
      computeSigningRoot := fun _ _ _ => []
      blsVerify := fun _ _ _ => false }
    forkVersionResolver := ⟨false, none⟩
    MESSAGES_LOCATION := none
    MESSAGES_PASSWORD := none
    VALIDATORS_BATCH_SIZE := 16 }
  exitLogs := { fetch := fun _ => pure logs, BLOCKS_PRELOAD := 500, LOAD_LOGS_STEP := 501 }
  DRY_RUN := false
  VALIDATOR_EXIT_WEBHOOK := some "http://webhook"

def active (index : String) : ValidatorData := ⟨index, "active_ongoing", ⟨"0x", FAR_FUTURE_EPOCH⟩⟩

def exiting (index : String) : ValidatorData := ⟨index, "active_exiting", ⟨"0x", "100"⟩⟩

def event (index : String) (blockNumber : Int) : ValidatorsToEject :=
  ⟨1, index, "0x", .int blockNumber, 1, false⟩

end Sample

namespace JobProcessor

open Sample

/-- Two of five events are handed over and two acknowledged: what counts is the last entry of a validator, at
head before the finalized state. -/
theorem handleJob_events_sample :
    ∃ s', (processor [active "2", exiting "2", exiting "3", exiting "1", active "1"]
        [exiting "2", active "3"] 1000
        [event "1" 950, event "2" 950, event "3" 950, event "3" 700, event "1" 940]).handleJob (.fresh ()) =
          .ok () s' ∧
      handedEvents s'.messages.journal = [event "1" 950, event "1" 940] ∧ s'.messages.exitActions.total = 2 ∧
      s'.cache = [event "1" 950, (event "2" 950).ack, event "3" 950, (event "3" 700).ack, event "1" 940] := by
  let job := processor [active "2", exiting "2", exiting "3", exiting "1", active "1"]
    [exiting "2", active "3"] 1000
    [event "1" 950, event "2" 950, event "3" 950, event "3" 700, event "1" 940]
  have loaded : job.loadEvents (.fresh ()) = .ok (1000, _) _ := rfl
  obtain ⟨s', ran, handed, counted, _, cached, _⟩ := handleJob_events loaded rfl rfl
  refine ⟨s', ran, handed.trans ?_, counted.trans ?_, cached.trans ?_⟩
  · decide +kernel
  · decide +kernel
  · decide +kernel

end JobProcessor

end ValidatorEjector
