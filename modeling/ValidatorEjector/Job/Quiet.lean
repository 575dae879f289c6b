/-
**What a job does before its loop and after it, as an observer sees it.**

Up to the loop a job only reads, and its journal only tells of reloads and verifications. So a relation of the
world, the journal and the counted actions is kept, if reads and such entries keep it.

* `JobProcessor.quiet` — a job whose orders do nothing; outside of its loop it is the same.
* `Quiet` — what keeps the relation; `reload_quiet`, `prepare_quiet`, `updateLeftMessages_quiet` — the parts;
  `prepare_parts` — the rule for a job up to its loop.
* `HandsOver` — what handing an event over has to keep; `handleJob_quiet`, `run_quiet` — a job, and a run,
  keep it.
-/

import ValidatorEjector.Job.Frame
import ValidatorEjector.Messages.Rules

namespace ValidatorEjector

open Js Library Library.Program

section Quiet

variable {σ α : Type}

def MessagesProcessor.quiet (p : MessagesProcessor σ) : MessagesProcessor σ :=
  { p with outside := p.outside.quiet }

def JobProcessor.quiet (p : JobProcessor σ) : JobProcessor σ :=
  { p with messagesProcessor := p.messagesProcessor.quiet }

/-- An entry that tells of no order. -/
def Occurrence.isQuiet : Occurrence → Bool
  | .handed _ => false
  | .exitRequested .. => false
  | .unstored .. => false
  | _ => true

/-- **The relation of the world, the journal and the counted actions** is kept by reads and by quiet entries. -/
structure Quiet (p : JobProcessor σ) (R : σ → List Occurrence → ExitActions → Prop) : Prop where
  keeps : ∀ journal actions, p.quiet.Keeps fun world => R world journal actions
  noted : ∀ world journal actions occurrence, Occurrence.isQuiet occurrence = true → R world journal actions →
    R world (journal ++ [occurrence]) actions

/-- The relation, of a state of the message side. -/
abbrev Related (R : σ → List Occurrence → ExitActions → Prop) (s : MessagesState σ) : Prop :=
  R s.world s.journal s.exitActions

variable {R : σ → List Occurrence → ExitActions → Prop}

/-! ### Reloads -/

namespace MessagesProcessor

theorem onWorld_quiet {x : EStateM Failure σ α}
    (keeps : ∀ journal actions, Preserves (fun world => R world journal actions) x) :
    Preserves (Related R) (onWorld x) := by
  intro s start
  have ends := keeps s.journal s.exitActions s.world start
  unfold onWorld onPart
  cases ran : x s.world with
  | ok a world => rw [ran] at ends; exact ends
  | error e world => rw [ran] at ends; exact ends

theorem note_quiet {p : JobProcessor σ} (quiet : Quiet p R) {occurrence : Occurrence}
    (silent : occurrence.isQuiet = true) : Preserves (Related R) (note occurrence) :=
  fun s start => quiet.noted s.world s.journal s.exitActions occurrence silent start

theorem reading_quiet {p : JobProcessor σ} (quiet : Quiet p R) {x : EStateM Failure σ α}
    (reading : p.messagesProcessor.outside.Reading x) : Preserves (Related R) (onWorld x) :=
  onWorld_quiet fun journal actions => reading _ (quiet.keeps journal actions).outside

/-- The parts of a load keep the relation. -/
theorem parts_quiet {p : JobProcessor σ} (quiet : Quiet p R) : p.messagesProcessor.Parts (Related R) where
  asks := reading_quiet quiet
  starts _ s kept := (quiet.keeps s.journal s.exitActions).outside.now s.world kept
  storage _ _ kept := kept
  marks _ _ kept := kept
  gauge _ kept := kept

/-- **A reload keeps the relation**, however it ends. -/
theorem reload_quiet {p : JobProcessor σ} (quiet : Quiet p R) :
    Preserves (Related R) p.messagesProcessor.reloadAndVerifyMessages := by
  unfold reloadAndVerifyMessages
  by_cases webhook : missing p.messagesProcessor.MESSAGES_LOCATION
  · rw [if_pos webhook]
    exact Preserves.pure
  rw [if_neg webhook]
  have forked : Preserves (Related R) p.messagesProcessor.getForkVersionInfo := by
    refine Triple.bind (reading_quiet quiet fun W keeps => keeps.getCurrentForkVersion) fun currentVersion => ?_
    refine Triple.bind (reading_quiet quiet fun W keeps => keeps.getCapellaForkVersion _) fun capella => ?_
    exact fun _ kept => kept
  refine Triple.bind forked fun forkInfo => ?_
  refine Triple.bind ?_ fun _ => note_quiet quiet rfl
  exact load_parts (parts_quiet quiet) forkInfo fun _ _ _ => note_quiet quiet rfl

end MessagesProcessor

/-! ### Jobs -/

namespace JobProcessor

open MessagesProcessor

variable {p : JobProcessor σ}

/-- The rule for a job up to its loop. -/
theorem prepare_parts {I : MessagesState σ → Prop}
    (started : Preserves I (note .jobStarted)) (reload : Preserves I p.messagesProcessor.reloadAndVerifyMessages)
    (asks : ∀ {α : Type} {x : EStateM Failure σ α}, p.messagesProcessor.outside.Reading x →
      Preserves I (MessagesProcessor.onWorld x))
    (logs : ∀ lastBlockNumber, Preserves (fun s : JobState σ => I s.messages)
      (onExitLogs (p.exitLogs.getLogs lastBlockNumber))) :
    Preserves (fun s => I s.messages) p.prepare := by
  have onMessages {α : Type} {x : MessagesProcessor.Run σ α} (keeps : Preserves I x) :
      Preserves (fun s : JobState σ => I s.messages) (JobProcessor.onMessages x) :=
    Triple.part (fun _ _ => rfl) keeps
  have reads {α : Type} {x : EStateM Failure σ α} (reading : p.messagesProcessor.outside.Reading x) :
      Preserves (fun s : JobState σ => I s.messages) (JobProcessor.onWorld x) :=
    onMessages (asks reading)
  have loads : Preserves (fun s : JobState σ => I s.messages) p.loadEvents := by
    refine Triple.bind (onMessages started) fun _ => ?_
    refine Triple.bind (onMessages reload) fun _ => ?_
    refine Triple.bind (reads fun W keeps => keeps.resolveExitBusAddress) fun _ => ?_
    refine Triple.bind (reads fun W keeps => keeps.resolveConsensusAddress) fun _ => ?_
    refine Triple.bind (reads fun W keeps => keeps.latestBlockNumber) fun lastBlockNumber => ?_
    exact Triple.bind (logs lastBlockNumber) fun eventsForEject => Preserves.pure
  refine Triple.bind loads fun loaded => ?_
  obtain ⟨lastBlockNumber, eventsForEject⟩ := loaded
  refine Triple.bind (reads fun W keeps => keeps.fetchValidatorsBatch _ _ _) fun validatorsHead => ?_
  refine Triple.bind (reads fun W keeps => keeps.fetchValidatorsBatch _ _ _) fun validatorsFinalized => ?_
  exact Preserves.pure

/-- **Up to its loop a job keeps the relation.** -/
theorem prepare_quiet (quiet : Quiet p R) : Preserves (fun s => Related R s.messages) p.prepare := by
  refine prepare_parts (note_quiet quiet rfl) (reload_quiet quiet) (reading_quiet quiet)
    fun lastBlockNumber s start => ?_
  have fetches : p.exitLogs.Fetches fun _ => True := fun _ _ _ _ _ _ _ => trivial
  have extended : ExitLogs.Extended (fun world => R world s.messages.journal s.messages.exitActions)
      (fun _ => True) s.cache ⟨s.cache, s.header, s.messages.world⟩ := ⟨start, GrownBy.refl _ _⟩
  have fetch (w : Windows.Window) :
      Preserves (fun world => R world s.messages.journal s.messages.exitActions) (p.exitLogs.fetch w) :=
    (quiet.keeps s.messages.journal s.messages.exitActions).fetch w
  have ends := ExitLogs.getLogs_extends fetch fetches lastBlockNumber _ extended
  unfold onExitLogs onPart
  dsimp only
  cases ran : p.exitLogs.getLogs lastBlockNumber ⟨s.cache, s.header, s.messages.world⟩ with
  | ok events logs => rw [ran] at ends; exact ends.1.1
  | error e logs => rw [ran] at ends; exact ends.1

/-- The end of a job keeps the relation. -/
theorem updateLeftMessages_quiet (quiet : Quiet p R) :
    Preserves (fun s => Related R s.messages) p.updateLeftMessages := by
  intro s start
  obtain ⟨world, leftMessages, ended, kept⟩ :=
    updateLeftMessages_run (quiet.keeps s.messages.journal s.messages.exitActions) s start
  have same : p.quiet.updateLeftMessages = p.updateLeftMessages := rfl
  rw [same] at ended
  rw [ended]
  exact kept

/-- What handing an event over does: it keeps the relation, and never throws. A dry run hands nothing over. -/
abbrev HandsOver (p : JobProcessor σ) (R : σ → List Occurrence → ExitActions → Prop) : Prop :=
  p.DRY_RUN = false → ∀ event, Triple (Related R) (p.handOver event) (fun _ => Related R) fun _ => False

/-- A turn of the loop keeps the relation. -/
theorem handleEvent_quiet (handsOver : p.HandsOver R) (prepared : Prepared) (event : ValidatorsToEject × Nat) :
    Preserves (fun s => Related R s.messages) (p.handleEvent prepared event) := by
  let shown (s : JobState σ) : Prop := Related R s.messages
  have pure_shown : Triple shown (pure () : Run σ Unit) (fun _ => shown) fun _ => False :=
    Triple.pure fun _ kept => kept
  have acked (place : Nat) : Triple shown (ackAt place) (fun _ => shown) fun _ => False := fun _ kept => kept
  unfold handleEvent
  cases event.1.acknowledged with
  | true => exact Preserves.pure
  | false =>
    refine Triple.tryCatch (F := fun _ => False) ?_ fun _ _ absurd => False.elim absurd
    split_ifs with exiting overdue dry
    · exact acked event.2
    · exact pure_shown
    · exact pure_shown
    · exact Triple.part (fun _ _ => rfl) (handsOver (Bool.eq_false_iff.mpr dry) event.1)

/-- **A job keeps what handing an event over keeps.** -/
theorem handleJob_quiet (quiet : Quiet p R) (handsOver : p.HandsOver R) :
    Preserves (fun s => Related R s.messages) p.handleJob := by
  refine Triple.bind (prepare_quiet quiet) fun prepared => ?_
  have loop : Preserves (fun s => Related R s.messages) (p.handleEvents prepared) :=
    Triple.forM (handleEvent_quiet handsOver prepared) _
  exact Triple.bind loop fun _ => updateLeftMessages_quiet quiet

/-- **A run keeps it.** -/
theorem run_quiet (quiet : Quiet p R) (handsOver : p.HandsOver R) {world : σ} (start : R world [] ⟨0, 0⟩) :
    ∀ jobs, Related R (p.run world jobs).messages
  | 0 => start
  | jobs + 1 => Preserves.stateAfter (handleJob_quiet quiet handsOver) (run_quiet quiet handsOver start jobs)

end JobProcessor

end Quiet

end ValidatorEjector
