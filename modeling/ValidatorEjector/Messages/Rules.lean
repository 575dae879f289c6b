/-
**Rules for a reload.**

A load keeps what its parts keep: requests that only read, the storage, the set of bad files, the metrics, and
the entry of a verification.

* `Outside.quiet`, `Outside.Reading` — a world whose orders do nothing, and what can be asked of it.
* `Parts` — a property that the parts keep; `loadNewMessages_parts`, `verify_parts` — the two halves of a load.
* **`load_parts`** — a load keeps it.
-/

import ValidatorEjector.Messages.Frame

namespace ValidatorEjector

open Js Library Library.Program

section Rules

variable {σ α : Type}

/-- The world, with orders that do nothing. -/
def Outside.quiet (o : Outside σ) : Outside σ :=
  { o with exitRequest := fun _ => pure (), webhookRequest := fun _ _ => pure () }

/-- A computation that only reads keeps whatever the requests keep, the orders aside. -/
def Outside.Reading (o : Outside σ) (x : EStateM Failure σ α) : Prop := ∀ W, o.quiet.Keeps W → Preserves W x

namespace MessagesProcessor

/-- **The parts of a load keep the property.** -/
structure Parts (p : MessagesProcessor σ) (I : MessagesState σ → Prop) : Prop where
  asks : ∀ {α : Type} {x : EStateM Failure σ α}, p.outside.Reading x → Preserves I (onWorld x)
  starts : ∀ currentVersion, Preserves I (p.startCycle currentVersion)
  storage : ∀ {α : Type} (f : MessageStorage → α × MessageStorage), Preserves I (onStorage f)
  marks : ∀ filename, Preserves I (markInvalid filename)
  gauge : Preserves I updateExitMessages

variable {p : MessagesProcessor σ} {I : MessagesState σ → Prop}

/-- A name that is marked, and nothing that is pushed. -/
theorem Parts.marked (parts : p.Parts I) (filename : String) :
    Preserves I (markInvalid filename >>= fun _ => pure ([] : List α)) :=
  (parts.marks filename).bind fun _ => Preserves.pure

theorem loadFile_parts (parts : p.Parts I) (forkVersion : String) (messageFile : MessageFile) :
    Preserves I (p.loadFile forkVersion messageFile) := by
  unfold loadFile
  by_cases empty : messageFile.content = ""
  · rw [if_pos empty]
    exact parts.marked messageFile.filename
  · rw [if_neg empty]
    refine Triple.bind (parts.storage _) fun seen => ?_
    cases seen with
    | true => exact Preserves.pure
    | false =>
      refine Triple.bind Preserves.ofResult fun message => ?_
      cases message with
      | none => exact parts.marked messageFile.filename
      | some message => exact Preserves.pure

theorem loadNewMessages_parts (parts : p.Parts I) (forkVersion : String) :
    Preserves I (p.loadNewMessages forkVersion) := by
  unfold loadNewMessages
  by_cases webhook : missing p.MESSAGES_LOCATION
  · rw [if_pos webhook]
    exact Preserves.pure
  · rw [if_neg webhook]
    refine (parts.asks fun W keeps => keeps.readFolder _).bind fun files => ?_
    exact Preserves.collect fun messageFile _ => loadFile_parts parts forkVersion messageFile

theorem verifyMessage_parts (parts : p.Parts I) (v : Verification) (m : ExitMessageWithMetadata) :
    Preserves I (p.verifyMessage v m) := by
  unfold verifyMessage
  cases v.validatorsInfoMap.get? m.index with
  | none => exact parts.marked m.meta.filename
  | some validatorInfo =>
    dsimp only
    cases validatorInfo.isExiting with
    | true => exact Preserves.pure
    | false =>
      refine Triple.bind Preserves.ofResult fun valid => ?_
      cases valid with
      | true => exact Preserves.pure
      | false => exact parts.marked m.meta.filename

theorem verify_parts (parts : p.Parts I) {isDencun : Bool} {capellaForkVersion : String}
    (noted : ∀ v : Verification, v.isDencun = isDencun → v.capellaForkVersion = capellaForkVersion →
      Preserves I (note (.verified v))) (messages : List ExitMessageWithMetadata) :
    Preserves I (p.verify messages isDencun capellaForkVersion) := by
  unfold verify
  by_cases webhook : missing p.MESSAGES_LOCATION
  · rw [if_pos webhook]
    exact Preserves.pure
  · rw [if_neg webhook]
    refine Triple.bind (parts.asks fun W keeps => keeps.genesis) fun genesis => ?_
    refine Triple.bind (parts.asks fun W keeps => keeps.state) fun state => ?_
    refine Triple.bind (parts.asks fun W keeps => keeps.fetchValidatorsInfoBatch _ _) fun infos => ?_
    refine Triple.bind (noted _ rfl rfl) fun _ => ?_
    exact Preserves.collect fun m _ => verifyMessage_parts parts _ m

/-- **A load keeps what its parts keep**, if it keeps the entry of its verification. -/
theorem load_parts (parts : p.Parts I) (forkInfo : ForkVersionInfo)
    (noted : ∀ v : Verification, v.isDencun = forkInfo.isDencun →
      v.capellaForkVersion = forkInfo.capellaVersion →
      Preserves I (note (.verified v))) : Preserves I (p.loadToMemoryStorage forkInfo) := by
  refine Triple.bind (parts.starts _) fun _ => ?_
  refine Triple.bind (loadNewMessages_parts parts _) fun newMessages => ?_
  refine Triple.bind (verify_parts parts noted newMessages) fun verifiedNewMessages => ?_
  refine Triple.bind (parts.storage _) fun removed => ?_
  refine Triple.bind (parts.storage _) fun stats => ?_
  exact parts.gauge.bind fun _ => Preserves.pure

end MessagesProcessor

end Rules

end ValidatorEjector
