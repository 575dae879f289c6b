/-
**What the message side leaves alone.**

* `Outside.Keeps` — a property of the world that no request changes.
* `Untouched` — such a property, the counter of exits and the events handed over; `reload_untouched` — a
  reload keeps all three, however it ends.
-/

import ValidatorEjector.Messages.Processor

namespace ValidatorEjector

open Js Library Library.Program

/-- No request of a job changes a property of the world. -/
structure Outside.Keeps {σ : Type} (o : Outside σ) (W : σ → Prop) : Prop where
  clRequest : ∀ request, Preserves W (o.cl.clRequest request)
  now : ∀ world, W world → W (o.now world).2
  s3Read : ∀ uri, Preserves W (o.s3Read uri)
  gsRead : ∀ uri, Preserves W (o.gsRead uri)
  readFilesFromFolder : ∀ uri, Preserves W (o.readFilesFromFolder uri)
  exitRequest : ∀ message, Preserves W (o.exitRequest message)
  webhookRequest : ∀ url event, Preserves W (o.webhookRequest url event)
  resolveExitBusAddress : Preserves W o.resolveExitBusAddress
  resolveConsensusAddress : Preserves W o.resolveConsensusAddress
  latestBlockNumber : Preserves W o.latestBlockNumber

section World

variable {σ α : Type} {W : σ → Prop} {o : Outside σ}

theorem Preserves.thenResult {x : EStateM Failure σ Json} {f : Json → Except Failure α}
    (keeps : Preserves W x) : Preserves W (x >>= fun json => ofResult (f json)) :=
  keeps.bind fun _ => Preserves.ofResult

theorem Outside.keeps_true (o : Outside σ) : o.Keeps fun _ => True := by
  have free {α : Type} (x : EStateM Failure σ α) : Preserves (fun _ => True) x := by
    intro s _
    cases x s with
    | ok _ _ => trivial
    | error _ _ => trivial
  exact ⟨fun _ => free _, fun _ _ => trivial, fun _ => free _, fun _ => free _, fun _ => free _,
    fun _ => free _, fun _ _ => free _, free _, free _, free _⟩

namespace Outside.Keeps

theorem fetchValidatorsBatch (keeps : o.Keeps W) (indices : List String) (batchSize : ℕ+)
    (tag : String) : Preserves W (o.cl.fetchValidatorsBatch indices batchSize tag) :=
  Preserves.collect fun batch _ => Preserves.thenResult (keeps.clRequest (.validators tag batch))

theorem fetchValidatorsInfoBatch (keeps : o.Keeps W) (indices : List String) (batchSize : ℕ+) :
    Preserves W (o.cl.fetchValidatorsInfoBatch indices batchSize) :=
  (keeps.fetchValidatorsBatch indices batchSize "head").bind fun _ => Preserves.pure

theorem getExitingValidatorsCount (keeps : o.Keeps W) (indices : List String) (batchSize : ℕ+) :
    Preserves W (o.cl.getExitingValidatorsCount indices batchSize) :=
  (keeps.fetchValidatorsBatch indices batchSize "head").bind fun _ => Preserves.pure

theorem genesis (keeps : o.Keeps W) : Preserves W o.cl.genesis :=
  Preserves.thenResult (keeps.clRequest .genesis)

theorem state (keeps : o.Keeps W) : Preserves W o.cl.state :=
  Preserves.thenResult (keeps.clRequest .fork)

theorem readFolder (keeps : o.Keeps W) (uri : String) : Preserves W (o.readFolder uri) := by
  unfold Outside.readFolder
  by_cases s3 : "s3://".toList <+: uri.toList
  · rw [if_pos s3]
    exact keeps.s3Read uri
  · rw [if_neg s3]
    by_cases gs : "gs://".toList <+: uri.toList
    · rw [if_pos gs]
      exact keeps.gsRead uri
    · rw [if_neg gs]
      exact keeps.readFilesFromFolder uri

theorem getCapellaForkVersion (keeps : o.Keeps W) (f : ForkVersionResolver) :
    Preserves W (f.getCapellaForkVersion o.cl) := by
  have chainId : Preserves W o.cl.chainId :=
    (Preserves.thenResult (keeps.clRequest .depositContract)).bind fun _ => Preserves.pure
  refine chainId.bind fun chainId => ?_
  cases f.CAPELLA_FORK_VERSION.or (CAPELLA_FORK_VERSIONS chainId) with
  | none => exact Preserves.throw
  | some version =>
    dsimp only
    by_cases empty : version = ""
    · rw [if_pos empty]
      exact Preserves.throw
    · rw [if_neg empty]
      by_cases unprefixed : ¬ "0x".toList <+: version.toList
      · rw [if_pos unprefixed]
        exact Preserves.throw
      · rw [if_neg unprefixed]
        exact Preserves.pure

theorem getCurrentForkVersion (keeps : o.Keeps W) :
    Preserves W (ForkVersionResolver.getCurrentForkVersion o.cl) :=
  keeps.state.bind fun _ => Preserves.pure

end Outside.Keeps

end World

/-! ### Reloads -/

/-- The events handed over, in order. -/
def handedEvents (journal : List Occurrence) : List ValidatorsToEject :=
  journal.filterMap fun
    | .handed event => some event
    | _ => none

/-- All actions counted. -/
def ExitActions.total (actions : ExitActions) : Nat := actions.success + actions.error

/-- What a reload leaves alone. -/
structure Untouched {σ : Type} (W : σ → Prop) (actions : ExitActions)
    (handed : List ValidatorsToEject) (s : MessagesState σ) : Prop where
  world : W s.world
  exitActions : s.exitActions = actions
  journal : handedEvents s.journal = handed

namespace MessagesProcessor

section Reload

variable {σ α : Type} {p : MessagesProcessor σ} {W : σ → Prop} {actions : ExitActions}
  {handed : List ValidatorsToEject}

theorem onWorld_untouched {x : EStateM Failure σ α} (keeps : Preserves W x) :
    Preserves (Untouched W actions handed) (onWorld x) :=
  Triple.onPart keeps (fun _ kept => kept.world)
    (fun _ _ _ kept world => ⟨world, kept.exitActions, kept.journal⟩)
    fun _ _ kept world => ⟨world, kept.exitActions, kept.journal⟩

theorem onStorage_untouched (f : MessageStorage → α × MessageStorage) :
    Preserves (Untouched W actions handed) (onStorage f) :=
  fun _ kept => ⟨kept.world, kept.exitActions, kept.journal⟩

theorem markInvalid_untouched (filename : String) :
    Preserves (Untouched W actions handed) (markInvalid filename) :=
  fun _ kept => ⟨kept.world, kept.exitActions, kept.journal⟩

/-- An entry that hands nothing over. -/
theorem note_untouched {occurrence : Occurrence} (quiet : handedEvents [occurrence] = []) :
    Preserves (Untouched W actions handed) (note occurrence) := by
  refine fun s kept => ⟨kept.world, kept.exitActions, ?_⟩
  show handedEvents (s.journal ++ [occurrence]) = handed
  rw [handedEvents, List.filterMap_append]
  show handedEvents s.journal ++ handedEvents [occurrence] = handed
  rw [quiet, List.append_nil, kept.journal]

/-- A value that is pushed or not, and a name that is marked or not. -/
theorem marked_untouched {x : Run σ (List α)} (filename : String)
    (rest : Preserves (Untouched W actions handed) x) :
    Preserves (Untouched W actions handed) (markInvalid filename >>= fun _ => x) :=
  (markInvalid_untouched filename).bind fun _ => rest

theorem loadFile_untouched (forkVersion : String) (messageFile : MessageFile) :
    Preserves (Untouched W actions handed) (p.loadFile forkVersion messageFile) := by
  unfold loadFile
  by_cases empty : messageFile.content = ""
  · rw [if_pos empty]
    exact marked_untouched messageFile.filename Preserves.pure
  · rw [if_neg empty]
    refine Triple.bind (onStorage_untouched _) fun seen => ?_
    cases seen with
    | true => exact Preserves.pure
    | false =>
      refine Triple.bind Preserves.ofResult fun message => ?_
      cases message with
      | none => exact marked_untouched messageFile.filename Preserves.pure
      | some message => exact Preserves.pure

theorem verifyMessage_untouched (v : Verification) (m : ExitMessageWithMetadata) :
    Preserves (Untouched W actions handed) (p.verifyMessage v m) := by
  unfold verifyMessage
  cases v.validatorsInfoMap.get? m.index with
  | none => exact marked_untouched m.meta.filename Preserves.pure
  | some validatorInfo =>
    dsimp only
    cases validatorInfo.isExiting with
    | true => exact Preserves.pure
    | false =>
      refine Triple.bind Preserves.ofResult fun valid => ?_
      cases valid with
      | true => exact Preserves.pure
      | false => exact marked_untouched m.meta.filename Preserves.pure

theorem loadNewMessages_untouched (keeps : p.outside.Keeps W) (forkVersion : String) :
    Preserves (Untouched W actions handed) (p.loadNewMessages forkVersion) := by
  unfold loadNewMessages
  by_cases webhook : missing p.MESSAGES_LOCATION
  · rw [if_pos webhook]
    exact Preserves.pure
  · rw [if_neg webhook]
    exact (onWorld_untouched (keeps.readFolder _)).bind fun folder =>
      Preserves.collect fun messageFile _ => loadFile_untouched forkVersion messageFile

theorem verify_untouched (keeps : p.outside.Keeps W) (messages : List ExitMessageWithMetadata)
    (isDencun : Bool) (capellaForkVersion : String) :
    Preserves (Untouched W actions handed) (p.verify messages isDencun capellaForkVersion) := by
  unfold verify
  by_cases webhook : missing p.MESSAGES_LOCATION
  · rw [if_pos webhook]
    exact Preserves.pure
  · rw [if_neg webhook]
    refine Triple.bind (onWorld_untouched keeps.genesis) fun genesis => ?_
    refine Triple.bind (onWorld_untouched keeps.state) fun state => ?_
    refine Triple.bind (onWorld_untouched (keeps.fetchValidatorsInfoBatch _ _)) fun infos => ?_
    refine Triple.bind (note_untouched rfl) fun _ => ?_
    exact Preserves.collect fun m _ => verifyMessage_untouched _ m

theorem loadToMemoryStorage_untouched (keeps : p.outside.Keeps W) (forkInfo : ForkVersionInfo) :
    Preserves (Untouched W actions handed) (p.loadToMemoryStorage forkInfo) := by
  have start : Preserves (Untouched W actions handed) (p.startCycle forkInfo.currentVersion) :=
    fun s kept => ⟨keeps.now s.world kept.world, kept.exitActions, kept.journal⟩
  have counted : Preserves (Untouched W actions handed) (updateExitMessages : Run σ Unit) :=
    fun _ kept => ⟨kept.world, kept.exitActions, kept.journal⟩
  refine Triple.bind start fun _ => ?_
  refine Triple.bind (loadNewMessages_untouched keeps _) fun newMessages => ?_
  refine Triple.bind (verify_untouched keeps _ _ _) fun verifiedNewMessages => ?_
  refine Triple.bind (onStorage_untouched _) fun removed => ?_
  refine Triple.bind (onStorage_untouched _) fun stats => ?_
  exact Triple.bind counted fun _ => Preserves.pure

theorem getForkVersionInfo_untouched (keeps : p.outside.Keeps W) :
    Preserves (Untouched W actions handed) p.getForkVersionInfo := by
  refine Triple.bind (onWorld_untouched keeps.getCurrentForkVersion) fun currentVersion => ?_
  refine Triple.bind (onWorld_untouched (keeps.getCapellaForkVersion _)) fun capellaVersion => ?_
  have happened : Preserves (Untouched W actions handed)
      (p.isDencunHappened currentVersion capellaVersion) :=
    fun _ kept => ⟨kept.world, kept.exitActions, kept.journal⟩
  exact Triple.bind happened fun _ => Preserves.pure

/-- **A reload leaves the world's own properties, the counter of exits and the events handed over
alone**, however it ends. -/
theorem reload_untouched (keeps : p.outside.Keeps W) :
    Preserves (Untouched W actions handed) p.reloadAndVerifyMessages := by
  unfold reloadAndVerifyMessages
  by_cases webhook : missing p.MESSAGES_LOCATION
  · rw [if_pos webhook]
    exact Preserves.pure
  · rw [if_neg webhook]
    refine Triple.bind (getForkVersionInfo_untouched keeps) fun forkInfo => ?_
    refine Triple.bind (loadToMemoryStorage_untouched keeps forkInfo) fun _ => ?_
    exact note_untouched rfl

end Reload

end MessagesProcessor

end ValidatorEjector
