/-
**What an observer of the network sees of a run.**

Calls either read, or carry out an order: the ejector has called `exitRequest` with a message, or has passed an
event to the webhook. A run shows no others, each order at its place, and counts how it ended.

* `Reads` — the requests that only read: RPC calls of the methods that read, and `GET`s.
* `Order`, `Carries` — an order, and the block of calls it takes; `Handles` — what becomes of an event.
* `Traffic` — the calls of a journal: reads, and a block for each event that is handed over, in its place;
  with the actions that are counted.
* `Closed`, `jobs_closed` — what reads, quiet entries and blocks keep, the jobs of an app keep.
* `run_shows` — the calls of every run are those of its journal.
* **`run_gate`** — nothing is sent before the endpoints agree.
-/

import ValidatorEjector.App.Boot
import ValidatorEjector.ExitLogs.Frame
import ValidatorEjector.Job.Quiet

namespace ValidatorEjector

open Js Library Library.Program Library.Windows Request

/-- What the ejector lets others do. -/
inductive Order
  /-- The exit of a validator. -/
  | exit (message : ExitMessage)
  /-- An event, for the webhook. -/
  | hook (event : ValidatorsToEject)
  deriving DecidableEq

/-- The methods of the calls to the execution nodes. -/
def READ_METHODS : List String :=
  ["eth_chainId", "eth_syncing", "eth_getTransactionByHash", "eth_getLogs", "eth_getBlockByNumber", "eth_call"]

/-- The paths at the consensus nodes that are read. -/
def ReadPath (path : String) : Prop := path = "/eth/v1/node/syncing" ∨ ∃ request : ClRequest, path = request.path

namespace App

variable {ν : Type} (app : App ν)

/-- **The request reads** from one of the nodes. -/
def Reads (request : FetchRequest) : Prop :=
  (∃ url ∈ app.config.EXECUTION_NODE, ∃ method ∈ READ_METHODS, ∃ params,
    app.execution.Posts (jsonRpc method params) url request) ∨
  ∃ url ∈ app.config.CONSENSUS_NODE, ∃ path, ReadPath path ∧ ConsensusClient.Gets path url request

/-- **The calls an order takes**, and whether it succeeds. An exit goes to every consensus node, and one that
accepts it is enough; an event goes to the webhook. -/
def Carries : Order → List Call → Bool → Prop
  | .exit message, block, succeeded => ∃ answered, app.consensus.Broadcast message answered block ∧
    (succeeded = true ↔ Accepted answered)
  | .hook event, block, succeeded => ∃ outcome,
    Tried app.network notOk ((app.webhookInit event).at (app.config.VALIDATOR_EXIT_WEBHOOK.getD ""))
      app.webhookTries block outcome ∧ (succeeded = true ↔ ∃ res, outcome = .ok res)

/-- **What becomes of an event that is handed over**: its entries, its calls, and what is counted. The order is
the exit that the storage has for the validator; without one there is none. -/
inductive Handles : List Occurrence → List Call → Bool → Prop
  | missed {event : ValidatorsToEject} {storage : MessageStorage} :
      missing app.config.VALIDATOR_EXIT_WEBHOOK = true →
      storage.findByValidatorIndex event.validatorIndex = none →
      Handles [.handed event, .unstored event storage] [] false
  | exit {event : ValidatorsToEject} {storage : MessageStorage} {message : ExitMessage} {block : List Call}
      {succeeded : Bool} : missing app.config.VALIDATOR_EXIT_WEBHOOK = true →
      storage.findByValidatorIndex event.validatorIndex = some message →
      app.Carries (.exit message) block succeeded →
      Handles [.handed event, .exitRequested event storage message] block succeeded
  | hook {event : ValidatorsToEject} {block : List Call} {succeeded : Bool} :
      missing app.config.VALIDATOR_EXIT_WEBHOOK = false → app.Carries (.hook event) block succeeded →
      Handles [.handed event] block succeeded

/-- **The calls of a journal**: a block for each event that is handed over, in its place, and reads before,
between and after; with the actions that are counted. -/
inductive Traffic : List Call → List Occurrence → ExitActions → Prop
  | start : Traffic [] [] ⟨0, 0⟩
  | read {calls : List Call} {journal : List Occurrence} {actions : ExitActions} {call : Call} :
      Traffic calls journal actions → app.Reads call.request → Traffic (calls ++ [call]) journal actions
  | note {calls : List Call} {journal : List Occurrence} {actions : ExitActions} {occurrence : Occurrence} :
      Traffic calls journal actions → occurrence.isQuiet = true → Traffic calls (journal ++ [occurrence]) actions
  | hand {calls block : List Call} {journal entries : List Occurrence} {actions : ExitActions}
      {succeeded : Bool} :
      Traffic calls journal actions → app.config.DRY_RUN = false → app.Handles entries block succeeded →
      Traffic (calls ++ block) (journal ++ entries) (actions.inc succeeded)

variable {app}

theorem Traffic.reads {journal : List Occurrence} {actions : ExitActions} : ∀ {new calls : List Call},
    app.Traffic calls journal actions → (∀ call ∈ new, app.Reads call.request) →
    app.Traffic (calls ++ new) journal actions
  | [], calls, traffic, _ => (List.append_nil calls).symm ▸ traffic
  | call :: new, calls, traffic, all => by
    have first := traffic.read (all call List.mem_cons_self)
    have rest := first.reads fun other inside => all other (List.mem_cons_of_mem call inside)
    rwa [List.append_assoc] at rest

/-! ### Reads -/

section Reads

variable {before : List Call} {α : Type}

/-- Since then, the wire has only read. -/
abbrev OnlyReads (app : App ν) (before : List Call) (wire : Wire ν) : Prop := Added before app.Reads wire

theorem elRequest_reads {method : String} (known : method ∈ READ_METHODS) (params : List Json) :
    Preserves (app.OnlyReads before) (orFail (app.execution.elRequest (jsonRpc method params))) :=
  orFail_triple (ExecutionClient.elRequest_preserves fun url inside _ posts =>
    .inl ⟨url, inside, method, known, params, posts⟩)

theorem clRequest_reads (request : ClRequest) :
    Preserves (app.OnlyReads before) (orFail (app.consensus.clRequest request)) :=
  orFail_triple (ConsensusClient.clRequest_preserves fun url inside _ gets =>
    .inr ⟨url, inside, _, .inr ⟨request, rfl⟩, gets⟩)

/-- A property of the wire, of a state of the nodes. -/
abbrev OnlyReadsNode (app : App ν) (before : List Call) (node : Node ν) : Prop := app.OnlyReads before node.wire

theorem onWire_reads {x : EStateM Failure (Wire ν) α} (reads : Preserves (app.OnlyReads before) x) :
    Preserves (app.OnlyReadsNode before) (Node.onWire x) :=
  Triple.part (fun _ _ => rfl) reads

theorem addressAt_reads («to» : Option String) (selector : String) :
    Preserves (app.OnlyReadsNode before) (Node.onWire (app.execution.addressAt «to» selector)) := by
  refine onWire_reads (Triple.bind (elRequest_reads (by decide) _) fun json => ?_)
  refine Triple.bind Preserves.ofResult fun result => ?_
  refine Triple.bind Preserves.ofResult fun decoded => ?_
  exact Triple.bind Preserves.ofResult fun validated => Preserves.pure

theorem resolveExitBusAddress_reads :
    Preserves (app.OnlyReadsNode before) app.execution.resolveExitBusAddress := by
  refine Triple.tryCatch (Triple.bind (addressAt_reads _ _) fun address => ?_) fun _ => Preserves.throw
  exact fun _ kept => kept

theorem resolveConsensusAddress_reads :
    Preserves (app.OnlyReadsNode before) app.execution.resolveConsensusAddress := by
  have read : Preserves (app.OnlyReadsNode before) (get : EStateM Failure (Node ν) _) := fun _ kept => kept
  refine Triple.tryCatch (Triple.bind read fun s => ?_) fun _ => Preserves.throw
  refine Triple.bind (addressAt_reads _ _) fun address => ?_
  exact fun _ kept => kept

theorem latestBlockNumber_reads :
    Preserves (app.OnlyReads before) app.execution.latestBlockNumber := by
  refine Triple.bind (elRequest_reads (by decide) _) fun json => ?_
  refine Triple.bind Preserves.ofResult fun number => ?_
  exact Triple.bind Preserves.ofResult fun n => Preserves.ofResult

theorem api_reads (exitBusAddress consensusAddress : Option String) (request : ElRequest) :
    Preserves (app.OnlyReadsNode before)
      ((app.execution.api exitBusAddress consensusAddress).elRequest request) := by
  cases request with
  | eth_getTransactionByHash transactionHash => exact onWire_reads (elRequest_reads (by decide) _)
  | eth_getLogs fromBlock toBlock address topics => exact onWire_reads (elRequest_reads (by decide) _)

/-- A property of the wire, of a world. -/
abbrev OnlyReadsWorld (app : App ν) (before : List Call) (world : app.World) : Prop :=
  app.OnlyReads before world.verifier.node.wire

theorem onNode_reads {x : EStateM Failure (Node ν) α} (reads : Preserves (app.OnlyReadsNode before) x) :
    Preserves (app.OnlyReadsWorld before) (app.onNode x) :=
  Triple.part (fun _ _ => rfl) reads

theorem onNetwork_reads (x : EStateM Failure ν α) :
    Preserves (app.OnlyReadsWorld before) (app.onNetwork x) :=
  onNetwork_calls (P := fun calls => ∃ new, calls = before ++ new ∧ ∀ call ∈ new, app.Reads call.request) x

theorem fetch_reads (w : Window) : Preserves (app.OnlyReadsWorld before) (app.fetch w) := by
  intro world kept
  have fetched := Fetcher.getLogs_node (W := app.OnlyReadsNode before) (f := app.fetcher world.verifier.node)
    (fun request => api_reads _ _ request) (fun request => onWire_reads (clRequest_reads request))
  exact fetched (.int w.first) (.int w.last) app.config.EJECTOR_SCOPE world kept

/-- An operation that reads, if it makes a request. -/
def AsksRead (app : App ν) : Asking → Prop
  | .ok (init, url) => app.Reads (init.at url)
  | .error _ => True

theorem settleAll_reads {asked : List Asking} (all : ∀ asking ∈ asked, app.AsksRead asking) :
    Preserves (app.OnlyReads before) (app.settleAll asked) := by
  rintro s ⟨new, record, read⟩
  obtain ⟨answered, block, after, ran, shuffled, each⟩ := app.settleAll_wire asked s
  rw [ran]
  refine ⟨new ++ block, by rw [← List.append_assoc, ← record], fun call inside => ?_⟩
  rcases List.mem_append.mp inside with inside | inside
  · exact read call inside
  obtain ⟨calls, member, inside⟩ := shuffled.mem_iff.mp inside
  obtain ⟨pair, pair_inside, rfl⟩ := List.mem_map.mp member
  obtain ⟨asking, asked, ended⟩ := forall₂_mem each pair_inside
  have reads := all asking asked
  rcases asking with error | ⟨init, url⟩
  · rw [show pair = ([], .error error) from ended] at inside
    cases inside
  · exact (Tried.toRound ended).same call inside ▸ reads

theorem checkChainIds_reads : Preserves (app.OnlyReads before) app.checkChainIds := by
  have asked : Triple (app.OnlyReads before) (app.elAsked app.config.EXECUTION_NODE)
      (fun asked wire => app.OnlyReads before wire ∧ ∀ asking ∈ asked, app.AsksRead asking)
      (app.OnlyReads before) := by
    intro wire kept
    obtain ⟨asked, after, ran, each⟩ := app.elAsked_run app.config.EXECUTION_NODE wire
    rw [ran]
    refine ⟨kept, fun asking inside => ?_⟩
    obtain ⟨url, configured, ⟨headers, known, rfl⟩ | ⟨error, rfl⟩⟩ := forall₂_mem each inside
    · exact .inl ⟨url, configured, "eth_chainId", by decide, [], headers, known, rfl⟩
    · trivial
  have cl : ∀ asking ∈ app.clAsked, app.AsksRead asking := by
    intro asking inside
    obtain ⟨url, configured, rfl⟩ := List.mem_map.mp inside
    exact .inr ⟨url, configured, _, .inr ⟨.depositContract, rfl⟩, rfl⟩
  refine Triple.bind asked fun asked => ?_
  rintro wire ⟨kept, all⟩
  refine Triple.bind (settleAll_reads all) (fun el => ?_) wire kept
  refine Triple.bind Preserves.ofResult fun elIds => ?_
  refine Triple.bind (settleAll_reads cl) fun answered => ?_
  refine Triple.bind Preserves.ofResult fun clIds => ?_
  dsimp only
  split_ifs
  · exact Triple.bind Preserves.throw fun _ => Preserves.pure
  · exact Preserves.pure

/-- **An app only reads before its first job.** -/
theorem boot_reads : Preserves (app.OnlyReadsWorld before) app.boot := by
  have synced : Preserves (app.OnlyReads before) app.execution.checkSync :=
    ExecutionClient.checkSync_preserves fun url inside _ posts =>
      .inl ⟨url, inside, "eth_syncing", by decide, [], posts⟩
  have syncing : Preserves (app.OnlyReads before) app.consensus.checkSync :=
    ConsensusClient.checkSync_preserves fun url inside _ gets => .inr ⟨url, inside, _, .inl rfl, gets⟩
  refine Triple.bind (onNetwork_reads _) fun version => ?_
  refine Triple.bind (onNode_reads (onWire_reads (orFail_triple checkChainIds_reads))) fun chainId => ?_
  refine Triple.bind (onNode_reads (onWire_reads synced)) fun _ => ?_
  exact onNode_reads (onWire_reads syncing)

/-- **A job whose orders do nothing only reads.** -/
theorem quiet_reads (before : List Call) : app.jobProcessor.quiet.Keeps (app.OnlyReadsWorld before) where
  outside := {
    clRequest request := onNode_reads (onWire_reads (clRequest_reads request))
    now _ kept := kept
    s3Read _ := onNetwork_reads _
    gsRead _ := onNetwork_reads _
    readFilesFromFolder _ := onNetwork_reads _
    exitRequest _ := Preserves.pure
    webhookRequest _ _ := Preserves.pure
    resolveExitBusAddress := onNode_reads resolveExitBusAddress_reads
    resolveConsensusAddress := onNode_reads resolveConsensusAddress_reads
    latestBlockNumber := onNode_reads (onWire_reads latestBlockNumber_reads) }
  fetch := fetch_reads

end Reads

/-! ### Orders -/

/-- **A relation of calls, journal and counted actions that goes on**: reads, quiet entries, and events that
are handed over keep it. -/
structure Closed (app : App ν) (T : List Call → List Occurrence → ExitActions → Prop) : Prop where
  reads : ∀ {new calls : List Call} {journal : List Occurrence} {actions : ExitActions},
    T calls journal actions →
    (∀ call ∈ new, app.Reads call.request) → T (calls ++ new) journal actions
  notes : ∀ {calls : List Call} {journal : List Occurrence} {actions : ExitActions} {occurrence : Occurrence},
    T calls journal actions → occurrence.isQuiet = true → T calls (journal ++ [occurrence]) actions
  hands : ∀ {calls block : List Call} {journal entries : List Occurrence} {actions : ExitActions}
    {succeeded : Bool}, T calls journal actions → app.config.DRY_RUN = false →
    app.Handles entries block succeeded →
    T (calls ++ block) (journal ++ entries) (actions.inc succeeded)

section Orders

variable {T : List Call → List Occurrence → ExitActions → Prop} {order : Order}

/-- The relation, of a world. -/
abbrev Shown (app : App ν) (T : List Call → List Occurrence → ExitActions → Prop) (world : app.World)
    (journal : List Occurrence) (actions : ExitActions) : Prop := T (app.callsOf world) journal actions

/-- Up to its loop a job keeps such a relation. -/
theorem quiet_of (closed : app.Closed T) : Quiet app.jobProcessor (app.Shown T) := by
  have asks {α : Type} {x : EStateM Failure app.World α} {journal : List Occurrence} {actions : ExitActions}
      (only : ∀ before, Preserves (app.OnlyReadsWorld before) x) :
      Preserves (fun world => app.Shown T world journal actions) x := by
    intro world kept
    have grown {after : app.World} (added : app.OnlyReadsWorld (app.callsOf world) after) :
        app.Shown T after journal actions := by
      obtain ⟨new, record, all⟩ := added
      have same : app.callsOf after = app.callsOf world ++ new := record
      unfold Shown
      rw [same]
      exact closed.reads kept all
    have ends := only (app.callsOf world) world (Added.start _ _)
    cases ran : x world with
    | ok a after => rw [ran] at ends; exact grown ends
    | error e after => rw [ran] at ends; exact grown ends
  refine ⟨fun journal actions => ⟨?_, fun w => asks fun before => (quiet_reads before).fetch w⟩,
    fun world journal actions occurrence silent kept => closed.notes kept silent⟩
  exact {
    clRequest := fun request => asks fun before => (quiet_reads before).outside.clRequest request
    now := fun _ kept => kept
    s3Read := fun uri => asks fun before => (quiet_reads before).outside.s3Read uri
    gsRead := fun uri => asks fun before => (quiet_reads before).outside.gsRead uri
    readFilesFromFolder := fun uri => asks fun before => (quiet_reads before).outside.readFilesFromFolder uri
    exitRequest := fun _ => Preserves.pure
    webhookRequest := fun _ _ => Preserves.pure
    resolveExitBusAddress := asks fun before => (quiet_reads before).outside.resolveExitBusAddress
    resolveConsensusAddress := asks fun before => (quiet_reads before).outside.resolveConsensusAddress
    latestBlockNumber := asks fun before => (quiet_reads before).outside.latestBlockNumber }

/-- Since then, the calls of an order were made. -/
def Carried (app : App ν) (order : Order) (succeeded : Bool) (before after : List Call) : Prop :=
  ∃ block, app.Carries order block succeeded ∧ after = before ++ block

theorem exitRequest_carries (message : ExitMessage) (before : List Call) :
    Triple (fun world => app.callsOf world = before) (app.outside.exitRequest message)
      (fun _ world => app.Carried (.exit message) true before (app.callsOf world))
      (fun world => app.Carried (.exit message) false before (app.callsOf world)) := by
  have posted : Triple (fun wire => wire.calls = before) (app.consensus.exitRequest message)
      (fun _ wire => app.Carried (.exit message) true before wire.calls)
      (fun wire => app.Carried (.exit message) false before wire.calls) := by
    rintro wire rfl
    obtain ⟨answered, block, after, broadcast, record, ⟨accepted, ran⟩ | ⟨rejected, ran⟩⟩ :=
      ConsensusClient.exitRequest_wire (c := app.consensus) app.consensus_ne_nil message wire
    · replace ran : app.consensus.exitRequest message wire = .ok () after := ran
      rw [ran]
      exact ⟨block, ⟨answered, broadcast, iff_of_true rfl accepted⟩, record⟩
    · replace ran : app.consensus.exitRequest message wire = .error _ after := ran
      rw [ran]
      have none : ¬ Accepted answered := by
        rintro ⟨pair, inside, res, accepts⟩
        obtain ⟨error, rejects⟩ := rejected pair inside
        rw [accepts] at rejects
        cases rejects
      exact ⟨block, ⟨answered, broadcast, iff_of_false Bool.false_ne_true none⟩, record⟩
  exact onWire_calls (P := (· = before)) (orFail_triple posted)

theorem hookRequest_carries (event : ValidatorsToEject) (before : List Call) :
    Triple (fun world => app.callsOf world = before)
      (app.outside.webhookRequest (app.config.VALIDATOR_EXIT_WEBHOOK.getD "") event)
      (fun _ world => app.Carried (.hook event) true before (app.callsOf world))
      (fun world => app.Carried (.hook event) false before (app.callsOf world)) := by
  have posted : Triple (fun wire => wire.calls = before)
      (app.webhookRequest (app.config.VALIDATOR_EXIT_WEBHOOK.getD "") event)
      (fun _ wire => app.Carried (.hook event) true before wire.calls)
      (fun wire => app.Carried (.hook event) false before wire.calls) := by
    rintro wire rfl
    obtain ⟨block, outcome, after, ran, tried⟩ :=
      app.webhookRequest_tried (app.config.VALIDATOR_EXIT_WEBHOOK.getD "") event wire
    rw [ran]
    cases outcome with
    | ok res => exact ⟨block, ⟨_, tried, iff_of_true rfl ⟨res, rfl⟩⟩, rfl⟩
    | error error =>
      have none : ¬ ∃ res, (Except.error error : Except Thrown HttpResponse) = .ok res := by
        rintro ⟨res, same⟩
        cases same
      exact ⟨block, ⟨_, tried, iff_of_false Bool.false_ne_true none⟩, rfl⟩
  have hooked : Triple (fun wire => wire.calls = before)
      (do
        let _ ← orFail (app.webhookRequest (app.config.VALIDATOR_EXIT_WEBHOOK.getD "") event)
        pure ())
      (fun _ wire => app.Carried (.hook event) true before wire.calls)
      (fun wire => app.Carried (.hook event) false before wire.calls) :=
    Triple.bind (orFail_triple posted) fun _ => Triple.pure fun _ kept => kept
  exact onWire_calls (P := (· = before)) hooked

/-- An order is counted as it ends. -/
theorem countOutcome_run {request : EStateM Failure app.World Unit}
    (carries : ∀ before, Triple (fun world => app.callsOf world = before) request
      (fun _ world => app.Carried order true before (app.callsOf world))
      fun world => app.Carried order false before (app.callsOf world)) (s : MessagesState app.World) :
    ∃ world block succeeded, MessagesProcessor.countOutcome request s =
        .ok () { s with world, exitActions := s.exitActions.inc succeeded } ∧
      app.Carries order block succeeded ∧ app.callsOf world = app.callsOf s.world ++ block := by
  have ends := carries _ s.world rfl
  cases ran : request s.world with
  | ok a world =>
    rw [ran] at ends
    obtain ⟨block, carried, record⟩ := ends
    have asked : (MessagesProcessor.onWorld request : MessagesProcessor.Run app.World Unit) s =
        .ok a { s with world } := by
      unfold MessagesProcessor.onWorld onPart
      rw [ran]
    exact ⟨world, block, true, tryCatch_of_ok (bind_of_ok asked), carried, record⟩
  | error e world =>
    rw [ran] at ends
    obtain ⟨block, carried, record⟩ := ends
    have asked : (MessagesProcessor.onWorld request : MessagesProcessor.Run app.World Unit) s =
        .error e { s with world } := by
      unfold MessagesProcessor.onWorld onPart
      rw [ran]
    exact ⟨world, block, false, tryCatch_of_error (bind_of_error asked), carried, record⟩

/-- **What handing an event over does.** -/
theorem handOver_run (event : ValidatorsToEject) (s : MessagesState app.World) : ∃ world entries block succeeded,
    app.jobProcessor.handOver event s = .ok () { s with
      world, journal := s.journal ++ entries, exitActions := s.exitActions.inc succeeded } ∧
    app.Handles entries block succeeded ∧ app.callsOf world = app.callsOf s.world ++ block := by
  have noted (occurrence : Occurrence) (s : MessagesState app.World) :
      MessagesProcessor.note occurrence s = .ok () { s with journal := s.journal ++ [occurrence] } := rfl
  unfold JobProcessor.handOver
  rw [bind_of_ok (noted (.handed event) s)]
  cases messages : missing app.jobProcessor.VALIDATOR_EXIT_WEBHOOK with
  | true =>
    rw [if_pos rfl]
    cases found : s.messageStorage.findByValidatorIndex event.validatorIndex with
    | none =>
      refine ⟨s.world, [.handed event, .unstored event s.messageStorage], [], false, ?_,
        .missed messages found, (List.append_nil _).symm⟩
      unfold MessagesProcessor.exit
      rw [bind_of_ok (show (get : MessagesProcessor.Run app.World _) _ = .ok _ _ from rfl), found]
      dsimp only
      rw [bind_of_ok (noted _ _), List.append_assoc]
      rfl
    | some message =>
      obtain ⟨world, block, succeeded, counted, carried, record⟩ :=
        countOutcome_run (exitRequest_carries message)
        { s with journal := s.journal ++ [.handed event] ++ [.exitRequested event s.messageStorage message] }
      refine ⟨world, [.handed event, .exitRequested event s.messageStorage message], block, succeeded, ?_,
        .exit messages found carried, record⟩
      unfold MessagesProcessor.exit
      rw [bind_of_ok (show (get : MessagesProcessor.Run app.World _) _ = .ok _ _ from rfl), found]
      dsimp only
      rw [bind_of_ok (noted _ _)]
      refine counted.trans ?_
      rw [List.append_assoc]
      rfl
  | false =>
    rw [if_neg Bool.false_ne_true]
    obtain ⟨world, block, succeeded, counted, carried, record⟩ := countOutcome_run (hookRequest_carries event)
      { s with journal := s.journal ++ [.handed event] }
    exact ⟨world, [.handed event], block, succeeded, counted, .hook messages carried, record⟩

/-- **Handing an event over keeps a relation that goes on.** -/
theorem handOver_shown (closed : app.Closed T) : app.jobProcessor.HandsOver (app.Shown T) := by
  intro live event s shown
  obtain ⟨world, entries, block, succeeded, ran, handles, record⟩ := handOver_run event s
  rw [ran]
  show T (app.callsOf world) (s.journal ++ entries) (s.exitActions.inc succeeded)
  rw [record]
  exact closed.hands shown live handles

end Orders

/-! ### Runs -/

/-- **The jobs of an app keep a relation that goes on.** -/
theorem jobs_closed {T : List Call → List Occurrence → ExitActions → Prop} (closed : app.Closed T)
    {world : app.World}
    (start : T (app.callsOf world) [] ⟨0, 0⟩) (jobs : Nat) :
    Related (app.Shown T) (app.jobProcessor.run world jobs).messages :=
  JobProcessor.run_quiet (quiet_of closed) (handOver_shown closed) start jobs

/-- All calls of a boot are reads. -/
theorem boot_calls (app : App ν) (network : ν) : ∀ call ∈ app.callsOf (stateAfter app.boot (app.fresh network)),
    app.Reads call.request := by
  have boots : Preserves (app.OnlyReadsWorld []) app.boot := boot_reads
  have booted := boots (app.fresh network) (Added.start _ _)
  have read {world : app.World} (added : app.OnlyReadsWorld [] world) :
      ∀ call ∈ app.callsOf world, app.Reads call.request := by
    obtain ⟨new, record, all⟩ := added
    have same : app.callsOf world = [] ++ new := record
    rw [same]
    exact all
  cases ran : app.boot (app.fresh network) with
  | ok _ world =>
    rw [ran] at booted
    rw [stateAfter_ok ran]
    exact read booted
  | error _ world =>
    rw [ran] at booted
    rw [stateAfter_error ran]
    exact read booted

/-- A relation that goes on holds of every run, if it holds at the start. -/
theorem run_closed {T : List Call → List Occurrence → ExitActions → Prop} (closed : app.Closed T)
    (start : T [] [] ⟨0, 0⟩) (network : ν) (jobs : Nat) :
    T (app.calls network jobs) (app.journal network jobs) (app.exitActions network jobs) := by
  have read := closed.reads start (app.boot_calls network)
  unfold calls journal exitActions
  rcases app.run_cases network jobs with ⟨world, booted, same⟩ | ⟨error, world, failed, same⟩
  · rw [stateAfter_ok booted] at read
    rw [same]
    exact jobs_closed closed read jobs
  · rw [stateAfter_error failed] at read
    rw [same]
    exact read

/-- **The calls of every run are those of its journal.** -/
theorem run_shows (network : ν) (jobs : Nat) :
    app.Traffic (app.calls network jobs) (app.journal network jobs) (app.exitActions network jobs) :=
  run_closed ⟨Traffic.reads, Traffic.note, Traffic.hand⟩ .start network jobs

/-- **Nothing is sent before the endpoints agree.** A run has only read, and has not started a job; or its
first calls asked all endpoints for the ids of their chains, and they agreed. -/
theorem run_gate (network : ν) (jobs : Nat) :
    (app.journal network jobs = [] ∧ ∀ call ∈ app.calls network jobs, app.Reads call.request) ∨
    ∃ el cl n block rest, app.Agreed el cl n block ∧ app.calls network jobs = block ++ rest := by
  have read := app.boot_calls network
  unfold calls journal
  rcases app.run_cases network jobs with ⟨world, booted, same⟩ | ⟨error, world, failed, same⟩
  · obtain ⟨el, cl, n, block, rest, agreed, record⟩ := boot_agreed booted
    have grows : app.Closed fun calls _ _ => ∃ rest, calls = block ++ rest := by
      refine ⟨?_, fun grown _ => grown, ?_⟩
      · rintro new _ _ _ ⟨rest, rfl⟩ _
        exact ⟨rest ++ new, List.append_assoc _ _ _⟩
      · rintro _ more _ _ _ _ ⟨rest, rfl⟩ _ _
        exact ⟨rest ++ more, List.append_assoc _ _ _⟩
    obtain ⟨rest, grown⟩ := jobs_closed grows ⟨rest, record⟩ jobs
    rw [same]
    exact .inr ⟨el, cl, n, block, rest, agreed, grown⟩
  · rw [stateAfter_error failed] at read
    rw [same]
    exact .inl ⟨rfl, read⟩

end App

end ValidatorEjector
