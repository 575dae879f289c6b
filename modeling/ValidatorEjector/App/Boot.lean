/-
**`app/service` — an app before its first job.**

An app asks all endpoints for the ids of their chains, and both layers whether they are synced, before it
starts its jobs. The operations of the check run side by side.

* `checkChainIds` — the check of `services/consistency`, on the wire; `checker` — the same check on what the
  endpoints gave.
* `boot`, `run` — up to the first job, and some jobs after it; `calls`, `journal` — what is left of them.
* `Agreed` — the calls of a check that was passed.
* **`boot_agreed`** — an app that comes to its first job has passed the check, under every order of the answers.
-/

import ValidatorEjector.App.Module
import ValidatorEjector.Consistency

namespace ValidatorEjector

open Js Library Library.Program Request Validator

namespace Request

variable {ν : Type} {bad : HttpResponse → Thrown}

theorem rejecting_run {σ : Type} (next : Next σ HttpResponse) (config : InternalConfig) (s : σ) :
    rejecting bad config next s = match next config s with
      | .ok response s' => if response.ok then .ok response s' else .error (bad response) s'
      | .error error s' => .error error s' := by
  unfold rejecting
  rw [bind_run]
  cases next config s with
  | error error s' => rfl
  | ok response s' =>
    dsimp only
    cases response.ok with
    | true => rfl
    | false => rfl

/-- A middleware that rejects does so once. -/
theorem rejecting_twice {σ : Type} (next : Next σ HttpResponse) (config : InternalConfig) :
    rejecting bad config (fun config => rejecting bad config next) = rejecting bad config next := by
  funext s
  rw [rejecting_run, rejecting_run]
  cases next config s with
  | error error s' => rfl
  | ok response s' =>
    cases good : response.ok with
    | true => simp [good]
    | false => simp [good]

end Request

namespace App

variable {ν : Type} (app : App ν)

/-! ### The check -/

/-- The post of a call for a chain id. -/
def chainIdInit (headers : OrderedMap String String) : RequestInit :=
  { method := "POST", headers, body := some (Json.stringify JsNumber.toText (jsonRpc "eth_chainId" [])) }

/-- What `fetchElChainId` asks of the endpoints, one after the other. Where no token can be made, it has
failed. -/
def elAsked : List String → EStateM Thrown (Wire ν) (List Asking)
  | [], wire => .ok [] wire
  | url :: urls, wire =>
    match app.execution.createExecutionRequestHeaders wire with
    | .ok headers wire => ((.ok (chainIdInit headers, url) :: ·) <$> elAsked urls) wire
    | .error error wire => ((.error error :: ·) <$> elAsked urls) wire

/-- What `fetchClChainId` asks. -/
def clAsked : List Asking := app.config.CONSENSUS_NODE.map fun url =>
    .ok ({}, url ++ ClRequest.depositContract.path)

/-- The client of the execution nodes, a try at a time, with a middleware of the request. -/
def executionRetrying (own : Middleware (Wire ν) HttpResponse) :
    Machine (Operation RequestInit HttpResponse) (Wire ν) :=
  retrying 3 {} fun init => chain (fetchCall app.network init) ([logger, prom, notOkError, abort] ++ [own])

/-- What the endpoints give, all at once. -/
def settleAll (asked : List Asking) : EStateM Thrown (Wire ν) (List (Except Thrown HttpResponse)) :=
  allSettled (app.executionRetrying notOkError) (pickOn app.network) (asked.map Operation.of)

/-- The checker, for what the endpoints gave. -/
def checker (el cl : List (Except Thrown HttpResponse)) : ConsistencyChecker where
  EXECUTION_NODE := app.config.EXECUTION_NODE
  CONSENSUS_NODE := app.config.CONSENSUS_NODE
  el idx _ := el.getD idx (.error (.fetchError ""))
  cl idx _ := cl.getD idx (.error (.fetchError ""))
  hostOf := app.hostOf

/-- `checkChainIds`. -/
def checkChainIds : EStateM Thrown (Wire ν) JsNumber := do
  let asked ← app.elAsked app.config.EXECUTION_NODE
  let el ← app.settleAll asked
  let elChecker := app.checker el []
  let elIds ← ofResult (elChecker.collect "EL" elChecker.EXECUTION_NODE elChecker.fetchElChainId)
  let cl ← app.settleAll app.clAsked
  let clChecker := app.checker el cl
  let clIds ← ofResult (clChecker.collect "CL" clChecker.CONSENSUS_NODE clChecker.fetchClChainId)
  let elId := elIds.head?.getD .nan
  let clId := clIds.head?.getD .nan
  if !elId.strictEq clId then
    throw (.error "Error" s!"EL chain id ({elId.toText}) does not match CL chain id ({clId.toText})")
  pure elId

/-! ### Runs -/

/-- `getVersion`. -/
def getVersion : EStateM Failure ν String := do
  let data ← tryCatch (app.readFile "package.json") fun _ =>
    throw (Failure.error "Unable to read package.json file")
  let parsed ← match Json.parse data with
    | some parsed => pure parsed
    | none => throw (Failure.error "Unable to parse JSON in package.json")
  ofResult (obj (some parsed) (fun json => str (json.get "version"))
    (some "Invalid or no version in package.json"))

/-- An app up to its first job. -/
def boot : EStateM Failure app.World Unit := do
  let _ ← app.onNetwork app.getVersion
  let _ ← app.onWire (orFail app.checkChainIds)
  let _ ← app.onWire app.execution.checkSync
  app.onWire app.consensus.checkSync

/-- **The state of an app after some jobs.** Where it does not come to the first of them, the process has
exited. -/
def run (network : ν) (jobs : Nat) : JobState app.World :=
  match app.boot (app.fresh network) with
  | .ok _ world => app.jobProcessor.run world jobs
  | .error _ world => .fresh world

/-- All its calls. -/
def calls (network : ν) (jobs : Nat) : List Call := app.callsOf (app.run network jobs).messages.world

/-- What the ejector did. -/
def journal (network : ν) (jobs : Nat) : List Occurrence := (app.run network jobs).messages.journal

/-- What it has counted. -/
def exitActions (network : ν) (jobs : Nat) : ExitActions := (app.run network jobs).messages.exitActions

theorem run_cases (network : ν) (jobs : Nat) :
    (∃ world, app.boot (app.fresh network) = .ok () world ∧
      app.run network jobs = app.jobProcessor.run world jobs) ∨
    ∃ error world, app.boot (app.fresh network) = .error error world ∧ app.run network jobs = .fresh world := by
  unfold run
  cases booted : app.boot (app.fresh network) with
  | ok _ world => exact .inl ⟨world, rfl, rfl⟩
  | error error world => exact .inr ⟨error, world, rfl, rfl⟩

/-! ### The check on the wire -/

/-- A token that cannot be made takes no call. -/
theorem elAsked_run : ∀ (urls : List String) (wire : Wire ν), ∃ asked after,
    app.elAsked urls wire = .ok asked ⟨after, wire.calls⟩ ∧
    List.Forall₂ (fun url asking => (∃ headers, app.execution.Headers headers ∧
      asking = .ok (chainIdInit headers, url)) ∨ ∃ error, asking = .error error) urls asked
  | [], wire => ⟨[], wire.network, rfl, .nil⟩
  | url :: urls, wire => by
    obtain ⟨after, made⟩ := ExecutionClient.headers_run (c := app.execution) wire
    obtain ⟨asked, after', ran, each⟩ := elAsked_run urls ⟨after, wire.calls⟩
    have mapped (asking : Asking) : ((asking :: ·) <$> app.elAsked urls) ⟨after, wire.calls⟩ =
        .ok (asking :: asked) ⟨after', wire.calls⟩ := by
      show (EStateM.map _ _) _ = _
      unfold EStateM.map
      rw [ran]
    unfold elAsked
    rcases made with ⟨headers, known, made⟩ | ⟨message, failed⟩
    · rw [made]
      exact ⟨_, after', mapped _, .cons (.inl ⟨headers, known, rfl⟩) each⟩
    · rw [failed]
      exact ⟨_, after', mapped _, .cons (.inr ⟨_, rfl⟩) each⟩

/-- **What the endpoints give, all at once**: each as it would on its own. -/
theorem settleAll_wire (asked : List Asking) (s : Wire ν) : ∃ (answered : Answered) (block : List Call)
    (after : ν),
    app.settleAll asked s = .ok (answered.map Prod.snd) ⟨after, s.calls ++ block⟩ ∧
    Interleaved (answered.map Prod.fst) block ∧ List.Forall₂ (Ended app.network notOk 3) asked answered := by
  have once : app.executionRetrying notOkError =
      retrying 3 {} fun init config => rejecting notOk config (fetchCall app.network init) := by
    have each (init : RequestInit) :
        chain (fetchCall app.network init) ([logger, prom, notOkError, abort] ++ [notOkError]) =
          fun config => rejecting notOk config (fetchCall app.network init) :=
      funext fun config => rejecting_twice (fetchCall app.network init) config
    unfold executionRetrying
    rw [funext each]
  unfold settleAll
  rw [once]
  exact allSettled_wire app.network notOk (show 0 < 3 by decide) asked s

/-- **The calls of a check that was passed**: every execution node was asked for its chain id, then every
consensus node for its deposit contract, side by side and each as often as it takes, and the last answers of
all start with numerals that have one nearest double. -/
structure Agreed (el cl : Answered) (n : JsNumber) (calls : List Call) : Prop where
  elTried : List.Forall₂ (fun url pair => ∃ headers, app.execution.Headers headers ∧
    Tried app.network notOk ((chainIdInit headers).at url) 3 pair.1 pair.2) app.config.EXECUTION_NODE el
  clTried : List.Forall₂ (fun url pair =>
    Tried app.network notOk ⟨url ++ ClRequest.depositContract.path, "GET", .empty, none⟩ 3 pair.1 pair.2)
    app.config.CONSENSUS_NODE cl
  record : ∃ elBlock clBlock, Interleaved (el.map Prod.fst) elBlock ∧ Interleaved (cl.map Prod.fst) clBlock ∧
    calls = elBlock ++ clBlock
  alike : (app.checker (el.map Prod.snd) (cl.map Prod.snd)).Alike n

variable {app}

/-- An id that is fetched is of a response. -/
theorem fetchElChainId_response {el cl : List (Except Thrown HttpResponse)} {i : Nat} {url : String}
    {n : JsNumber}
    (fetched : (app.checker el cl).fetchElChainId url i () = .ok n ()) : ∃ res, el[i]? = some (.ok res) := by
  obtain ⟨text, ⟨res, _, _, answered, _⟩, -⟩ := fetchChainId_ok.mp fetched
  replace answered : el.getD i (.error (.fetchError "")) = .ok res := answered
  rw [List.getD_eq_getElem?_getD] at answered
  cases found : el[i]? with
  | none =>
    rw [found] at answered
    cases answered
  | some outcome =>
    rw [found] at answered
    exact ⟨res, congrArg some answered⟩

/-- **A check that resolves was passed.** -/
theorem checkChainIds_passed {n : JsNumber} {s s' : Wire ν} (ran : app.checkChainIds s = .ok n s') :
    ∃ el cl block, app.Agreed el cl n block ∧ s'.calls = s.calls ++ block := by
  unfold checkChainIds at ran
  obtain ⟨asked, s₁, first, ran⟩ := bind_ok.mp ran
  obtain ⟨elOutcomes, s₂, second, ran⟩ := bind_ok.mp ran
  obtain ⟨elIds, s₃, third, ran⟩ := bind_ok.mp ran
  obtain ⟨clOutcomes, s₄, fourth, ran⟩ := bind_ok.mp ran
  obtain ⟨clIds, s₅, fifth, ran⟩ := bind_ok.mp ran
  obtain ⟨asked', after, made, each⟩ := app.elAsked_run app.config.EXECUTION_NODE s
  cases first.symm.trans made
  obtain ⟨el, elBlock, after', elRan, elShuffled, elEnded⟩ := app.settleAll_wire asked ⟨after, s.calls⟩
  cases second.symm.trans elRan
  obtain ⟨elCollected, rfl⟩ := ofResult_ok.mp third
  obtain ⟨cl, clBlock, after'', clRan, clShuffled, clEnded⟩ :=
    app.settleAll_wire app.clAsked ⟨after', s.calls ++ elBlock⟩
  cases fourth.symm.trans clRan
  obtain ⟨clCollected, rfl⟩ := ofResult_ok.mp fifth
  let checker := app.checker (el.map Prod.snd) (cl.map Prod.snd)
  have checked : checker.checkChainIds = .ok n ∧ s' = ⟨after'', s.calls ++ elBlock ++ clBlock⟩ := by
    have elKnown : checker.collect "EL" checker.EXECUTION_NODE checker.fetchElChainId = .ok elIds := elCollected
    have clKnown : checker.collect "CL" checker.CONSENSUS_NODE checker.fetchClChainId = .ok clIds := clCollected
    unfold ConsistencyChecker.checkChainIds
    rw [elKnown, clKnown]
    dsimp only at ran
    split_ifs at ran with differ
    · cases ran
    · cases ran
      exact ⟨if_neg differ, rfl⟩
  obtain ⟨known, rfl⟩ := checked
  have alike :=
    (ConsistencyChecker.checkChainIds_alike (c := checker) app.execution_ne_nil app.consensus_ne_nil).mp known
  have fetched := (ConsistencyChecker.checkChainIds_ok.mp known).2.2.2.1
  refine ⟨el, cl, elBlock ++ clBlock, ⟨?_, ?_, ⟨elBlock, clBlock, elShuffled, clShuffled, rfl⟩, alike⟩,
    (List.append_assoc _ _ _)⟩
  · -- an endpoint that has answered was asked
    refine forall₂_trans each elEnded fun i url asking pair url_i asking_i pair_i made ended => ?_
    obtain ⟨res, answered⟩ := fetchElChainId_response (fetched i url url_i)
    rcases made with ⟨headers, known, rfl⟩ | ⟨error, rfl⟩
    · exact ⟨headers, known, ended⟩
    · rw [List.getElem?_map, pair_i, show pair = ([], .error error) from ended] at answered
      cases answered
  · have ended := clEnded
    unfold clAsked at ended
    rw [List.forall₂_map_left_iff] at ended
    exact ended

/-- **An app that comes to its first job has passed the check**: the first calls it made are those of the
check. -/
theorem boot_agreed {network : ν} {world : app.World} (booted : app.boot (app.fresh network) = .ok () world) :
    ∃ el cl n block rest, app.Agreed el cl n block ∧ app.callsOf world = block ++ rest := by
  let passed (calls : List Call) : Prop := ∃ el cl n block rest, app.Agreed el cl n block ∧ calls = block ++ rest
  have checked : Triple (fun wire => wire.calls = []) (orFail app.checkChainIds)
      (fun _ wire => passed wire.calls)
      fun _ => True := by
    refine orFail_triple fun wire none => ?_
    cases ran : app.checkChainIds wire with
    | error _ _ => trivial
    | ok n after =>
      obtain ⟨el, cl, block, agreed, record⟩ := checkChainIds_passed ran
      rw [none, List.nil_append] at record
      exact ⟨el, cl, n, block, [], agreed, by rw [record, List.append_nil]⟩
  -- what comes after the check only adds calls
  have goes_on {α : Type} {x : EStateM Failure (Wire ν) α}
      (adds : ∀ before, Preserves (Added before fun _ => True) x) :
      Triple (fun wire => passed wire.calls) x (fun _ wire => passed wire.calls) fun _ => True := by
    rintro wire ⟨el, cl, n, block, rest, agreed, record⟩
    have ends := adds wire.calls wire (Added.start _ _)
    cases ran : x wire with
    | error _ _ => trivial
    | ok a after =>
      rw [ran] at ends
      obtain ⟨new, grown, -⟩ := ends
      exact ⟨el, cl, n, block, rest ++ new, agreed, by rw [grown, record, List.append_assoc]⟩
  have synced (before : List Call) : Preserves (Added before fun _ => True) app.execution.checkSync :=
    ExecutionClient.checkSync_preserves fun _ _ _ _ => trivial
  have syncing (before : List Call) : Preserves (Added before fun _ => True) app.consensus.checkSync :=
    ConsensusClient.checkSync_preserves fun _ _ _ _ => trivial
  have version : Triple (fun world => app.callsOf world = []) (app.onNetwork app.getVersion)
      (fun _ world => app.callsOf world = []) fun _ => True :=
    (onNetwork_calls (P := (· = [])) app.getVersion).weaken (fun _ none => none) (fun _ _ none => none)
      fun _ _ => trivial
  have boots : Triple (fun world => app.callsOf world = []) app.boot (fun _ world => passed (app.callsOf world))
      fun _ => True := by
    refine Triple.bind version fun _ => ?_
    refine Triple.bind (onWire_calls (P := (· = [])) (Q := fun _ => passed) (E := fun _ => True) checked)
      fun _ => ?_
    refine Triple.bind (onWire_calls (P := passed) (Q := fun _ => passed) (E := fun _ => True) (goes_on synced))
      fun _ => ?_
    exact onWire_calls (P := passed) (Q := fun _ => passed) (E := fun _ => True) (goes_on syncing)
  have ends := boots (app.fresh network) rfl
  rw [booted] at ends
  exact ends

end App

end ValidatorEjector
