/-
**On whose authority an app sends, and which credentials it shows.**

The execution nodes are not trusted: what they answer counts only as far as it is signed, or has a hash that the
configuration names.

* `Authorised` — an oracle of the allowlist has signed for the exit of a key, or an allowed transaction asks
  for it.
* `fetch_authorised` — unless they are taken on trust, all events that are fetched are of such keys.
* `ActsFor` — a call carries out an event.
* **`run_authorised`** — whatever a run sends beyond its reads acts for an event of an authorised key.
* `Shows`, **`run_credentials`** — which headers the calls of a run carry, and to whom.
-/

import ValidatorEjector.App.Posts
import ValidatorEjector.ExitLogs.Binding
import ValidatorEjector.Job.Events

namespace ValidatorEjector

open Js Library Library.Program Library.Windows Request

namespace App

variable {ν : Type} (app : App ν)

/-! ### Authority -/

/-- **A trusted party asks for the exit of a key.** The contracts a transaction may go through are those that
some state of the nodes has resolved. -/
inductive Authorised (validatorPubkey : String) : Prop
  /-- An oracle of the allowlist has signed a transaction that submits the hash of a report which mentions the
  key. -/
  | oracle {node : Node ν} {report : Report} {T : Tx}
      {hash : String} : MentionsPubkey report.data validatorPubkey →
      T.HashesTo app.ethers hash → (app.fetcher node).verifier.SignedByOracle T →
      (app.fetcher node).verifier.CallsSubmitReport T.input (app.ethers.keccak256 (app.ethers.encode report)) →
      Authorised validatorPubkey
  /-- A transaction of the other allowlist, told by its hash, submits requests that mention the key. -/
  | allowlist {node : Node ν} {request : ExitRequestsData} {T : Tx} {hash call : String} :
      MentionsPubkey request.data validatorPubkey → toLowerCase hash ∈ app.config.SUBMIT_TX_HASH_ALLOWLIST →
      T.HashesTo app.ethers hash → (app.fetcher node).verifier.CallsExitBus T.input call →
      app.ethers.decodeSubmitExitRequestsData call = .ok request → Authorised validatorPubkey

variable {app}

/-- A key that passes the verification is authorised, whatever the caches and the nodes are. -/
theorem authorised_of_verifyEvent {node : Node ν} {validatorPubkey transactionHash : String} {toBlock : JsNumber}
    {s s' : (app.fetcher node).verifier.State}
    (resolved : (app.fetcher node).verifier.verifyEvent validatorPubkey transactionHash toBlock s = .ok () s') :
    app.Authorised validatorPubkey := by
  obtain ⟨tx, s₁, call, loaded, exitBus, ⟨-, report, -, accepted⟩ | ⟨-, -, accepted⟩⟩ :=
    Verifier.verifyEvent_ok.mp resolved
  · obtain ⟨mentions, originTxHash, s₂, originTx, -, -, intact, calls, signed⟩ :=
      Verifier.verifyOracleEvent_ok.mp accepted
    exact .oracle mentions intact signed calls
  · obtain ⟨allowed, intact, request, decodes, mentions⟩ :=
      Verifier.verifySubmitExitRequestsDataTransaction_ok.mp accepted
    exact .allowlist mentions allowed intact exitBus decodes

/-- **Events that are not taken on trust are of authorised keys.** -/
theorem fetch_authorised (untrusted : app.config.TRUST_MODE = false) :
    app.exitLogs.Fetches fun event => app.Authorised event.validatorPubkey := by
  intro w world fetched world' ran validator member
  obtain ⟨events, s₁, -, looped⟩ := bind_ok.mp ran
  obtain ⟨event, -, t, here, t', turn, inside⟩ := mem_collect looped member
  rcases (Fetcher.verifyTurn_ok untrusted).mp turn with ⟨s₂, pushed, accepted, made, rfl, -⟩ | ⟨-, -, -, rfl, -⟩
  · obtain ⟨-, pubkey, -⟩ := Fetcher.toEject_ok made
    obtain ⟨_, s₃, resolved⟩ := Fetcher.resolves_verify.mp (resolves_of_ok accepted)
    rw [List.mem_singleton.mp inside]
    show app.Authorised pushed.validatorPubkey
    rw [pubkey]
    exact authorised_of_verifyEvent resolved
  · cases inside

/-- Every event that a run hands over is of an authorised key. -/
theorem handed_authorised (untrusted : app.config.TRUST_MODE = false) (network : ν) (jobs : Nat) :
    ∀ event, .handed event ∈ app.journal network jobs → app.Authorised event.validatorPubkey := by
  intro event noted
  unfold journal at noted
  rcases app.run_cases network jobs with ⟨world, -, same⟩ | ⟨error, world, -, same⟩
  · rw [same] at noted
    have within := JobProcessor.run_within (p := app.jobProcessor) (fetch_authorised untrusted)
      (fun _ authorised => authorised) world jobs
    exact within.handed event (List.mem_filterMap.mpr ⟨_, noted, rfl⟩)
  · rw [same] at noted
    cases noted

variable (app)

/-- **A call carries out an event**: it posts an exit of its validator to a consensus node, or the event
itself to the webhook. -/
inductive ActsFor (event : ValidatorsToEject) (call : Call) : Prop
  | exit {message : ExitMessage} {url : String} : message.message.validator_index = event.validatorIndex →
      url ∈ app.config.CONSENSUS_NODE →
      call.request = (ConsensusClient.exitInit message).at (url ++ VOLUNTARY_EXITS) → ActsFor event call
  | hook : call.request = (app.webhookInit event).at (app.config.VALIDATOR_EXIT_WEBHOOK.getD "") →
    ActsFor event call

variable {app}

/-- Whatever a run sends beyond its reads carries out an event that it hands over. -/
theorem calls_act (network : ν) (jobs : Nat) : ∀ call ∈ app.calls network jobs,
    app.Reads call.request ∨ ∃ event, .handed event ∈ app.journal network jobs ∧ app.ActsFor event call := by
  intro call inside
  rcases (run_shows network jobs).mem call inside with
    reads | ⟨-, before, entries, after, block, succeeded, split, handles, member⟩
  · exact .inl reads
  have noted {occurrence : Occurrence} (entry : occurrence ∈ entries) :
      occurrence ∈ app.journal network jobs := by
    rw [split]
    exact List.mem_append_left after (List.mem_append_right before entry)
  cases handles with
  | missed => cases member
  | @exit event storage message _ _ messages _ carries =>
    obtain ⟨url, endpoint, sent⟩ := Carries.posts carries call member
    obtain ⟨node, configured, rfl⟩ := List.mem_map.mp endpoint
    have whole : app.journal network jobs =
        before ++ [.handed event] ++ .exitRequested event storage message :: after := by
      simp [split]
    have safe := run_safe network jobs _ event storage message after whole
    exact .inr ⟨event, noted List.mem_cons_self, .exit safe.index configured sent⟩
  | @hook event _ _ webhook carries =>
    obtain ⟨url, endpoint, sent⟩ := Carries.posts carries call member
    exact .inr ⟨event, noted List.mem_cons_self, .hook (List.mem_singleton.mp endpoint ▸ sent)⟩

/-- **Whatever a run sends has been asked for by a trusted party**, unless the execution nodes are trusted. -/
theorem run_authorised (network : ν) (jobs : Nat) : app.config.TRUST_MODE = true ∨
    (app.calls network jobs).Forall fun call => app.Reads call.request ∨ ∃ event,
      .handed event ∈ app.journal network jobs ∧ app.Authorised event.validatorPubkey ∧
        app.ActsFor event call := by
  cases untrusted : app.config.TRUST_MODE with
  | true => exact .inl rfl
  | false =>
    refine .inr (List.forall_iff_forall_mem.mpr fun call inside => ?_)
    rcases calls_act network jobs call inside with reads | ⟨event, noted, acts⟩
    · exact .inl reads
    · exact .inr ⟨event, noted, handed_authorised untrusted network jobs event noted, acts⟩

/-! ### Credentials -/

variable (app)

/-- **Who is shown a header.** A token is signed with the secret, for an execution node; what the webhook is
shown comes from its own configuration. -/
inductive Shows (url : String) : String → String → Prop
  | plain : Shows url "Content-Type" "application/json"
  | token {secretBuffer : List UInt8} {iat : Int} {token : String} : url ∈ app.config.EXECUTION_NODE →
      app.secretBuffer = some secretBuffer → app.jwtService.sign iat secretBuffer = .ok token →
      Shows url "Authorization" s!"Bearer {token}"
  | hook {name value : String} : app.config.DRY_RUN = false → missing app.config.MESSAGES_LOCATION = true →
      url = app.config.VALIDATOR_EXIT_WEBHOOK.getD "" → app.webhookHeaders.get? name = some value →
      Shows url name value

variable {app}

theorem shows_plain {url name value : String} (shown : ExecutionClient.contentType.get? name = some value) :
    app.Shows url name value := by
  unfold ExecutionClient.contentType at shown
  rw [OrderedMap.get?_set] at shown
  split_ifs at shown with same
  · cases shown
    exact same ▸ .plain
  · cases shown

/-- The headers of a call to an execution node. -/
theorem shows_headers {headers : OrderedMap String String} {url name value : String}
    (known : app.execution.Headers headers) (configured : url ∈ app.config.EXECUTION_NODE)
    (shown : headers.get? name = some value) : app.Shows url name value := by
  rcases known with rfl | ⟨-, secretBuffer, iat, token, read, signed, rfl⟩
  · exact shows_plain shown
  · unfold ExecutionClient.withToken at shown
    by_cases empty : token = ""
    · rw [empty] at shown
      exact shows_plain shown
    · rw [Option.filter_some, if_pos (by simpa using empty)] at shown
      dsimp only at shown
      rw [OrderedMap.get?_set] at shown
      split_ifs at shown with same
      · cases shown
        exact same ▸ .token configured read signed
      · exact shows_plain shown

/-- **Each header of a run is shown to those it is for**: a token to an execution node, the headers of the
webhook to the webhook, and to all others only the type of the content. -/
theorem run_credentials (network : ν) (jobs : Nat) : (app.calls network jobs).Forall fun call =>
    ∀ name value, call.request.headers.get? name = some value → app.Shows call.request.url name value := by
  refine List.forall_iff_forall_mem.mpr fun call inside name value shown => ?_
  cases calls_allowed network jobs call inside with
  | read reads =>
    rcases reads with ⟨url, configured, method, -, params, headers, known, sent⟩ | ⟨url, -, path, -, sent⟩
    · rw [sent] at shown ⊢
      exact shows_headers known configured shown
    · rw [sent] at shown
      cases shown
  | exit live messages split safe configured sent parsed =>
    rw [sent] at shown ⊢
    exact shows_plain shown
  | hook live chosen noted sent =>
    rw [sent] at shown ⊢
    exact .hook live chosen rfl shown

end App

end ValidatorEjector
