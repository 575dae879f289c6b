/-
**What an app sends beyond its reads.**

The bodies of RPC calls, exits and webhook events begin differently, so that on the wire a post of an order is
not taken for a read, nor for another order.

* `post`, `endpoints`, `tries` — what an order sends, where to, and how often at most; `reached` — the endpoints
  for which `fetch` takes it.
* **`run_traffic`** — the calls of every run are those of its journal, and each event that is handed over is
  counted once.
* **`run_posts`** — for each order, its post is at every such endpoint at least once, and at most as often as
  it may be tried; without an order it is not sent, nor where `fetch` refuses it.
* `Allowed`, **`run_orders`** — whatever a run sends reads, or is the post of a safe exit, or of an event that
  was due; in which mode.
-/

import ValidatorEjector.App.Traffic

namespace ValidatorEjector

open Js Library Library.Program Request

/-! ### Bodies -/

/-- The first character of the first key of a body. -/
def initial (request : FetchRequest) : Option Char := request.body.bind fun body => body.toList[2]?

theorem print_initial {numeral : JsNumber → String} {key : String} {c : Char} {cs : List Char}
    (letters : key.toList = c :: cs) (plain : Json.escapeChar c = [c]) (json : Json)
    (members : List (String × Json)) :
    (Json.stringify numeral (.object ((key, json) :: members))).toList[2]? = some c := by
  unfold Json.stringify
  rw [String.toList_ofList, Json.print, Json.quote, letters, Json.escape, List.flatMap_cons, plain]
  rfl

namespace Request

theorem RequestInit.at_inj {init other : RequestInit} {url url' : String} :
    init.at url = other.at url' ↔ init = other ∧ url = url' := by
  obtain ⟨method, headers, body⟩ := init
  obtain ⟨method', headers', body'⟩ := other
  unfold RequestInit.at
  rw [FetchRequest.mk.injEq, RequestInit.mk.injEq]
  tauto

/-- The calls of a round are of its request. -/
theorem Round.count {ν : Type} {network : Network ν} {request : FetchRequest} {most : Nat} {calls : List Call}
    (round : Round network request most calls) (other : FetchRequest) :
    calls.countP (fun call => call.request = other) = if request = other then calls.length else 0 := by
  by_cases same : request = other
  · rw [if_pos same, List.countP_eq_length]
    exact fun call inside => decide_eq_true ((round.same call inside).trans same)
  · rw [if_neg same, List.countP_eq_zero]
    intro call inside
    rw [decide_eq_true_eq, round.same call inside]
    exact same

/-- How often a request is due at some endpoints: never where `fetch` refuses it. -/
def due {ν : Type} (network : Network ν) (request : FetchRequest) (requests : List FetchRequest) : Nat :=
  if network.refuses request = none then requests.count request else 0

/-- Rounds at endpoints send a request at least as often as it is due, and at most as often as they may. -/
theorem count_rounds {ν : Type} {network : Network ν} {most : Nat} (other : FetchRequest) :
    ∀ {requests : List FetchRequest} {rounds : List (List Call)},
      List.Forall₂ (fun request round => Round network request most round) requests rounds →
      due network other requests ≤ rounds.flatten.countP (fun call => call.request = other) ∧
      rounds.flatten.countP (fun call => call.request = other) ≤ most * due network other requests
  | [], _, .nil => by simp [due]
  | request :: requests, round :: rounds, .cons here rest => by
    obtain ⟨least, limit⟩ := count_rounds other rest
    have some_call := here.least
    have few_calls := here.limit
    unfold due at least limit ⊢
    rw [List.flatten_cons, List.countP_append, here.count, List.count_cons]
    by_cases same : request = other
    · rw [if_pos same, if_pos (beq_iff_eq.mpr same)]
      rw [same] at some_call
      by_cases accepted : network.refuses other = none
      · have called := some_call.mpr accepted
        rw [if_pos accepted] at least limit ⊢
        rw [Nat.mul_add]
        omega
      · have none_called := mt some_call.mp accepted
        rw [if_neg accepted] at least limit ⊢
        omega
    · rw [if_neg same, if_neg (mt beq_iff_eq.mp same), Nat.add_zero]
      omega

end Request

namespace App

variable {ν : Type} (app : App ν)

/-- The order of an entry. -/
def order? : Occurrence → Option Order
  | .exitRequested _ _ message => some (.exit message)
  | .handed event => if missing app.config.VALIDATOR_EXIT_WEBHOOK then none else some (.hook event)
  | _ => none

/-- The orders of a journal. -/
def orders (journal : List Occurrence) : List Order := journal.filterMap app.order?

/-- What an order sends. -/
def post : Order → RequestInit
  | .exit message => ConsensusClient.exitInit message
  | .hook event => app.webhookInit event

/-- Where it is sent. -/
def endpoints : Order → List String
  | .exit _ => app.config.CONSENSUS_NODE.map (· ++ VOLUNTARY_EXITS)
  | .hook _ => [app.config.VALIDATOR_EXIT_WEBHOOK.getD ""]

/-- How many of its endpoints are at a URL, if `fetch` takes its post for it. -/
def reached (order : Order) (url : String) : Nat :=
  if app.network.refuses ((app.post order).at url) = none then (app.endpoints order).count url else 0

/-- How often it may be sent to an endpoint. -/
def tries : Order → Nat
  | .exit _ => 3
  | .hook _ => app.webhookTries

variable {app}

theorem initial_reads {request : FetchRequest} (reads : app.Reads request) :
    initial request = some 'j' ∨ initial request = none := by
  rcases reads with ⟨url, -, method, -, params, headers, -, rfl⟩ | ⟨url, -, path, -, rfl⟩
  · have first : ∃ cs, "jsonrpc".toList = 'j' :: cs := ⟨_, rfl⟩
    exact .inl (print_initial first.choose_spec rfl _ _)
  · exact .inr rfl

theorem initial_exit (message : ExitMessage) (url : String) :
    initial ((app.post (.exit message)).at url) = some 'm' := by
  have first : ∃ cs, "message".toList = 'm' :: cs := ⟨_, rfl⟩
  exact print_initial first.choose_spec rfl _ _

theorem initial_hook (event : ValidatorsToEject) (url : String) :
    initial ((app.post (.hook event)).at url) = some 'v' := by
  have first : ∃ cs, "validatorIndex".toList = 'v' :: cs := ⟨_, rfl⟩
  exact print_initial first.choose_spec rfl _ _

/-- A post of an order is no read. -/
theorem not_reads_post (order : Order) (url : String) : ¬ app.Reads ((app.post order).at url) := by
  intro reads
  have apart := initial_reads reads
  cases order with
  | exit message =>
    rw [initial_exit] at apart
    exact absurd apart (by decide)
  | hook event =>
    rw [initial_hook] at apart
    exact absurd apart (by decide)

/-- **Exits are told apart by their posts.** -/
theorem post_exit_inj {message other : ExitMessage} :
    app.post (.exit message) = app.post (.exit other) ↔ message = other := by
  refine ⟨fun same => ?_, congrArg fun m => app.post (.exit m)⟩
  have bodies := Option.some.inj (congrArg RequestInit.body same)
  have read := (exitBody_parse message JsNumber.toText).symm.trans
    ((congrArg Json.parse bodies).trans (exitBody_parse other JsNumber.toText))
  have loaded := (exitMessageDTO_toJson message).symm.trans
    ((congrArg exitMessageDTO read).trans (exitMessageDTO_toJson other))
  exact Except.ok.inj loaded

/-- Orders of one post are of one kind. -/
theorem kind_of_post {order other : Order} (same : app.post order = app.post other) :
    app.endpoints order = app.endpoints other ∧ app.tries order = app.tries other := by
  have alike : initial ((app.post order).at "") = initial ((app.post other).at "") := by rw [same]
  cases order with
  | exit message =>
    cases other with
    | exit _ => exact ⟨rfl, rfl⟩
    | hook event =>
      rw [initial_exit, initial_hook] at alike
      exact absurd alike (by decide)
  | hook event =>
    cases other with
    | exit message =>
      rw [initial_exit, initial_hook] at alike
      exact absurd alike (by decide)
    | hook _ => exact ⟨rfl, rfl⟩

/-! ### Blocks -/

/-- **The calls of an order** are a round at each of its endpoints. -/
theorem carries_rounds {order : Order} {block : List Call} {succeeded : Bool}
    (carries : app.Carries order block succeeded) :
    ∃ rounds : List (List Call), block.Perm rounds.flatten ∧
      List.Forall₂ (fun request round => Round app.network request (app.tries order) round)
        ((app.endpoints order).map (app.post order).at) rounds := by
  cases order with
  | exit message =>
    obtain ⟨answered, broadcast, -⟩ := carries
    refine ⟨answered.map Prod.fst, broadcast.shuffled.perm, ?_⟩
    unfold endpoints
    rw [List.map_map, List.forall₂_map_left_iff, List.forall₂_map_right_iff]
    exact broadcast.tried.imp fun url pair tried => tried.toRound
  | hook event =>
    obtain ⟨outcome, tried, -⟩ := carries
    refine ⟨[block], ?_, .cons tried.toRound .nil⟩
    rw [List.flatten_cons, List.flatten_nil, List.append_nil]

/-- How often an order sends the post of another to an endpoint. -/
theorem count_carries {order : Order} {block : List Call} {succeeded : Bool}
    (carries : app.Carries order block succeeded) (other : Order) (url : String) :
    (if app.post order = app.post other then app.reached other url else 0) ≤
      block.countP (fun call => call.request = (app.post other).at url) ∧
    block.countP (fun call => call.request = (app.post other).at url) ≤
      app.tries other * if app.post order = app.post other then app.reached other url else 0 := by
  obtain ⟨rounds, shuffled, each⟩ := carries_rounds carries
  have bounds := count_rounds ((app.post other).at url) each
  rw [← shuffled.countP_eq] at bounds
  by_cases same : app.post order = app.post other
  · obtain ⟨endpoints, tries⟩ := kind_of_post same
    have injective : Function.Injective (app.post other).at := fun _ _ equal => (RequestInit.at_inj.mp equal).2
    have owed : due app.network ((app.post other).at url) ((app.endpoints order).map (app.post order).at) =
        app.reached other url := by
      unfold due reached
      rw [same, endpoints, List.count_map_of_injective _ _ injective]
    rw [owed, tries] at bounds
    rwa [if_pos same]
  · have absent :
        due app.network ((app.post other).at url) ((app.endpoints order).map (app.post order).at) = 0 := by
      have elsewhere : ((app.endpoints order).map (app.post order).at).count ((app.post other).at url) = 0 := by
        refine List.count_eq_zero.mpr fun inside => ?_
        obtain ⟨_, -, equal⟩ := List.mem_map.mp inside
        exact same (RequestInit.at_inj.mp equal).1
      unfold due
      rw [elsewhere, ite_self]
    rw [absent] at bounds
    rwa [if_neg same]

/-! ### Counts -/

theorem orders_append (journal entries : List Occurrence) :
    app.orders (journal ++ entries) = app.orders journal ++ app.orders entries := List.filterMap_append

/-- A quiet entry has no order. -/
theorem orders_quiet {occurrence : Occurrence} (silent : occurrence.isQuiet = true) :
    app.orders [occurrence] = [] := by
  cases occurrence with
  | handed _ => cases silent
  | exitRequested _ _ _ => cases silent
  | _ => rfl

/-- **An event that is handed over has one order, or none.** -/
theorem Handles.orders {entries : List Occurrence} {block : List Call} {succeeded : Bool}
    (handles : app.Handles entries block succeeded) :
    (app.orders entries = [] ∧ block = [] ∧ succeeded = false) ∨
    ∃ order, app.orders entries = [order] ∧ app.Carries order block succeeded := by
  cases handles with
  | @missed event _ messages =>
    have silent : app.order? (.handed event) = none := if_pos messages
    exact .inl ⟨List.filterMap_cons_none silent, rfl, rfl⟩
  | @exit event _ message _ _ messages _ carries =>
    have silent : app.order? (.handed event) = none := if_pos messages
    exact .inr ⟨.exit message, List.filterMap_cons_none silent, carries⟩
  | @hook event _ _ webhook carries =>
    have ordered : app.order? (.handed event) = some (.hook event) := if_neg (Bool.eq_false_iff.mp webhook)
    exact .inr ⟨.hook event, List.filterMap_cons_some ordered, carries⟩

variable (app)

/-- How many orders of a journal have the post of this one. -/
def ordered (order : Order) (journal : List Occurrence) : Nat :=
  (app.orders journal).countP fun other => app.post other = app.post order

/-- How many calls send the post of an order to a URL. -/
def posted (order : Order) (url : String) (calls : List Call) : Nat :=
  calls.countP fun call => call.request = (app.post order).at url

variable {app}

theorem Traffic.counts {calls : List Call} {journal : List Occurrence} {actions : ExitActions}
    (traffic : app.Traffic calls journal actions) (order : Order) (url : String) :
    app.ordered order journal * app.reached order url ≤ app.posted order url calls ∧
    app.posted order url calls ≤ app.tries order * (app.ordered order journal * app.reached order url) := by
  induction traffic with
  | start => simp [ordered, posted, App.orders]
  | @read calls journal actions call _ reads ih =>
    have other : ¬ call.request = (app.post order).at url := fun same => not_reads_post order url (same ▸ reads)
    have same : app.posted order url (calls ++ [call]) = app.posted order url calls := by
      unfold posted
      rw [List.countP_append, List.countP_singleton, if_neg (mt of_decide_eq_true other), Nat.add_zero]
    rwa [same]
  | @note calls journal actions occurrence _ silent ih =>
    unfold ordered
    rwa [orders_append, orders_quiet silent, List.append_nil]
  | @hand calls block journal entries actions succeeded _ live handles ih =>
    have sum : app.posted order url (calls ++ block) = app.posted order url calls + app.posted order url block :=
      List.countP_append
    unfold ordered at ih ⊢
    rw [orders_append, List.countP_append, sum]
    rcases handles.orders with ⟨none, rfl, -⟩ | ⟨other, one, carries⟩
    · rw [none]
      exact ih
    have here := count_carries carries order url
    rw [one, List.countP_singleton]
    unfold posted at ih ⊢
    by_cases same : app.post other = app.post order
    · rw [if_pos same] at here
      rw [if_pos (decide_eq_true same), Nat.add_mul, Nat.one_mul, Nat.mul_add]
      omega
    · rw [if_neg same] at here
      rw [if_neg (mt of_decide_eq_true same), Nat.add_zero]
      omega

/-- Every event that is handed over is counted once, as a success only where it has an order. -/
theorem Traffic.actions {calls : List Call} {journal : List Occurrence} {actions : ExitActions}
    (traffic : app.Traffic calls journal actions) :
    actions.total = (handedEvents journal).length ∧ actions.success ≤ (app.orders journal).length := by
  have counted (succeeded : Bool) (actions : ExitActions) : (actions.inc succeeded).total = actions.total + 1 ∧
      (actions.inc succeeded).success = actions.success + if succeeded then 1 else 0 := by
    unfold ExitActions.inc ExitActions.total
    cases succeeded <;> simp <;> omega
  induction traffic with
  | start => exact ⟨rfl, Nat.zero_le _⟩
  | read _ _ ih => exact ih
  | @note calls journal actions occurrence _ silent ih =>
    have same : handedEvents (journal ++ [occurrence]) = handedEvents journal := by
      unfold handedEvents
      rw [List.filterMap_append]
      cases occurrence with
      | handed _ => cases silent
      | _ => simp
    rwa [same, orders_append, orders_quiet silent, List.append_nil]
  | @hand calls block journal entries actions succeeded _ live handles ih =>
    have one : (handedEvents (journal ++ entries)).length = (handedEvents journal).length + 1 := by
      unfold handedEvents
      rw [List.filterMap_append, List.length_append]
      cases handles <;> rfl
    obtain ⟨total, success⟩ := counted succeeded actions
    rw [total, success, one, orders_append, List.length_append]
    refine ⟨congrArg (· + 1) ih.1, Nat.add_le_add ih.2 ?_⟩
    rcases handles.orders with ⟨-, -, rfl⟩ | ⟨order, single, -⟩
    · exact Nat.zero_le _
    · rw [single]
      cases succeeded <;> simp

/-- **The calls of every run are those of its journal**: the reads of its boot and its jobs, and for each
event that is handed over, in its place, the calls that carry out its order. What is counted is how the orders
end, each event once. -/
theorem run_traffic (network : ν) (jobs : Nat) :
    app.Traffic (app.calls network jobs) (app.journal network jobs) (app.exitActions network jobs) ∧
    (app.exitActions network jobs).total = (handedEvents (app.journal network jobs)).length ∧
    (app.exitActions network jobs).success ≤ (app.orders (app.journal network jobs)).length :=
  ⟨run_shows network jobs, (run_shows network jobs).actions⟩

/-- **No order is lost on the wire, none is invented, and none is repeated beyond its tries.** Each endpoint
of an order for which `fetch` takes its post gets it at least once and at most `tries` times for each order of
that post in the journal; where `fetch` refuses the post, as for the name of a header, it is never sent. An
exit is told apart from all others by its post. -/
theorem run_posts (network : ν) (jobs : Nat) (order : Order) (url : String) :
    (app.ordered order (app.journal network jobs) * app.reached order url ≤
      app.posted order url (app.calls network jobs) ∧
    app.posted order url (app.calls network jobs) ≤
      app.tries order * (app.ordered order (app.journal network jobs) * app.reached order url)) ∧
    ∀ message, app.ordered (.exit message) (app.journal network jobs) =
      (app.orders (app.journal network jobs)).count (.exit message) := by
  refine ⟨(run_shows network jobs).counts order url, fun message => ?_⟩
  unfold ordered
  rw [List.count_eq_countP]
  refine List.countP_congr fun other _ => ?_
  rw [decide_eq_true_eq, beq_iff_eq]
  cases other with
  | exit other => rw [post_exit_inj, Order.exit.injEq]
  | hook event =>
    refine ⟨fun same => ?_, fun same => by cases same⟩
    have alike : initial ((app.post (.hook event)).at "") =
      initial ((app.post (.exit message)).at "") := by rw [same]
    rw [initial_exit, initial_hook] at alike
    exact absurd alike (by decide)

/-! ### Every call -/

/-- A call of a journal reads, or is one that an event took. -/
theorem Traffic.mem {calls : List Call} {journal : List Occurrence} {actions : ExitActions}
    (traffic : app.Traffic calls journal actions) :
    ∀ call ∈ calls, app.Reads call.request ∨ app.config.DRY_RUN = false ∧
      ∃ before entries after block succeeded,
      journal = before ++ entries ++ after ∧ app.Handles entries block succeeded ∧ call ∈ block := by
  induction traffic with
  | start => exact fun call inside => by cases inside
  | read _ reads ih =>
    intro call inside
    rcases List.mem_append.mp inside with inside | inside
    · exact ih call inside
    · exact .inl (List.mem_singleton.mp inside ▸ reads)
  | @note calls journal actions noted _ _ ih =>
    intro call inside
    rcases ih call inside with reads | ⟨live, before, entries, after, block, succeeded, rfl, rest⟩
    · exact .inl reads
    · exact .inr ⟨live, before, entries, after ++ [noted], block, succeeded, List.append_assoc _ _ _,
      rest⟩
  | @hand calls block journal entries actions succeeded _ live handles ih =>
    intro call inside
    rcases List.mem_append.mp inside with inside | inside
    · rcases ih call inside with reads | ⟨live, before, noted, after, block, succeeded, rfl, rest⟩
      · exact .inl reads
      · exact .inr
          ⟨live, before, noted, after ++ entries, block, succeeded, List.append_assoc _ _ _, rest⟩
    · exact .inr
        ⟨live, journal, entries, [], block, succeeded, (List.append_nil _).symm, handles, inside⟩

/-- A call of an order is its post to one of its endpoints. -/
theorem Carries.posts {order : Order} {block : List Call} {succeeded : Bool}
    (carries : app.Carries order block succeeded) :
    ∀ call ∈ block, ∃ url ∈ app.endpoints order, call.request = (app.post order).at url := by
  intro call inside
  obtain ⟨rounds, shuffled, each⟩ := carries_rounds carries
  obtain ⟨round, member, inside⟩ := List.mem_flatten.mp (shuffled.mem_iff.mp inside)
  obtain ⟨request, sent, here⟩ := forall₂_mem each member
  obtain ⟨url, endpoint, rfl⟩ := List.mem_map.mp sent
  exact ⟨url, endpoint, here.same call inside⟩

/-- Every exit of a run is safe. -/
theorem run_safe (network : ν) (jobs : Nat) : app.messagesProcessor.SafeJournal (app.journal network jobs) := by
  unfold journal
  rcases app.run_cases network jobs with ⟨world, -, same⟩ | ⟨error, world, -, same⟩
  · rw [same]
    exact JobProcessor.run_exits_safe world jobs
  · rw [same]
    exact fun before _ _ _ _ split => by cases before <;> cases split

variable (app)

/-- **What a call may be**, with the journal of its run. In a dry run it reads. -/
inductive Allowed (journal : List Occurrence) (call : Call) : Prop
  | read : app.Reads call.request → Allowed journal call
  /-- The post of a safe exit, to a consensus node; its body reads as the message of the exit. -/
  | exit {before after : List Occurrence} {event : ValidatorsToEject} {storage : MessageStorage}
      {message : ExitMessage} {url body : String} :
      app.config.DRY_RUN = false → missing app.config.VALIDATOR_EXIT_WEBHOOK = true →
      journal = before ++ .exitRequested event storage message :: after →
      app.messagesProcessor.SafeExit before event storage message →
      url ∈ app.config.CONSENSUS_NODE →
      call.request = ⟨url ++ VOLUNTARY_EXITS, "POST", ExecutionClient.contentType, some body⟩ →
      (Json.parse body).map (fun json => exitMessageDTO (some json)) = some (.ok message) → Allowed journal call
  /-- The post of an event that was handed over, to the webhook. -/
  | hook {event : ValidatorsToEject} :
      app.config.DRY_RUN = false → missing app.config.MESSAGES_LOCATION = true → .handed event ∈ journal →
      call.request = (app.webhookInit event).at (app.config.VALIDATOR_EXIT_WEBHOOK.getD "") →
        Allowed journal call

variable {app}

theorem calls_allowed (network : ν) (jobs : Nat) :
    ∀ call ∈ app.calls network jobs, app.Allowed (app.journal network jobs) call := by
  intro call inside
  rcases (run_shows network jobs).mem call inside with
    reads | ⟨live, before, entries, after, block, succeeded, split, handles, member⟩
  · exact .read reads
  cases handles with
  | missed => cases member
  | @exit event storage message _ _ messages _ carries =>
    have whole : app.journal network jobs =
        before ++ [.handed event] ++ .exitRequested event storage message :: after := by
      simp [split]
    obtain ⟨url, endpoint, sent⟩ := Carries.posts carries call member
    obtain ⟨node, configured, rfl⟩ := List.mem_map.mp endpoint
    refine .exit live messages whole (run_safe network jobs _ event storage message after whole)
      configured sent ?_
    rw [exitBody_parse, Option.map_some, exitMessageDTO_toJson]
  | @hook event _ _ webhook carries =>
    have noted : .handed event ∈ app.journal network jobs := by
      rw [split]
      exact List.mem_append_left after (List.mem_append_right before List.mem_cons_self)
    obtain ⟨url, endpoint, sent⟩ := Carries.posts carries call member
    have chosen := (makeConfig_mode app.configured).mpr webhook
    exact .hook live chosen noted (List.mem_singleton.mp endpoint ▸ sent)

/-- **Whatever a run sends is allowed.** -/
theorem run_orders (network : ν) (jobs : Nat) :
    (app.calls network jobs).Forall (app.Allowed (app.journal network jobs)) :=
  List.forall_iff_forall_mem.mpr (calls_allowed network jobs)

end App

end ValidatorEjector
