/-
**Requests on the wire — what goes out to the network, and what comes back.**

Below the middlewares is `fetch`. A call that is sent goes on record with its answer, so that what an observer
of the network sees is part of the state, and how a request ends can be read off the answers. A request that
`fetch` takes for malformed is never sent.

* `FetchRequest`, `Network`, `Wire` — a call, how calls end, and the calls so far.
* `fetchCall`, `executionHttp`, `consensusHttp` — one call, and the middlewares of the two clients.
* `verdict` — what a middleware makes of an answer; `Tried`, `retryLoop_tried` — the calls of a request at one
  endpoint, and how they end.
* `Asks`, `Fallen`, `makeFallback_wire` — the calls of a request over all endpoints, a round for each in order.
* `Added` — what was called since.
-/

import ValidatorEjector.Webhook

namespace ValidatorEjector

open Js Library Library.Program

/-- An error, where only its message matters. -/
def Thrown.toFailure (error : Thrown) : Failure :=
  ⟨if error.name = "TypeError" then .typeError else .error, [.text error.message]⟩

namespace Request

/-- What `fetch` is called with. -/
structure FetchRequest where
  url : String
  method : String
  headers : OrderedMap String String
  body : Option String
  deriving DecidableEq

/-- The configuration of a request, without its URL and its middlewares. -/
structure RequestInit where
  method : String := "GET"
  headers : OrderedMap String String := .empty
  body : Option String := none
  deriving DecidableEq

/-- The call of a request at a URL. -/
def RequestInit.at (init : RequestInit) (url : String) : FetchRequest :=
  ⟨url, init.method, init.headers, init.body⟩

/-- **The network, and the clock**, over states in `ν`. A call that is aborted ends with an `AbortError`. -/
structure Network (ν : Type) where
  /-- The message of the `TypeError` that `fetch` throws before it sends anything, as for a URL it cannot
  parse or for the name or value of a header. -/
  refuses : FetchRequest → Option String
  fetch : FetchRequest → ν → Except CallError HttpResponse × ν
  /-- `Date.now()`. -/
  now : ν → Int × ν
  /-- Which of the requests under way is answered next. -/
  next : ν → Nat × ν

/-- A call, and how it ended. -/
structure Call where
  request : FetchRequest
  answer : Except CallError HttpResponse

/-- **The wire**: the state of the network, and the calls so far. -/
structure Wire (ν : Type) where
  network : ν
  calls : List Call

section Clients

variable {ν : Type} (network : Network ν)

/-- `fetchCall`. -/
def fetchCall (init : RequestInit) : Next (Wire ν) HttpResponse := fun config wire =>
  match network.refuses (init.at config.url) with
  | some message => .error (.error "TypeError" message) wire
  | none =>
    let (answer, after) := network.fetch (init.at config.url) wire.network
    let wire : Wire ν := ⟨after, wire.calls ++ [⟨init.at config.url, answer⟩]⟩
    match answer with
    | .ok res => .ok res wire
    | .error cause => .error cause.thrown wire

/-- `prom`. It only measures how long a call takes. -/
def prom {σ ρ : Type} : Middleware σ ρ := fun config next => next config

/-- The client of the execution nodes. -/
def executionHttp (init : RequestInit) (url : String) : EStateM Thrown (Wire ν) HttpResponse :=
  makeRequest (fetchCall network init) [retry 3, logger, prom, notOkError, abort] url

/-- The client of the consensus nodes; a request adds a middleware of its own. -/
def consensusHttp (init : RequestInit) (own : Middleware (Wire ν) HttpResponse) (url : String) :
    EStateM Thrown (Wire ν) HttpResponse :=
  makeRequest (fetchCall network init) ([retry 3, logger, prom, abort] ++ [own]) url

end Clients

/-- A request, in a computation whose errors are not told apart. -/
def orFail {σ α : Type} (x : EStateM Thrown σ α) : EStateM Failure σ α := fun s =>
  match x s with
  | .ok a s' => .ok a s'
  | .error error s' => .error error.toFailure s'

theorem orFail_triple {σ α : Type} {P E : σ → Prop} {Q : α → σ → Prop} {x : EStateM Thrown σ α}
    (triple : Triple P x Q E) : Triple P (orFail x) Q E := by
  intro s start
  have ends := triple s start
  unfold orFail
  cases ran : x s with
  | ok a s' => rw [ran] at ends; exact ends
  | error error s' => rw [ran] at ends; exact ends

/-! ### One endpoint -/

section Endpoint

variable {σ ν α : Type}

/-- The end of a run. -/
def ends (outcome : Except Thrown α) (s : σ) : EStateM.Result Thrown σ α :=
  match outcome with
  | .ok value => .ok value s
  | .error error => .error error s

/-- A middleware that lets through the responses that are ok, and throws for the others, as `notOkError` and
`clErrorMessage` do. -/
def rejecting (bad : HttpResponse → Thrown) : Middleware σ HttpResponse := fun config next => do
  let response ← next config
  if !response.ok then throw (bad response)
  pure response

/-- **What such a middleware makes of an answer.** -/
def verdict (bad : HttpResponse → Thrown) : Except CallError HttpResponse → Except Thrown HttpResponse
  | .error cause => .error cause.thrown
  | .ok res => if res.ok then .ok res else .error (bad res)

/-- The outcome is worth another try. -/
def Again (outcome : Except Thrown α) : Prop := ∃ error, outcome = .error error ∧ Retryable error

variable {network : Network ν} {init : RequestInit} {bad : HttpResponse → Thrown} {request : FetchRequest}
  {calls : List Call} {most : Nat} {message : String}

/-- One call behind the middleware. -/
theorem attempt_run (config : InternalConfig) (accepted : network.refuses (init.at config.url) = none)
    (bad : HttpResponse → Thrown) (s : Wire ν) : ∃ answer after,
      rejecting bad config (fetchCall network init) s =
      ends (verdict bad answer) ⟨after, s.calls ++ [⟨init.at config.url, answer⟩]⟩ := by
  rcases fetched : network.fetch (init.at config.url) s.network with ⟨answer, after⟩
  have called : fetchCall network init config s =
      ends (answer.mapError CallError.thrown) ⟨after, s.calls ++ [⟨init.at config.url, answer⟩]⟩ := by
    simp only [fetchCall, accepted, fetched]
    cases answer with
    | error cause => rfl
    | ok res => rfl
  refine ⟨answer, after, ?_⟩
  unfold rejecting verdict
  rw [bind_run, called]
  cases answer with
  | error cause => rfl
  | ok res =>
    cases good : res.ok with
    | true =>
      simp only [Except.mapError, ends, good]
      rfl
    | false =>
      simp only [Except.mapError, ends, good]
      rfl

/-- A request that is refused, behind the middleware: nothing is sent. -/
theorem attempt_refused (config : InternalConfig)
    (refused : network.refuses (init.at config.url) = some message) (bad : HttpResponse → Thrown) (s : Wire ν) :
    rejecting bad config (fetchCall network init) s = .error (.error "TypeError" message) s := by
  refine bind_of_error ?_
  unfold fetchCall
  rw [refused]

/-- The calls of a request at an endpoint: at most as many as there may be, and none exactly if `fetch` refuses
the request. -/
structure Round (network : Network ν) (request : FetchRequest) (most : Nat) (calls : List Call) : Prop where
  least : 1 ≤ calls.length ↔ network.refuses request = none
  limit : calls.length ≤ most
  same : ∀ call ∈ calls, call.request = request

/-- **The calls of a request at an endpoint, and how it ends**: as the last answer does, which is the first
that is not worth another try, or the last there may be; without a call, with a `TypeError`. -/
structure Tried (network : Network ν) (bad : HttpResponse → Thrown) (request : FetchRequest) (most : Nat)
    (calls : List Call) (outcome : Except Thrown HttpResponse) : Prop extends
    Round network request most calls where
  earlier : ∀ call ∈ calls.dropLast, Again (verdict bad call.answer)
  last : ∀ call, calls.getLast? = some call → verdict bad call.answer = outcome
  refused : ∀ message, network.refuses request = some message → outcome = .error (.error "TypeError" message)
  exhausted : Again outcome → calls.length = most

/-- A `TypeError` is worth no other try. -/
theorem not_again_typeError (message : String) :
    ¬ Again (.error (.error "TypeError" message) : Except Thrown α) := by
  rintro ⟨error, same, worth⟩
  cases same
  exact not_retryable_typeError message worth

/-- A request that is refused. -/
theorem Tried.of_refused (refused : network.refuses request = some message) (bad : HttpResponse → Thrown)
    (most : Nat) : Tried network bad request most [] (.error (.error "TypeError" message)) where
  least := by simp [refused]
  limit := Nat.zero_le most
  same call inside := by cases inside
  earlier call inside := by cases inside
  last call final := by cases final
  refused other same := by
    rw [refused] at same
    cases same
    rfl
  exhausted again := absurd again (not_again_typeError message)

/-- One call, after which there is no other. -/
theorem Tried.once (accepted : network.refuses request = none) (bad : HttpResponse → Thrown)
    {answer : Except CallError HttpResponse} (pos : 1 ≤ most) (spent : Again (verdict bad answer) → most = 1) :
    Tried network bad request most [⟨request, answer⟩] (verdict bad answer) where
  least := iff_of_true le_rfl accepted
  limit := pos
  same call inside := by rw [List.mem_singleton.mp inside]
  earlier call inside := by cases inside
  last call final := by
    cases final
    rfl
  refused message refused := by
    rw [accepted] at refused
    cases refused
  exhausted more := (spent more).symm

/-- A call that is worth another try, and those after it. -/
theorem Tried.cons (accepted : network.refuses request = none) {answer : Except CallError HttpResponse}
    {outcome : Except Thrown HttpResponse} (again : Again (verdict bad answer))
    (rest : Tried network bad request most calls outcome) :
    Tried network bad request (most + 1) (⟨request, answer⟩ :: calls) outcome := by
  have some_call : calls ≠ [] := by
    have least := rest.least.mpr accepted
    intro empty
    rw [empty] at least
    exact Nat.not_succ_le_zero 0 least
  refine ⟨⟨iff_of_true (Nat.le_add_left 1 _) accepted, Nat.succ_le_succ rest.limit, fun other inside => ?_⟩,
    fun other inside => ?_, fun call final => ?_, rest.refused,
    fun more => congrArg (· + 1) (rest.exhausted more)⟩
  · rcases List.mem_cons.mp inside with rfl | inside
    · rfl
    · exact rest.same other inside
  · rw [List.dropLast_cons_of_ne_nil some_call] at inside
    rcases List.mem_cons.mp inside with rfl | inside
    · exact again
    · exact rest.earlier other inside
  · obtain ⟨first, others, rfl⟩ := List.exists_cons_of_ne_nil some_call
    rw [List.getLast?_cons_cons] at final
    exact rest.last call final

/-- **The loop of `retry` at an endpoint**, for a request that is sent. -/
theorem retryLoop_accepted {url : String} (accepted : network.refuses (init.at url) = none)
    (bad : HttpResponse → Thrown) (maxTries k : Nat) (s : Wire ν) : ∃ calls outcome after,
      retryLoop maxTries {} (fun config => rejecting bad config (fetchCall network init)) ⟨url, k⟩ s =
        ends outcome ⟨after, s.calls ++ calls⟩ ∧
      Tried network bad (init.at url) (max 1 (maxTries - k)) calls outcome := by
  obtain ⟨answer, after, ran⟩ := attempt_run ⟨url, k + 1⟩ accepted bad s
  cases judged : verdict bad answer with
  | ok res =>
    rw [judged] at ran
    have spent : Again (verdict bad answer) → max 1 (maxTries - k) = 1 := by
      rintro ⟨error, failed, -⟩
      rw [judged] at failed
      cases failed
    have tried := Tried.once accepted bad (Nat.le_max_left 1 _) spent
    rw [judged] at tried
    rw [retryLoop]
    exact ⟨[⟨init.at url, answer⟩], .ok res, after, tryCatch_of_ok ran, tried⟩
  | error error =>
    rw [judged] at ran
    have stops (spent : Again (verdict bad answer) → max 1 (maxTries - k) = 1) :
        ∃ calls outcome after', (EStateM.Result.error error
          (⟨after, s.calls ++ [⟨init.at url, answer⟩]⟩ : Wire ν) : EStateM.Result _ _ HttpResponse) =
            ends outcome ⟨after', s.calls ++ calls⟩ ∧
          Tried network bad (init.at url) (max 1 (maxTries - k)) calls outcome := by
      have tried := Tried.once accepted bad (Nat.le_max_left 1 _) spent
      rw [judged] at tried
      exact ⟨_, _, after, rfl, tried⟩
    by_cases worth : Retryable error
    · rw [retryLoop, tryCatch_of_error ran, retries_eq, decide_eq_true worth, if_neg (by decide)]
      by_cases last : maxTries ≤ k + 1
      · rw [if_pos last]
        exact stops fun _ => by omega
      · rw [if_neg last]
        obtain ⟨calls, outcome, after', rest, tried⟩ := retryLoop_accepted accepted bad maxTries (k + 1)
          ⟨after, s.calls ++ [⟨init.at url, answer⟩]⟩
        have total : max 1 (maxTries - (k + 1)) + 1 = max 1 (maxTries - k) := by omega
        have again : Again (verdict bad answer) := ⟨error, judged, worth⟩
        refine ⟨⟨init.at url, answer⟩ :: calls, outcome, after', ?_, total ▸ tried.cons accepted again⟩
        rw [List.append_assoc] at rest
        exact rest
    · rw [retryLoop_final ran worth]
      refine stops ?_
      rintro ⟨other, same, retryable⟩
      rw [judged] at same
      cases same
      exact absurd retryable worth
termination_by maxTries - k

/-- **The loop of `retry` at an endpoint.** -/
theorem retryLoop_tried (network : Network ν) (init : RequestInit) (bad : HttpResponse → Thrown) (url : String)
    (maxTries : Nat) (s : Wire ν) : ∃ calls outcome after,
      retryLoop maxTries {} (fun config => rejecting bad config (fetchCall network init)) ⟨url, 0⟩ s =
        ends outcome ⟨after, s.calls ++ calls⟩ ∧
      Tried network bad (init.at url) (max 1 maxTries) calls outcome := by
  cases refusal : network.refuses (init.at url) with
  | none => exact retryLoop_accepted refusal bad maxTries 0 s
  | some message =>
    refine ⟨[], .error (.error "TypeError" message), s.network, ?_, .of_refused refusal bad _⟩
    rw [List.append_nil]
    exact retryLoop_final (attempt_refused ⟨url, 1⟩ refusal bad s) (not_retryable_typeError message)

/-- A request of the client of the execution nodes to one of them. -/
theorem executionHttp_tried (network : Network ν) (init : RequestInit) (url : String) (s : Wire ν) :
    ∃ calls outcome after, executionHttp network init url s = ends outcome ⟨after, s.calls ++ calls⟩ ∧
      Tried network notOk (init.at url) 3 calls outcome :=
  retryLoop_tried network init notOk url 3 s

/-- A request of the client of the consensus nodes to one of them. -/
theorem consensusHttp_tried (network : Network ν) (init : RequestInit) (bad : HttpResponse → Thrown)
    (url : String) (s : Wire ν) :
    ∃ calls outcome after, consensusHttp network init (rejecting bad) url s =
        ends outcome ⟨after, s.calls ++ calls⟩ ∧
      Tried network bad (init.at url) 3 calls outcome :=
  retryLoop_tried network init bad url 3 s

end Endpoint

/-! ### All endpoints -/

section Endpoints

variable {ν α : Type}

/-- An operation at an endpoint sent a request of a kind, as often as it takes, and ended as is read off what
that gave. -/
def Asked (network : Network ν) (kind : String → FetchRequest → Prop) (bad : HttpResponse → Thrown) (most : Nat)
    (read : HttpResponse → Except Thrown α) (url : String) (calls : List Call)
      (outcome : Except Thrown α) : Prop :=
  ∃ request answered, kind url request ∧ Tried network bad request most calls answered ∧
    answered.bind read = outcome

/-- Every run of an operation ends so, or, before any call, with an error that a fallback does not catch. -/
def Asks (network : Network ν) (kind : String → FetchRequest → Prop) (bad : HttpResponse → Thrown) (most : Nat)
    (read : HttpResponse → Except Thrown α) (op : String → EStateM Thrown (Wire ν) α) : Prop :=
  ∀ url s, ∃ calls outcome after, op url s = ends outcome ⟨after, s.calls ++ calls⟩ ∧
    (Asked network kind bad most read url calls outcome ∨
      calls = [] ∧ ¬ Again outcome ∧ ∀ value, outcome ≠ .ok value)

/-- Endpoints a fallback went on from: the calls at each, and the error they ended with. -/
def Fallen (network : Network ν) (kind : String → FetchRequest → Prop) (bad : HttpResponse → Thrown) (most : Nat)
    (read : HttpResponse → Except Thrown α) : List String → List (List Call × Thrown) → Prop :=
  List.Forall₂ fun url round =>
    Asked network kind bad most read url round.1 (.error round.2) ∧ Retryable round.2

variable {network : Network ν} {kind : String → FetchRequest → Prop} {bad : HttpResponse → Thrown} {most : Nat}
  {read : HttpResponse → Except Thrown α} {op : String → EStateM Thrown (Wire ν) α}

theorem fallbackLoop_wire (asks : Asks network kind bad most read op) (message : String) :
    ∀ (urls : List String) (causes : List Thrown) (s : Wire ν), ∃ rounds after,
      (Fallen network kind bad most read urls rounds ∧ fallbackLoop message op urls causes s =
        .error (.aggregateError (causes ++ rounds.map Prod.snd) message)
          ⟨after, s.calls ++ rounds.flatMap Prod.fst⟩) ∨
      ∃ before url rest calls outcome, urls = before ++ url :: rest ∧
        Fallen network kind bad most read before rounds ∧
        ¬ Again outcome ∧
        (Asked network kind bad most read url calls outcome ∨ calls = [] ∧ ∀ value, outcome ≠ .ok value) ∧
        fallbackLoop message op urls causes s =
          ends outcome ⟨after, s.calls ++ rounds.flatMap Prod.fst ++ calls⟩
  | [], causes, s => by
    refine ⟨[], s.network, .inl ⟨.nil, ?_⟩⟩
    rw [List.map_nil, List.append_nil, List.flatMap_nil, List.append_nil]
    rfl
  | url :: urls, causes, s => by
    obtain ⟨calls, outcome, after, ran, asked⟩ := asks url s
    let loop : EStateM Thrown (Wire ν) α := tryCatch (op url) fun err => if !isFallbackable err then throw err
      else fallbackLoop message op urls (causes ++ [err])
    have unfolded : fallbackLoop message op (url :: urls) causes = loop := rfl
    rw [unfolded]
    have stops (final : ¬ Again outcome) (run : loop s = ends outcome ⟨after, s.calls ++ calls⟩) :
        ∃ before url' rest calls outcome, url :: urls = before ++ url' :: rest ∧
          Fallen network kind bad most read before [] ∧ ¬ Again outcome ∧
          (Asked network kind bad most read url' calls outcome ∨ calls = [] ∧ ∀ value, outcome ≠ .ok value) ∧
          loop s = ends outcome ⟨after,
            s.calls ++ ([] : List (List Call × Thrown)).flatMap Prod.fst ++ calls⟩ := by
      refine ⟨[], url, urls, calls, outcome, rfl, .nil, final, asked.imp_right fun none => ⟨none.1, none.2.2⟩,
        ?_⟩
      rw [run, List.flatMap_nil, List.append_nil]
    cases outcome with
    | ok value =>
      refine ⟨[], after, .inr (stops ?_ (tryCatch_of_ok ran))⟩
      rintro ⟨error, same, -⟩
      cases same
    | error err =>
      have caught : loop s = _ := tryCatch_of_error ran
      rw [isFallbackable_eq] at caught
      by_cases worth : Retryable err
      · rw [decide_eq_true worth, if_neg (by decide)] at caught
        have here : Asked network kind bad most read url calls (.error err) :=
          asked.resolve_right fun none => none.2.1 ⟨err, rfl, worth⟩
        obtain ⟨rounds, after', ended⟩ := fallbackLoop_wire asks message urls (causes ++ [err])
          ⟨after, s.calls ++ calls⟩
        refine ⟨(calls, err) :: rounds, after', ?_⟩
        rw [caught]
        rcases ended with ⟨fallen, ended⟩ | ⟨before, url', rest, calls', outcome, rfl, fallen, others⟩
        · refine .inl ⟨.cons ⟨here, worth⟩ fallen, ?_⟩
          rw [ended, List.map_cons, List.flatMap_cons, ← List.append_assoc, List.append_assoc causes]
          rfl
        · refine .inr ⟨url :: before, url', rest, calls', outcome, rfl, .cons ⟨here, worth⟩ fallen, ?_⟩
          rwa [List.flatMap_cons, ← List.append_assoc]
      · rw [decide_eq_false worth, if_pos (by decide)] at caught
        refine ⟨[], after, .inr (stops ?_ caught)⟩
        rintro ⟨error, same, retryable⟩
        cases same
        exact worth retryable

/-- **A fallback on the wire.** It goes through the endpoints in order, a round of calls at each, as long as
the outcomes are worth another try; the next outcome, where there is one, is its own. -/
theorem makeFallback_wire (asks : Asks network kind bad most read op) {urls : List String} (some_url : urls ≠ [])
    (label : String) (s : Wire ν) : ∃ rounds after,
      (Fallen network kind bad most read urls rounds ∧ makeFallback urls label op s =
        .error (.aggregateError (rounds.map Prod.snd)
          s!"{label} fallback failed at all {urls.length} endpoints")
          ⟨after, s.calls ++ rounds.flatMap Prod.fst⟩) ∨
      ∃ before url rest calls outcome, urls = before ++ url :: rest ∧
        Fallen network kind bad most read before rounds ∧
        ¬ Again outcome ∧
        (Asked network kind bad most read url calls outcome ∨ calls = [] ∧ ∀ value, outcome ≠ .ok value) ∧
        makeFallback urls label op s =
          ends outcome ⟨after, s.calls ++ rounds.flatMap Prod.fst ++ calls⟩ := by
  have filled : ¬ urls.length = 0 := fun empty => some_url (List.length_eq_zero_iff.mp empty)
  unfold makeFallback
  rw [if_neg filled]
  exact fallbackLoop_wire asks _ urls [] s

end Endpoints

/-! ### What is called -/

section Allowed

variable {σ ν α : Type} {allowed : FetchRequest → Prop}

/-- **All that was called since** is allowed. -/
def Added (before : List Call) (allowed : FetchRequest → Prop) (s : Wire ν) : Prop :=
  ∃ new, s.calls = before ++ new ∧ ∀ call ∈ new, allowed call.request

theorem Added.start (allowed : FetchRequest → Prop) (s : Wire ν) : Added s.calls allowed s :=
  ⟨[], (List.append_nil _).symm, fun call inside => by cases inside⟩

/-- An operation makes calls of its kind only. -/
theorem Asks.preserves {network : Network ν} {kind : String → FetchRequest → Prop}
    {bad : HttpResponse → Thrown} {most : Nat}
    {read : HttpResponse → Except Thrown α} {op : String → EStateM Thrown (Wire ν) α}
    {url : String} {before : List Call} (asks : Asks network kind bad most read op)
    (known : ∀ request, kind url request → allowed request) : Preserves (Added before allowed) (op url) := by
  rintro s ⟨new, record, all⟩
  obtain ⟨calls, outcome, after, ran, asked⟩ := asks url s
  have kept : Added before allowed (⟨after, s.calls ++ calls⟩ : Wire ν) := by
    refine ⟨new ++ calls, by rw [record, List.append_assoc], fun call inside => ?_⟩
    rcases List.mem_append.mp inside with inside | inside
    · exact all call inside
    · rcases asked with ⟨request, answered, sent, tried, -⟩ | ⟨rfl, -, -⟩
      · rw [tried.same call inside]
        exact known request sent
      · cases inside
  rw [ran]
  cases outcome with
  | ok value => exact kept
  | error error => exact kept

theorem fallbackLoop_preserves {P : σ → Prop} {op : String → EStateM Thrown σ α} (message : String) :
    ∀ {urls : List String}, (∀ url ∈ urls, Preserves P (op url)) → ∀ causes,
      Preserves P (fallbackLoop message op urls causes)
  | [], _, causes => Preserves.throw
  | url :: urls, here, causes => by
    unfold fallbackLoop
    refine Triple.tryCatch (here url List.mem_cons_self) fun err => ?_
    cases isFallbackable err with
    | false => exact Preserves.throw
    | true => exact fallbackLoop_preserves message (fun u inside => here u (List.mem_cons_of_mem url inside)) _

/-- A fallback keeps what the operation keeps at every endpoint. -/
theorem makeFallback_preserves {P : σ → Prop} {op : String → EStateM Thrown σ α} {urls : List String}
    {label : String} (here : ∀ url ∈ urls, Preserves P (op url)) : Preserves P (makeFallback urls label op) := by
  unfold makeFallback
  by_cases empty : urls.length = 0
  · rw [if_pos empty]
    exact Preserves.throw
  · rw [if_neg empty]
    exact fallbackLoop_preserves _ here []

end Allowed

end Request

end ValidatorEjector
