/-
**`services/webhook-caller` — an exit is asked for by a webhook, and how often.**

The number that the configuration calls retries is passed to `retry`, which counts tries. A request that
`fetch` takes for malformed fails before any call.

* `WebhookProcessor`, `middlewares`, `headers`, `send` — the service.
* `judged` — what an answer of the endpoint is after `notOkError`; `request_eq` — without retries the
  request is the one with a single try.
* `sent_refused`, `send_run` — how far `send` gets, and what it counts.
* `sendCounts_iff` — when the number counts retries.
-/

import ValidatorEjector.Messages.Processor
import ValidatorEjector.Request.Fallback

namespace ValidatorEjector

open Js Library Library.Program Request

/-- What `fetch` is called with. -/
structure WebhookRequest where
  url : String
  method : String
  headers : OrderedMap String String
  body : String

/-- **`makeWebhookProcessor`.** `refuses request` is the message of the `TypeError` that `fetch` throws before
it sends anything, as for a URL it cannot parse or the name or value of a header that is no token or holds a
line break. `fetch request k` is how the call ends that is the `k`th of all; a call that takes longer than
`WEBHOOK_ABORT_TIMEOUT_MS` ends with an `AbortError`. -/
structure WebhookProcessor where
  WEBHOOK_MAX_RETRIES : Nat
  WEBHOOK_TOKEN : Option String
  WEBHOOK_HEADER : Option String
  refuses : WebhookRequest → Option String
  fetch : WebhookRequest → Nat → Except CallError HttpResponse

/-- The endpoints that were called, and the counter of the outcomes. -/
structure WebhookState where
  visited : List String
  exitActions : ExitActions

/-- `exitActions.inc`. -/
def ExitActions.inc (succeeded : Bool) (actions : ExitActions) : ExitActions :=
  if succeeded then { actions with success := actions.success + 1 }
  else { actions with error := actions.error + 1 }

namespace Request

variable {σ ρ : Type}

/-- `logger`. It only writes to the log. -/
def logger : Middleware σ ρ := fun config next => next config

/-- `abort`. What an aborted call ends with is an outcome of the call. -/
def abort : Middleware σ ρ := fun config next => next config

/-- What `notOkError` makes of the end of a call. -/
def judged : Except CallError HttpResponse → Except Thrown HttpResponse
  | .error cause => .error cause.thrown
  | .ok res => if res.ok then .ok res else .error (notOk res)

theorem judged_ok (res : HttpResponse) :
    judged (.ok res) = if res.ok then .ok res else .error (notOk res) := rfl

end Request

namespace WebhookProcessor

variable (p : WebhookProcessor)

def middlewares : List (Middleware (List String) HttpResponse) :=
  let middlewares := [logger, notOkError, abort]
  if 0 < p.WEBHOOK_MAX_RETRIES then [retry p.WEBHOOK_MAX_RETRIES] ++ middlewares else middlewares

/-- `headers`. The `Bearer` scheme is for the standard header. -/
def headers : OrderedMap String String :=
  let headers := OrderedMap.empty.set "Content-Type" "application/json"
  match p.WEBHOOK_TOKEN.filter (· ≠ "") with
  | none => headers
  | some token =>
    let headerName := p.WEBHOOK_HEADER.getD "Authorization"
    headers.set headerName (if toLowerCase headerName =
      "authorization" then s!"Bearer {token}" else token)

/-- The request of an event. -/
def webhookRequest (url : String) (event : Json) : WebhookRequest :=
  { url, method := "POST", headers := p.headers, body := Json.stringify JsNumber.toText event }

def fetchCall (request : WebhookRequest) : Next (List String) HttpResponse :=
  match p.refuses request with
  | some message => fun _ => throw (.error "TypeError" message)
  | none => attempt fun k => (p.fetch request k).mapError CallError.thrown

/-- `send`. It never throws. -/
def send (url : String) (event : Json) : EStateM Thrown WebhookState Unit :=
  tryCatch
    (do
      let _ ← onPart WebhookState.visited (fun visited s => { s with visited })
        (makeRequest (p.fetchCall (p.webhookRequest url event)) p.middlewares url)
      modify fun s => { s with exitActions := s.exitActions.inc true })
    fun _ => modify fun s => { s with exitActions := s.exitActions.inc false }

/-! ### One event -/

section Run

variable {p} {url : String} {event : Json}

/-- The outcomes of the calls for an event. -/
def outcomes (p : WebhookProcessor) (url : String) (event : Json) (k : Nat) :
    Except Thrown HttpResponse :=
  judged (p.fetch (p.webhookRequest url event) k)

/-- The number of tries. -/
def tries (p : WebhookProcessor) : Nat := max 1 p.WEBHOOK_MAX_RETRIES

theorem one_le_tries : 1 ≤ p.tries := Nat.le_max_left _ _

/-- A request that `fetch` takes for well formed. -/
def Accepts (p : WebhookProcessor) (url : String) (event : Json) : Prop :=
  p.refuses (p.webhookRequest url event) = none

/-- The middlewares behind `retry` are one attempt. -/
theorem chain_fetchCall (accepts : p.Accepts url event) :
    chain (p.fetchCall (p.webhookRequest url event)) [logger, notOkError, abort] =
      attempt (p.outcomes url event) := by
  funext config visited
  show notOkError config (p.fetchCall (p.webhookRequest url event)) visited = _
  have ends : p.fetchCall (p.webhookRequest url event) config visited = settle (visited ++ [config.url])
      ((p.fetch (p.webhookRequest url event) visited.length).mapError CallError.thrown) := by
    unfold fetchCall
    rw [accepts]
    rfl
  unfold attempt outcomes
  cases answer : p.fetch (p.webhookRequest url event) visited.length with
  | error cause =>
    rw [answer] at ends
    exact bind_of_error ends
  | ok res =>
    rw [answer] at ends
    by_cases good : res.ok = true
    · rw [judged_ok, if_pos good]
      exact notOkError_ok.mpr ⟨ends, good⟩
    · rw [judged_ok, if_neg good]
      exact notOkError_run ends (Bool.eq_false_iff.mpr good)

/-- **Without retries the request is tried once**, as it is when the number is 1. -/
theorem request_eq (accepts : p.Accepts url event) :
    makeRequest (p.fetchCall (p.webhookRequest url event)) p.middlewares url =
      Request.request (p.outcomes url event) p.tries url := by
  unfold middlewares tries
  dsimp only
  by_cases some : 0 < p.WEBHOOK_MAX_RETRIES
  · rw [if_pos some, Nat.max_eq_right some]
    unfold Request.request
    rw [← chain_fetchCall accepts]
    rfl
  · rw [if_neg some, Nat.max_eq_left (by omega)]
    funext visited
    unfold makeRequest
    rw [chain_fetchCall accepts]
    show settle (visited ++ [url]) (p.outcomes url event visited.length) =
      retryLoop 1 {} (attempt (p.outcomes url event)) ⟨url, 0⟩ visited
    cases outcome : p.outcomes url event visited.length with
    | ok value =>
      rw [retryLoop_ok outcome]
      rfl
    | error error =>
      rw [retryLoop_error outcome, if_neg fun both => Nat.not_lt_zero 0 (Nat.lt_of_succ_lt_succ both.2)]
      rfl

/-- The request ends as `send` sees it: the calls made, and whether it succeeded. -/
def Sent (p : WebhookProcessor) (url : String) (event : Json) (s : WebhookState) (calls : Nat)
    (succeeded : Bool) : Prop :=
  p.send url event s =
    .ok () ⟨s.visited ++ List.replicate calls url, s.exitActions.inc succeeded⟩

variable {s : WebhookState}

theorem sent_of_ok {visited : List String} {res : HttpResponse}
    (run : makeRequest (p.fetchCall (p.webhookRequest url event)) p.middlewares url s.visited =
      .ok res visited) : p.send url event s = .ok () ⟨visited, s.exitActions.inc true⟩ := by
  refine tryCatch_of_ok ?_
  have part : onPart WebhookState.visited (fun visited s => { s with visited })
      (makeRequest (p.fetchCall (p.webhookRequest url event)) p.middlewares url) s =
        .ok res { s with visited } := by
    unfold onPart
    rw [run]
  rw [bind_of_ok part]
  rfl

theorem sent_of_error {visited : List String} {error : Thrown}
    (run : makeRequest (p.fetchCall (p.webhookRequest url event)) p.middlewares url s.visited =
      .error error visited) : p.send url event s = .ok () ⟨visited, s.exitActions.inc false⟩ := by
  have part : onPart WebhookState.visited (fun visited s => { s with visited })
      (makeRequest (p.fetchCall (p.webhookRequest url event)) p.middlewares url) s =
        .error error { s with visited } := by
    unfold onPart
    rw [run]
  exact tryCatch_of_error (bind_of_error part)

/-- **A request that `fetch` refuses makes no call**, and is counted as an error: no try changes it. -/
theorem sent_refused {message : String} (refused : p.refuses (p.webhookRequest url event) = some message) :
    p.Sent url event s 0 false := by
  have fails : ∀ config visited, chain (p.fetchCall (p.webhookRequest url event))
      [logger, notOkError, abort] config visited = .error (.error "TypeError" message) visited := by
    intro config visited
    show notOkError config (p.fetchCall (p.webhookRequest url event)) visited = _
    unfold fetchCall
    rw [refused]
    rfl
  have run : makeRequest (p.fetchCall (p.webhookRequest url event)) p.middlewares url s.visited =
      .error (.error "TypeError" message) s.visited := by
    unfold middlewares
    dsimp only
    split_ifs with retrying
    · exact retryLoop_final (fails _ _) (not_retryable_typeError message)
    · exact fails _ _
  unfold Sent
  rw [List.replicate_zero, List.append_nil]
  exact sent_of_error run

/-- **`send` stops at the first call that need not be made again**, and counts how it ended; or it makes all
tries, and counts an error. -/
theorem send_run (accepts : p.Accepts url event) (s : WebhookState) :
    (∃ i, i < p.tries ∧ (∀ j < i, again (p.outcomes url event) (s.visited.length + j) = true) ∧
      again (p.outcomes url event) (s.visited.length + i) = false ∧
      p.Sent url event s (i + 1) (p.outcomes url event (s.visited.length + i)).toBool) ∨
    ((∀ j < p.tries, again (p.outcomes url event) (s.visited.length + j) = true) ∧
      p.Sent url event s p.tries false) := by
  cases stop : stopAt (p.outcomes url event) s.visited.length p.tries with
  | some j =>
    obtain ⟨final, ⟨low, high⟩, before⟩ := stopAt_eq_some.mp stop
    obtain ⟨i, rfl⟩ := Nat.exists_eq_add_of_le low
    have run := request_of_some url one_le_tries stop
    rw [← request_eq accepts] at run
    rw [show s.visited.length + i + 1 - s.visited.length = i + 1 by omega] at run
    refine .inl ⟨i, by omega, fun j earlier => before _ (by omega) (by omega), final, ?_⟩
    cases outcome : p.outcomes url event (s.visited.length + i) with
    | ok res =>
      rw [outcome] at run
      exact sent_of_ok run
    | error error =>
      rw [outcome] at run
      exact sent_of_error run
  | none =>
    obtain ⟨error, -, -, run⟩ := request_of_none url one_le_tries stop
    rw [← request_eq accepts] at run
    exact .inr ⟨fun j inside => stopAt_eq_none.mp stop _ (by omega) (by omega), sent_of_error run⟩

/-- How `send` ends is known once. -/
theorem Sent.inj {calls calls' : Nat} {succeeded succeeded' : Bool}
    (first : p.Sent url event s calls succeeded) (second : p.Sent url event s calls' succeeded') :
    calls = calls' ∧ succeeded = succeeded' := by
  unfold Sent at first second
  rw [first] at second
  have states := (EStateM.Result.ok.inj second).2
  have visited := congrArg (fun s => s.visited.length) states
  have actions := congrArg (fun s => s.exitActions.success) states
  simp only [List.length_append, List.length_replicate, Nat.add_left_cancel_iff] at visited
  refine ⟨visited, ?_⟩
  cases succeeded with
  | true => cases succeeded' with
    | true => rfl
    | false => simp [ExitActions.inc] at actions
  | false => cases succeeded' with
    | true => simp [ExitActions.inc] at actions
    | false => rfl

end Run

/-! ### Retries -/

section Retries

variable {url : String} {event : Json} {s : WebhookState} {k : Nat}

/-- A failure that is worth another try: the network, a timeout, or a status that may pass. -/
def MayPass : Except CallError HttpResponse → Prop
  | .error (.network _) => True
  | .error (.typeError _) => False
  | .ok res => isRetryableHttpStatus res.status = true

/-- The body of the answer is the JSON value `null`. -/
def AnswersNull : Except CallError HttpResponse → Prop
  | .error _ => False
  | .ok res => BodyNull res

/-- **The endpoint fails `k` times in a row and then answers 200**, when the event is sent from `s`. -/
structure Recovers (p : WebhookProcessor) (url : String) (event : Json) (s : WebhookState) (k : Nat) :
    Prop where
  fails : ∀ j < k, MayPass (p.fetch (p.webhookRequest url event) (s.visited.length + j))
  answers : ∃ res, p.fetch (p.webhookRequest url event) (s.visited.length + k) = .ok res ∧ res.status =
    200

/-- **`WEBHOOK_MAX_RETRIES` counts retries.** -/
def SendCounts (p : WebhookProcessor) (url : String) (event : Json) (s : WebhookState) (k : Nat) :
    Prop :=
  if k ≤ p.WEBHOOK_MAX_RETRIES then p.Sent url event s (k + 1) true
  else p.Sent url event s (p.WEBHOOK_MAX_RETRIES + 1) false

/-- A failure that is worth another try gets one, but for the body `null`. -/
theorem judged_mayPass {answer : Except CallError HttpResponse} (passes : MayPass answer) :
    ∃ error, judged answer = .error error ∧ (Retryable error ↔ ¬ AnswersNull answer) := by
  cases answer with
  | error cause =>
    cases cause with
    | network cause => exact ⟨cause.thrown, rfl, iff_of_true cause.retryable_thrown id⟩
    | typeError message => exact passes.elim
  | ok res =>
    have bad : res.ok = false := by
      rcases isRetryableHttpStatus_iff.mp passes with server | timeout | many
      · simp [HttpResponse.ok, Nat.lt_of_lt_of_le (show 299 < 500 by decide) server]
      · simp [HttpResponse.ok, timeout]
      · simp [HttpResponse.ok, many]
    refine ⟨notOk res, by rw [judged_ok, bad]; rfl, ?_⟩
    rcases notOk_eq res with ⟨null, terminal⟩ | ⟨other, response, message, made⟩
    · exact iff_of_false terminal fun other => other null
    · rw [made]
      exact iff_of_true (retryable_httpException.mpr passes) other

variable {p : WebhookProcessor}

theorem Recovers.error (recovers : p.Recovers url event s k) {j : Nat} (earlier : j < k) :
    (p.outcomes url event (s.visited.length + j)).toBool = false := by
  obtain ⟨error, made, -⟩ := judged_mayPass (recovers.fails j earlier)
  unfold outcomes
  rw [made]
  rfl

theorem Recovers.again (recovers : p.Recovers url event s k) {j : Nat} (earlier : j < k) :
    again (p.outcomes url event) (s.visited.length + j) = true ↔
      ¬ AnswersNull (p.fetch (p.webhookRequest url event) (s.visited.length + j)) := by
  obtain ⟨error, made, worth⟩ := judged_mayPass (recovers.fails j earlier)
  rw [again_iff, ← worth]
  unfold outcomes
  rw [made]
  simp

theorem Recovers.ok (recovers : p.Recovers url event s k) :
    ∃ res, p.outcomes url event (s.visited.length + k) = .ok res := by
  obtain ⟨res, answers, status⟩ := recovers.answers
  have good : res.ok = true := by simp [HttpResponse.ok, status]
  refine ⟨res, ?_⟩
  unfold outcomes
  rw [answers, judged_ok, if_pos good]

theorem Recovers.final (recovers : p.Recovers url event s k) :
    Request.again (p.outcomes url event) (s.visited.length + k) = false := by
  obtain ⟨res, good⟩ := recovers.ok
  unfold Request.again
  rw [good]

/-- **The endpoint is called to its answer** exactly if the tries suffice and no failure before it has the
body `null`. -/
theorem Recovers.sent_iff (recovers : p.Recovers url event s k) (accepts : p.Accepts url event) :
    p.Sent url event s (k + 1) true ↔ k < p.tries ∧ ∀ j < k, ¬ AnswersNull
      (p.fetch (p.webhookRequest url event) (s.visited.length + j)) := by
  rcases send_run accepts s with ⟨i, inside, before, final, sent⟩ | ⟨all, sent⟩
  · constructor
    · intro counted
      obtain ⟨same, -⟩ := sent.inj counted
      obtain rfl : i = k := by omega
      exact ⟨inside, fun j earlier => (recovers.again earlier).mp (before j earlier)⟩
    · rintro ⟨enough, other⟩
      obtain rfl : i = k := by
        rcases Nat.lt_trichotomy i k with earlier | same | later
        · rw [(recovers.again earlier).mpr (other i earlier)] at final
          cases final
        · exact same
        · have more := before k later
          rw [recovers.final] at more
          cases more
      obtain ⟨res, good⟩ := recovers.ok
      rw [good] at sent
      exact sent
  · constructor
    · intro counted
      cases (sent.inj counted).2
    · rintro ⟨enough, -⟩
      have more := all k enough
      rw [recovers.final] at more
      cases more

/-- An event takes at most as many calls as there are tries. -/
theorem sent_le_tries {calls : Nat} {succeeded : Bool} (counted : p.Sent url event s calls succeeded) :
    calls ≤ p.tries := by
  cases refusal : p.refuses (p.webhookRequest url event) with
  | some message =>
    rw [(counted.inj (sent_refused refusal)).1]
    exact Nat.zero_le _
  | none =>
    rcases send_run refusal s with ⟨i, inside, -, -, sent⟩ | ⟨-, sent⟩
    · rw [(counted.inj sent).1]
      exact inside
    · rw [(counted.inj sent).1]

/-- Without retries an endpoint that fails is called once. -/
theorem Recovers.sent_once (recovers : p.Recovers url event s k) (accepts : p.Accepts url event)
    (failing : 0 < k) (none : p.WEBHOOK_MAX_RETRIES = 0) : p.Sent url event s 1 false := by
  have once : p.tries = 1 := by
    unfold tries
    rw [none]
    rfl
  rcases send_run accepts s with ⟨i, inside, -, -, sent⟩ | ⟨-, sent⟩
  · obtain rfl : i = 0 := by omega
    rw [recovers.error failing] at sent
    exact sent
  · rw [once] at sent
    exact sent

/-- A call is made for every number of retries, so that a request that `fetch` refuses meets none. -/
theorem not_sendCounts_refused {message : String}
    (refused : p.refuses (p.webhookRequest url event) = some message) : ¬ p.SendCounts url event s k := by
  unfold SendCounts
  intro counted
  split_ifs at counted with few
  · cases (counted.inj (sent_refused refused)).2
  · cases (counted.inj (sent_refused refused)).1

/-- **When `WEBHOOK_MAX_RETRIES` counts retries.** For an endpoint that fails `k` times and then answers,
the calls and the outcome are those of the number of retries exactly if `fetch` takes the request, and the
number is 0, or the endpoint answers before the last retry and none of its failures has the body `null`. -/
theorem sendCounts_iff (recovers : p.Recovers url event s k) : p.SendCounts url event s k ↔
    p.Accepts url event ∧ (p.WEBHOOK_MAX_RETRIES = 0 ∨ k < p.WEBHOOK_MAX_RETRIES ∧
      ∀ j < k, ¬ AnswersNull (p.fetch (p.webhookRequest url event) (s.visited.length + j))) := by
  cases refusal : p.refuses (p.webhookRequest url event) with
  | some message =>
    refine iff_of_false (not_sendCounts_refused refusal) fun both => ?_
    have accepts := both.1
    unfold Accepts at accepts
    rw [refusal] at accepts
    cases accepts
  | none =>
    have accepts : p.Accepts url event := refusal
    rw [and_iff_right accepts]
    unfold SendCounts
    rcases Nat.eq_zero_or_pos p.WEBHOOK_MAX_RETRIES with none | some
    · refine iff_of_true ?_ (.inl none)
      rw [none]
      rcases Nat.eq_zero_or_pos k with rfl | failing
      · rw [if_pos (Nat.le_refl 0)]
        exact (recovers.sent_iff accepts).mpr
          ⟨one_le_tries, fun j earlier => absurd earlier (Nat.not_lt_zero j)⟩
      · rw [if_neg (by omega)]
        exact recovers.sent_once accepts failing none
    · have total : p.tries = p.WEBHOOK_MAX_RETRIES := Nat.max_eq_right some
      by_cases few : k ≤ p.WEBHOOK_MAX_RETRIES
      · rw [if_pos few, recovers.sent_iff accepts, total]
        exact ⟨.inr, fun holds => holds.resolve_left (by omega)⟩
      · rw [if_neg few]
        refine iff_of_false (fun counted => ?_) (by omega)
        have bound := sent_le_tries counted
        omega

end Retries

end WebhookProcessor

/-! ### One retry -/

namespace BusyWebhook

/-- A webhook that is down for the first call, behind a `fetch` that wants names of headers without spaces. -/
def processor (retries : Nat) (header : Option String := none) : WebhookProcessor where
  WEBHOOK_MAX_RETRIES := retries
  WEBHOOK_TOKEN := some "secret"
  WEBHOOK_HEADER := header
  refuses request :=
    if request.headers.keys.any fun name => name.toList.contains ' ' then
      some "Header name must be a valid HTTP token"
    else none
  fetch _ k := if k = 0 then .error (.network (.fetchError "connect ECONNREFUSED"))
    else .ok ⟨200, "OK", .ok ""⟩

def start : WebhookState := ⟨[], ⟨0, 0⟩⟩

theorem recovers (retries : Nat) (header : Option String) (event : Json) :
    (processor retries header).Recovers "http://webhook" event start 1 where
  fails j earlier := by
    obtain rfl : j = 0 := by omega
    trivial
  answers := ⟨_, rfl, rfl⟩

end BusyWebhook

namespace WebhookProcessor

open BusyWebhook

theorem sendCounts_two : (processor 2).SendCounts "http://webhook" .null start 1 := by
  have accepts : (processor 2).Accepts "http://webhook" .null := by
    unfold Accepts
    decide
  refine (sendCounts_iff (recovers 2 none .null)).mpr ⟨accepts, .inr ⟨by decide, fun j earlier => ?_⟩⟩
  obtain rfl : j = 0 := by omega
  exact id

/-- **One retry is no retry**: the endpoint is called once, and an error is counted. -/
theorem not_sendCounts_one : ¬ (processor 1).SendCounts "http://webhook" .null start 1 := by
  intro counted
  have counted : (processor 1).Sent "http://webhook" .null start 2 true := counted
  exact absurd (sent_le_tries counted) (by decide)

/-- With a space in the name of its header the webhook is not called at all. -/
example : (processor 2 (some "X Api")).Sent "http://webhook" .null start 0 false := by
  have refused : (processor 2 (some "X Api")).refuses
      ((processor 2 (some "X Api")).webhookRequest "http://webhook" .null) =
        some "Header name must be a valid HTTP token" := by decide
  exact sent_refused refused

end WebhookProcessor

end ValidatorEjector
