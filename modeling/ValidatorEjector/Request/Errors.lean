/-
**`lib/request` — errors of requests, and who tries again.**

The middleware `retry` and the fallback over endpoints each look at the class of an error. The error of a
response that is not ok is made from its body, and its making may fail.

* `Thrown` — an error, as far as the two tell errors apart.
* `isNotServerError`, `retries`, `isFallbackable` — the two classifiers; `retries_eq`, `isFallbackable_eq` —
  they agree.
* `CallError` — what a call fails with once it is sent.
* `HttpResponse`, `extractErrorBody`, `HttpException`, `safelyParseJsonResponse` — what an error is made of.
* `notOkError`, `clErrorMessage` — the two middlewares that make one.
* `notOkError_judged_iff`, `clErrorMessage_judged_iff`, `retryability_iff` — when its class is that of the
  status.
-/

import ValidatorEjector.Js.Json
import ValidatorEjector.Js.Text
import ValidatorEjector.Library.Program

namespace ValidatorEjector

open Js Library.Program

/-! ### Errors -/

/-- A thrown error. `HttpException` and `FetchError` are told by their class, the others by their name. -/
inductive Thrown
  | httpException (response : Json) (statusCode : Nat) (message : String)
  | fetchError (message : String)
  | error (name message : String)
  | aggregateError (causes : List Thrown) (message : String)

namespace Thrown

/-- The member `name`. -/
def name : Thrown → String
  | httpException .. => "HttpException"
  | fetchError _ => "FetchError"
  | error name _ => name
  | aggregateError .. => "AggregateError"

/-- The member `message`. -/
def message : Thrown → String
  | httpException _ _ message => message
  | fetchError message => message
  | error _ message => message
  | aggregateError _ message => message

end Thrown

namespace Request

def isRetryableHttpStatus (status : Nat) : Bool := 500 ≤ status || status = 408 || status = 429

def isNotServerError : Thrown → Bool
  | .httpException _ statusCode _ => !isRetryableHttpStatus statusCode
  | .fetchError _ => false
  | _ => true

/-- The second argument of `retry`. -/
structure RetryConfig where
  ignoreAbort : Bool := true
  sleep : Nat := 2000

/-- The two checks of `retry` that throw an error at once let this one through. -/
def retries (retryConfig : RetryConfig) (error : Thrown) : Bool :=
  if error.name = "AbortError" && !retryConfig.ignoreAbort then false
  else if isNotServerError error && error.name ≠ "AbortError" then false
  else true

/-- `isFallbackable`, of `lib/fallback`. -/
def isFallbackable : Thrown → Bool
  | .httpException _ statusCode _ => isRetryableHttpStatus statusCode
  | .fetchError _ => true
  | err => err.name = "AbortError"

/-! ### The two classifiers -/

/-- **An error that is worth another try**: a status that may pass, the network, or a timeout. -/
def Retryable : Thrown → Prop
  | .httpException _ statusCode _ => 500 ≤ statusCode ∨ statusCode = 408 ∨ statusCode = 429
  | .fetchError _ => True
  | .error name _ => name = "AbortError"
  | .aggregateError .. => False

instance : DecidablePred Retryable
  | .httpException .. => inferInstanceAs (Decidable (_ ∨ _))
  | .fetchError _ => inferInstanceAs (Decidable True)
  | .error .. => inferInstanceAs (Decidable (_ = _))
  | .aggregateError .. => inferInstanceAs (Decidable False)

theorem isRetryableHttpStatus_iff {status : Nat} :
    isRetryableHttpStatus status = true ↔ 500 ≤ status ∨ status = 408 ∨ status = 429 := by
  simp [isRetryableHttpStatus, or_assoc]

/-- A `TypeError` is worth no other try. -/
theorem not_retryable_typeError (message : String) : ¬ Retryable (.error "TypeError" message) := by
  simp [Retryable]

theorem isFallbackable_eq (err : Thrown) : isFallbackable err = decide (Retryable err) := by
  apply Bool.eq_iff_iff.mpr
  rw [decide_eq_true_eq]
  cases err with
  | httpException response statusCode message => exact isRetryableHttpStatus_iff
  | fetchError message => simp [isFallbackable, Retryable]
  | error name message => exact decide_eq_true_iff
  | aggregateError causes message => simp [isFallbackable, Retryable, Thrown.name]

/-- **Both classify alike**, as `retry` is configured. -/
theorem retries_eq (err : Thrown) : retries {} err = decide (Retryable err) := by
  apply Bool.eq_iff_iff.mpr
  rw [decide_eq_true_eq]
  cases err with
  | httpException response statusCode message =>
    simp [retries, isNotServerError, Retryable, Thrown.name, isRetryableHttpStatus_iff]
  | fetchError message => simp [retries, isNotServerError, Retryable, Thrown.name]
  | error name message =>
    by_cases aborted : name = "AbortError"
    · simp [retries, isNotServerError, Retryable, Thrown.name, aborted]
    · simp [retries, isNotServerError, Retryable, Thrown.name, aborted]
  | aggregateError causes message => simp [retries, isNotServerError, Retryable, Thrown.name]

/-! ### Responses -/

/-- What reading a body may fail with. -/
inductive NetworkError
  | fetchError (message : String)
  | abortError (message : String)

def NetworkError.thrown : NetworkError → Thrown
  | .fetchError message => .fetchError message
  | .abortError message => .error "AbortError" message

/-- What a call may fail with once it is sent: a redirect may lead where `fetch` does not go. -/
inductive CallError
  | network (cause : NetworkError)
  | typeError (message : String)

def CallError.thrown : CallError → Thrown
  | .network cause => cause.thrown
  | .typeError message => .error "TypeError" message

/-- A response: its status, and its body when it is read. -/
structure HttpResponse where
  status : Nat
  statusText : String
  body : Except NetworkError String

/-- `response.ok`. -/
def HttpResponse.ok (res : HttpResponse) : Bool := 200 ≤ res.status && res.status ≤ 299

/-- `extractErrorBody`: the JSON value of the body, or the text of the status. -/
def extractErrorBody (res : HttpResponse) : Json :=
  match res.body with
  | .ok text => (Json.parse text).getD (.string res.statusText)
  | .error _ => .string res.statusText

/-- The member `message` of a value, where it is a string. Only `null` has no members at all. -/
def messageOf : Json → Except Thrown (Option String)
  | .null => .error (.error "TypeError" "Cannot read properties of null (reading 'message')")
  | .object members =>
    match Json.member? members "message" with
    | some (.string message) => .ok (some message)
    | _ => .ok none
  | _ => .ok none

def httpExceptionMessage (response : Json) (status : Nat) : Except Thrown String :=
  match response with
  | .string response => .ok response
  | response => do
    let message ← messageOf response
    pure (message.getD s!"HTTP request failed with status {status}")

/-- `new HttpException(response, status)`. -/
def HttpException (response : Json) (status : Nat) : Except Thrown Thrown := do
  let message ← httpExceptionMessage response status
  pure (.httpException response status message)

def safelyParseJsonResponse (res : HttpResponse) : Except Thrown Json :=
  match res.body with
  | .error cause => .error cause.thrown
  | .ok text =>
    match Json.parse text with
    | some json => .ok json
    | none =>
      let isMarkup := (trim text.toList).head? = some '<'
      .error (.error "Error" (if isMarkup then
          "Received markup (HTML/XML) response instead of JSON. Status:"
        else "Invalid JSON response. Status:"))

/-! ### Middlewares -/

/-- The configuration of a request, as far as a middleware of the ejector changes or reads it. -/
structure InternalConfig where
  url : String
  attempt : Nat

abbrev Next (σ ρ : Type) := InternalConfig → EStateM Thrown σ ρ

abbrev Middleware (σ ρ : Type) := InternalConfig → Next σ ρ → EStateM Thrown σ ρ

/-- The error of `notOkError`. -/
def notOk (res : HttpResponse) : Thrown :=
  match HttpException (extractErrorBody res) res.status with
  | .ok exception => exception
  | .error failure => failure

def notOkError {σ : Type} : Middleware σ HttpResponse := fun config next => do
  let response ← next config
  if !response.ok then throw (notOk response)
  pure response

/-- The error of `clErrorMessage`. -/
def clError (res : HttpResponse) : Thrown :=
  let isRetryable := isRetryableHttpStatus res.status
  let finish (message : String) : Thrown :=
    if isRetryable then .httpException (.string message) res.status message
    else .error "Error" message
  match safelyParseJsonResponse res >>= messageOf with
  | .ok message => finish (message.getD s!"Consensus API request failed with status {res.status}")
  | .error error => if !isRetryable then error else finish error.message

def clErrorMessage {σ : Type} : Middleware σ HttpResponse := fun config next => do
  let res ← next config
  if !res.ok then throw (clError res)
  pure res

/-- `notOkError` lets through what is ok. -/
theorem notOkError_ok {σ : Type} {config : InternalConfig} {next : Next σ HttpResponse}
    {res : HttpResponse} {s s' : σ} :
    notOkError config next s = .ok res s' ↔ next config s = .ok res s' ∧ res.ok = true := by
  unfold notOkError
  rw [bind_ok]
  constructor
  · rintro ⟨response, t, responds, checked⟩
    cases good : response.ok with
    | true =>
      rw [good] at checked
      cases checked
      exact ⟨responds, good⟩
    | false =>
      rw [good] at checked
      cases checked
  · rintro ⟨responds, good⟩
    refine ⟨res, s', responds, ?_⟩
    rw [good]
    rfl

theorem safelyParseJsonResponse_ok {res : HttpResponse} {json : Json} :
    safelyParseJsonResponse res = .ok json ↔ ∃ text, res.body = .ok text ∧ Json.parse text = some json := by
  unfold safelyParseJsonResponse
  cases res.body with
  | error cause => simp
  | ok text =>
    cases parsed : Json.parse text with
    | none => simp [parsed]
    | some json' => simp [parsed]

/-- The network and a timeout are worth another try. -/
theorem NetworkError.retryable_thrown (cause : NetworkError) : Retryable cause.thrown := by
  cases cause with
  | fetchError message => trivial
  | abortError message => rfl

/-! ### The class of an error and the status -/

/-- Both classifiers take the error as the status says. -/
def Judged (status : Nat) (error : Thrown) : Prop :=
  retries {} error = isRetryableHttpStatus status ∧ isFallbackable error = isRetryableHttpStatus status

section Judge

variable {res : HttpResponse} {σ : Type} {config : InternalConfig} {next : Next σ HttpResponse} {s s' : σ}

theorem judged_iff {status : Nat} {error : Thrown} :
    Judged status error ↔ (Retryable error ↔ isRetryableHttpStatus status = true) := by
  unfold Judged
  rw [retries_eq, isFallbackable_eq, and_self, Bool.eq_iff_iff, decide_eq_true_eq]

theorem retryable_httpException {response : Json} {status : Nat} {message : String} :
    Retryable (.httpException response status message) ↔ isRetryableHttpStatus status = true :=
  isRetryableHttpStatus_iff.symm

theorem messageOf_object (members : List (String × Json)) :
    ∃ message, messageOf (.object members) = .ok message := by
  unfold messageOf
  dsimp only
  split
  · exact ⟨_, rfl⟩
  · exact ⟨_, rfl⟩

/-- Reading the message of a value fails with a `TypeError`, and only on `null`. -/
theorem messageOf_error {json : Json} {failure : Thrown} (failed : messageOf json = .error failure) :
    json = .null ∧ ¬ Retryable failure := by
  cases json with
  | null =>
    cases failed
    exact ⟨rfl, not_retryable_typeError _⟩
  | object members =>
    obtain ⟨message, read⟩ := messageOf_object members
    rw [read] at failed
    cases failed
  | bool value => cases failed
  | number value => cases failed
  | string value => cases failed
  | array elements => cases failed

/-- The body is the JSON value `null`. -/
def BodyNull (res : HttpResponse) : Prop := ∃ text, res.body = .ok text ∧ Json.parse text = some .null

theorem extractErrorBody_null : extractErrorBody res = .null ↔ BodyNull res := by
  unfold extractErrorBody BodyNull
  cases res.body with
  | error cause => simp
  | ok text =>
    cases parsed : Json.parse text with
    | none => simp [parsed]
    | some json => simp [parsed]

/-- **The error of `notOkError`** is an `HttpException` with the status, but for the body `null`. -/
theorem notOk_eq (res : HttpResponse) : BodyNull res ∧ ¬ Retryable (notOk res) ∨
    ¬ BodyNull res ∧ ∃ response message, notOk res = .httpException response res.status message := by
  unfold notOk HttpException httpExceptionMessage
  rw [← extractErrorBody_null]
  cases body : extractErrorBody res with
  | null => exact .inl ⟨rfl, not_retryable_typeError _⟩
  | string response => exact .inr ⟨by simp, _, _, rfl⟩
  | object members =>
    obtain ⟨message, read⟩ := messageOf_object members
    refine .inr ⟨by simp, .object members,
      message.getD s!"HTTP request failed with status {res.status}", ?_⟩
    dsimp only
    rw [read]
    rfl
  | bool value => exact .inr ⟨by simp, _, _, rfl⟩
  | number value => exact .inr ⟨by simp, _, _, rfl⟩
  | array elements => exact .inr ⟨by simp, _, _, rfl⟩

theorem notOk_judged_iff : Judged res.status (notOk res) ↔
    ¬ (isRetryableHttpStatus res.status = true ∧ BodyNull res) := by
  rw [judged_iff]
  rcases notOk_eq res with ⟨null, terminal⟩ | ⟨other, response, message, made⟩
  · simp [null, terminal]
  · rw [made, retryable_httpException]
    simp [other]

/-- **The error of `clErrorMessage`**: an `HttpException` with a status that may pass, else the error that
reading the body failed with, or one that is not worth another try. -/
theorem clError_eq (res : HttpResponse) : isRetryableHttpStatus res.status = true ∧
      (∃ response message, clError res = .httpException response res.status message) ∨
    isRetryableHttpStatus res.status = false ∧
      ((∃ cause, res.body = .error cause ∧ clError res = cause.thrown) ∨
        (∃ text, res.body = .ok text) ∧ ¬ Retryable (clError res)) := by
  unfold clError
  cases status : isRetryableHttpStatus res.status with
  | true =>
    refine .inl ⟨rfl, ?_⟩
    cases safelyParseJsonResponse res >>= messageOf with
    | ok message => exact ⟨_, _, rfl⟩
    | error error => exact ⟨_, _, rfl⟩
  | false =>
    refine .inr ⟨rfl, ?_⟩
    unfold safelyParseJsonResponse
    cases res.body with
    | error cause => exact .inl ⟨cause, rfl, rfl⟩
    | ok text =>
      refine .inr ⟨⟨text, rfl⟩, ?_⟩
      cases parsed : Json.parse text with
      | none => simp [parsed, Retryable, bind, Except.bind]
      | some json =>
        cases read : messageOf json with
        | ok message => simp [parsed, Retryable, bind, Except.bind, read]
        | error failure =>
          have terminal := (messageOf_error read).2
          simpa [parsed, bind, Except.bind, read] using terminal

theorem clError_judged_iff : Judged res.status (clError res) ↔
    ¬ (isRetryableHttpStatus res.status = false ∧ ∃ cause, res.body = .error cause) := by
  rw [judged_iff]
  rcases clError_eq res with ⟨status, response, message, made⟩ |
    ⟨status, ⟨cause, failed, made⟩ | ⟨⟨text, read⟩, terminal⟩⟩
  · rw [made, retryable_httpException]
    simp [status]
  · rw [made]
    simp [status, failed, cause.retryable_thrown]
  · simp [status, read, terminal]

theorem notOkError_run (responds : next config s = .ok res s') (bad : res.ok = false) :
    notOkError config next s = .error (notOk res) s' := by
  unfold notOkError
  rw [bind_of_ok responds, bad]
  rfl

theorem clErrorMessage_run (responds : next config s = .ok res s') (bad : res.ok = false) :
    clErrorMessage config next s = .error (clError res) s' := by
  unfold clErrorMessage
  rw [bind_of_ok responds, bad]
  rfl

/-- **When retrying depends on the status only.** The error that `notOkError` throws for a response that is
not ok is taken as its status says by both classifiers, unless the status may pass and the body is `null`;
the error that `clErrorMessage` throws, unless the status may not pass and the body cannot be read. -/
theorem retryability_iff (responds : next config s = .ok res s') (bad : res.ok = false) :
    ((∃ error, notOkError config next s = .error error s' ∧ Judged res.status error) ↔
      ¬ (isRetryableHttpStatus res.status = true ∧ BodyNull res)) ∧
    ((∃ error, clErrorMessage config next s = .error error s' ∧ Judged res.status error) ↔
      ¬ (isRetryableHttpStatus res.status = false ∧ ∃ cause, res.body = .error cause)) := by
  rw [notOkError_run responds bad, clErrorMessage_run responds bad, ← notOk_judged_iff,
    ← clError_judged_iff]
  simp

end Judge

/-! ### Samples -/

/-- A server that is down, and says so in plain text. -/
def busy : HttpResponse := ⟨503, "Service Unavailable", .ok "busy"⟩

/-- A server that is down, with the body `null`. -/
def nullBody : HttpResponse := ⟨503, "Service Unavailable", .ok "null"⟩

/-- A missing page whose body breaks off. -/
def brokenBody : HttpResponse := ⟨404, "Not Found", .error (.fetchError "Premature close")⟩

theorem retryability_busy : ∃ error : Thrown,
    notOkError ⟨"http://node", 1⟩ (fun _ => pure busy) () = .error error () ∧ Judged 503 error := by
  have responds : (fun _ => pure busy : Next Unit HttpResponse) ⟨"http://node", 1⟩ () = .ok busy () := rfl
  have bad : busy.ok = false := by decide
  refine (retryability_iff responds bad).1.mpr ?_
  rintro ⟨-, text, body, parsed⟩
  cases body
  have unparsed : (Json.parse "busy").isNone = true := by decide +kernel
  rw [parsed] at unparsed
  cases unparsed

/-- **A server error that is terminal, and a missing page that is not.** -/
theorem retryability_fails :
    ¬ Judged nullBody.status (notOk nullBody) ∧ ¬ Judged brokenBody.status (clError brokenBody) := by
  rw [notOk_judged_iff, clError_judged_iff, not_not, not_not]
  exact ⟨⟨by decide, "null", rfl, rfl⟩, by decide, _, rfl⟩

end Request

end ValidatorEjector
