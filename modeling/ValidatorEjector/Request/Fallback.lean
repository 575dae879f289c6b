/-
**`retry` under `makeFallback` — which endpoints a request tries, and how often.**

A loop over the attempts at one endpoint runs inside a loop over the endpoints, and each decides by the
class of the error whether to go on.

* `chain`, `makeRequest` — middlewares around a call; `retry`, `makeFallback` — the two loops; `iterateAll` —
  every endpoint on its own.
* `attempt` — a call whose outcomes are given, with the list of the endpoints it went to.
* `stopAt` — the first attempt that need not be made again; `retry_run`, `fallbackLoop_run` — how far the
  loops get.
* `makeFallback_retry` — the whole request.
-/

import ValidatorEjector.Request.Errors

namespace ValidatorEjector

open Library.Program

namespace Request

section Loops

variable {σ ρ : Type}

/-! ### Middlewares and loops -/

/-- The `chain` of `makeRequest`. -/
def chain (fetchCall : Next σ ρ) : List (Middleware σ ρ) → Next σ ρ
  | [] => fetchCall
  | middleware :: rest => fun config => middleware config (chain fetchCall rest)

def makeRequest (fetchCall : Next σ ρ) (middlewares : List (Middleware σ ρ)) (url : String) :
    EStateM Thrown σ ρ := chain fetchCall middlewares ⟨url, 0⟩

/-- The `loop` of `retry`. The pause between two attempts changes nothing. -/
def retryLoop (maxTries : Nat) (retryConfig : RetryConfig) (next : Next σ ρ) (config : InternalConfig) :
    EStateM Thrown σ ρ :=
  tryCatch (next { config with attempt := config.attempt + 1 }) fun error =>
    if !retries retryConfig error then throw error
    else if maxTries ≤ config.attempt + 1 then throw error
    else retryLoop maxTries retryConfig next { config with attempt := config.attempt + 1 }
termination_by maxTries - config.attempt

def retry (maxTries : Nat := 3) (retryConfig : RetryConfig := {}) : Middleware σ ρ := fun config next =>
  retryLoop maxTries retryConfig next config

/-- **An error that is worth no other try** ends the loop at once. -/
theorem retryLoop_final {maxTries : Nat} {next : Next σ ρ} {config : InternalConfig} {s s' : σ} {error : Thrown}
    (failed : next { config with attempt := config.attempt + 1 } s = .error error s')
    (final : ¬ Retryable error) : retryLoop maxTries {} next config s = .error error s' := by
  rw [retryLoop, tryCatch_of_error failed, retries_eq, decide_eq_false final]
  rfl

/-- The loop of `makeFallback` over the endpoints that are left, with the causes so far. -/
def fallbackLoop (message : String) (op : String → EStateM Thrown σ ρ) :
    List String → List Thrown → EStateM Thrown σ ρ
  | [], causes => throw (.aggregateError causes message)
  | url :: urls, causes =>
    tryCatch (op url) fun err =>
      if !isFallbackable err then throw err
      else fallbackLoop message op urls (causes ++ [err])

def makeFallback (urls : List String) (label : String) (op : String → EStateM Thrown σ ρ) :
    EStateM Thrown σ ρ :=
  if urls.length = 0 then throw (.error "Error" s!"makeFallback: {label} urls list is empty")
  else fallbackLoop s!"{label} fallback failed at all {urls.length} endpoints" op urls []

/-- What `iterateAll` keeps of an endpoint: the value, or the error. -/
structure Settled (α : Type) where
  url : String
  idx : Nat
  outcome : Except Thrown α

/-- How an operation on its own ends. -/
def settled {α : Type} (x : EStateM Thrown Unit α) : Except Thrown α :=
  match x () with
  | .ok value _ => .ok value
  | .error err _ => .error err

/-- `iterateAll`. The operations run side by side, each with nothing of the others. -/
def iterateAll {α : Type} (urls : List String) (op : String → Nat → EStateM Thrown Unit α) :
    Except Thrown (List (Settled α)) :=
  if urls.length = 0 then .error (.error "Error" "iterateAll: urls list is empty")
  else .ok (urls.mapIdx fun idx url => { url, idx, outcome := settled (op url idx) })

theorem settled_ok {α : Type} {x : EStateM Thrown Unit α} {value : α} :
    settled x = .ok value ↔ x () = .ok value () := by
  unfold settled
  cases x () with
  | ok value' s => simp
  | error err s => simp

/-- What `iterateAll` keeps: how the operation on each endpoint ends. -/
theorem iterateAll_ok {α : Type} {urls : List String} {op : String → Nat → EStateM Thrown Unit α}
    {results : List (Settled α)} (kept : iterateAll urls op = .ok results) : urls ≠ [] ∧
      results.length = urls.length ∧ ∀ r, r ∈ results ↔
        ∃ i url, urls[i]? = some url ∧ r = ⟨url, i, settled (op url i)⟩ := by
  unfold iterateAll at kept
  split_ifs at kept with empty
  cases kept
  refine ⟨fun nil => empty (List.length_eq_zero_iff.mpr nil), List.length_mapIdx, fun r => ?_⟩
  rw [List.mem_mapIdx]
  constructor
  · rintro ⟨i, bound, rfl⟩
    exact ⟨i, urls[i], List.getElem?_eq_getElem bound, rfl⟩
  · rintro ⟨i, url, here, rfl⟩
    obtain ⟨bound, rfl⟩ := List.getElem?_eq_some_iff.mp here
    exact ⟨i, bound, rfl⟩

end Loops

/-! ### Attempts -/

section Attempts

variable {ρ : Type} (outcomes : Nat → Except Thrown ρ)

/-- The end of a request: the endpoints it went to, with its outcome. -/
def settle (visited : List String) : Except Thrown ρ → EStateM.Result Thrown (List String) ρ
  | .ok value => .ok value visited
  | .error error => .error error visited

/-- **An attempt**: the outcome is the next one of the sequence. The state lists the endpoints. -/
def attempt : Next (List String) ρ := fun config visited =>
  settle (visited ++ [config.url]) (outcomes visited.length)

/-- The attempt fails, and is worth another try. -/
def again (k : Nat) : Bool :=
  match outcomes k with
  | .ok _ => false
  | .error error => decide (Retryable error)

/-- The first of a number of attempts that need not be made again. -/
def stopAt (k limit : Nat) : Option Nat := (List.range' k limit).find? fun j => !again outcomes j

/-- The last attempt that is made. -/
def lastAttempt (k limit : Nat) : Nat := (stopAt outcomes k limit).getD (k + limit - 1)

variable {outcomes} {k limit n : Nat}

theorem again_iff : again outcomes k = true ↔ ∃ error, outcomes k = .error error ∧ Retryable error := by
  unfold again
  cases outcomes k with
  | ok value => simp
  | error error => simp

theorem stopAt_eq_none : stopAt outcomes k limit = none ↔
    ∀ j, k ≤ j → j < k + limit → again outcomes j = true := by
  unfold stopAt
  rw [List.find?_range'_eq_none]
  simp

theorem stopAt_eq_some {j : Nat} : stopAt outcomes k limit = some j ↔
    again outcomes j = false ∧ (k ≤ j ∧ j < k + limit) ∧ ∀ i, k ≤ i → i < j → again outcomes i = true := by
  unfold stopAt
  rw [List.find?_range'_eq_some, List.mem_range'_1]
  simp

/-- The attempts at an endpoint come before those at the next ones. -/
theorem stopAt_add (k a b : Nat) : stopAt outcomes k (a + b) =
    (stopAt outcomes k a).or (stopAt outcomes (k + a) b) := by
  unfold stopAt
  rw [← List.find?_append, List.range'_append_1]

theorem stopAt_succ (k limit : Nat) : stopAt outcomes k (limit + 1) =
    if again outcomes k then stopAt outcomes (k + 1) limit else some k := by
  unfold stopAt
  rw [List.range'_succ, List.find?_cons]
  cases again outcomes k with
  | true => rfl
  | false => rfl

theorem lastAttempt_again (more : again outcomes k = true) (limit : Nat) :
    lastAttempt outcomes k (limit + 2) = lastAttempt outcomes (k + 1) (limit + 1) := by
  unfold lastAttempt
  rw [stopAt_succ, more, if_pos rfl]
  congr 1
  omega

theorem lastAttempt_bounds (k limit : Nat) :
    k ≤ lastAttempt outcomes k (limit + 1) ∧ lastAttempt outcomes k (limit + 1) < k + (limit + 1) := by
  unfold lastAttempt
  cases stop : stopAt outcomes k (limit + 1) with
  | none =>
    rw [Option.getD_none]
    omega
  | some j => exact (stopAt_eq_some.mp stop).2.1

end Attempts

/-! ### One endpoint -/

section Retry

variable {ρ : Type} {outcomes : Nat → Except Thrown ρ} {url : String}

theorem retryLoop_ok {maxTries : Nat} {config : InternalConfig} {visited : List String} {value : ρ}
    (done : outcomes visited.length = .ok value) :
    retryLoop maxTries {} (attempt outcomes) config visited = .ok value (visited ++ [config.url]) := by
  rw [retryLoop]
  refine tryCatch_of_ok ?_
  unfold attempt
  rw [done]
  rfl

theorem retryLoop_error {maxTries : Nat} {config : InternalConfig} {visited : List String} {error : Thrown}
    (failed : outcomes visited.length = .error error) :
    retryLoop maxTries {} (attempt outcomes) config visited =
      if Retryable error ∧ config.attempt + 1 < maxTries then
        retryLoop maxTries {} (attempt outcomes) { config with attempt := config.attempt + 1 }
          (visited ++ [config.url])
      else .error error (visited ++ [config.url]) := by
  have run : attempt outcomes { config with attempt := config.attempt + 1 } visited =
      .error error (visited ++ [config.url]) := by
    unfold attempt
    rw [failed]
    rfl
  rw [retryLoop, tryCatch_of_error run, retries_eq]
  by_cases worth : Retryable error
  · by_cases exhausted : maxTries ≤ config.attempt + 1
    · simp [worth, exhausted, Nat.not_lt.mpr exhausted]
    · simp [worth, exhausted, Nat.not_le.mp exhausted]
  · simp [worth]

/-- **The attempts at one endpoint**: as many as are left, or up to the first that need not be made
again. -/
theorem retryLoop_run {maxTries : Nat} : ∀ (left tried : Nat) (visited : List String),
    tried + (left + 1) = maxTries →
    retryLoop maxTries {} (attempt outcomes) ⟨url, tried⟩ visited =
      settle (visited ++ List.replicate
          (lastAttempt outcomes visited.length (left + 1) + 1 - visited.length) url)
        (outcomes (lastAttempt outcomes visited.length (left + 1))) := by
  intro left
  induction left with
  | zero =>
    intro tried visited total
    have last : lastAttempt outcomes visited.length 1 = visited.length := by
      have bounds : _ ∧ lastAttempt outcomes visited.length 1 < visited.length + 1 :=
        lastAttempt_bounds visited.length 0
      have start : visited.length ≤ lastAttempt outcomes visited.length 1 := bounds.1
      omega
    rw [last, Nat.add_sub_cancel_left]
    cases outcome : outcomes visited.length with
    | ok value => exact retryLoop_ok outcome
    | error error =>
      have exhausted : ¬ tried + 1 < maxTries := by omega
      rw [retryLoop_error outcome, if_neg fun both => exhausted both.2]
      rfl
  | succ left ih =>
    intro tried visited total
    cases more : again outcomes visited.length with
    | false =>
      have last : lastAttempt outcomes visited.length (left + 2) = visited.length := by
        unfold lastAttempt
        rw [stopAt_succ, more]
        rfl
      rw [last, Nat.add_sub_cancel_left]
      cases outcome : outcomes visited.length with
      | ok value => exact retryLoop_ok outcome
      | error error =>
        have terminal : ¬ Retryable error := by
          intro worth
          rw [again_iff.mpr ⟨error, outcome, worth⟩] at more
          cases more
        rw [retryLoop_error outcome, if_neg fun both => terminal both.1]
        rfl
    | true =>
      obtain ⟨error, outcome, worth⟩ := again_iff.mp more
      have start : visited.length + 1 ≤ lastAttempt outcomes (visited.length + 1) (left + 1) :=
        (lastAttempt_bounds (visited.length + 1) left).1
      have remains : tried + 1 < maxTries := by omega
      have length : (visited ++ [url]).length = visited.length + 1 := List.length_append
      rw [retryLoop_error outcome, if_pos ⟨worth, remains⟩]
      show retryLoop maxTries {} (attempt outcomes) ⟨url, tried + 1⟩ (visited ++ [url]) = _
      rw [ih (tried + 1) (visited ++ [url]) (by omega), length, lastAttempt_again more, List.append_assoc,
        List.singleton_append, ← List.replicate_succ]
      congr 3
      omega

end Retry

/-! ### All endpoints -/

section Endpoints

variable {ρ : Type} (outcomes : Nat → Except Thrown ρ) (n : Nat)

/-- A request with `retry(n)` as its outermost middleware. -/
def request (url : String) : EStateM Thrown (List String) ρ := makeRequest (attempt outcomes) [retry n] url

/-- **The plan of a request**: every endpoint as often as it may be tried, in order. -/
def plan (urls : List String) : List String := urls.flatMap (List.replicate n)

variable {outcomes n} {urls : List String} {url : String} {visited : List String}

theorem plan_cons : plan n (url :: urls) = List.replicate n url ++ plan n urls := rfl

@[simp] theorem length_plan : (plan n urls).length = n * urls.length := by
  unfold plan
  induction urls with
  | nil => rfl
  | cons url urls ih =>
    rw [List.flatMap_cons, List.length_append, ih, List.length_replicate, List.length_cons, Nat.mul_succ,
      Nat.add_comm]

/-- A request to one endpoint that need not be made again. -/
theorem request_of_some (url : String) (pos : 1 ≤ n) {j : Nat}
    (stop : stopAt outcomes visited.length n = some j) :
    request outcomes n url visited =
      settle (visited ++ List.replicate (j + 1 - visited.length) url) (outcomes j) := by
  have total : 0 + (n - 1 + 1) = n := by omega
  have run : retryLoop n {} (attempt outcomes) ⟨url, 0⟩ visited = _ := retryLoop_run (n - 1) 0 visited total
  rw [show n - 1 + 1 = n by omega] at run
  have last : lastAttempt outcomes visited.length n = j := by
    unfold lastAttempt
    rw [stop]
    rfl
  rw [last] at run
  exact run

/-- A request to one endpoint that fails to the end. -/
theorem request_of_none (url : String) (pos : 1 ≤ n) (stop : stopAt outcomes visited.length n = none) : ∃ error,
    outcomes (visited.length + (n - 1)) = .error error ∧ Retryable error ∧
      request outcomes n url visited = .error error (visited ++ List.replicate n url) := by
  have total : 0 + (n - 1 + 1) = n := by omega
  have run : retryLoop n {} (attempt outcomes) ⟨url, 0⟩ visited = _ := retryLoop_run (n - 1) 0 visited total
  rw [show n - 1 + 1 = n by omega] at run
  have last : lastAttempt outcomes visited.length n = visited.length + (n - 1) := by
    unfold lastAttempt
    rw [stop, Option.getD_none]
    omega
  obtain ⟨error, outcome, worth⟩ := again_iff.mp
    (stopAt_eq_none.mp stop (visited.length + (n - 1)) (by omega) (by omega))
  rw [last, outcome, show visited.length + (n - 1) + 1 - visited.length = n by omega] at run
  exact ⟨error, outcome, worth, run⟩

/-- **The loop over the endpoints** ends with the first attempt that need not be made again, or with the
last failure of every endpoint. -/
theorem fallbackLoop_run (outcomes : Nat → Except Thrown ρ) (pos : 1 ≤ n) (message : String) :
    ∀ (urls : List String) (causes : List Thrown) (visited : List String),
      (∃ j, stopAt outcomes visited.length (n * urls.length) = some j ∧
        fallbackLoop message (request outcomes n) urls causes visited =
          settle (visited ++ (plan n urls).take (j + 1 - visited.length)) (outcomes j)) ∨
      (stopAt outcomes visited.length (n * urls.length) = none ∧ ∃ more : List Thrown,
        more.length = urls.length ∧
        (∀ i cause, more[i]? = some cause → outcomes (visited.length + n * i + (n - 1)) = .error cause) ∧
        fallbackLoop message (request outcomes n) urls causes visited =
          .error (.aggregateError (causes ++ more) message) (visited ++ plan n urls)) := by
  intro urls
  induction urls with
  | nil =>
    intro causes visited
    refine .inr ⟨rfl, [], rfl, fun i cause found => (by cases found), ?_⟩
    rw [List.append_nil, show plan n [] = [] from rfl, List.append_nil]
    rfl
  | cons url urls ih =>
    intro causes visited
    rw [List.length_cons, Nat.mul_succ, Nat.add_comm (n * urls.length), stopAt_add]
    cases here : stopAt outcomes visited.length n with
    | some j =>
      refine .inl ⟨j, rfl, ?_⟩
      obtain ⟨final, bounds, -⟩ := stopAt_eq_some.mp here
      have run := request_of_some url pos here
      have path : (plan n (url :: urls)).take (j + 1 - visited.length) =
          List.replicate (j + 1 - visited.length) url := by
        rw [plan_cons, List.take_append_of_le_length (by rw [List.length_replicate]; omega),
          List.take_replicate, Nat.min_eq_left (by omega)]
      rw [path]
      unfold fallbackLoop
      cases outcome : outcomes j with
      | ok value =>
        rw [outcome] at run
        exact tryCatch_of_ok run
      | error error =>
        rw [outcome] at run
        have terminal : ¬ Retryable error := by
          intro worth
          rw [again_iff.mpr ⟨error, outcome, worth⟩] at final
          cases final
        refine (tryCatch_of_error run).trans ?_
        rw [isFallbackable_eq, decide_eq_false terminal]
        rfl
    | none =>
      obtain ⟨error, outcome, worth, run⟩ := request_of_none url pos here
      have length : (visited ++ List.replicate n url).length = visited.length + n := by
        rw [List.length_append, List.length_replicate]
      have step : fallbackLoop message (request outcomes n) (url :: urls) causes visited =
          fallbackLoop message (request outcomes n) urls (causes ++ [error])
            (visited ++ List.replicate n url) := by
        rw [fallbackLoop]
        refine (tryCatch_of_error run).trans ?_
        rw [isFallbackable_eq, decide_eq_true worth]
        rfl
      rw [step, Option.none_or]
      rcases ih (causes ++ [error]) (visited ++ List.replicate n url) with
        ⟨j, stop, ends⟩ | ⟨stop, more, count, last, ends⟩
      · rw [length] at stop ends
        refine .inl ⟨j, stop, ?_⟩
        have bounds := (stopAt_eq_some.mp stop).2.1
        have path : (plan n (url :: urls)).take (j + 1 - visited.length) =
            List.replicate n url ++ (plan n urls).take (j + 1 - (visited.length + n)) := by
          rw [plan_cons, List.take_append, List.length_replicate,
            List.take_of_length_le (by rw [List.length_replicate]; omega), Nat.sub_sub]
        rw [ends, path, List.append_assoc]
      · rw [length] at stop last
        refine .inr ⟨stop, error :: more, by rw [List.length_cons, count], fun i cause found => ?_, ?_⟩
        · cases i with
          | zero =>
            cases found
            exact outcome
          | succ i =>
            rw [show visited.length + n * (i + 1) + (n - 1) = visited.length + n + n * i + (n - 1) by
              rw [Nat.mul_succ]; omega]
            exact last i cause found
        · rw [ends, plan_cons, List.append_assoc, List.append_assoc]
          rfl

/-- **A request over several endpoints.** It goes along the plan, so to each endpoint in order and at most
`n` times, and further only after a failure that is worth another try. It ends with the first other
outcome, as it is, or, when the whole plan has failed, with an error that has the last failure of each
endpoint as its causes. -/
theorem makeFallback_retry (outcomes : Nat → Except Thrown ρ) (pos : 1 ≤ n) (nonempty : urls ≠ [])
    (label : String) :
    ∃ visited, visited <+: plan n urls ∧ visited.length ≤ n * urls.length ∧
      (∀ j, j + 1 < visited.length → ∃ error, outcomes j = .error error ∧ Retryable error) ∧
      ((∃ k, visited.length = k + 1 ∧ (∀ error, outcomes k = .error error → ¬ Retryable error) ∧
          makeFallback urls label (request outcomes n) [] = settle visited (outcomes k)) ∨
        (visited = plan n urls ∧
          (∀ j, j < n * urls.length → ∃ error, outcomes j = .error error ∧ Retryable error) ∧
          ∃ causes : List Thrown, causes.length = urls.length ∧
            (∀ i cause, causes[i]? = some cause → outcomes (n * i + (n - 1)) = .error cause) ∧
            makeFallback urls label (request outcomes n) [] = .error (.aggregateError causes
              s!"{label} fallback failed at all {urls.length} endpoints") visited)) := by
  have some : urls.length ≠ 0 := fun zero => nonempty (List.length_eq_zero_iff.mp zero)
  unfold makeFallback
  rw [if_neg some]
  rcases fallbackLoop_run outcomes pos
    s!"{label} fallback failed at all {urls.length} endpoints" urls [] [] with
    ⟨k, stop, ends⟩ | ⟨stop, causes, count, last, ends⟩
  · obtain ⟨final, bounds, before⟩ := stopAt_eq_some.mp stop
    have bound : k < n * urls.length := by
      have upper := bounds.2
      simp only [List.length_nil] at upper
      omega
    have length : ((plan n urls).take (k + 1)).length = k + 1 := by
      rw [List.length_take, length_plan]
      omega
    refine ⟨(plan n urls).take (k + 1), List.take_prefix _ _, by rw [length]; exact bound, ?_,
      .inl ⟨k, length, ?_, ends⟩⟩
    · intro j earlier
      rw [length] at earlier
      exact again_iff.mp (before j (Nat.zero_le j) (by omega))
    · intro error outcome worth
      rw [again_iff.mpr ⟨error, outcome, worth⟩] at final
      cases final
  · have all (j : Nat) (inside : j < n * urls.length) :
        ∃ error, outcomes j = .error error ∧ Retryable error :=
      again_iff.mp (stopAt_eq_none.mp stop j (Nat.zero_le j) (by simpa using inside))
    refine ⟨plan n urls, List.prefix_rfl, le_of_eq length_plan, fun j earlier => ?_,
      .inr ⟨rfl, all, causes, count, fun i cause found => ?_, ends⟩⟩
    · rw [length_plan] at earlier
      exact all j (by omega)
    · have outcome := last i cause found
      rw [List.length_nil, Nat.zero_add] at outcome
      exact outcome

end Endpoints

/-! ### A sample -/

/-- The first endpoint times out twice; the second is down, and answers then. -/
def flakyOutcomes (k : Nat) : Except Thrown String :=
  if k < 2 then .error (.error "AbortError" "The operation was aborted.")
  else if k = 2 then .error (.httpException (.string "busy") 503 "busy")
  else .ok "0x1"

theorem makeFallback_flaky : ∃ visited, visited <+: plan 2 ["http://a", "http://b"] ∧
    visited.length ≤ 2 * 2 ∧
    (∀ j, j + 1 < visited.length → ∃ error, flakyOutcomes j = .error error ∧ Retryable error) := by
  have both : ["http://a", "http://b"] ≠ [] := by decide
  have pos : 1 ≤ 2 := by decide
  obtain ⟨visited, along, bound, failed, -⟩ :=
    makeFallback_retry flakyOutcomes pos both "EL"
  exact ⟨visited, along, bound, failed⟩

end Request

end ValidatorEjector
