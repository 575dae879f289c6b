/-
**`broadcastAll` — an operation at every endpoint at once.**

The operations run side by side. Which of them is answered next is up to the network, so what is shown holds
however their calls interleave.

* `Operation`, `retrying` — the loop of `retry`, a try at a time; `retrying_alone` — on its own it is the loop.
* `allSettled`, `broadcastAll` — the operations until all are settled.
* `Underway` — where an operation is, by its own calls; `turn_underway` — a try keeps it.
* `broadcastAll_wire` — every endpoint is tried as it would be on its own, and one that accepts is enough.
-/

import ValidatorEjector.Library.Pool
import ValidatorEjector.Request.Wire

namespace ValidatorEjector

open Js Library Library.Program

namespace Request

/-! ### Operations -/

/-- An operation with `retry`, between two tries: what it asks for, and how far it is. -/
structure Operation (ι α : Type) where
  init : ι
  config : InternalConfig
  outcome : Option (Except Thrown α)

section Operations

variable {σ ι α : Type}

/-- An operation at a URL, before its first try. -/
def Operation.start (init : ι) (url : String) : Operation ι α := ⟨init, ⟨url, 0⟩, none⟩

/-- The operation after a try. -/
def Operation.tried (maxTries : Nat) (retryConfig : RetryConfig) (init : ι) (config : InternalConfig) :
    Except Thrown α → Operation ι α
  | .ok response => ⟨init, config, some (.ok response)⟩
  | .error error =>
    if !retries retryConfig error then ⟨init, config, some (.error error)⟩
    else if maxTries ≤ config.attempt then ⟨init, config, some (.error error)⟩
    else ⟨init, config, none⟩

/-- The tries an operation has left. -/
def Operation.left (maxTries : Nat) (operation : Operation ι α) : Nat :=
  match operation.outcome with
  | none => max 1 (maxTries - operation.config.attempt)
  | some _ => 0

/-- One try. -/
def Operation.turn (maxTries : Nat) (retryConfig : RetryConfig) (next : ι → Next σ α)
    (operation : Operation ι α) (s : σ) : Operation ι α × σ :=
  let config := { operation.config with attempt := operation.config.attempt + 1 }
  match next operation.init config s with
  | .ok response s => (.tried maxTries retryConfig operation.init config (.ok response), s)
  | .error error s => (.tried maxTries retryConfig operation.init config (.error error), s)

/-- A try leaves fewer. -/
theorem Operation.left_tried {maxTries : Nat} {retryConfig : RetryConfig} {operation : Operation ι α}
    (unsettled : 0 < operation.left maxTries) (outcome : Except Thrown α) :
    (Operation.tried maxTries retryConfig operation.init
      { operation.config with attempt := operation.config.attempt + 1 } outcome).left maxTries
        < operation.left maxTries := by
  obtain ⟨init, config, settled⟩ := operation
  cases settled with
  | some _ => exact absurd unsettled (Nat.lt_irrefl 0)
  | none =>
    cases outcome with
    | ok response => exact unsettled
    | error error =>
      unfold tried
      dsimp only
      cases retries retryConfig error with
      | false => exact unsettled
      | true =>
        by_cases last : maxTries ≤ config.attempt + 1
        · rw [if_neg (by decide), if_pos last]
          exact unsettled
        · rw [if_neg (by decide), if_neg last]
          show max 1 (maxTries - (config.attempt + 1)) < max 1 (maxTries - config.attempt)
          omega

/-- **The loop of `retry`**, a try at a time. -/
def retrying (maxTries : Nat) (retryConfig : RetryConfig) (next : ι → Next σ α) : Machine (Operation ι α) σ where
  turn := Operation.turn maxTries retryConfig next
  left := Operation.left maxTries
  turn_left operation s unsettled := by
    have fewer (outcome : Except Thrown α) :=
      @Operation.left_tried ι α maxTries retryConfig operation unsettled outcome
    unfold Operation.turn
    dsimp only
    split
    · exact fewer (.ok _)
    · exact fewer (.error _)

/-- **On its own it is the loop.** -/
theorem retrying_alone (maxTries : Nat) (retryConfig : RetryConfig) (next : ι → Next σ α) (init : ι) :
    ∀ (fuel : Nat) (config : InternalConfig) (s : σ), max 1 (maxTries - config.attempt) ≤ fuel →
      ∃ config' outcome s', retryLoop maxTries retryConfig (next init) config s = ends outcome s' ∧
        (retrying maxTries retryConfig next).settleFor (fun s => (0, s)) fuel [⟨init, config, none⟩] s =
          ([⟨init, config', some outcome⟩], s')
  | 0, config, s, enough => by omega
  | fuel + 1, config, s, enough => by
    have unsettled : (retrying maxTries retryConfig next).Unfinished (⟨init, config, none⟩ : Operation ι α) :=
      Nat.lt_of_lt_of_le Nat.zero_lt_one (Nat.le_max_left 1 _)
    have settled (config' : InternalConfig) (outcome : Except Thrown α) (s' : σ) :
        (retrying maxTries retryConfig next).settleFor (fun s => (0, s))
          fuel [⟨init, config', some outcome⟩] s' =
          ([⟨init, config', some outcome⟩], s') := by
      refine Machine.settleFor_finished (fun _ => rfl) (fun operation inside => ?_) fuel s'
      rw [List.mem_singleton.mp inside]
      exact Nat.lt_irrefl 0
    have turn : (retrying maxTries retryConfig next).turn (⟨init, config, none⟩ : Operation ι α) s =
        Operation.turn maxTries retryConfig next ⟨init, config, none⟩ s := rfl
    rw [Machine.settleFor_alone unsettled, turn]
    unfold retryLoop Operation.turn
    dsimp only
    cases ran : next init { config with attempt := config.attempt + 1 } s with
    | ok response s' => exact ⟨_, .ok response, s', tryCatch_of_ok ran, settled _ _ _⟩
    | error error s' =>
      rw [tryCatch_of_error ran]
      unfold Operation.tried
      dsimp only
      cases retries retryConfig error with
      | false => exact ⟨_, .error error, s', rfl, settled _ _ _⟩
      | true =>
        by_cases last : maxTries ≤ config.attempt + 1
        · rw [if_neg (by decide), if_pos last, if_neg (by decide), if_pos last]
          exact ⟨_, .error error, s', rfl, settled _ _ _⟩
        · rw [if_neg (by decide), if_neg last, if_neg (by decide), if_neg last]
          exact retrying_alone maxTries retryConfig next init fuel _ s' (by dsimp only; omega)

/-! ### Broadcasts -/

/-- `Promise.allSettled` of some operations, in an order that is picked as they run. -/
def allSettled (run : Machine (Operation ι α) σ) (pick : σ → Nat × σ) (operations : List (Operation ι α)) :
    EStateM Thrown σ (List (Except Thrown α)) := fun s =>
  let (settled, s) := run.settle pick operations s
  .ok (settled.filterMap Operation.outcome) s

/-- The reason an operation was rejected for. -/
def reason? : Except Thrown α → Option Thrown
  | .ok _ => none
  | .error err => some err

/-- `broadcastAll`. -/
def broadcastAll (run : Machine (Operation ι α) σ) (pick : σ → Nat × σ) (urls : List String)
    (op : String → Operation ι α) (label : String) : EStateM Thrown σ (List α) :=
  if urls.length = 0 then throw (.error "Error" s!"broadcastAll: {label} urls list is empty")
  else do
    let settled ← allSettled run pick (urls.map op)
    let succeeded := settled.filterMap Except.toOption
    let failed := settled.filterMap reason?
    if succeeded.length = 0 then
      throw (.aggregateError failed s!"{label} broadcast failed at all {urls.length} endpoints")
    else pure succeeded

end Operations

/-! ### On the wire -/

section Wires

variable {ν : Type} (network : Network ν)

/-- Which operation is answered next. -/
def pickOn : Wire ν → Nat × Wire ν := fun wire =>
  let (picked, after) := network.next wire.network
  (picked, ⟨after, wire.calls⟩)

/-- The client of the consensus nodes, a try at a time. -/
def consensusRetrying (own : Middleware (Wire ν) HttpResponse) :
    Machine (Operation RequestInit HttpResponse) (Wire ν) :=
  retrying 3 {} fun init => chain (fetchCall network init) ([logger, prom, abort] ++ [own])

/-- On its own it is a request of that client. -/
theorem consensusRetrying_alone (init : RequestInit) (own : Middleware (Wire ν) HttpResponse) (url : String)
    (s : Wire ν) : ∃ config outcome s', consensusHttp network init own url s = ends outcome s' ∧
      (consensusRetrying network own).settle (fun s => (0, s)) [Operation.start init url] s =
        ([⟨init, config, some outcome⟩], s') := by
  let next (init : RequestInit) := chain (fetchCall network init) ([logger, prom, abort] ++ [own])
  obtain ⟨config, outcome, s', loop, alone⟩ := retrying_alone 3 {} next init 3 ⟨url, 0⟩ s (le_refl 3)
  exact ⟨config, outcome, s', loop, alone⟩

variable {network} {bad : HttpResponse → Thrown} {maxTries : Nat}

/-- What an operation asks for: a request at a URL; or the error for which there is none. -/
abbrev Asking := Except Thrown (RequestInit × String)

/-- The operation, before its first try. -/
def Operation.of {α : Type} : Asking → Operation RequestInit α
  | .ok (init, url) => .start init url
  | .error error => ⟨{}, ⟨"", 0⟩, some (.error error)⟩

/-- **Where an operation is**, by its calls so far: each was worth another try, or it is settled as it would
be on its own. -/
def Underway (network : Network ν) (bad : HttpResponse → Thrown) (maxTries : Nat) (asking : Asking)
    (calls : List Call) (operation : Operation RequestInit HttpResponse) : Prop :=
  match asking with
  | .ok (init, url) =>
    match operation.outcome with
    | some outcome => Tried network bad (init.at url) maxTries calls outcome
    | none => operation.init = init ∧ operation.config = ⟨url, calls.length⟩ ∧ calls.length < maxTries ∧
        (calls ≠ [] → network.refuses (init.at url) = none) ∧
        ∀ call ∈ calls, call.request = init.at url ∧ Again (verdict bad call.answer)
  | .error error => calls = [] ∧ operation.outcome = some (.error error)

/-- **A try of an operation whose request is sent** adds a call to its own. -/
theorem turn_accepted {init : RequestInit} {url : String} {calls : List Call} (s : Wire ν)
    (accepted : network.refuses (init.at url) = none) (more : calls.length < maxTries)
    (before : ∀ call ∈ calls, call.request = init.at url ∧ Again (verdict bad call.answer)) :
    ∃ call after operation', Operation.turn maxTries {}
        (fun init config => rejecting bad config (fetchCall network init)) ⟨init, ⟨url, calls.length⟩, none⟩ s =
          (operation', ⟨after, s.calls ++ [call]⟩) ∧
      Underway network bad maxTries (.ok (init, url)) (calls ++ [call]) operation' := by
  obtain ⟨answer, after, ran⟩ := attempt_run ⟨url, calls.length + 1⟩ accepted bad s
  have length : (calls ++ [(⟨init.at url, answer⟩ : Call)]).length = calls.length + 1 := by simp
  -- the call is the last one
  have settles {outcome : Except Thrown HttpResponse} (ended : verdict bad answer = outcome)
      (spent : Again outcome → maxTries ≤ calls.length + 1) :
      Tried network bad (init.at url) maxTries (calls ++ [⟨init.at url, answer⟩]) outcome := by
    refine ⟨⟨iff_of_true (by omega) accepted, by omega, fun call inside => ?_⟩, fun call inside => ?_,
      fun call final => ?_, fun message refused => ?_, fun again => by have := spent again; omega⟩
    · rcases List.mem_append.mp inside with inside | inside
      · exact (before call inside).1
      · rw [List.mem_singleton.mp inside]
    · rw [List.dropLast_concat] at inside
      exact (before call inside).2
    · rw [List.getLast?_concat] at final
      cases final
      exact ended
    · rw [accepted] at refused
      cases refused
  refine ⟨⟨init.at url, answer⟩, after, .tried maxTries {} init ⟨url, calls.length + 1⟩ (verdict bad answer),
    ?_, ?_⟩
  · unfold Operation.turn
    dsimp only
    rw [ran]
    cases verdict bad answer with
    | ok response => rfl
    | error error => rfl
  · unfold Underway
    dsimp only
    rw [length]
    cases judged : verdict bad answer with
    | ok response =>
      refine settles judged ?_
      rintro ⟨error, same, -⟩
      cases same
    | error error =>
      unfold Operation.tried
      dsimp only
      rw [retries_eq]
      by_cases worth : Retryable error
      · rw [decide_eq_true worth, if_neg (by decide)]
        by_cases last : maxTries ≤ calls.length + 1
        · rw [if_pos last]
          exact settles judged fun _ => last
        · rw [if_neg last]
          refine ⟨rfl, rfl, by omega, fun _ => accepted, fun call inside => ?_⟩
          rcases List.mem_append.mp inside with inside | inside
          · exact before call inside
          · rw [List.mem_singleton.mp inside]
            exact ⟨rfl, error, judged, worth⟩
      · rw [decide_eq_false worth, if_pos (by decide)]
        refine settles judged ?_
        rintro ⟨other, same, retryable⟩
        cases same
        exact absurd retryable worth

/-- **A try of an operation** adds a call to its own, or none where the request is refused. -/
theorem turn_underway (network : Network ν) {asking : Asking} {calls : List Call}
    {operation : Operation RequestInit HttpResponse} (s : Wire ν)
    (underway : Underway network bad maxTries asking calls operation) (unsettled : operation.outcome = none) :
    ∃ sent after operation', Operation.turn maxTries {}
        (fun init config => rejecting bad config (fetchCall network init)) operation s =
          (operation', ⟨after, s.calls ++ sent⟩) ∧
      Underway network bad maxTries asking (calls ++ sent) operation' := by
  obtain ⟨init, config, outcome⟩ := operation
  dsimp only at unsettled
  subst unsettled
  rcases asking with error | ⟨init, url⟩
  · cases underway.2
  obtain ⟨rfl, rfl, more, sent, before⟩ := underway
  cases refusal : network.refuses (init.at url) with
  | none =>
    obtain ⟨call, after, operation', turned, underway⟩ := turn_accepted s refusal more before
    exact ⟨[call], after, operation', turned, underway⟩
  | some message =>
    have none_sent : calls = [] := by
      by_contra called
      have accepted := sent called
      rw [refusal] at accepted
      cases accepted
    subst none_sent
    have ran := attempt_refused ⟨url, 1⟩ refusal bad s
    refine ⟨[], s.network, ⟨init, ⟨url, 1⟩, some (.error (.error "TypeError" message))⟩, ?_,
      .of_refused refusal bad maxTries⟩
    unfold Operation.turn
    dsimp only [List.length_nil]
    rw [ran, List.append_nil]
    unfold Operation.tried
    dsimp only
    rw [retries_eq, decide_eq_false (not_retryable_typeError message)]
    rfl

/-- **Operations side by side**: the calls since the start are theirs, in some order, and each is where its
own calls have brought it. -/
def Together (network : Network ν) (bad : HttpResponse → Thrown) (maxTries : Nat) (asked : List Asking)
    (before : List Call)
    (pool : List (Operation RequestInit HttpResponse)) (s : Wire ν) : Prop :=
  ∃ (each : List (List Call × Operation RequestInit HttpResponse)) (block : List Call),
    pool = each.map Prod.snd ∧ Interleaved (each.map Prod.fst) block ∧ s.calls = before ++ block ∧
    List.Forall₂ (fun asking pair => Underway network bad maxTries asking pair.1 pair.2) asked each

theorem together_start (some_try : 0 < maxTries) (asked : List Asking) (s : Wire ν) :
    Together network bad maxTries asked s.calls (asked.map Operation.of) s := by
  refine ⟨asked.map fun asking => ([], Operation.of asking), [], ?_, .nil fun calls inside => ?_, ?_, ?_⟩
  · rw [List.map_map]
    rfl
  · rw [List.map_map] at inside
    obtain ⟨asking, -, rfl⟩ := List.mem_map.mp inside
    rfl
  · rw [List.append_nil]
  · rw [List.forall₂_map_right_iff, List.forall₂_same]
    rintro (error | ⟨init, url⟩) _
    · exact ⟨rfl, rfl⟩
    · exact ⟨rfl, rfl, some_try, fun called => absurd rfl called, fun call inside => by cases inside⟩

/-- A try of one of them. -/
theorem together_turn {asked : List Asking} {before : List Call}
    {pool : List (Operation RequestInit HttpResponse)} {s : Wire ν} {i : Nat}
    {operation : Operation RequestInit HttpResponse}
    (together : Together network bad maxTries asked before pool s) (at_i : pool[i]? = some operation)
    (unsettled : operation.outcome = none) :
    Together network bad maxTries asked before
      (pool.set i (Operation.turn maxTries {}
        (fun init config => rejecting bad config (fetchCall network init)) operation s).1)
      (Operation.turn maxTries {}
        (fun init config => rejecting bad config (fetchCall network init)) operation s).2 := by
  obtain ⟨each, block, rfl, shuffled, record, all⟩ := together
  rw [List.getElem?_map] at at_i
  obtain ⟨⟨calls, operation⟩, pair_i, rfl⟩ := Option.map_eq_some_iff.mp at_i
  have bound : i < asked.length := by
    rw [all.length_eq]
    exact (List.getElem?_eq_some_iff.mp pair_i).1
  have asking_i : asked[i]? = some asked[i] := List.getElem?_eq_getElem bound
  have underway := forall₂_get all asking_i pair_i
  obtain ⟨sent, after, operation', turned, underway'⟩ := turn_underway network s underway unsettled
  rw [turned]
  refine ⟨each.set i (calls ++ sent, operation'), block ++ sent, by rw [List.map_set], ?_, ?_,
    forall₂_set all asking_i underway'⟩
  · rw [List.map_set]
    exact shuffled.append sent (by rw [List.getElem?_map, pair_i]; rfl)
  · show s.calls ++ sent = before ++ (block ++ sent)
    rw [record, List.append_assoc]

/-- The endpoints, with the calls of each and how it ended. -/
abbrev Answered := List (List Call × Except Thrown HttpResponse)

/-- **How an operation ends**: by the calls of its request; without any where there is none. -/
def Ended (network : Network ν) (bad : HttpResponse → Thrown) (maxTries : Nat) :
    Asking → List Call × Except Thrown HttpResponse → Prop
  | .ok (init, url), pair => Tried network bad (init.at url) maxTries pair.1 pair.2
  | .error error, pair => pair = ([], .error error)

theorem answered_of_underway : ∀ {asked : List Asking}
    {each : List (List Call × Operation RequestInit HttpResponse)},
    List.Forall₂ (fun asking pair => Underway network bad maxTries asking pair.1 pair.2) asked each →
    (∀ pair ∈ each, pair.2.outcome ≠ none) →
    ∃ answered : Answered, answered.map Prod.fst = each.map Prod.fst ∧
      (each.map Prod.snd).filterMap Operation.outcome = answered.map Prod.snd ∧
      List.Forall₂ (Ended network bad maxTries) asked answered
  | _, _, .nil, _ => ⟨[], rfl, rfl, .nil⟩
  | asking :: _, (calls, operation) :: each, .cons underway rest, settled => by
    obtain ⟨answered, same, outcomes, tried⟩ :=
      answered_of_underway rest fun pair inside => settled pair (List.mem_cons_of_mem _ inside)
    cases known : operation.outcome with
    | none => exact absurd known (settled (calls, operation) List.mem_cons_self)
    | some outcome =>
      have ended : Ended network bad maxTries asking (calls, outcome) := by
        rcases asking with error | ⟨init, url⟩
        · obtain ⟨rfl, failed⟩ := underway
          rw [known] at failed
          cases failed
          rfl
        · have ended := underway
          unfold Underway at ended
          rw [known] at ended
          exact ended
      refine ⟨(calls, outcome) :: answered, ?_, ?_, .cons ended tried⟩
      · rw [List.map_cons, List.map_cons, same]
      · rw [List.map_cons, List.filterMap_cons_some known, outcomes, List.map_cons]

/-- **Side by side every operation ends as it would on its own**: whatever the order of the answers, the calls
of an operation are those of its request, and its outcome is that of the request. -/
theorem allSettled_wire (network : Network ν) (bad : HttpResponse → Thrown) (some_try : 0 < maxTries)
    (asked : List Asking) (s : Wire ν) :
    ∃ (answered : Answered) (block : List Call) (after : ν),
      allSettled (retrying maxTries {} fun init config => rejecting bad config (fetchCall network init))
        (pickOn network) (asked.map Operation.of) s = .ok (answered.map Prod.snd) ⟨after, s.calls ++ block⟩ ∧
      Interleaved (answered.map Prod.fst) block ∧ List.Forall₂ (Ended network bad maxTries) asked answered := by
  let run := retrying maxTries {} fun init config => rejecting bad config (fetchCall network init)
  have unsettled {operation : Operation RequestInit HttpResponse} :
      run.Unfinished operation ↔ operation.outcome = none := by
    show 0 < Operation.left maxTries operation ↔ _
    unfold Operation.left
    cases operation.outcome with
    | none => simp
    | some outcome => simp
  have started : Together network bad maxTries asked s.calls (asked.map Operation.of) s :=
    together_start some_try asked s
  have turn (pool : List (Operation RequestInit HttpResponse)) (t : Wire ν) (i : Nat)
      (operation : Operation RequestInit HttpResponse)
        (together : Together network bad maxTries asked s.calls pool t)
      (at_i : pool[i]? = some operation) (more : run.Unfinished operation) :
      Together network bad maxTries asked s.calls (pool.set i (run.turn operation t).1)
        (run.turn operation t).2 :=
    together_turn together at_i (unsettled.mp more)
  have picked (pool : List (Operation RequestInit HttpResponse)) (t : Wire ν)
      (together : Together network bad maxTries asked s.calls pool t) :
      Together network bad maxTries asked s.calls pool (pickOn network t).2 := together
  obtain ⟨⟨each, block, pool, shuffled, record, all⟩, finished⟩ := Machine.settle_rule picked turn started
  rw [pool] at finished
  obtain ⟨answered, same, outcomes, tried⟩ := answered_of_underway all fun pair inside none =>
    finished pair.2 (List.mem_map_of_mem inside) (unsettled.mpr none)
  refine ⟨answered, block, (run.settle (pickOn network) (asked.map Operation.of) s).2.network, ?_,
    same ▸ shuffled, tried⟩
  unfold allSettled
  rw [← outcomes, ← pool, ← record]

/-- An endpoint accepts. -/
def Accepted (answered : Answered) : Prop := ∃ pair ∈ answered, ∃ res, pair.2 = .ok res

/-- Every endpoint rejects. -/
def Rejected (answered : Answered) : Prop := ∀ pair ∈ answered, ∃ error, pair.2 = .error error

theorem accepted_or_rejected (answered : Answered) : Accepted answered ∨ Rejected answered := by
  by_cases accepted : Accepted answered
  · exact .inl accepted
  · refine .inr fun pair inside => ?_
    cases ended : pair.2 with
    | ok res => exact absurd ⟨pair, inside, res, ended⟩ accepted
    | error error => exact ⟨error, rfl⟩

theorem succeeded_eq_nil (answered : Answered) :
    ((answered.map Prod.snd).filterMap Except.toOption).length = 0 ↔ Rejected answered := by
  rw [List.length_eq_zero_iff, List.filterMap_eq_nil_iff, List.forall_mem_map]
  refine forall₂_congr fun pair inside => ?_
  cases pair.2 with
  | ok res => simp [Except.toOption]
  | error error => simp [Except.toOption]

/-- **A broadcast** tries every endpoint, and resolves exactly if one of them accepts; else the errors of all are
thrown, in the order of the endpoints. -/
theorem broadcastAll_wire (network : Network ν) (init : RequestInit) (bad : HttpResponse → Thrown)
    (path label : String) {urls : List String} (some_url : urls ≠ []) (s : Wire ν) :
    ∃ (answered : Answered) (block : List Call) (s' : Wire ν),
      s'.calls = s.calls ++ block ∧ Interleaved (answered.map Prod.fst) block ∧
      List.Forall₂ (fun url pair => Tried network bad (init.at (url ++ path)) 3 pair.1 pair.2) urls answered ∧
      (Accepted answered ∧ broadcastAll (consensusRetrying network (rejecting bad)) (pickOn network) urls
          (fun url => Operation.start init (url ++ path)) label s =
            .ok ((answered.map Prod.snd).filterMap Except.toOption) s' ∨
        Rejected answered ∧ broadcastAll (consensusRetrying network (rejecting bad)) (pickOn network) urls
          (fun url => Operation.start init (url ++ path)) label s =
            .error (.aggregateError ((answered.map Prod.snd).filterMap reason?)
              s!"{label} broadcast failed at all {urls.length} endpoints") s') := by
  obtain ⟨answered, block, after, settled, shuffled, tried⟩ := allSettled_wire network bad (show 0 < 3 by decide)
    (urls.map fun url => .ok (init, url ++ path)) s
  have settled : allSettled (consensusRetrying network (rejecting bad)) (pickOn network)
      (urls.map fun url => Operation.start init (url ++ path)) s =
        .ok (answered.map Prod.snd) ⟨after, s.calls ++ block⟩ := by
    rw [List.map_map] at settled
    exact settled
  rw [List.forall₂_map_left_iff] at tried
  have filled : ¬ urls.length = 0 := fun empty => some_url (List.length_eq_zero_iff.mp empty)
  refine ⟨answered, block, ⟨after, s.calls ++ block⟩, rfl, shuffled, tried, ?_⟩
  unfold broadcastAll
  rw [if_neg filled, bind_of_ok settled]
  rcases accepted_or_rejected answered with accepted | rejected
  · have served : ¬ ((answered.map Prod.snd).filterMap Except.toOption).length = 0 := by
      intro none
      obtain ⟨pair, inside, res, ok⟩ := accepted
      obtain ⟨error, failed⟩ := (succeeded_eq_nil answered).mp none pair inside
      rw [ok] at failed
      cases failed
    rw [if_neg served]
    exact .inl ⟨accepted, rfl⟩
  · rw [if_pos ((succeeded_eq_nil answered).mpr rejected)]
    exact .inr ⟨rejected, rfl⟩

end Wires

end Request

end ValidatorEjector
