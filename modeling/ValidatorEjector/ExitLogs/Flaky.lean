/-
**The fetcher over nodes that fail requests now and then.**

The chain data is fixed; which requests fail is not. What the fetcher computes over such nodes, with its
caches, is what it computes over nodes that never fail, without caches, unless a request fails.

* `ChainData`, `request`, `FetcherConfig` — the fixed data, a request that may fail, and the fetcher over
  any two nodes; `flaky`, `quiet`, `calm` — over nodes that fail, that never fail and without caches, and
  that never fail.
* `Consistent` — the invariant of the caches: they hold what the chain data gives.
* `tracks_verifyEvent`, `tracks_events` — a verification, and the loading of the events.
* `verifyTurn_agree` — a turn of the loop, if its check is not interrupted.
-/

import ValidatorEjector.ExitLogs.Checks
import ValidatorEjector.ExitLogs.Fetcher
import ValidatorEjector.ExitLogs.Frame

namespace ValidatorEjector

open Js Library Library.Program

/-! ### The nodes -/

/-- **What the two nodes serve.** A transaction is served under its own hash. -/
structure ChainData where
  el : ElRequest → Except Failure Json
  cl : ClRequest → Except Failure Json
  hash_of_served {transactionHash : String} {json : Json} {tx : Tx} :
    el (.eth_getTransactionByHash transactionHash) = .ok json → txDTO json = .ok tx →
      tx.hash = transactionHash

/-- How many requests were made, and how many of them failed. -/
structure Requests where
  made : Nat
  failed : Nat

/-- A request: it fails if its number is among the failing ones. -/
def request (fails : Nat → Bool) (answer : Except Failure Json) : EStateM Failure Requests Json :=
  fun r =>
    if fails r.made then .error (.error "request failed") ⟨r.made + 1, r.failed + 1⟩
    else match answer with
      | .ok json => .ok json ⟨r.made + 1, r.failed⟩
      | .error e => .error e ⟨r.made + 1, r.failed⟩

/-- The fetcher without its nodes and its caches. -/
structure FetcherConfig where
  ethers : Ethers
  exitBusAddress? : Option String
  consensusAddress? : Option String
  LOAD_LOGS_STEP : ℕ+
  ORACLE_ADDRESSES_ALLOWLIST : List String
  SUBMIT_TX_HASH_ALLOWLIST : List String
  TRUST_MODE : Bool

namespace FetcherConfig

variable (config : FetcherConfig) (caches : CachePolicy String) (chain : ChainData)
  (fails : Nat → Bool)

/-- The execution API over a node. -/
def executionApi {ρ : Type} (el : ElRequest → EStateM Failure ρ Json) : ExecutionApi ρ where
  ethers := config.ethers
  elRequest := el
  exitBusAddress? := config.exitBusAddress?
  consensusAddress? := config.consensusAddress?
  LOAD_LOGS_STEP := config.LOAD_LOGS_STEP

/-- The verifier over a node. -/
def verifier {ρ : Type} (el : ElRequest → EStateM Failure ρ Json) : Verifier ρ where
  el := config.executionApi el
  caches := caches
  ORACLE_ADDRESSES_ALLOWLIST := config.ORACLE_ADDRESSES_ALLOWLIST
  SUBMIT_TX_HASH_ALLOWLIST := config.SUBMIT_TX_HASH_ALLOWLIST

/-- The fetcher over two nodes. -/
def fetcher {ρ : Type} (el : ElRequest → EStateM Failure ρ Json) (cl : ClRequest → EStateM Failure ρ Json) :
    Fetcher ρ where
  verifier := config.verifier caches el
  cl := ⟨cl⟩
  TRUST_MODE := config.TRUST_MODE

/-- The fetcher over nodes that fail some requests. -/
def flaky : Fetcher Requests :=
  config.fetcher caches (fun r => request fails (chain.el r)) (fun r => request fails (chain.cl r))

/-- The fetcher over nodes that never fail a request. -/
def calm : Fetcher Requests := config.flaky caches chain fun _ => false

/-- The fetcher without caches, over nodes that never fail a request. -/
def quiet : Fetcher Unit :=
  config.fetcher (.off String) (fun r => ofResult (chain.el r)) (fun r => ofResult (chain.cl r))

end FetcherConfig

/-! ### The invariant of the caches -/

section Invariant

variable {config : FetcherConfig} {caches : CachePolicy String} {chain : ChainData}
  {fails : Nat → Bool}

/-- Nodes that never fail have not failed. -/
def Calm (fails : Nat → Bool) (r : Requests) : Prop := (∀ n, fails n = false) → r.failed = 0

/-- The lookup of `ConsensusReached` on the chain data. -/
def Looked (config : FetcherConfig) (chain : ChainData) (toBlock : JsNumber) (refSlot : Nat)
    (hash transactionHash : String) : Prop :=
  ∃ t t', (config.quiet chain).verifier.consensusReachedTransactionHash toBlock (toString refSlot) hash t
    = .ok transactionHash t'

/-- **The caches hold what the chain data gives.** -/
structure Consistent (config : FetcherConfig) (caches : CachePolicy String) (chain : ChainData)
    (fails : Nat → Bool) (s : VerifierState caches Requests) : Prop where
  transactions : caches.Sound (fun transactionHash tx => ∃ json,
    chain.el (.eth_getTransactionByHash transactionHash) = .ok json ∧ txDTO json = .ok tx)
    s.lruTransactionCache
  lookups : caches.Sound (fun key transactionHash => ∀ toBlock (refSlot : Nat) hash,
    key = Verifier.consensusReachedKey toBlock (toString refSlot) hash →
      Looked config chain toBlock refSlot hash transactionHash) s.lruConsensusReachedLogsCache
  node : Calm fails s.node

theorem consistent_fresh : Consistent config caches chain fails
    ((config.flaky caches chain fails).verifier.fresh ⟨0, 0⟩) :=
  ⟨CachePolicy.sound_empty, CachePolicy.sound_empty, fun _ => rfl⟩

/-- Without caches there is one state. -/
theorem quiet_state (s t : VerifierState (.off String) Unit) : s = t := by
  obtain ⟨a, b, c⟩ := s
  obtain ⟨a', b', c'⟩ := t
  have transactions : (a : Unit) = a' := rfl
  have lookups : (b : Unit) = b' := rfl
  cases transactions
  cases lookups
  rfl

theorem append_dash_inj {xs ys zs ws : List Char} (first : '-' ∉ xs) (second : '-' ∉ zs)
    (same : xs ++ '-' :: ys = zs ++ '-' :: ws) : xs = zs ∧ ys = ws := by
  induction xs generalizing zs with
  | nil =>
    cases zs with
    | nil => exact ⟨rfl, (List.cons.inj same).2⟩
    | cons z zs =>
      rw [(List.cons.inj same).1] at second
      exact absurd List.mem_cons_self second
  | cons x xs ih =>
    cases zs with
    | nil =>
      rw [(List.cons.inj same).1] at first
      exact absurd List.mem_cons_self first
    | cons z zs =>
      obtain ⟨rfl, rest⟩ := List.cons.inj same
      obtain ⟨rfl, tails⟩ := ih (fun inside => first (List.mem_cons_of_mem x inside))
        (fun inside => second (List.mem_cons_of_mem x inside)) rest
      exact ⟨rfl, tails⟩

/-- **The key of a lookup determines it.** -/
theorem consensusReachedKey_inj {m n : JsNumber} {i j : Nat} {hash hash' : String}
    (same : Verifier.consensusReachedKey m (toString i) hash
      = Verifier.consensusReachedKey n (toString j) hash') : m = n ∧ i = j ∧ hash = hash' := by
  have lists := congrArg String.toList same
  unfold Verifier.consensusReachedKey at lists
  simp only [String.toList_append, List.append_assoc, Nat.toString_eq_repr, Nat.toList_repr] at lists
  obtain ⟨c, cs, first, free⟩ := toText_cons m
  obtain ⟨d, ds, second, free'⟩ := toText_cons n
  rw [first, second] at lists
  obtain ⟨rfl, rest⟩ := List.cons.inj lists
  obtain ⟨rfl, slots⟩ := append_dash_inj free free' rest
  obtain ⟨slot, hashes⟩ := append_dash_inj (not_mem_toDigits rfl) (not_mem_toDigits rfl) slots
  exact ⟨toText_inj (String.toList_injective (first.trans second.symm)), toDigits_inj slot,
    String.toList_injective hashes⟩

end Invariant

/-! ### The verifier -/

section Tracking

variable {config : FetcherConfig} {caches : CachePolicy String} {chain : ChainData}
  {fails : Nat → Bool}

theorem tracks_request (answer : Except Failure Json) :
    Tracks (Calm fails) Requests.failed (request fails answer)
      (ofResult answer : EStateM Failure Unit Json) := by
  refine ⟨fun r t start => ?_⟩
  have node (never : ∀ n, fails n = false) : r.failed = 0 := start never
  unfold request
  cases failing : fails r.made with
  | true =>
    have some (r' : Requests) : Calm fails r' := fun never => by
      rw [never] at failing
      cases failing
    cases answer with
    | ok json => exact ⟨some _, Nat.lt_succ_self _⟩
    | error e => exact ⟨some _, Nat.le_succ _⟩
  | false =>
    cases answer with
    | ok json => exact ⟨node, rfl, rfl⟩
    | error e => exact ⟨node, Nat.le_refl _⟩

/-- `getLogs` of the execution API. -/
theorem tracks_getLogs (fromBlock toBlock : JsNumber) (address : String) (topics : List Topic) :
    Tracks (Calm fails) Requests.failed
      ((config.executionApi fun r => request fails (chain.el r)).getLogs fromBlock toBlock address topics)
      ((config.executionApi fun r => (ofResult (chain.el r) : EStateM Failure Unit Json)).getLogs
        fromBlock toBlock address topics) := by
  refine .ite (.throw _) (.ite (.throw _) (.ite (.throw _) (.ite (.throw _) (.collect ?_ _))))
  intro bounds
  exact .bind (.ofResult _) fun _ => .bind (.ofResult _) fun _ => .bind (tracks_request _) fun _ =>
    .ofResult _

/-- A verification is disturbed by the requests that fail. -/
abbrev TracksVerifier {α : Type} (config : FetcherConfig) (caches : CachePolicy String)
    (chain : ChainData) (fails : Nat → Bool) (x : (config.flaky caches chain fails).verifier.Run α)
    (y : (config.quiet chain).verifier.Run α) : Prop :=
  Tracks (Consistent config caches chain fails) (fun s => s.node.failed) x y

theorem tracks_onNode {α : Type} {x : EStateM Failure Requests α} {y : EStateM Failure Unit α}
    (tracks : Tracks (Calm fails) Requests.failed x y) :
    TracksVerifier config caches chain fails (Verifier.onNode _ x) (Verifier.onNode _ y) :=
  .onPart tracks (fun _ start => start.node) (fun _ _ start calm =>
    ⟨start.transactions, start.lookups, calm⟩) fun _ _ => rfl

theorem onNode_ofResult_ok {answer : Except Failure Json} {json : Json}
    {t t' : (config.quiet chain).verifier.State}
    (ran : (config.quiet chain).verifier.onNode (ofResult answer) t = .ok json t') :
    answer = .ok json := by
  obtain ⟨_, answered, _⟩ := Verifier.onNode_ok.mp ran
  exact (ofResult_ok.mp answered).1

theorem tracks_getTransaction (transactionHash : String) :
    TracksVerifier config caches chain fails
      ((config.flaky caches chain fails).verifier.getTransaction transactionHash)
      ((config.quiet chain).verifier.getTransaction transactionHash) := by
  refine ⟨fun s t start => ?_⟩
  cases hit : (caches.get transactionHash s.lruTransactionCache).1 with
  | some tx =>
    obtain ⟨json, served, parsed⟩ := start.transactions.right hit
    obtain ⟨t', answered⟩ : ∃ t', (config.quiet chain).verifier.getTransaction transactionHash t
        = .ok tx t' :=
      Verifier.getTransaction_of_answer rfl (ofResult_ok.mpr ⟨served, rfl⟩) parsed
    have known := Verifier.getTransaction_known (v := (config.flaky caches chain fails).verifier)
      (s := s) hit
    rw [known, answered]
    exact ⟨⟨start.transactions.get, start.lookups, start.node⟩, rfl, rfl⟩
  | none =>
    have unknown := Verifier.getTransaction_unknown (v := (config.flaky caches chain fails).verifier)
      (s := s) hit
    rw [unknown, Verifier.getTransaction_unknown (v := (config.quiet chain).verifier) (s := t) rfl]
    refine (Tracks.bind_ran (tracks_onNode (tracks_request _)) fun json ran => ?_).ends _ _
      ⟨start.transactions.get, start.lookups, start.node⟩
    refine Tracks.bind_ran (Tracks.ofResult _) fun tx parsed => ?_
    obtain ⟨_, _, parsed⟩ := parsed
    have parsed := (ofResult_ok.mp parsed).1
    have served : chain.el (.eth_getTransactionByHash transactionHash) = .ok json := by
      obtain ⟨t₁, t₂, ran⟩ := ran
      exact onNode_ofResult_ok ran
    refine ⟨fun s₁ t₁ start₁ => ⟨⟨start₁.transactions.set ⟨json, ?_, parsed⟩, start₁.lookups,
      start₁.node⟩, rfl, rfl⟩⟩
    rw [chain.hash_of_served served parsed]
    exact served

/-- The part of a lookup after a miss. -/
theorem tracks_lookup (toBlock : JsNumber) (refSlot : String) :
    TracksVerifier config caches chain fails
      ((config.flaky caches chain fails).verifier.consensusReachedLogs toBlock refSlot)
      ((config.quiet chain).verifier.consensusReachedLogs toBlock refSlot) :=
  .bind (.ofResult _) fun _ => .bind (.ofResult _) fun _ => .bind (.ofResult _) fun _ =>
    tracks_onNode (tracks_getLogs _ _ _ _)

theorem tracks_consensusReached (toBlock : JsNumber) (refSlot : Nat) (hash : String) :
    TracksVerifier config caches chain fails
      ((config.flaky caches chain fails).verifier.consensusReachedTransactionHash toBlock
        (toString refSlot) hash)
      ((config.quiet chain).verifier.consensusReachedTransactionHash toBlock (toString refSlot) hash) := by
  refine ⟨fun s t start => ?_⟩
  let key := Verifier.consensusReachedKey toBlock (toString refSlot) hash
  by_cases unknown : missing (caches.get key s.lruConsensusReachedLogsCache).1 = true
  · have miss := Verifier.consensusReached_unknown (v := (config.flaky caches chain fails).verifier)
      (s := s) toBlock (toString refSlot) hash unknown
    have quiet (t : (config.quiet chain).verifier.State) := Verifier.consensusReached_unknown
      (v := (config.quiet chain).verifier) (s := t) toBlock (toString refSlot) hash rfl
    rw [miss, quiet]
    refine (Tracks.bind_ran (tracks_lookup _ _) fun result ran => ?_).ends _ _
      ⟨start.transactions, start.lookups.get, start.node⟩
    refine Tracks.bind_ran (Tracks.ofResult _) fun decoded parsed => ?_
    cases search : decoded.find? fun event => event.2 = hash with
    | none => exact .throw _
    | some found =>
      have looked : Looked config chain toBlock refSlot hash found.1 := by
        obtain ⟨t₁, t₂, ran⟩ := ran
        obtain ⟨_, _, parsed⟩ := parsed
        refine ⟨t₁, t₂, ?_⟩
        rw [quiet]
        refine bind_ok.mpr ⟨result, t₂, ran, bind_ok.mpr ⟨decoded, t₂, ?_, ?_⟩⟩
        · exact ofResult_ok.mpr ⟨(ofResult_ok.mp parsed).1, rfl⟩
        · rw [search]
          rfl
      refine ⟨fun s₁ t₁ start₁ => ⟨⟨start₁.transactions, start₁.lookups.set ?_, start₁.node⟩, rfl,
        rfl⟩⟩
      intro toBlock' refSlot' hash' same
      obtain ⟨rfl, rfl, rfl⟩ := consensusReachedKey_inj same
      exact looked
  · cases hit : (caches.get key s.lruConsensusReachedLogsCache).1 with
    | none => exact absurd (by rw [hit]; rfl) unknown
    | some transactionHash =>
      have given : transactionHash ≠ "" := by
        rintro rfl
        exact unknown (by rw [hit]; rfl)
      have known := Verifier.consensusReached_known (v := (config.flaky caches chain fails).verifier)
        (s := s) toBlock (toString refSlot) hash hit given
      obtain ⟨t₁, t₂, looked⟩ := start.lookups.right hit toBlock refSlot hash rfl
      rw [quiet_state t t₁, known, looked]
      exact ⟨⟨start.transactions, start.lookups.get, start.node⟩, rfl, rfl⟩

theorem tracks_verifyOracleEvent (validatorPubkey : String) (decoded : Report) (toBlock : JsNumber) :
    TracksVerifier config caches chain fails
      ((config.flaky caches chain fails).verifier.verifyOracleEvent validatorPubkey decoded toBlock)
      ((config.quiet chain).verifier.verifyOracleEvent validatorPubkey decoded toBlock) := by
  unfold Verifier.verifyOracleEvent
  exact .ite (.throw _) (.bind (tracks_consensusReached _ _ _) fun originTxHash =>
    .bind (tracks_getTransaction _) fun originTx => .ofResult _)

theorem tracks_verifyEvent (validatorPubkey transactionHash : String) (toBlock : JsNumber) :
    TracksVerifier config caches chain fails
      ((config.flaky caches chain fails).verifier.verifyEvent validatorPubkey transactionHash toBlock)
      ((config.quiet chain).verifier.verifyEvent validatorPubkey transactionHash toBlock) := by
  unfold Verifier.verifyEvent
  exact .bind (tracks_getTransaction _) fun tx => .bind (.ofResult _) fun input =>
    .ite (.bind (.ofResult _) fun decoded => tracks_verifyOracleEvent _ _ _)
      (.ite (.ofResult _) (.throw _))

/-! ### The fetcher -/

/-- The caches of the fetcher's verifier hold what the chain data gives. -/
abbrev FetcherConsistent (config : FetcherConfig) (caches : CachePolicy String) (chain : ChainData)
    (fails : Nat → Bool) (s : (config.flaky caches chain fails).State) : Prop :=
  Consistent config caches chain fails s.verifier

/-- A computation of the fetcher is disturbed by the requests that fail. -/
abbrev TracksFetcher {α : Type} (config : FetcherConfig) (caches : CachePolicy String)
    (chain : ChainData) (fails : Nat → Bool) (x : (config.flaky caches chain fails).Run α)
    (y : (config.quiet chain).Run α) : Prop :=
  Tracks (FetcherConsistent config caches chain fails) (fun s => s.verifier.node.failed) x y

theorem tracks_onVerifier {α : Type} {x : (config.flaky caches chain fails).verifier.Run α}
    {y : (config.quiet chain).verifier.Run α} (tracks : TracksVerifier config caches chain fails x y) :
    TracksFetcher config caches chain fails (Fetcher.onVerifier _ x) (Fetcher.onVerifier _ y) :=
  .onPart tracks (fun _ start => start) (fun _ _ _ kept => kept) fun _ _ => rfl

theorem tracks_verify (event : ExitRequestEvent) : TracksFetcher config caches chain fails
    ((config.flaky caches chain fails).verify event) ((config.quiet chain).verify event) :=
  tracks_onVerifier (tracks_verifyEvent _ _ _)

theorem tracks_validatePublicKeys (validatorData : List (String × String)) :
    Tracks (Calm fails) Requests.failed
      ((config.flaky caches chain fails).cl.validatePublicKeys validatorData)
      ((config.quiet chain).cl.validatePublicKeys validatorData) := by
  refine .bind (.collect (fun batch => ?_) _) fun validators => .pure _
  exact .bind (tracks_request _) fun _ => .ofResult _

theorem tracks_loadEvents (fromBlock toBlock : JsNumber) (ejectorScope : List EjectorScope) :
    Tracks (Calm fails) Requests.failed
      ((config.flaky caches chain fails).loadEvents fromBlock toBlock ejectorScope)
      ((config.quiet chain).loadEvents fromBlock toBlock ejectorScope) := by
  refine .bind (.collect (fun scope => ?_) _) fun logs => .ofResult _
  exact .bind (.ofResult _) fun _ => .bind (.ofResult _) fun _ => .bind (.ofResult _) fun _ =>
    tracks_getLogs _ _ _ _

/-- The loading of the events. -/
theorem tracks_events (fromBlock toBlock : JsNumber) (ejectorScope : List EjectorScope) :
    TracksFetcher config caches chain fails
      ((config.flaky caches chain fails).onNode
        ((config.flaky caches chain fails).getValidatorExitRequestEvents fromBlock toBlock ejectorScope))
      ((config.quiet chain).onNode
        ((config.quiet chain).getValidatorExitRequestEvents fromBlock toBlock ejectorScope)) := by
  refine tracks_onVerifier (tracks_onNode (.bind (tracks_loadEvents _ _ _) fun events => ?_))
  exact .bind (tracks_validatePublicKeys _) fun validIndices => .pure _

/-- Over nodes that never fail nothing is disturbed. -/
theorem agree_of_calm {α : Type} {x : (config.calm caches chain).Run α} {y : (config.quiet chain).Run α}
    (tracks : TracksFetcher config caches chain (fun _ => false) x y) {s : (config.calm caches chain).State}
    (start : FetcherConsistent config caches chain (fun _ => false) s) (t : (config.quiet chain).State) :
    Agree (FetcherConsistent config caches chain fun _ => false) (x s) (y t) := by
  refine tracks.undisturbed start t ?_
  have after := (tracks.preserves t).stateAfter start
  rw [after.node fun _ => rfl]
  exact Nat.not_lt_zero _

/-! ### A turn of the loop -/

/-- The verification of the event resolves when no request fails, from empty caches. -/
def WouldVerify (config : FetcherConfig) (caches : CachePolicy String) (chain : ChainData)
    (event : ExitRequestEvent) : Prop :=
  Resolves ((config.calm caches chain).verify event) ((config.calm caches chain).fresh ⟨0, 0⟩)

/-- A request of the security check of the event fails. -/
def Interrupted (config : FetcherConfig) (caches : CachePolicy String) (chain : ChainData)
    (fails : Nat → Bool) (event : ExitRequestEvent) (s : (config.flaky caches chain fails).State) : Prop :=
  s.verifier.node.failed <
    (stateAfter ((config.flaky caches chain fails).check event) s).verifier.node.failed

/-- An event that verifies without caches verifies when no request fails. -/
theorem wouldVerify_of_quiet {event : ExitRequestEvent} {t t' : (config.quiet chain).State}
    (quiet : (config.quiet chain).verify event t = .ok () t') : WouldVerify config caches chain event := by
  have fresh : FetcherConsistent config caches chain (fun _ => false)
      ((config.calm caches chain).fresh ⟨0, 0⟩) := consistent_fresh
  have agree := agree_of_calm (tracks_verify event) fresh t
  obtain ⟨s', ran, _⟩ := agree.right quiet
  exact ⟨(), s', ran⟩

theorem check_agree {event : ExitRequestEvent} {s : (config.flaky caches chain fails).State}
    (start : FetcherConsistent config caches chain fails s)
    (fine : WouldVerify config caches chain event → ¬ Interrupted config caches chain fails event s)
    (t : (config.quiet chain).State) :
    Agree (FetcherConsistent config caches chain fails)
      ((config.flaky caches chain fails).check event s) ((config.quiet chain).check event t) := by
  cases trust : config.TRUST_MODE with
  | true =>
    have trusted : (config.flaky caches chain fails).TRUST_MODE = true := trust
    have trusted' : (config.quiet chain).TRUST_MODE = true := trust
    unfold Fetcher.check
    rw [if_pos trusted, if_pos trusted']
    exact ⟨start, rfl⟩
  | false =>
    have ends := (tracks_verify event).ends s t start
    unfold Interrupted stateAfter at fine
    rw [Fetcher.check_run (f := config.flaky caches chain fails) trust] at fine ⊢
    rw [Fetcher.check_run (f := config.quiet chain) trust]
    cases ran : (config.flaky caches chain fails).verify event s with
    | ok _ s₁ =>
      cases quiet : (config.quiet chain).verify event t with
      | ok _ t₁ => rw [ran, quiet] at ends; exact ⟨ends.1, rfl⟩
      | error e t₁ => rw [ran, quiet] at ends; exact ends.elim
    | error e s₁ =>
      cases quiet : (config.quiet chain).verify event t with
      | ok _ t₁ =>
        rw [ran, quiet] at ends
        rw [ran] at fine
        exact absurd ends.2 (fine (wouldVerify_of_quiet quiet))
      | error e' t₁ => rw [ran, quiet] at ends; exact ⟨ends.1, rfl⟩

/-- **A turn over flaky nodes**, if its check is not interrupted, is a turn without failures. -/
theorem verifyTurn_agree {event : ExitRequestEvent} {s : (config.flaky caches chain fails).State}
    (start : FetcherConsistent config caches chain fails s)
    (fine : WouldVerify config caches chain event → ¬ Interrupted config caches chain fails event s)
    (t : (config.quiet chain).State) :
    Agree (FetcherConsistent config caches chain fails)
      ((config.flaky caches chain fails).verifyTurn event s) ((config.quiet chain).verifyTurn event t) := by
  refine (check_agree start fine t).bind fun accepted s₁ t₁ kept => ?_
  cases accepted with
  | false => exact ⟨kept, rfl⟩
  | true =>
    have same : (config.flaky caches chain fails).toEject event = (config.quiet chain).toEject event := rfl
    show Agree _ ((ofResult _ >>= _) s₁) ((ofResult _ >>= _) t₁)
    rw [same]
    cases (config.quiet chain).toEject event with
    | ok validator => exact ⟨kept, rfl⟩
    | error e => exact kept

/-! ### A fetch -/

/-- In a fetch from the state, no check of an event that would verify is interrupted. -/
def Undisturbed (config : FetcherConfig) (caches : CachePolicy String) (chain : ChainData)
    (fails : Nat → Bool) (fromBlock toBlock : JsNumber) (ejectorScope : List EjectorScope)
    (s : (config.flaky caches chain fails).State) : Prop :=
  ∀ events s₁, (config.flaky caches chain fails).onNode ((config.flaky caches chain
      fails).getValidatorExitRequestEvents fromBlock toBlock ejectorScope) s = .ok events s₁ →
    Along (config.flaky caches chain fails).verifyTurn
      (fun event t => WouldVerify config caches chain event →
        ¬ Interrupted config caches chain fails event t) events s₁

variable {fromBlock toBlock : JsNumber} {ejectorScope : List EjectorScope}
  {logs : List ValidatorsToEject} {s s' : (config.flaky caches chain fails).State}

theorem check_preserves (event : ExitRequestEvent) :
    Preserves (FetcherConsistent config caches chain fails)
      ((config.flaky caches chain fails).check event) := by
  have verify : Preserves (FetcherConsistent config caches chain fails) _ :=
    (tracks_verify event).preserves ((config.quiet chain).fresh ())
  unfold Fetcher.check
  cases (config.flaky caches chain fails).TRUST_MODE with
  | true => exact Triple.pure fun _ start => start
  | false => exact Triple.tryCatch (verify.bind fun _ => fun _ start => start) fun _ _ start => start

theorem verifyTurn_preserves (event : ExitRequestEvent) :
    Preserves (FetcherConsistent config caches chain fails)
      ((config.flaky caches chain fails).verifyTurn event) := by
  refine (check_preserves event).bind fun accepted => ?_
  cases accepted with
  | false => exact Triple.pure fun _ start => start
  | true =>
    exact (Triple.ofResult (Q := fun _ => FetcherConsistent config caches chain fails)
      (fun _ _ _ start => start) fun _ start => start).bind fun _ => Triple.pure fun _ start => start

/-- A fetch keeps the caches consistent. -/
theorem getLogs_preserves : Preserves (FetcherConsistent config caches chain fails)
    ((config.flaky caches chain fails).getLogs fromBlock toBlock ejectorScope) := by
  have events : Preserves (FetcherConsistent config caches chain fails) _ :=
    (tracks_events fromBlock toBlock ejectorScope).preserves ((config.quiet chain).fresh ())
  refine events.bind fun events => ?_
  exact Preserves.collect fun event _ => verifyTurn_preserves event

/-- Requests were made from some place on, and none of them failed. -/
def Since (first failed : Nat) (r : Requests) : Prop := first ≤ r.made ∧ r.failed = failed

theorem request_since {first failed : Nat} (fine : ∀ n, first ≤ n → fails n = false)
    (answer : Except Failure Json) : Preserves (Since first failed) (request fails answer) := by
  rintro r ⟨later, same⟩
  unfold request
  rw [fine r.made later, if_neg Bool.false_ne_true]
  cases answer with
  | ok json => exact ⟨Nat.le_succ_of_le later, same⟩
  | error e => exact ⟨Nat.le_succ_of_le later, same⟩

/-- Where no request fails any more, no check is interrupted. -/
theorem not_interrupted {event : ExitRequestEvent} (fine : ∀ n, s.verifier.node.made ≤ n → fails n = false) :
    ¬ Interrupted config caches chain fails event s := by
  have asks (request : ElRequest) : Preserves (Since s.verifier.node.made s.verifier.node.failed)
      ((config.flaky caches chain fails).verifier.el.elRequest request) := request_since fine _
  have kept := (Fetcher.check_node asks event).stateAfter (s := s) ⟨le_rfl, rfl⟩
  unfold Interrupted
  rw [kept.2]
  exact Nat.lt_irrefl _

/-- **A fetch that is undisturbed resolves as one without failures.** -/
theorem getLogs_calm (start : FetcherConsistent config caches chain fails s)
    (fine : Undisturbed config caches chain fails fromBlock toBlock ejectorScope s)
    (ran : (config.flaky caches chain fails).getLogs fromBlock toBlock ejectorScope s = .ok logs s') :
    ∃ t, (config.calm caches chain).getLogs fromBlock toBlock ejectorScope
      ((config.calm caches chain).fresh ⟨0, 0⟩) = .ok logs t := by
  obtain ⟨events, s₁, loaded, looped⟩ := bind_ok.mp ran
  have along := fine events s₁ loaded
  have consistent : FetcherConsistent config caches chain (fun _ => false)
      ((config.calm caches chain).fresh ⟨0, 0⟩) := consistent_fresh
  -- through the fetcher without caches, and from there to the one that never fails
  let t := (config.quiet chain).fresh ()
  have tracks : TracksFetcher config caches chain fails _ _ :=
    tracks_events fromBlock toBlock ejectorScope
  have quietEvents := tracks.ends s t start
  rw [loaded] at quietEvents
  cases quiet : (config.quiet chain).onNode ((config.quiet chain).getValidatorExitRequestEvents
      fromBlock toBlock ejectorScope) t with
  | error e t₁ => rw [quiet] at quietEvents; exact quietEvents.elim
  | ok events' t₁ =>
    rw [quiet] at quietEvents
    obtain ⟨kept, _, rfl⟩ := quietEvents
    obtain ⟨c₁, calmEvents, calmKept⟩ :=
      (agree_of_calm (tracks_events fromBlock toBlock ejectorScope) consistent t).right quiet
    obtain ⟨t₂, quietLogs, _⟩ := collect_agree (g := (config.quiet chain).verifyTurn)
      (R := fun s _ => FetcherConsistent config caches chain fails s)
      (fun event _ s t here s' start fine turn => by
        obtain ⟨kept, t', same⟩ := (verifyTurn_agree start fine t).left turn
        exact ⟨t', same, kept⟩) (t := t₁) kept along looped
    obtain ⟨c₂, calmLogs, _⟩ := collect_agree (g := (config.calm caches chain).verifyTurn)
      (R := fun _ c => FetcherConsistent config caches chain (fun _ => false) c) (C := fun _ _ => True)
      (fun event _ t c here t' start _ turn =>
        (verifyTurn_agree start (fun _ => not_interrupted fun _ _ => rfl) t).right turn)
      calmKept (Along.of_forall (fun _ _ => trivial) _ _) quietLogs
    exact ⟨c₂, bind_ok.mpr ⟨events, c₁, calmEvents, calmLogs⟩⟩

/-- **Failures that are over disturb nothing.** -/
theorem undisturbed_of_fine (fine : ∀ n, s.verifier.node.made ≤ n → fails n = false) :
    Undisturbed config caches chain fails fromBlock toBlock ejectorScope s := by
  intro events s₁ loaded
  let f := config.flaky caches chain fails
  have asksEl (request : ElRequest) : Preserves (Since s.verifier.node.made s.verifier.node.failed)
      (f.verifier.el.elRequest request) := request_since fine _
  have asksCl (request : ClRequest) : Preserves (Since s.verifier.node.made s.verifier.node.failed)
      (f.cl.clRequest request) := request_since fine _
  have loads := Fetcher.onNode_node (f := f)
    (Fetcher.getValidatorExitRequestEvents_node asksEl asksCl fromBlock toBlock ejectorScope)
  exact Along.of_preserves (Fetcher.verifyTurn_node asksEl)
    (fun event t kept _ => not_interrupted fun n later => fine n (kept.1.trans later)) events s₁
    (loads.ok ⟨le_rfl, rfl⟩ loaded)

/-- A fetch whose events are not loaded makes no check. -/
theorem undisturbed_of_error {e : Failure} {s₁ : (config.flaky caches chain fails).State}
    (failed : (config.flaky caches chain fails).onNode ((config.flaky caches chain
      fails).getValidatorExitRequestEvents fromBlock toBlock ejectorScope) s = .error e s₁) :
    Undisturbed config caches chain fails fromBlock toBlock ejectorScope s := by
  intro events s₂ loaded
  rw [failed] at loaded
  cases loaded

/-- What a turn without failures pushes for an event that would verify. -/
theorem verifyTurn_pushes {event : ExitRequestEvent} {c c' : (config.calm caches chain).State}
    {here : List ValidatorsToEject} (start : FetcherConsistent config caches chain (fun _ => false) c)
    (accepted : config.TRUST_MODE = true ∨ WouldVerify config caches chain event)
    (turn : (config.calm caches chain).verifyTurn event c = .ok here c') :
    ∃ validator, (config.calm caches chain).toEject event = .ok validator ∧ here = [validator] := by
  cases trust : config.TRUST_MODE with
  | true =>
    have trusted : (config.calm caches chain).TRUST_MODE = true := trust
    unfold Fetcher.verifyTurn Fetcher.check at turn
    rw [if_pos trusted] at turn
    obtain ⟨accepted, c₁, ⟨⟩, rest⟩ := bind_ok.mp turn
    obtain ⟨validator, c₂, pushed, same⟩ := bind_ok.mp rest
    cases same
    exact ⟨validator, (ofResult_ok.mp pushed).1, rfl⟩
  | false =>
    have verifies : WouldVerify config caches chain event := by
      rcases accepted with trusted | verifies
      · rw [trust] at trusted
        cases trusted
      · exact verifies
    -- the verification resolves from empty caches, so without caches, so from these caches
    obtain ⟨_, _, ran⟩ := verifies
    let t := (config.quiet chain).fresh ()
    have fresh : FetcherConsistent config caches chain (fun _ => false)
        ((config.calm caches chain).fresh ⟨0, 0⟩) := consistent_fresh
    obtain ⟨_, t', quiet⟩ := (agree_of_calm (tracks_verify event) fresh t).left ran
    obtain ⟨c₁, here', _⟩ := (agree_of_calm (tracks_verify event) start t).right quiet
    rcases (Fetcher.verifyTurn_ok (f := config.calm caches chain) trust).mp turn with
      ⟨_, validator, _, pushed, rfl, _⟩ | ⟨e, _, failed, _⟩
    · exact ⟨validator, pushed, rfl⟩
    · have same : (config.calm caches chain).verify event c = .ok () c₁ := here'
      rw [same] at failed
      cases failed

/-- **A fetch without failures has every event that would verify.** -/
theorem mem_of_wouldVerify {events : List ExitRequestEvent} {c c₁ c' : (config.calm caches chain).State}
    (start : FetcherConsistent config caches chain (fun _ => false) c)
    (loaded : (config.calm caches chain).onNode ((config.calm caches chain).getValidatorExitRequestEvents
      fromBlock toBlock ejectorScope) c = .ok events c₁)
    (ran : (config.calm caches chain).getLogs fromBlock toBlock ejectorScope c = .ok logs c')
    {event : ExitRequestEvent} (member : event ∈ events)
    (accepted : config.TRUST_MODE = true ∨ WouldVerify config caches chain event) :
    ∃ validator ∈ logs, (config.calm caches chain).toEject event = .ok validator := by
  obtain ⟨events', c₁', same, looped⟩ := bind_ok.mp ran
  rw [loaded] at same
  cases same
  have events : Preserves (FetcherConsistent config caches chain fun _ => false) _ :=
    (tracks_events fromBlock toBlock ejectorScope).preserves ((config.quiet chain).fresh ())
  obtain ⟨t, here, t', kept, turn, inside⟩ := exists_turn verifyTurn_preserves
    (events.ok start loaded) looped event member
  obtain ⟨validator, pushed, rfl⟩ := verifyTurn_pushes kept accepted turn
  exact ⟨validator, inside validator List.mem_cons_self, pushed⟩

end Tracking

end ValidatorEjector
