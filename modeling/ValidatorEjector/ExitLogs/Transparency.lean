/-
**The caches of the verifier are transparent.**

Over a deterministic node that never fails, whatever the caches evict, a verification resolves exactly when
it would without caches.

* `VerifyCall`, `verdicts` — a call of `verifyEvent`, and the verdicts of a sequence of calls, each from the
  state the one before leaves.
* `consistent_afterCalls` — what the caches hold after any calls is what the node serves.
* `getTransaction_failed`, `consensusReached_failed` — a lookup that fails adds nothing to a cache.
* **`verdicts_transparent`** — the verdicts are those without caches, the key of a lookup determines it, and
  failed lookups are not cached.
-/

import ValidatorEjector.ExitLogs.Flaky

namespace ValidatorEjector

open Js Library Library.Program

/-! ### Sequences of calls -/

/-- The arguments of `verifyEvent`. -/
structure VerifyCall where
  validatorPubkey : String
  transactionHash : String
  toBlock : JsNumber

namespace Verifier

variable {ρ : Type} (v : Verifier ρ)

/-- The call. -/
def verify (call : VerifyCall) : v.Run Unit :=
  v.verifyEvent call.validatorPubkey call.transactionHash call.toBlock

/-- Whether the call resolves. -/
def verdict (call : VerifyCall) (s : v.State) : Bool := decide (Resolves (v.verify call) s)

/-- The state after the calls. -/
def afterCalls (calls : List VerifyCall) (s : v.State) : v.State :=
  calls.foldl (fun s call => stateAfter (v.verify call) s) s

/-- The verdicts of the calls, one after the other. -/
def verdicts : List VerifyCall → v.State → List Bool
  | [], _ => []
  | call :: calls, s => v.verdict call s :: verdicts calls (stateAfter (v.verify call) s)

variable {v} {s s' : v.State} {e : Failure}

/-- A request leaves the caches. -/
theorem onNode_caches {α : Type} {x : EStateM Failure ρ α} {P : v.State → Prop}
    (others : ∀ s node, P s → P { s with node }) : Preserves P (v.onNode x) :=
  Triple.onPart (P := fun _ => True) (Q := fun _ _ => True) (E := fun _ => True)
    (fun node _ => by cases x node <;> trivial) (fun _ _ => trivial)
      (fun _ node s start _ => others s node start)
    fun node s start _ => others s node start

/-- **A transaction that is not loaded is not cached.** -/
theorem getTransaction_failed {transactionHash : String}
    (failed : v.getTransaction transactionHash s = .error e s') {key : String} {tx : Tx}
    (held : v.caches.Holds s'.lruTransactionCache key tx) :
      v.caches.Holds s.lruTransactionCache key tx := by
  cases hit : (v.caches.get transactionHash s.lruTransactionCache).1 with
  | some tx =>
    rw [getTransaction_known hit] at failed
    cases failed
  | none =>
    rw [getTransaction_unknown hit] at failed
    let cache := (v.caches.get transactionHash s.lruTransactionCache).2
    have body : Triple (fun s : v.State => s.lruTransactionCache = cache) (do
        let json ← v.onNode (v.el.elRequest (.eth_getTransactionByHash transactionHash))
        let result ← ofResult (txDTO json)
        v.cacheTransaction result.hash result
        pure result) (fun _ _ => True) fun s => s.lruTransactionCache = cache := by
      refine Triple.bind (onNode_caches fun _ _ same => same) fun json => ?_
      refine Triple.bind Preserves.ofResult fun result => ?_
      exact Triple.bind (Q := fun _ _ => True) (fun _ _ => trivial) fun _ => Triple.pure fun _ _ =>
        trivial
    have kept := body.error rfl failed
    rw [kept] at held
    exact v.caches.get_keeps held

/-- **A lookup that finds nothing is not cached.** -/
theorem consensusReached_failed {toBlock : JsNumber} {refSlot hash : String}
    (failed : v.consensusReachedTransactionHash toBlock refSlot hash s = .error e s')
    {key found : String} (held : v.caches.Holds s'.lruConsensusReachedLogsCache key found) :
    v.caches.Holds s.lruConsensusReachedLogsCache key found := by
  let asked := v.caches.get (consensusReachedKey toBlock refSlot hash) s.lruConsensusReachedLogsCache
  by_cases unknown : missing asked.1 = true
  · rw [consensusReached_unknown toBlock refSlot hash unknown] at failed
    have loads : Preserves (fun s : v.State => s.lruConsensusReachedLogsCache = asked.2)
        (v.consensusReachedLogs toBlock refSlot) :=
      Triple.bind Preserves.ofResult fun _ => Triple.bind Preserves.ofResult fun _ =>
        Triple.bind Preserves.ofResult fun _ => onNode_caches fun _ _ same => same
    have kept : s'.lruConsensusReachedLogsCache = asked.2 := by
      refine Triple.error (P := fun s : v.State => s.lruConsensusReachedLogsCache = asked.2)
        (E := fun s => s.lruConsensusReachedLogsCache = asked.2) (Q := fun _ _ => True) ?_ rfl failed
      refine Triple.bind loads fun logs => Triple.bind Preserves.ofResult fun decoded => ?_
      cases decoded.find? fun event => event.2 = hash with
      | none => exact Triple.throw fun _ same => same
      | some found =>
        exact Triple.bind (Q := fun _ _ => True) (fun _ _ => trivial) fun _ => Triple.pure fun _ _ =>
          trivial
    rw [kept] at held
    exact v.caches.get_keeps held
  · cases hit : asked.1 with
    | none => exact absurd (by rw [hit]; rfl) unknown
    | some transactionHash =>
      have given : transactionHash ≠ "" := by
        rintro rfl
        exact unknown (by rw [hit]; rfl)
      rw [consensusReached_known toBlock refSlot hash hit given] at failed
      cases failed

end Verifier

/-! ### Over a node that never fails -/

section Transparent

variable {config : FetcherConfig} {caches : CachePolicy String} {chain : ChainData}

/-- A call keeps the caches consistent. -/
theorem verify_preserves {fails : Nat → Bool} (call : VerifyCall) :
    Preserves (Consistent config caches chain fails)
      ((config.flaky caches chain fails).verifier.verify call) :=
  (tracks_verifyEvent call.validatorPubkey call.transactionHash call.toBlock).preserves
    ((config.quiet chain).verifier.fresh ())

/-- Any calls do. -/
theorem consistent_afterCalls {fails : Nat → Bool} (calls : List VerifyCall) :
    ∀ {s : (config.flaky caches chain fails).verifier.State}, Consistent config caches chain fails s →
      Consistent config caches chain fails
        ((config.flaky caches chain fails).verifier.afterCalls calls s) := by
  induction calls with
  | nil => exact fun start => start
  | cons call calls ih => exact fun start => ih ((verify_preserves call).stateAfter start)

/-- From consistent caches a call resolves as it does without caches. -/
theorem resolves_verify (call : VerifyCall) {s : (config.calm caches chain).verifier.State}
    (start : Consistent config caches chain (fun _ => false) s)
    (t : (config.quiet chain).verifier.State) :
    Resolves ((config.calm caches chain).verifier.verify call) s ↔
      Resolves ((config.quiet chain).verifier.verify call) t := by
  have tracks : TracksVerifier config caches chain (fun _ => false)
      ((config.calm caches chain).verifier.verify call) ((config.quiet chain).verifier.verify call) :=
    tracks_verifyEvent call.validatorPubkey call.transactionHash call.toBlock
  have after : Consistent config caches chain (fun _ => false)
      (stateAfter ((config.calm caches chain).verifier.verify call) s) :=
    (verify_preserves call).stateAfter start
  have free : ¬ s.node.failed
      < (stateAfter ((config.calm caches chain).verifier.verify call) s).node.failed :=
    Nat.not_lt.mpr ((after.node fun _ => rfl).le.trans (Nat.zero_le _))
  have agree := tracks.undisturbed start t free
  constructor
  · rintro ⟨a, s', ran⟩
    obtain ⟨_, t', quiet⟩ := agree.left ran
    exact ⟨a, t', quiet⟩
  · rintro ⟨a, t', ran⟩
    obtain ⟨s', calm, _⟩ := agree.right ran
    exact ⟨a, s', calm⟩

/-- The verdicts of calls, from consistent caches. -/
theorem verdicts_of_consistent (t : (config.quiet chain).verifier.State) (calls : List VerifyCall) :
    ∀ {s : (config.calm caches chain).verifier.State}, Consistent config caches chain
      (fun _ => false) s →
      (config.calm caches chain).verifier.verdicts calls s
        = calls.map fun call => (config.quiet chain).verifier.verdict call t := by
  induction calls with
  | nil => exact fun _ => rfl
  | cons call calls ih =>
    intro s start
    have here : (config.calm caches chain).verifier.verdict call s
        = (config.quiet chain).verifier.verdict call t := decide_eq_decide.mpr
          (resolves_verify call start t)
    have rest := ih ((verify_preserves call).stateAfter start)
    unfold Verifier.verdicts
    rw [List.map_cons, here]
    exact congrArg _ rest

/-- **The caches are transparent.** Whatever they evict, the verdicts of any calls are those of the verifier
without caches. The key of a lookup determines the lookup, and what a failed lookup leaves in a cache was
there before. -/
theorem verdicts_transparent (config : FetcherConfig) (caches : CachePolicy String)
    (chain : ChainData) (calls : List VerifyCall) :
    (config.calm caches chain).verifier.verdicts calls
        ((config.calm caches chain).verifier.fresh ⟨0, 0⟩)
      = (calls.map fun call => (config.quiet chain).verifier.verdict call
          ((config.quiet chain).verifier.fresh ())) ∧
    (∀ (m n : JsNumber) (i j : Nat) (hash hash' : String),
      Verifier.consensusReachedKey m (toString i) hash = Verifier.consensusReachedKey n
        (toString j) hash' →
        m = n ∧ i = j ∧ hash = hash') ∧
    (∀ (transactionHash : String) (s s' : (config.calm caches chain).verifier.State) (e : Failure),
      (config.calm caches chain).verifier.getTransaction transactionHash s = .error e s' →
        ∀ key tx, caches.Holds s'.lruTransactionCache key tx →
          caches.Holds s.lruTransactionCache key tx) ∧
    ∀ (toBlock : JsNumber) (refSlot hash : String) (s s' : (config.calm caches chain).verifier.State)
      (e : Failure),
      (config.calm caches chain).verifier.consensusReachedTransactionHash toBlock refSlot hash s =
        .error e s' →
        ∀ key found, caches.Holds s'.lruConsensusReachedLogsCache key found →
          caches.Holds s.lruConsensusReachedLogsCache key found :=
  ⟨verdicts_of_consistent _ calls consistent_fresh,
    fun _ _ _ _ _ _ same => consensusReachedKey_inj same,
    fun _ _ _ _ failed _ _ held => Verifier.getTransaction_failed failed held,
    fun _ _ _ _ _ _ failed _ _ held => Verifier.consensusReached_failed failed held⟩

end Transparent

end ValidatorEjector
