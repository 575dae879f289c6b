/-
**The sub-requests of `getLogs`.**

* `traced` — the execution API with its requests on record; `Asks` — the request for two bounds.
* `AnswersRanges` — a node that answers a range with the answers to its parts.
* **`getLogs_chunked`** — the sub-requests cut the range into parts of at most `LOAD_LOGS_STEP` blocks, give
  together what one request would give, and stop at the first failure.
* `Encodes` — both bounds of a request are quantities of JSON-RPC.
* **`bounds_encoded_iff`** — they are, unless the range starts at block zero.
-/

import Mathlib.Tactic.Lift
import ValidatorEjector.Recorded

namespace ValidatorEjector

open Js Hex Library Library.Program Library.Windows

namespace ExecutionApi

variable {ρ : Type} {el : ExecutionApi ρ} {address : String} {topics : List Topic}

/-- The API, with its requests on record. -/
def traced (el : ExecutionApi ρ) : ExecutionApi (ρ × List ElRequest) where
  ethers := el.ethers
  elRequest := recording el.elRequest
  exitBusAddress? := el.exitBusAddress?
  consensusAddress? := el.consensusAddress?
  LOAD_LOGS_STEP := el.LOAD_LOGS_STEP

/-- The request for the logs between two bounds. -/
def Asks (el : ExecutionApi ρ) (address : String) (topics : List Topic) (bounds : JsNumber × JsNumber)
    (request : ElRequest) : Prop :=
  ∃ fromBlock toBlock, el.quantity bounds.1 = .ok fromBlock ∧ el.quantity bounds.2 = .ok toBlock ∧
    request = .eth_getLogs fromBlock toBlock address topics

/-! ### One sub-request -/

section Between

variable {bounds : JsNumber × JsNumber} {s s' : ρ × List ElRequest} {found : List Log} {e : Failure}

theorem traced_ok (ran : el.traced.getLogsBetween address topics bounds s = .ok found s') :
    el.getLogsBetween address topics bounds s.1 = .ok found s'.1 ∧
      ∃ request, el.Asks address topics bounds request ∧ s'.2 = s.2 ++ [request] := by
  obtain ⟨fromBlock, _, first, ran⟩ := bind_ok.mp ran
  obtain ⟨lower, same⟩ := ofResult_ok.mp first
  obtain ⟨toBlock, _, second, ran⟩ := bind_ok.mp ran
  obtain ⟨upper, same'⟩ := ofResult_ok.mp second
  obtain ⟨json, _, answered, last⟩ := bind_ok.mp ran
  obtain ⟨parsed, rfl⟩ := ofResult_ok.mp last
  rw [← same', ← same] at answered
  obtain ⟨asked, calls⟩ := recording_ok.mp answered
  refine ⟨?_, _, ⟨fromBlock, toBlock, lower, upper, rfl⟩, calls⟩
  exact bind_ok.mpr ⟨_, _, ofResult_ok.mpr ⟨lower, rfl⟩,
    bind_ok.mpr ⟨_, _, ofResult_ok.mpr ⟨upper, rfl⟩,
    bind_ok.mpr ⟨json, _, asked, ofResult_ok.mpr ⟨parsed, rfl⟩⟩⟩⟩

/-- A sub-request that fails was made, or its bounds have no text. -/
theorem traced_error (ran : el.traced.getLogsBetween address topics bounds s = .error e s') :
    (s'.2 = s.2 ∧ ∀ request, ¬ el.Asks address topics bounds request) ∨
      ∃ request, el.Asks address topics bounds request ∧ s'.2 = s.2 ++ [request] := by
  unfold getLogsBetween at ran
  cases lower : el.traced.quantity bounds.1 with
  | error e =>
    have none (request : ElRequest) : ¬ el.Asks address topics bounds request := by
      rintro ⟨fromBlock, _, text, _⟩
      cases (lower.symm.trans text : Except.error e = Except.ok fromBlock)
    rw [lower] at ran
    cases ran
    exact .inl ⟨rfl, none⟩
  | ok fromBlock =>
    cases upper : el.traced.quantity bounds.2 with
    | error e =>
      have none (request : ElRequest) : ¬ el.Asks address topics bounds request := by
        rintro ⟨_, toBlock, _, text, _⟩
        cases (upper.symm.trans text : Except.error e = Except.ok toBlock)
      rw [lower, upper] at ran
      cases ran
      exact .inl ⟨rfl, none⟩
    | ok toBlock =>
      refine .inr ⟨.eth_getLogs fromBlock toBlock address topics,
        ⟨fromBlock, toBlock, lower, upper, rfl⟩, ?_⟩
      rw [lower, upper] at ran
      exact (Triple.bind recording_calls fun json => Preserves.ofResult).error rfl ran

end Between

/-! ### The loop -/

section Loop

variable {s' : ρ × List ElRequest} {found : List Log}

/-- A loop that resolves has made the requests of its turns. -/
theorem collect_asks : ∀ {bs : List (JsNumber × JsNumber)} {s : ρ × List ElRequest} {found : List Log},
    collect (el.traced.getLogsBetween address topics) bs s = .ok found s' →
      ∃ asked, s'.2 = s.2 ++ asked ∧ List.Forall₂ (el.Asks address topics) bs asked
  | [], s, found, ran => by
    cases ran
    exact ⟨[], (List.append_nil _).symm, .nil⟩
  | bounds :: bs, s, found, ran => by
    obtain ⟨here, s₁, rest, first, others, _⟩ := collect_cons_ok.mp ran
    obtain ⟨_, request, asks, calls⟩ := traced_ok first
    obtain ⟨asked, more, all⟩ := collect_asks others
    exact ⟨request :: asked, by rw [more, calls, List.append_assoc]; rfl, .cons asks all⟩

/-- Whatever its outcome, it has made the requests of its first turns; of none only if it could not make the
first. -/
theorem collect_sent (el : ExecutionApi ρ) (address : String) (topics : List Topic) :
    ∀ (bs : List (JsNumber × JsNumber)) (s : ρ × List ElRequest), ∃ before asked,
    before <+: bs ∧ (stateAfter (collect (el.traced.getLogsBetween address topics) bs) s).2 =
      s.2 ++ asked ∧
      List.Forall₂ (el.Asks address topics) before asked ∧
      (before = [] → ∀ bounds ∈ bs.head?, ∀ request, ¬ el.Asks address topics bounds request)
  | [], s => ⟨[], [], List.prefix_rfl, (List.append_nil _).symm, .nil, fun _ _ first => by cases first⟩
  | bounds :: bs, s => by
    cases first : el.traced.getLogsBetween address topics bounds s with
    | error e s₁ =>
      have ends : stateAfter (collect (el.traced.getLogsBetween address topics) (bounds :: bs)) s =
          s₁ :=
        stateAfter_error (bind_of_error first)
      rw [ends]
      rcases traced_error first with ⟨calls, none⟩ | ⟨request, asks, calls⟩
      · refine ⟨[], [], List.nil_prefix, by rw [calls, List.append_nil], .nil, fun _ other head => ?_⟩
        cases head
        exact none
      · exact ⟨[bounds], [request], ⟨bs, rfl⟩, calls, .cons asks .nil, fun empty => by cases empty⟩
    | ok here s₁ =>
      obtain ⟨_, request, asks, calls⟩ := traced_ok first
      obtain ⟨before, asked, part, more, all, _⟩ := collect_sent el address topics bs s₁
      refine ⟨bounds :: before, request :: asked, List.cons_prefix_cons.mpr ⟨rfl, part⟩, ?_,
        .cons asks all,
        fun empty => by cases empty⟩
      rw [stateAfter_collect first, more, calls, List.append_assoc]
      rfl

/-- **A node that answers a range with the answers to its parts.** What a request gives, if it gives
anything, are the logs of its range. -/
structure AnswersRanges (el : ExecutionApi ρ) (address : String) (topics : List Topic)
    (logs : Int → Int → List Log) : Prop where
  answers : ∀ first last s found s', 0 ≤ first → first ≤ last →
    el.getLogsBetween address topics (.int first, .int last) s = .ok found s' → found = logs first last
  concat : ∀ first mid last, 0 ≤ first → first ≤ mid → mid < last →
    logs first last = logs first mid ++ logs (mid + 1) last

/-- The bounds of a window. -/
def boundsOf (w : Window) : JsNumber × JsNumber := (.int w.first, .int w.last)

/-- The windows of an interval give its logs. -/
theorem collect_ranges {logs : Int → Int → List Log} (node : el.AnswersRanges address topics logs)
    {first last : Int} {ws : List Window} (tiles : Tiles first last ws) (nonneg : 0 ≤ first) :
    ∀ {s : ρ × List ElRequest} {found : List Log},
      collect (el.traced.getLogsBetween address topics) (ws.map boundsOf) s = .ok found s' →
        found = if first ≤ last then logs first last else [] := by
  induction tiles with
  | nil empty =>
    intro s found ran
    cases ran
    rw [if_neg (by omega)]
  | @cons last w ws nonempty within rest ih =>
    intro s found ran
    obtain ⟨here, s₁, others, first, more, rfl⟩ := collect_cons_ok.mp ran
    rw [node.answers w.first w.last _ _ _ nonneg nonempty (traced_ok first).1, ih (by omega) more,
      if_pos (nonempty.trans within)]
    by_cases ends : w.last + 1 ≤ last
    · rw [if_pos ends, node.concat w.first w.last last nonneg nonempty (by omega)]
    · have same : w.last = last := by omega
      rw [if_neg ends, List.append_nil, same]

theorem getLogs_run (el : ExecutionApi ρ) {first last : Int} (nonneg : 0 ≤ first)
    (ordered : first ≤ last) (isAddress : el.ethers.isAddress address = true) :
    el.getLogs (.int first) (.int last) address topics
      = collect (el.getLogsBetween address topics)
        ((windows el.LOAD_LOGS_STEP first last).map boundsOf) := by
  unfold getLogs
  rw [if_neg (by simpa using nonneg), if_neg (by simpa using nonneg.trans ordered),
    if_neg (by simpa using ordered), if_neg (by simpa using isAddress)]
  rfl

end Loop

/-! ### Chunked loading -/

section Chunked

variable {logs : Int → Int → List Log}

/-- The sub-request for a window, on record. -/
def subRequest (el : ExecutionApi ρ) (address : String) (topics : List Topic) (w : Window) :
    EStateM Failure (ρ × List ElRequest) (List Log) :=
  el.traced.getLogsBetween address topics (boundsOf w)

/-- **Chunked loading equals one request.** The sub-ranges cut the range into parts of at most
`LOAD_LOGS_STEP` blocks. If every sub-request succeeds, the logs are those of the whole range, as a single
request gives them, and one request was made for each sub-range. At the first that fails the call fails with
it. -/
theorem getLogs_chunked (el : ExecutionApi ρ) {first last : Int} (nonneg : 0 ≤ first)
    (ordered : first ≤ last) (isAddress : el.ethers.isAddress address = true) (topics : List Topic)
    (node : el.AnswersRanges address topics logs) (start : ρ) :
    let ws := windows el.LOAD_LOGS_STEP first last
    let run := el.traced.getLogs (.int first) (.int last) address topics (start, [])
    (Tiles first last ws ∧ (∀ w ∈ ws, w.last - w.first + 1 ≤ el.LOAD_LOGS_STEP) ∧
      (ws.length : Int) = ⌈((last - first + 1 : Int) : ℚ) / el.LOAD_LOGS_STEP⌉) ∧
    (Along (el.subRequest address topics) (fun w s => Resolves (el.subRequest address topics w) s) ws
        (start, []) →
      ∃ s', run = .ok (logs first last) s' ∧
        List.Forall₂ (el.Asks address topics) (ws.map boundsOf) s'.2 ∧ s'.2.length = ws.length) ∧
    (∀ s single s', el.getLogsBetween address topics (.int first, .int last) s = .ok single s' →
      single = logs first last) ∧
    ∀ before w after here s e s', ws = before ++ w :: after →
      collect (el.subRequest address topics) before (start, []) = .ok here s →
      el.subRequest address topics w s = .error e s' →
      run = .error e s' ∧ List.Forall₂ (el.Asks address topics) (before.map boundsOf) s.2 ∧
        ((s'.2 = s.2 ∧ ∀ request, ¬ el.Asks address topics (boundsOf w) request) ∨
          ∃ request, el.Asks address topics (boundsOf w) request ∧ s'.2 = s.2 ++ [request]) := by
  intro ws run
  have tiles : Tiles first last ws := windows_tiles el.LOAD_LOGS_STEP first last
  have looped : run = collect (el.traced.getLogsBetween address topics) (ws.map boundsOf) (start, []) :=
    congrFun (getLogs_run el.traced nonneg ordered isAddress) (start, [])
  have mapped (vs : List Window) : collect (el.traced.getLogsBetween address topics) (vs.map boundsOf)
      = collect (el.subRequest address topics) vs := collect_map _ _ vs
  refine ⟨⟨tiles, windows_width, length_windows _ ordered⟩, ?_, ?_, ?_⟩
  · intro succeed
    obtain ⟨found, s', ran⟩ := resolves_collect.mpr succeed
    rw [← mapped] at ran
    have all := collect_ranges node tiles nonneg ran
    rw [if_pos ordered] at all
    obtain ⟨asked, calls, asks⟩ := collect_asks ran
    rw [List.nil_append] at calls
    rw [← calls] at asks
    rw [looped, ran, all]
    exact ⟨s', rfl, asks, by rw [← asks.length_eq, List.length_map]⟩
  · intro s single s' ran
    exact node.answers first last s single s' nonneg ordered ran
  · intro before w after here s e s' parts reached failed
    refine ⟨?_, ?_, traced_error failed⟩
    · rw [looped, mapped, parts]
      exact collect_of_failure failed reached
    · rw [← mapped] at reached
      obtain ⟨asked, calls, asks⟩ := collect_asks reached
      rw [calls]
      exact asks

end Chunked

/-! ### Encoded bounds -/

section Encoded

/-- Both bounds of the window are in the request, as quantities. -/
def Encodes (address : String) (topics : List Topic) (w : Window) (request : ElRequest) : Prop :=
  ∃ fromBlock toBlock first last, request = .eth_getLogs fromBlock toBlock address topics ∧
    quantity? fromBlock = some first ∧ quantity? toBlock = some last ∧ w = ⟨first, last⟩

/-- The requests that a call makes. -/
def sent (el : ExecutionApi ρ) (fromBlock toBlock : JsNumber) (address : String) (topics : List Topic)
    (node : ρ) : List ElRequest :=
  (stateAfter (el.traced.getLogs fromBlock toBlock address topics) (node, [])).2

/-- The bounds that have a text. -/
theorem quantity_ok (documented : el.ethers.Documented) {block : JsNumber} {text : String} :
    el.quantity block = .ok text ↔
      ∃ n : Int, block = .int n ∧ n.natAbs < MAX_SAFE ∧ text = hexStripZeros (toHexString n) := by
  unfold quantity
  rw [documented.bigNumberFrom, documented.toHexString, documented.hexStripZeros, except_bind_ok]
  constructor
  · rintro ⟨n, number, same⟩
    obtain ⟨whole, safe⟩ := bigNumberFrom_number.mp number
    exact ⟨n, whole, safe, (Except.ok.inj same).symm⟩
  · rintro ⟨n, whole, safe, rfl⟩
    exact ⟨n, bigNumberFrom_number.mpr ⟨whole, safe⟩, rfl⟩

/-- The request for a window above block zero. -/
theorem encodes_of_asks (documented : el.ethers.Documented) {w : Window} (positive : 0 < w.first)
    (nonempty : w.first ≤ w.last) {request : ElRequest}
    (asks : el.Asks address topics (boundsOf w) request) : Encodes address topics w request := by
  obtain ⟨fromBlock, toBlock, lower, upper, rfl⟩ := asks
  obtain ⟨first, last⟩ := w
  dsimp only at positive nonempty
  lift first to Nat using positive.le
  lift last to Nat using by omega
  obtain ⟨_, ⟨⟩, _, rfl⟩ := (quantity_ok documented).mp lower
  obtain ⟨_, ⟨⟩, _, rfl⟩ := (quantity_ok documented).mp upper
  refine ⟨_, _, first, last, rfl, ?_, ?_, rfl⟩
  · rw [hexStripZeros_toHexString (by omega), quantity?_quantity]
  · rw [hexStripZeros_toHexString (by omega), quantity?_quantity]

/-- Block zero has no digits. -/
theorem not_encodes_zero (documented : el.ethers.Documented) {w : Window} (zero : w.first = 0)
    {request : ElRequest} (asks : el.Asks address topics (boundsOf w) request) :
    ¬ Encodes address topics w request := by
  rintro ⟨fromBlock, toBlock, first, last, rfl, lower, _⟩
  obtain ⟨_, _, text, _, same⟩ := asks
  cases same
  obtain ⟨n, same, _, rfl⟩ := (quantity_ok documented).mp text
  cases same
  rw [zero, hexStripZeros_zero] at lower
  cases lower

/-- The windows that have a request. -/
theorem exists_asks_iff (documented : el.ethers.Documented) {w : Window} :
    (∃ request, el.Asks address topics (boundsOf w) request) ↔
      w.first.natAbs < MAX_SAFE ∧ w.last.natAbs < MAX_SAFE := by
  constructor
  · rintro ⟨_, fromBlock, toBlock, lower, upper, _⟩
    obtain ⟨_, ⟨⟩, safe, _⟩ := (quantity_ok documented).mp lower
    obtain ⟨_, ⟨⟩, safe', _⟩ := (quantity_ok documented).mp upper
    exact ⟨safe, safe'⟩
  · rintro ⟨safe, safe'⟩
    exact ⟨_, _, _, (quantity_ok documented).mpr ⟨w.first, rfl, safe, rfl⟩,
      (quantity_ok documented).mpr ⟨w.last, rfl, safe', rfl⟩, rfl⟩

/-- The first window of an interval. -/
theorem windows_cons (step : ℕ+) {first last : Int} (ordered : first ≤ last) :
    ∃ ws, windows step first last = ⟨first, min (first + step - 1) last⟩ :: ws := by
  obtain ⟨fuel, enough⟩ := Int.eq_ofNat_of_zero_le (show 0 ≤ last - first by omega)
  have turns : (last + 1 - first).toNat = fuel + 1 := by omega
  unfold windows
  rw [turns, windowsFrom, if_pos ordered]
  exact ⟨_, rfl⟩

/-- **The bounds of the sub-requests are valid quantities exactly when the range does not start at block
zero**, or its first sub-range has no text at all. -/
theorem bounds_encoded_iff (el : ExecutionApi ρ) (documented : el.ethers.Documented)
    {first last : Nat} (ordered : first ≤ last) (isAddress : el.ethers.isAddress address = true)
    (topics : List Topic) (node : ρ) :
    (∃ ws, ws <+: windows el.LOAD_LOGS_STEP first last ∧
      List.Forall₂ (Encodes address topics) ws (el.sent (.int first) (.int last) address topics node)) ↔
      (0 < first ∨ MAX_SAFE ≤ min ((el.LOAD_LOGS_STEP : Nat) - 1) last) := by
  have start : (first : Int) ≤ last := by exact_mod_cast ordered
  have looped : el.sent (.int first) (.int last) address topics node
      = (stateAfter (collect (el.traced.getLogsBetween address topics)
          ((windows el.LOAD_LOGS_STEP first last).map boundsOf)) (node, [])).2 := by
    unfold sent
    rw [getLogs_run el.traced (Int.natCast_nonneg first) start isAddress]
    rfl
  obtain ⟨before, asked, part, calls, asks, first_asked⟩ :=
    collect_sent el address topics ((windows el.LOAD_LOGS_STEP first last).map boundsOf) (node, [])
  obtain ⟨ws, starts⟩ := windows_cons el.LOAD_LOGS_STEP start
  have tiles := windows_tiles el.LOAD_LOGS_STEP first last
  rw [looped, calls, List.nil_append]
  rw [starts] at part first_asked tiles ⊢
  constructor
  · rintro ⟨vs, vpart, encoded⟩
    by_contra bounds
    have limit : MAX_SAFE = 2 ^ 53 - 1 := rfl
    obtain ⟨request, asked_first⟩ : ∃ request, el.Asks address topics
        (boundsOf ⟨first, min (first + el.LOAD_LOGS_STEP - 1) last⟩) request :=
      (exists_asks_iff documented).mpr (by dsimp only; omega)
    cases asks with
    | nil => exact first_asked rfl _ rfl request asked_first
    | cons here _ =>
      cases encoded with
      | cons encodes _ =>
        cases (List.cons_prefix_cons.mp part).1
        cases (List.cons_prefix_cons.mp vpart).1
        exact not_encodes_zero documented (by dsimp only; omega) here encodes
  · intro bounds
    by_cases positive : 0 < first
    · have within : ∀ w ∈ (⟨first, min (first + el.LOAD_LOGS_STEP - 1) last⟩ :: ws).take before.length,
          0 < w.first ∧ w.first ≤ w.last := fun w inside => by
        obtain ⟨above, nonempty, _⟩ := tiles.bounds w (List.mem_of_mem_take inside)
        exact ⟨by omega, nonempty⟩
      have mapped := List.prefix_iff_eq_take.mp part
      rw [← List.map_take] at mapped
      rw [mapped, List.forall₂_map_left_iff] at asks
      refine ⟨_, List.take_prefix before.length _, ?_⟩
      exact ((List.forall₂_and_left _ _).mpr ⟨within, asks⟩).imp fun w request
        ⟨⟨positive, nonempty⟩, asks⟩ =>
        encodes_of_asks documented positive nonempty asks
    · -- the first bounds have no text, so nothing is sent
      cases asks with
      | nil => exact ⟨[], List.nil_prefix, .nil⟩
      | cons here _ =>
        cases (List.cons_prefix_cons.mp part).1
        have safe := (exists_asks_iff documented).mp ⟨_, here⟩
        dsimp only at safe
        omega

end Encoded

end ExecutionApi

/-! ### A node with logs -/

namespace RangeFixture

open ExecutionApi

def address : String := "0xb75a55efab5a8f5224ae93b34b25741edd3da98b"

variable {topics : List Topic}

/-- A log of the block. -/
def log (block : Nat) : Nat × Log := (block, ⟨[validatorExitRequestTopic], "0x", quantity block, "0x"⟩)

/-- The logs of the chain. -/
def logs : List (Nat × Log) := [log 7, log 14, log 15, log 40]

/-- A node that serves them, asked for ten blocks at once. -/
def node : ExecutionApi Unit where
  ethers := .recorded ⟨[], [], [], [], [], [], [], [], [], []⟩
  elRequest
    | .eth_getLogs fromBlock toBlock _ _ => pure (answerRange logs fromBlock toBlock)
    | _ => ofResult unrecorded
  exitBusAddress? := some address
  consensusAddress? := none
  LOAD_LOGS_STEP := ⟨10, Nat.zero_lt_succ 9⟩

/-- The logs of a range. -/
def logsOf (first last : Int) : List Log :=
  (logs.filter fun log => first ≤ log.1 ∧ log.1 ≤ last).map Prod.snd

/-- What the node answers to the bounds. -/
theorem answered {first last : Nat} {s s' : Unit} {found : List Log}
    (ran : node.getLogsBetween address topics (.int first, .int last) s = .ok found s') :
    logsDTO (answerRange logs (hexStripZeros (toHexString first)) (hexStripZeros (toHexString last)))
      = .ok found := by
  have documented : node.ethers.Documented := documented_recorded _
  obtain ⟨fromBlock, _, lower, ran⟩ := bind_ok.mp ran
  obtain ⟨toBlock, _, upper, ran⟩ := bind_ok.mp ran
  obtain ⟨_, ⟨⟩, _, rfl⟩ := (quantity_ok documented).mp (ofResult_ok.mp lower).1
  obtain ⟨_, ⟨⟩, _, rfl⟩ := (quantity_ok documented).mp (ofResult_ok.mp upper).1
  obtain ⟨json, _, answered, parsed⟩ := bind_ok.mp ran
  have same : (EStateM.Result.ok (answerRange logs (hexStripZeros (toHexString first))
    (hexStripZeros (toHexString last))) _ : EStateM.Result Failure Unit Json) = .ok json _ := answered
  rw [(EStateM.Result.ok.inj same).1]
  exact (ofResult_ok.mp parsed).1

theorem answersRanges (topics : List Topic) : node.AnswersRanges address topics logsOf where
  answers first last s found s' nonneg ordered ran := by
    lift first to Nat using nonneg
    lift last to Nat using by omega
    have parsed := answered ran
    by_cases zero : first = 0
    · rw [zero, answerRange_refused (by decide)] at parsed
      cases parsed
    · rw [hexStripZeros_toHexString (by omega), hexStripZeros_toHexString (by omega),
        answerRange_quantity,
        logsDTO_toJson, Except.ok.injEq] at parsed
      rw [← parsed]
      unfold logsOf
      simp only [Nat.cast_le]
  concat first mid last _ lower upper := by
    have sorted : logs.Pairwise fun a b => (a.1 : Int) ≤ b.1 := by decide
    unfold logsOf
    rw [← List.map_append, filter_append_filter]
    · congr 1
      refine List.filter_congr fun log _ => decide_eq_decide.mpr ?_
      omega
    · exact sorted.imp fun order inside => by omega
    · intro log inside
      omega

/-- Three requests for twenty-five blocks. -/
theorem getLogs_chunked_three : ∃ s', node.traced.getLogs (.int 6) (.int 30) address [] ((), [])
    = .ok (logsOf 6 30) s' ∧ s'.2.length = 3 := by
  obtain ⟨_, succeed, _⟩ := getLogs_chunked node (show (0 : Int) ≤ 6 by decide)
    (show (6 : Int) ≤ 30 by decide) (show node.ethers.isAddress address = true by decide) []
    (answersRanges []) ()
  obtain ⟨s', ran, _, length⟩ := succeed (resolves_collect.mp (by decide +kernel))
  exact ⟨s', ran, length⟩

/-- Above block zero every bound is a quantity. -/
theorem bounds_encoded_six : ∃ ws, ws <+: windows node.LOAD_LOGS_STEP 6 30 ∧
    List.Forall₂ (Encodes address []) ws (node.sent (.int 6) (.int 30) address [] ()) :=
  (bounds_encoded_iff node (documented_recorded _) (show 6 ≤ 30 by decide)
    (show node.ethers.isAddress address = true by decide) [] ()).mpr (.inl (by decide))

/-- Block zero is sent without digits. -/
theorem sent_zero : node.sent (.int 0) (.int 9) address [] () = [.eth_getLogs "0x" "0x9" address []] := by
  decide +kernel

theorem bounds_not_encoded : ¬ ∃ ws, ws <+: windows node.LOAD_LOGS_STEP 0 9 ∧
    List.Forall₂ (Encodes address []) ws (node.sent (.int 0) (.int 9) address [] ()) := by
  rintro ⟨ws, _, encoded⟩
  rw [sent_zero] at encoded
  cases encoded with
  | cons encodes _ =>
    obtain ⟨fromBlock, _, _, _, same, lower, _⟩ := encodes
    cases same
    have none : quantity? "0x" = none := by decide
    rw [none] at lower
    cases lower

end RangeFixture

end ValidatorEjector
