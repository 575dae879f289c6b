/-
**Which logs the scope loads.**

The modules of the scope are asked for one after the other, each with its operators, and what they give is
put together.

* `ExitRequested`, `ExitBusNode` — an event of the Exit Bus, and a node that serves the logs of a range whose
  topics match.
* `topic_text_ok`, `topic_number_ok` — which ids have a topic.
* `scopeLogs_ok` — what is asked for one module; `scopeLogs_served` — what an honest node answers.
* `LoadsOnce` — each log of the scope is loaded exactly once.
* **`loadsOnce_iff`** — so it is exactly when the ids keep their values, and no operator is named twice with
  one module, in a range of blocks above the first.
-/

import ValidatorEjector.Config.Scope
import ValidatorEjector.ExitLogs.Honest

namespace ValidatorEjector

open Js Hex Library Library.Program Library.Windows

/-! ### The Exit Bus -/

/-- An event `ValidatorExitRequest`, and where it was emitted. -/
structure ExitRequested where
  block : Nat
  stakingModuleId : Nat
  nodeOperatorId : Nat
  validatorIndex : Nat
  data : String
  transactionHash : String
  deriving DecidableEq

/-- The topic of a number. -/
def idTopic (n : Nat) : String := "0x" ++ word n

/-- Its log. -/
def ExitRequested.log (event : ExitRequested) : Log where
  topics := [validatorExitRequestTopic, idTopic event.stakingModuleId, idTopic event.nodeOperatorId,
    idTopic event.validatorIndex]
  data := event.data
  blockNumber := quantity event.block
  transactionHash := event.transactionHash

/-- The topics that are asked for. -/
def requestTopics (modules operators : List String) : List Topic :=
  [.one validatorExitRequestTopic, .anyOf modules, .anyOf operators]

/-- The events whose topics match. -/
def matching (events : List ExitRequested) (modules operators : List String) : List ExitRequested :=
  events.filter fun event => idTopic event.stakingModuleId ∈ modules ∧
    idTopic event.nodeOperatorId ∈ operators

/-- **A node that serves the events of the Exit Bus.** -/
structure ExitBusNode {ρ : Type} (el : ExecutionApi ρ) (exitBusAddress : String)
    (events : List ExitRequested) :
    Prop where
  documented : el.ethers.Documented
  resolved : el.exitBusAddress = .ok exitBusAddress
  isAddress : el.ethers.isAddress exitBusAddress = true
  sorted : events.Pairwise fun a b => a.block ≤ b.block
  serves : ∀ modules operators, ServesRanges el exitBusAddress (requestTopics modules operators)
    (matching events modules operators) ExitRequested.block ExitRequested.log

theorem idTopic_inj {m n : Nat} (same : idTopic m = idTopic n) : m = n := topic_word_inj same

theorem mem_map_idTopic {n : Nat} {ns : List Nat} : idTopic n ∈ ns.map idTopic ↔ n ∈ ns := by
  rw [List.mem_map]
  constructor
  · rintro ⟨m, inside, same⟩
    rwa [← idTopic_inj same]
  · intro inside
    exact ⟨n, inside, rfl⟩

/-! ### Topics -/

namespace Fetcher

variable {ρ : Type} {f : Fetcher ρ}

theorem topic_ok (documented : f.verifier.el.ethers.Documented) {id : BigNumberish} {text : String} :
    f.topic id = .ok text ↔
      ∃ n, Hex.bigNumberFrom id = .ok n ∧ Hex.hexZeroPad (Hex.toHexString n) 32 = .ok text := by
  unfold topic
  rw [documented.bigNumberFrom, documented.toHexString, documented.hexZeroPad, except_bind_ok]

/-- **An operator has a topic** if it is a safe integer. -/
theorem topic_number_ok (documented : f.verifier.el.ethers.Documented) {o : Nat} {text : String} :
    f.topic (.number (.int o)) = .ok text ↔ o < MAX_SAFE ∧ text = idTopic o := by
  have limit : MAX_SAFE = 2 ^ 53 - 1 := rfl
  rw [topic_ok documented]
  constructor
  · rintro ⟨n, number, padded⟩
    obtain ⟨same, safe⟩ := bigNumberFrom_number.mp number
    cases same
    rw [Int.natAbs_natCast] at safe
    exact ⟨safe, (hexZeroPad_toHexString_ok.mp padded).2⟩
  · rintro ⟨safe, rfl⟩
    refine ⟨o, bigNumberFrom_number.mpr ⟨rfl, by rwa [Int.natAbs_natCast]⟩, hexZeroPad_toHexString ?_⟩
    exact lt_trans safe (by rw [limit]; norm_num)

theorem bigNumberFrom_text_ok {text : String} {n : Int} :
    Hex.bigNumberFrom (.text text) = .ok n ↔ integer? text = some n := by
  unfold Hex.bigNumberFrom
  cases read : integer? text with
  | none => simp [read]
  | some z => simp [read]

/-- **A module has a topic** if its text is a numeral; it is that of the number the text denotes. -/
theorem topic_text_ok (documented : f.verifier.el.ethers.Documented) {m : Nat} {text : String} :
    f.topic (.text (JsNumber.int m).toText) = .ok text ↔
      ∃ v : Nat, integer? (JsNumber.int m).toText = some (v : Int) ∧ v < 2 ^ 256 ∧ text = idTopic v := by
  rw [topic_ok documented]
  constructor
  · rintro ⟨n, number, padded⟩
    have read := bigNumberFrom_text_ok.mp number
    obtain ⟨v, rfl, _⟩ := integer?_toText read
    obtain ⟨small, rfl⟩ := hexZeroPad_toHexString_ok.mp padded
    exact ⟨v, read, small, rfl⟩
  · rintro ⟨v, read, small, rfl⟩
    exact ⟨v, bigNumberFrom_text_ok.mpr read, hexZeroPad_toHexString small⟩

/-- The logs of the scope: what `getValidatorExitRequestEvents` collects before it parses them. -/
def collectedLogs (f : Fetcher ρ) (first last : Nat) (ejectorScope : List EjectorScope) :
    EStateM Failure ρ (List Log) :=
  collect (f.scopeLogs (.int first) (.int last)) ejectorScope

example (f : Fetcher ρ) (first last : Nat) (ejectorScope : List EjectorScope) :
    f.loadEvents (.int first) (.int last) ejectorScope =
      f.collectedLogs first last ejectorScope >>= fun logs => ofResult (logs.mapM f.parseEvent) := rfl

end Fetcher

/-! ### One module -/

namespace ScopeIds

/-- The ids keep their values: the text of the module is a numeral for it, and the operators are safe
integers. -/
structure Exact (ids : ScopeIds) : Prop where
  module : integer? (JsNumber.int ids.module).toText = some (ids.module : Int)
  operators : ∀ o ∈ ids.operators, o < MAX_SAFE

/-- The event is one of the module and of one of the operators. -/
def Has (ids : ScopeIds) (event : ExitRequested) : Prop :=
  event.stakingModuleId = ids.module ∧ event.nodeOperatorId ∈ ids.operators

instance (ids : ScopeIds) : DecidablePred ids.Has := fun _ => inferInstanceAs (Decidable (_ ∧ _))

/-- No operator is named with the same module in both. -/
def Apart (ids ids' : ScopeIds) : Prop :=
  ids.module = ids'.module → ∀ o ∈ ids.operators, o ∉ ids'.operators

/-- The topics of an entry. -/
def topics (module : Nat) (ids : ScopeIds) : List Topic :=
  requestTopics [idTopic module] (ids.operators.eraseDups.map idTopic)

end ScopeIds

section Module

variable {ρ : Type} {f : Fetcher ρ} {ids : ScopeIds} {first last : Nat} {exitBusAddress : String}
  {events : List ExitRequested}

/-- **What is asked for one module**: the logs of the number that its text denotes. -/
theorem scopeLogs_ok (documented : f.verifier.el.ethers.Documented)
    (resolved : f.verifier.el.exitBusAddress = .ok exitBusAddress) {s s' : ρ} {logs : List Log} :
    f.scopeLogs (.int first) (.int last) ids.scope s = .ok logs s' ↔
      ∃ v : Nat, integer? (JsNumber.int ids.module).toText = some (v : Int) ∧
        (∀ o ∈ ids.operators, o < MAX_SAFE) ∧
        f.verifier.el.getLogs (.int first) (.int last) exitBusAddress (ids.topics v) s = .ok logs s' := by
  have operators (safe : ∀ o ∈ ids.operators, o < MAX_SAFE) : ids.scope.operatorIds.mapM
      (fun (o : Nat) =>
      f.topic (.number (.int o))) = .ok (ids.operators.eraseDups.map idTopic) :=
    mapM_of_ok fun o inside => (Fetcher.topic_number_ok documented).mpr
      ⟨safe o (List.mem_eraseDups.mp inside), rfl⟩
  unfold Fetcher.scopeLogs
  rw [resolved]
  constructor
  · intro ran
    obtain ⟨_, _, address, ran⟩ := bind_ok.mp ran
    obtain ⟨same, rfl⟩ := ofResult_ok.mp address
    cases same
    obtain ⟨module, _, named, ran⟩ := bind_ok.mp ran
    obtain ⟨printed, rfl⟩ := ofResult_ok.mp named
    obtain ⟨texts, _, named, ran⟩ := bind_ok.mp ran
    obtain ⟨listed, rfl⟩ := ofResult_ok.mp named
    obtain ⟨v, read, _, rfl⟩ := (Fetcher.topic_text_ok documented).mp printed
    have safe : ∀ o ∈ ids.operators, o < MAX_SAFE := by
      intro o inside
      obtain ⟨text, run⟩ := ok_of_mapM listed o (List.mem_eraseDups.mpr inside)
      exact ((Fetcher.topic_number_ok documented).mp run).1
    have same : Except.ok texts = Except.ok _ := listed.symm.trans (operators safe)
    cases same
    exact ⟨v, read, safe, ran⟩
  · rintro ⟨v, read, safe, ran⟩
    have small : v < 2 ^ 256 := by
      have bound := integer?_toText_lt read
      exact lt_trans (by exact_mod_cast bound) (show 10 ^ 21 < 2 ^ 256 by norm_num)
    exact bind_ok.mpr ⟨_, s, rfl, bind_ok.mpr ⟨_, s,
      ofResult_ok.mpr ⟨(Fetcher.topic_text_ok documented).mpr ⟨v, read, small, rfl⟩, rfl⟩,
      bind_ok.mpr ⟨_, s, ofResult_ok.mpr ⟨operators safe, rfl⟩, ran⟩⟩⟩

/-- The events that match the topics of an entry. -/
theorem matching_topics (v : Nat) : matching events [idTopic v] (ids.operators.eraseDups.map idTopic) =
    events.filter fun event => event.stakingModuleId = v ∧ event.nodeOperatorId ∈ ids.operators := by
  unfold matching
  refine List.filter_congr fun event _ => Bool.eq_iff_iff.mpr ?_
  rw [decide_eq_true_iff, decide_eq_true_iff, mem_map_idTopic, List.mem_eraseDups, List.mem_singleton]
  exact and_congr_left' ⟨idTopic_inj, congrArg idTopic⟩

/-- **What an honest node answers.** -/
theorem getLogs_exitBus (node : ExitBusNode f.verifier.el exitBusAddress events)
    (positive : 0 < first) (ordered : first ≤ last) (safe : last < MAX_SAFE) (ids : ScopeIds)
    (v : Nat) (s : ρ) : ∃ s',
    f.verifier.el.getLogs (.int first) (.int last) exitBusAddress (ids.topics v) s =
      .ok (((between ExitRequested.block events first last).filter fun event =>
        event.stakingModuleId = v ∧ event.nodeOperatorId ∈ ids.operators).map ExitRequested.log) s' := by
  have serves := node.serves [idTopic v] (ids.operators.eraseDups.map idTopic)
  rw [matching_topics] at serves
  have served := getLogs_served node.documented node.isAddress
      (node.sorted.filter _) serves positive ordered safe s
  unfold between at served ⊢
  rw [List.filter_comm]
  exact served

theorem scopeLogs_served (node : ExitBusNode f.verifier.el exitBusAddress events) (exact : ids.Exact)
    (positive : 0 < first) (ordered : first ≤ last) (safe : last < MAX_SAFE) (s : ρ) : ∃ s',
    f.scopeLogs (.int first) (.int last) ids.scope s =
      .ok (((between ExitRequested.block events first last).filter ids.Has).map ExitRequested.log) s' := by
  obtain ⟨s', ran⟩ := getLogs_exitBus node positive ordered safe ids ids.module s
  exact ⟨s', (scopeLogs_ok node.documented node.resolved).mpr
    ⟨ids.module, exact.module, exact.operators, ran⟩⟩

end Module

/-! ### The whole scope -/

section Scope

/-- The events of the named modules and operators in a range of blocks. -/
def requested (entries : List ScopeIds) (events : List ExitRequested) (first last : Nat) :
    List ExitRequested :=
  (between ExitRequested.block events first last).filter fun event => ∃ ids ∈ entries, ids.Has event

/-- **Each log of the scope is loaded exactly once**, and no other log, whatever the events on an honest
node. -/
def LoadsOnce (entries : List ScopeIds) (ejectorScope : List EjectorScope) (first last : Nat) : Prop :=
  ∀ (ρ : Type) (f : Fetcher ρ) (exitBusAddress : String) (events : List ExitRequested),
    ExitBusNode f.verifier.el exitBusAddress events → ∀ s, ∃ logs s',
      f.collectedLogs first last ejectorScope s = .ok logs s' ∧
        logs.Perm ((requested entries events first last).map ExitRequested.log)

variable {ρ : Type} {f : Fetcher ρ} {entries : List ScopeIds} {first last : Nat}
  {exitBusAddress : String} {events : List ExitRequested}

/-- What is collected for ids that keep their values. -/
theorem collectedLogs_served (node : ExitBusNode f.verifier.el exitBusAddress events)
    (exact : ∀ ids ∈ entries, ids.Exact) (positive : 0 < first) (ordered : first ≤ last)
    (safe : last < MAX_SAFE) (s : ρ) : ∃ s', f.collectedLogs first last (entries.map ScopeIds.scope) s =
      .ok ((entries.flatMap fun ids => (between ExitRequested.block events first last).filter ids.Has).map
        ExitRequested.log) s' := by
  have turn : ∀ ids ∈ entries, ∀ s, ∃ s', f.scopeLogs (.int first) (.int last) ids.scope s =
      .ok (((between ExitRequested.block events first last).filter ids.Has).map ExitRequested.log) s' :=
    fun ids inside s => scopeLogs_served node (exact ids inside) positive ordered safe s
  rw [List.map_flatMap]
  exact collect_of_each turn s

theorem loadsOnce_of_exact (exact : ∀ ids ∈ entries, ids.Exact)
    (apart : entries.Pairwise ScopeIds.Apart) (positive : 0 < first) (ordered : first ≤ last)
    (safe : last < MAX_SAFE) :
    LoadsOnce entries (entries.map ScopeIds.scope) first last := by
  intro ρ f exitBusAddress events node s
  obtain ⟨s', ran⟩ := collectedLogs_served node exact positive ordered safe s
  refine ⟨_, s', ran, List.Perm.map _ (flatMap_filter_perm ScopeIds.Has (apart.imp ?_))⟩
  rintro ids ids' apart event - ⟨module, operator⟩ ⟨module', operator'⟩
  exact apart (module.symm.trans module') _ operator operator'

end Scope

/-! ### A node for any events -/

section Archive

def archiveAddress : String := "0xb75a55efab5a8f5224ae93b34b25741edd3da98b"

/-- A node that has the events. -/
def archive (events : List ExitRequested) : Fetcher Unit where
  verifier := {
    el := {
      ethers := .recorded ⟨[], [], [], [], [], [], [], [], [], []⟩
      elRequest
        | .eth_getLogs fromBlock toBlock _ [_, .anyOf modules, .anyOf operators] =>
          pure (answerRange ((matching events modules operators).map fun event =>
            (event.block, event.log))
            fromBlock toBlock)
        | _ => ofResult unrecorded
      exitBusAddress? := some archiveAddress
      consensusAddress? := none
      LOAD_LOGS_STEP := Nat.succPNat 9999 }
    caches := .off String
    ORACLE_ADDRESSES_ALLOWLIST := []
    SUBMIT_TX_HASH_ALLOWLIST := [] }
  cl := .reporting []
  TRUST_MODE := true

theorem exitBusNode_archive {events : List ExitRequested}
    (sorted : events.Pairwise fun a b => a.block ≤ b.block) :
    ExitBusNode (archive events).verifier.el archiveAddress events where
  documented := documented_recorded _
  resolved := rfl
  isAddress := by
    show decide (archiveAddress.toList.length = 42) = true
    decide
  sorted := sorted
  serves modules operators first last s ordered := by
    have same : ((((matching events modules operators).map fun event =>
        (event.block, event.log)).filter fun log =>
        first ≤ log.1 ∧ log.1 ≤ last).map Prod.snd) =
        (between ExitRequested.block (matching events modules operators) first last).map ExitRequested.log := by
      unfold between
      rw [List.filter_map, List.map_map]
      rfl
    refine ⟨_, s, rfl, ?_⟩
    rw [answerRange_quantity, same]
    exact servedLogs_toJson _

theorem archive_resolves {entries : List ScopeIds} {ejectorScope : List EjectorScope}
    {first last : Nat} (loads : LoadsOnce entries ejectorScope first last)
    {events : List ExitRequested} (sorted : events.Pairwise fun a b => a.block ≤ b.block) : ∃ logs,
      (archive events).collectedLogs first last ejectorScope () = .ok logs () ∧
        logs.Perm ((requested entries events first last).map ExitRequested.log) :=
  have ⟨logs, _, ran, same⟩ := loads Unit (archive events) archiveAddress events
      (exitBusNode_archive sorted) ()
  ⟨logs, ran, same⟩

variable {entries : List ScopeIds} {first last : Nat}

/-- The modules that are loaded are asked for with the numbers that their texts denote. -/
theorem LoadsOnce.asked (loads : LoadsOnce entries (entries.map ScopeIds.scope) first last)
    {ids : ScopeIds} (inside : ids ∈ entries) :
    ∃ v : Nat, integer? (JsNumber.int ids.module).toText = some (v : Int) ∧
      (∀ o ∈ ids.operators, o < MAX_SAFE) ∧ ∃ t found t', (archive []).verifier.el.getLogs (.int first)
        (.int last)
        archiveAddress (ids.topics v) t = .ok found t' := by
  obtain ⟨logs, ran, _⟩ := archive_resolves loads List.Pairwise.nil
  obtain ⟨t, found, t', turn⟩ := resolves_of_collect ran _ (List.mem_map_of_mem inside)
  obtain ⟨v, read, operators, asked⟩ := (scopeLogs_ok (documented_recorded _) rfl).mp turn
  exact ⟨v, read, operators, t, found, t', asked⟩

/-- The range lies above the first block. -/
theorem LoadsOnce.range (loads : LoadsOnce entries (entries.map ScopeIds.scope) first last)
    (some : entries ≠ []) (ordered : first ≤ last) : 0 < first ∧ last < MAX_SAFE := by
  obtain ⟨ids, inside⟩ := List.exists_mem_of_ne_nil entries some
  obtain ⟨v, _, _, t, found, t', ran⟩ := loads.asked inside
  obtain ⟨safe, toBlock, t, json, t', found, answered, parsed⟩ :=
      getLogs_asked (documented_recorded _) ordered ran
  refine ⟨Nat.pos_of_ne_zero fun zero => ?_, safe⟩
  have refused : quantity? (hexStripZeros (toHexString first)) = none := by
    rw [zero, Int.natCast_zero, hexStripZeros_zero]
    rfl
  have answer := (EStateM.Result.ok.inj answered).1
  rw [answerRange_refused refused] at answer
  rw [← answer] at parsed
  exact logsDTO_refused rfl found parsed

/-- An event that is among the requested ones. -/
def sampleEvent (block module operator : Nat) : ExitRequested :=
  ⟨block, module, operator, 0, "0x", "0x"⟩

theorem requested_sample {ids : ScopeIds} (inside : ids ∈ entries) {o : Nat}
    (operator : o ∈ ids.operators) (ordered : first ≤ last) :
    requested entries [sampleEvent first ids.module o] first last = [sampleEvent first ids.module o] := by
  unfold requested between
  rw [List.filter_filter]
  refine List.filter_eq_self.mpr fun event member => ?_
  rw [List.mem_singleton.mp member]
  simp only [Bool.and_eq_true, decide_eq_true_iff]
  exact ⟨⟨ids, inside, rfl, operator⟩, le_rfl, ordered⟩

theorem exitBusNode_sample (block module operator : Nat) :
    ExitBusNode (archive [sampleEvent block module operator]).verifier.el archiveAddress
      [sampleEvent block module operator] :=
  exitBusNode_archive (List.pairwise_singleton _ _)

/-- A requested event that is alone is loaded. -/
theorem LoadsOnce.sample {ejectorScope : List EjectorScope}
    (loads : LoadsOnce entries ejectorScope first last) {ids : ScopeIds} (inside : ids ∈ entries)
    {o : Nat} (operator : o ∈ ids.operators) (ordered : first ≤ last) :
    ∃ logs, (archive [sampleEvent first ids.module o]).collectedLogs first last ejectorScope () = .ok logs () ∧
      logs.Perm [(sampleEvent first ids.module o).log] := by
  obtain ⟨logs, ran, same⟩ := archive_resolves loads (exitBusNode_sample first ids.module o).sorted
  rw [requested_sample inside operator ordered] at same
  exact ⟨logs, ran, same⟩

/-- **The ids keep their values.** -/
theorem LoadsOnce.exact (loads : LoadsOnce entries (entries.map ScopeIds.scope) first last)
    (filled : ∀ ids ∈ entries, ids.operators ≠ [])
    (doubles : ∀ ids ∈ entries, ofRat ids.module = .int ids.module) (ordered : first ≤ last)
    {ids : ScopeIds} (inside : ids ∈ entries) : ids.Exact := by
  obtain ⟨_, _, operators, _⟩ := loads.asked inside
  refine ⟨?_, operators⟩
  obtain ⟨positive, safe⟩ := loads.range (List.ne_nil_of_mem inside) ordered
  obtain ⟨o, operator⟩ := List.exists_mem_of_ne_nil _ (filled ids inside)
  have node := exitBusNode_sample first ids.module o
  obtain ⟨logs, ran, same⟩ := loads.sample inside operator ordered
  -- the log is one of a module whose text denotes this number
  have loaded : (sampleEvent first ids.module o).log ∈ logs := same.symm.subset List.mem_cons_self
  obtain ⟨scope, member, t, found, t', turn, here⟩ := mem_collect ran loaded
  obtain ⟨other, member, rfl⟩ := List.mem_map.mp member
  obtain ⟨v, read, _, asked⟩ := (scopeLogs_ok node.documented node.resolved).mp turn
  obtain ⟨t'', served⟩ := getLogs_exitBus node positive ordered safe other v t
  rw [asked] at served
  cases served
  obtain ⟨event, matched, sameLog⟩ := List.mem_map.mp here
  obtain ⟨_, asks⟩ := List.mem_filter.mp matched
  have module : event.stakingModuleId = v := (of_decide_eq_true asks).1
  have topics := List.cons.inj (congrArg Log.topics sameLog)
  have value : v = ids.module := module.symm.trans (idTopic_inj (List.cons.inj topics.2).1)
  obtain ⟨w, same, rounded⟩ := integer?_toText read
  rw [← Int.ofNat.inj same, value, doubles ids inside] at rounded
  have printed : (other.module : Int) = ids.module := (JsNumber.int.inj rounded).symm
  rwa [printed, value] at read

/-- **No operator is named twice with one module.** -/
theorem LoadsOnce.apart (loads : LoadsOnce entries (entries.map ScopeIds.scope) first last)
    (exact : ∀ ids ∈ entries, ids.Exact) (ordered : first ≤ last) :
    entries.Pairwise ScopeIds.Apart := by
  rw [List.pairwise_iff_forall_sublist]
  intro ids ids' both module o operator operator'
  have inside : ids ∈ entries := both.subset List.mem_cons_self
  obtain ⟨positive, safe⟩ := loads.range (List.ne_nil_of_mem inside) ordered
  have node := exitBusNode_sample first ids.module o
  obtain ⟨logs, ran, same⟩ := loads.sample inside operator ordered
  obtain ⟨s', served⟩ := collectedLogs_served node exact positive ordered safe ()
  rw [ran] at served
  cases served
  -- the log is loaded for the one entry and for the other
  have single (other : ScopeIds) (same : ids.module = other.module) (named : o ∈ other.operators) :
      (between ExitRequested.block [sampleEvent first ids.module o] first last).filter other.Has =
        [sampleEvent first ids.module o] := by
    have one : requested [other] [sampleEvent first other.module o] first last =
        [sampleEvent first other.module o] :=
      requested_sample List.mem_cons_self named ordered
    unfold requested at one
    rw [← same] at one
    refine (List.filter_congr fun event _ => Bool.eq_iff_iff.mpr ?_).trans one
    simp
  have twice := (both.flatMap fun other =>
    (between ExitRequested.block [sampleEvent first ids.module o] first last).filter other.Has).length_le
  have count := same.length_eq
  rw [List.length_map] at count
  rw [List.flatMap_cons, List.flatMap_cons, single ids rfl operator,
    single ids' module operator'] at twice
  simp only [List.flatMap_nil, List.length_append, List.length_cons, List.length_nil] at twice count
  omega

/-- **When each log of the scope is loaded exactly once**: the ids of an accepted configuration keep their
values, no operator is named twice with one module, and the range is one of safe integers above the first
block. -/
theorem loadsOnce_iff {host : Host} {config : AppConfig} (loaded : host.makeConfig = .ok config)
    (ordered : first ≤ last) : LoadsOnce host.scopeIds config.EJECTOR_SCOPE first last ↔
      (∀ ids ∈ host.scopeIds, ids.Exact) ∧ host.scopeIds.Pairwise ScopeIds.Apart ∧ 0 < first ∧
        last < MAX_SAFE := by
  obtain ⟨scope, some, filled⟩ := Host.makeConfig_scope loaded
  rw [scope] at some ⊢
  have entries : host.scopeIds ≠ [] := fun none => some (by rw [none]; rfl)
  constructor
  · intro loads
    have exact : ∀ ids ∈ host.scopeIds, ids.Exact := fun ids inside =>
      loads.exact filled (fun ids inside => Host.ofRat_module inside) ordered inside
    exact ⟨exact, loads.apart exact ordered, loads.range entries ordered⟩
  · rintro ⟨exact, apart, positive, safe⟩
    exact loadsOnce_of_exact exact apart positive ordered safe

end Archive

/-! ### Two modules -/

namespace ScopeFixture

open Validator

/-- The environment of the configuration tests, with a scope. -/
def host (scope : String) : Host where
  env name :=
    if name = "EJECTOR_SCOPE" then some scope
    else if name = "EXECUTION_NODE" then some "http://1.2.3.4:8545"
    else if name = "CONSENSUS_NODE" then some "http://1.2.3.4:5051"
    else if name = "LOCATOR_ADDRESS" then some "0x12cd349E19Ab2ADBE478Fc538A66C059Cf40CFeC"
    else if name = "ORACLE_ADDRESSES_ALLOWLIST" then some "[\"0x123\",\"0x12345\"]"
    else if name = "VALIDATOR_EXIT_WEBHOOK" then some "http://webhook"
    else none
  readFileSync _ := none

theorem toBool_bind {α β : Type} {check : Except Failure α} {f : α → Except Failure β}
    (first : check.toBool = true) (rest : ∀ a, (f a).toBool = true) : (check >>= f).toBool = true := by
  cases check with
  | error failure => cases first
  | ok a => exact rest a

theorem toBool_bind_ok {α β : Type} {check : Except Failure α} {f : α → Except Failure β} {a : α}
    (first : check = .ok a) (rest : (f a).toBool = true) : (check >>= f).toBool = true := by
  rw [first]
  exact rest

/-- Every other variable is accepted. -/
theorem makeConfig_host {text : String} {scope : EjectorScope} {scopes : List EjectorScope}
    (accepted : ejector_scope (some (.string text)) = .ok (scope :: scopes)) :
    (host text).makeConfig.toBool = true := by
  have set : Validator.optional (ejector_scope ((host text).unknown "EJECTOR_SCOPE")) =
      .ok (some (scope :: scopes)) := by
    show Validator.optional (ejector_scope (some (.string text))) = _
    rw [accepted]
    rfl
  refine toBool_bind_ok set ?_
  refine toBool_bind (show (url_list (some (.string "http://1.2.3.4:8545")) _).toBool = true by
    decide +kernel) fun _ => ?_
  refine toBool_bind (show (url_list (some (.string "http://1.2.3.4:5051")) _).toBool = true by
    decide +kernel) fun _ => ?_
  refine toBool_bind rfl fun _ => toBool_bind rfl fun _ => ?_
  -- with a scope the legacy variables are not read
  refine toBool_bind_ok rfl (toBool_bind_ok rfl (toBool_bind_ok rfl ?_))
  refine toBool_bind (show (json_arr (some (.string "[\"0x123\",\"0x12345\"]")) texts _).toBool
    = true by decide +kernel) fun _ => ?_
  refine toBool_bind rfl fun _ => toBool_bind_ok rfl (toBool_bind_ok rfl ?_)
  iterate 13 refine toBool_bind rfl fun _ => ?_
  exact toBool_bind rfl fun _ => toBool_bind rfl fun _ => rfl

section Two

variable {text key key' : String} {elements elements' : List Json} {ids ids' : ScopeIds}

/-- The text is accepted. -/
theorem exists_makeConfig
    (parsed : Json.parse text = some (.object [(key, .array elements), (key', .array elements')]))
    (reads : ids.Reads key elements) (reads' : ids'.Reads key' elements') (differ : key ≠ key') :
    ∃ config, (host text).makeConfig = .ok config := by
  have pair := entries_pair (.array elements) (.array elements') reads.name reads'.name differ
  have accepted : ejector_scope (some (.string text)) = .ok [ids.scope, ids'.scope] := by
    refine except_bind_ok.mpr ⟨[ids.scope, ids'.scope], json_obj_of parsed ?_, rfl⟩
    show (Json.entries _).mapM _ = _
    rw [pair, List.mapM_cons, List.mapM_cons]
    show (ValidatorEjector.scopeOf key (.array elements) >>= _) = _
    rw [reads.scopeOf]
    show (ValidatorEjector.scopeOf key' (.array elements') >>= _) >>= _ = _
    rw [reads'.scopeOf]
    rfl
  have loaded := makeConfig_host accepted
  cases made : (host text).makeConfig with
  | ok config => exact ⟨config, rfl⟩
  | error failure =>
    rw [made] at loaded
    cases loaded

/-- It names the two modules. -/
theorem scopeIds_host
    (parsed : Json.parse text = some (.object [(key, .array elements), (key', .array elements')]))
    (reads : ids.Reads key elements) (reads' : ids'.Reads key' elements') (differ : key ≠ key') :
    (host text).scopeIds = [ids, ids'] := by
  have pair := entries_pair (.array elements) (.array elements') reads.name reads'.name differ
  have set : (host text).env "EJECTOR_SCOPE" = some text := rfl
  unfold Host.scopeIds
  rw [set, Option.bind_some, parsed]
  show (Json.entries _).filterMap _ = _
  rw [pair]
  simp [elementsOf, reads.readEntry, reads'.readEntry]

end Two

/-- Module 1 with the operators 0 and 1, module 4 with the operator 2. -/
def twoModules : String := "\x7b\"01\":[\"0\",\"1\"],\"04\":[\"2\"]\x7d"

/-- Module 1 with the operator 7, under two keys. -/
def oneModuleTwice : String := "\x7b\"01\":[\"7\"],\"001\":[\"7\"]\x7d"

/-- The theorem at the two modules. -/
theorem loadsOnce_two : ∃ config, (host twoModules).makeConfig = .ok config ∧
    LoadsOnce (host twoModules).scopeIds config.EJECTOR_SCOPE 1 100 := by
  have printed : Json.stringify JsNumber.toText (.object [("01", .array [.string "0", .string "1"]),
      ("04", .array [.string "2"])]) = twoModules := by decide +kernel
  have parsed : Json.parse twoModules = some (.object
      [("01", .array [.string "0", .string "1"]), ("04", .array [.string "2"])]) := by
    rw [← printed]
    exact Json.parse_stringify ⟨⟨trivial, trivial, trivial⟩, ⟨trivial, trivial⟩, trivial⟩
  have reads : ScopeIds.Reads ⟨1, [0, 1]⟩ "01" [.string "0", .string "1"] :=
    ⟨arrayIndex?_zero rfl, by decide +kernel, by decide +kernel, by decide⟩
  have reads' : ScopeIds.Reads ⟨4, [2]⟩ "04" [.string "2"] :=
    ⟨arrayIndex?_zero rfl, by decide +kernel, by decide +kernel, by decide⟩
  obtain ⟨config, loaded⟩ := exists_makeConfig parsed reads reads' (by decide)
  refine ⟨config, loaded, (loadsOnce_iff loaded (by decide)).mpr ?_⟩
  have exact (module : Nat) (small : module < 10) (operators : List Nat)
      (safe : ∀ o ∈ operators, o < MAX_SAFE) :
      ScopeIds.Exact ⟨module, operators⟩ :=
        ⟨integer?_toText_small (le_trans small.le (by norm_num)), safe⟩
  rw [scopeIds_host parsed reads reads' (by decide)]
  refine ⟨?_, ?_, by decide, by decide⟩
  · simp only [List.mem_cons, List.not_mem_nil, or_false, forall_eq_or_imp, forall_eq]
    exact ⟨exact 1 (by decide) _ (by decide), exact 4 (by decide) _ (by decide)⟩
  · simp [ScopeIds.Apart]

/-- **Two keys for one number**: the logs of the module are loaded for the one and for the other. -/
theorem not_loadsOnce_twice : ¬ ∀ (host : Host) (config : AppConfig), host.makeConfig = .ok config →
    ∀ first last, first ≤ last → LoadsOnce host.scopeIds config.EJECTOR_SCOPE first last := by
  intro claim
  have printed : Json.stringify JsNumber.toText (.object [("01", .array [.string "7"]),
      ("001", .array [.string "7"])]) = oneModuleTwice := by decide +kernel
  have parsed : Json.parse oneModuleTwice = some (.object
      [("01", .array [.string "7"]), ("001", .array [.string "7"])]) := by
    rw [← printed]
    exact Json.parse_stringify ⟨⟨trivial, trivial⟩, ⟨trivial, trivial⟩, trivial⟩
  have reads : ScopeIds.Reads ⟨1, [7]⟩ "01" [.string "7"] :=
    ⟨arrayIndex?_zero rfl, by decide +kernel, by decide +kernel, by decide⟩
  have reads' : ScopeIds.Reads ⟨1, [7]⟩ "001" [.string "7"] :=
    ⟨arrayIndex?_zero rfl, by decide +kernel, by decide +kernel, by decide⟩
  obtain ⟨config, loaded⟩ := exists_makeConfig parsed reads reads' (by decide)
  have loads := claim _ config loaded 1 1 le_rfl
  rw [(Host.makeConfig_scope loaded).1, scopeIds_host parsed reads reads' (by decide)] at loads
  have exact : ScopeIds.Exact ⟨1, [7]⟩ := ⟨integer?_toText_small (by norm_num), by decide⟩
  have apart := loads.apart (by simpa using exact) le_rfl
  exact List.rel_of_pairwise_cons apart List.mem_cons_self rfl 7 List.mem_cons_self List.mem_cons_self

end ScopeFixture

end ValidatorEjector
