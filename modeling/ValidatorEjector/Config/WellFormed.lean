/-
**What an accepted configuration is like.**

* `checkMode_ok`, `makeConfig_mode` — one of the two modes is chosen.
* `Endpoint`, `url_list_endpoints` — the endpoints of an accepted list.
* `Count`, `countOf_count` — a number of items.
* `AppConfig.WellFormed` — what the other services rely on.
* **`makeConfig_wellFormed`** — an accepted configuration is well formed, whatever the environment.
-/

import ValidatorEjector.Config.Numbers
import ValidatorEjector.Config.Scope
import ValidatorEjector.Config.Secrets
import ValidatorEjector.Validator.UrlList

namespace ValidatorEjector

open Js Library.Program Validator

/-! ### Modes -/

theorem checkMode_ok {location webhook : Option String} :
    Host.checkMode location webhook = .ok () ↔ (missing location = true ↔ missing webhook = false) := by
  have filled (text : Option String) : missing text = true ↔ text.filter (· ≠ "") = none := by
    unfold missing
    cases text with
    | none => simp
    | some value => simp
  have chosen (text : Option String) : missing text = false ↔ text.filter (· ≠ "") ≠ none := by
    rw [ne_eq, ← filled, Bool.not_eq_true]
  rw [filled, chosen]
  unfold Host.checkMode
  cases location.filter (· ≠ "") with
  | none => cases webhook.filter (· ≠ "") with
    | none => simp
    | some _ => simp
  | some _ => cases webhook.filter (· ≠ "") with
    | none => simp
    | some _ => simp

/-- **An accepted configuration has chosen one of the two modes.** -/
theorem makeConfig_mode {host : Host} {config : AppConfig} (loaded : host.makeConfig = .ok config) :
    missing config.MESSAGES_LOCATION = true ↔ missing config.VALIDATOR_EXIT_WEBHOOK = false := by
  unfold Host.makeConfig at loaded
  -- up to the two variables, and from there to the check
  iterate 10 obtain ⟨_, _, loaded⟩ := except_bind_ok.mp loaded
  obtain ⟨location, _, loaded⟩ := except_bind_ok.mp loaded
  obtain ⟨webhook, _, loaded⟩ := except_bind_ok.mp loaded
  iterate 13 obtain ⟨_, _, loaded⟩ := except_bind_ok.mp loaded
  obtain ⟨_, checked, loaded⟩ := except_bind_ok.mp loaded
  obtain ⟨_, _, loaded⟩ := except_bind_ok.mp loaded
  cases loaded
  exact checkMode_ok.mp checked

/-! ### Endpoints -/

/-- An endpoint that a path is added to: no comma, and no slash at its end. -/
def Endpoint (url : String) : Prop := ',' ∉ url.toList ∧ url.toList.getLast? ≠ some '/'

theorem endpoint_of_mem {text url : String} (inside : url ∈ normalizeUrlList text) : Endpoint url := by
  obtain ⟨entry, member, _, rfl⟩ := mem_normalizeUrlList.mp inside
  unfold Endpoint endpointOf
  rw [String.toList_ofList]
  constructor
  · intro comma
    exact comma_of_mem member ((List.rdropWhile_prefix _ entry).subset comma)
  · intro last
    have filled : entry.rdropWhile (· = '/') ≠ [] := fun empty => by simp [empty] at last
    have kept := List.rdropWhile_last_not _ _ filled
    rw [List.getLast?_eq_some_getLast filled, Option.some_inj] at last
    rw [last] at kept
    exact kept (decide_eq_true rfl)

/-- A list of endpoints that is accepted has one. -/
theorem url_list_endpoints {host : Host} {name : String} {message : Option String} {urls : List String}
    (read : url_list (host.unknown name) message = .ok urls) : urls ≠ [] ∧ ∀ url ∈ urls, Endpoint url := by
  rcases host.unknown_cases name with ⟨_, unset⟩ | ⟨text, _, set⟩
  · rw [unset] at read
    cases read
  · rw [set] at read
    obtain ⟨rfl, filled⟩ := url_list_ok.mp read
    exact ⟨filled, fun url inside => endpoint_of_mem inside⟩

/-! ### Counts -/

/-- A number of items: one at least. -/
def Count (n : JsNumber) : Prop := n = .infinity false ∨ ∃ k : Nat, 0 < k ∧ n = .int k

theorem count_max {n : JsNumber} (number : n ≠ .nan) : Count (JsNumber.max (.int 1) n.floor) := by
  have whole (z : Int) : Count (JsNumber.max (.int 1) (.int z)) := by
    refine .inr ⟨(max 1 z).toNat, by omega, ?_⟩
    unfold JsNumber.max
    rw [if_neg (by simp), JsNumber.lt_int]
    by_cases more : 1 < z
    · rw [if_pos (decide_eq_true more)]
      congr 1
      omega
    · rw [if_neg (by simpa using more)]
      congr 1
      omega
  cases n with
  | nan => exact absurd rfl number
  | infinity negative =>
    cases negative with
    | true => exact .inr ⟨1, Nat.one_pos, rfl⟩
    | false => exact .inl rfl
  | int z => exact whole z
  | fraction q => exact whole ⌊q⌋

theorem orElse_ne_nan (value : Option JsNumber) (fallback : Int) :
    JsNumber.orElse value (.int fallback) ≠ .nan := by
  unfold JsNumber.orElse
  split <;> simp_all

/-- A text that is read as no number stands for the default, and so does zero. -/
theorem countOf_count {host : Host} {name : String} {fallback : Int} {n : JsNumber}
    (read : host.countOf name fallback = .ok n) : Count n := by
  obtain ⟨value, _, same⟩ := except_bind_ok.mp read
  cases same
  exact count_max (orElse_ne_nan value fallback)

/-! ### Configurations -/

theorem nodup_eraseDups {α : Type} [DecidableEq α] : ∀ as : List α, as.eraseDups.Nodup
  | [] => List.nodup_nil
  | a :: as => by
    rw [List.eraseDups_cons, List.nodup_cons]
    refine ⟨fun inside => ?_, nodup_eraseDups _⟩
    rw [List.mem_eraseDups, List.mem_filter] at inside
    simp at inside
termination_by as => as.length
decreasing_by exact Nat.lt_succ_of_le (List.length_filter_le _ as)

theorem eraseDups_ne_nil {α : Type} [DecidableEq α] {as : List α} (filled : as ≠ []) : as.eraseDups ≠ [] := by
  obtain ⟨a, inside⟩ := List.exists_mem_of_ne_nil as filled
  exact List.ne_nil_of_mem (List.mem_eraseDups.mpr inside)

/-- **A configuration that the other services rely on.** Each layer has
endpoints that paths are added to; messages come from a location, or
exits go to a webhook; some module is in scope, each under the text of a number and with operators, no
operator twice; the lists of all operators and modules are those of the scope; and the counts are positive. -/
structure AppConfig.WellFormed (config : AppConfig) : Prop where
  EXECUTION_NODE : config.EXECUTION_NODE ≠ [] ∧ ∀ url ∈ config.EXECUTION_NODE, Endpoint url
  CONSENSUS_NODE : config.CONSENSUS_NODE ≠ [] ∧ ∀ url ∈ config.CONSENSUS_NODE, Endpoint url
  mode : missing config.MESSAGES_LOCATION = true ↔ missing config.VALIDATOR_EXIT_WEBHOOK = false
  scope : config.EJECTOR_SCOPE ≠ []
  module : ∀ scope ∈ config.EJECTOR_SCOPE, ∃ id : Nat, scope.stakingModuleId = (JsNumber.int id).toText
  operators : ∀ scope ∈ config.EJECTOR_SCOPE, scope.operatorIds ≠ [] ∧ scope.operatorIds.Nodup
  OPERATOR_IDS : config.OPERATOR_IDS.Nodup ∧
    ∀ id, id ∈ config.OPERATOR_IDS ↔ ∃ scope ∈ config.EJECTOR_SCOPE, id ∈ scope.operatorIds
  STAKING_MODULE_IDS : config.STAKING_MODULE_IDS = config.EJECTOR_SCOPE.map EjectorScope.stakingModuleId
  BLOCKS_PRELOAD : Count config.BLOCKS_PRELOAD
  LOAD_LOGS_STEP : Count config.LOAD_LOGS_STEP
  VALIDATORS_BATCH_SIZE : Count config.VALIDATORS_BATCH_SIZE

/-- The lists of a configuration are made of its scope. -/
theorem makeConfig_lists {host : Host} {config : AppConfig} (loaded : host.makeConfig = .ok config) :
    config.OPERATOR_IDS = (config.EJECTOR_SCOPE.flatMap EjectorScope.operatorIds).eraseDups ∧
      config.STAKING_MODULE_IDS = config.EJECTOR_SCOPE.map EjectorScope.stakingModuleId := by
  unfold Host.makeConfig at loaded
  iterate 27 obtain ⟨_, _, loaded⟩ := except_bind_ok.mp loaded
  cases loaded
  exact ⟨rfl, rfl⟩

/-- **An accepted configuration is well formed**, whatever the environment and the files that it names. -/
theorem makeConfig_wellFormed {host : Host} {config : AppConfig} (loaded : host.makeConfig = .ok config) :
    config.WellFormed := by
  obtain ⟨⟨_, execution⟩, ⟨_, consensus⟩, _⟩ := makeConfig_ok loaded
  obtain ⟨scope, filled, operators⟩ := Host.makeConfig_scope loaded
  obtain ⟨ids, modules⟩ := makeConfig_lists loaded
  have numbers := makeConfig_numbers loaded
  have known : ∀ scope ∈ config.EJECTOR_SCOPE, ∃ ids ∈ host.scopeIds, scope = ids.scope := by
    intro entry inside
    rw [scope] at inside
    obtain ⟨ids, member, rfl⟩ := List.mem_map.mp inside
    exact ⟨ids, member, rfl⟩
  exact {
    EXECUTION_NODE := url_list_endpoints execution
    CONSENSUS_NODE := url_list_endpoints consensus
    mode := makeConfig_mode loaded
    scope := filled
    module := by
      intro entry inside
      obtain ⟨ids, _, rfl⟩ := known entry inside
      exact ⟨ids.module, rfl⟩
    operators := by
      intro entry inside
      obtain ⟨ids, member, rfl⟩ := known entry inside
      exact ⟨eraseDups_ne_nil (operators ids member), nodup_eraseDups _⟩
    OPERATOR_IDS := by
      rw [ids]
      exact ⟨nodup_eraseDups _, fun id => by rw [List.mem_eraseDups, List.mem_flatMap]⟩
    STAKING_MODULE_IDS := modules
    BLOCKS_PRELOAD := countOf_count numbers.preload
    LOAD_LOGS_STEP := countOf_count numbers.step
    VALIDATORS_BATCH_SIZE := countOf_count numbers.batch }

/-! ### A host -/

theorem ok_of_isSome {ε α : Type} {x : Except ε α} (some : x.toOption.isSome = true) :
    x = .ok (x.toOption.get some) := by
  cases x with
  | ok a => rfl
  | error e => cases some

namespace SampleHost

/-- A host with one execution node and two consensus nodes. -/
def host : Host where
  env
    | "EXECUTION_NODE" => some "http://el"
    | "CONSENSUS_NODE" => some "http://cl, http://backup/"
    | "LOCATOR_ADDRESS" => some "0x28FAB2059C713A7F9D8c86Db49f9bb0e96Af1ef8"
    | "STAKING_MODULE_ID" => some "1"
    | "OPERATOR_ID" => some "123"
    | "ORACLE_ADDRESSES_ALLOWLIST" => some "[]"
    | "MESSAGES_LOCATION" => some "messages"
    | _ => none
  readFileSync _ := none

theorem isSome_host : host.makeConfig.toOption.isSome = true := by decide +kernel

/-- The configuration of the host. -/
def config : AppConfig := host.makeConfig.toOption.get isSome_host

theorem makeConfig_host : host.makeConfig = .ok config := ok_of_isSome isSome_host

theorem wellFormed_host : config.WellFormed := makeConfig_wellFormed makeConfig_host

end SampleHost

end ValidatorEjector
