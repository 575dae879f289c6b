/-
**The scope that the variables name.**

Ids are read as numbers, and the module is printed again.

* `idOf`, `ScopeIds`, `scopeIds` — the numbers in `EJECTOR_SCOPE`, or in the legacy variables.
* `makeConfig_scope` — an accepted configuration has them all, as `ScopeIds.scope` writes them.
* `ofRat_module` — a module is a double.
-/

import ValidatorEjector.Config.Service
import ValidatorEjector.Library.Program

namespace ValidatorEjector

open Js Library.Program Validator

/-! ### What the checks accept -/

section Accept

variable {α : Type}

/-- The check fails on no value as it does on an empty one. -/
def Fills (check : Except Failure α) : Prop :=
  ∀ failure, check = .error failure → failure.errorClass ≠ .validationEmpty

theorem optional_of_fills {check : Except Failure α} (fills : Fills check) {value : Option α}
    (accepted : Validator.optional check = .ok value) : ∃ a, value = some a ∧ check = .ok a := by
  cases check with
  | ok a =>
    cases accepted
    exact ⟨a, rfl, rfl⟩
  | error failure =>
    unfold Validator.optional at accepted
    simp only [if_neg (fills failure rfl)] at accepted
    cases accepted

theorem fills_num (json : Json) (message : String) : Fills (num (some json) (some message)) := by
  intro failure failed
  unfold num make at failed
  cases json with
  | string s =>
    dsimp only at failed
    split_ifs at failed
    cases failed
    simp [invalid]
  | number n =>
    dsimp only at failed
    split_ifs at failed
    cases failed
    simp [invalid]
  | null => cases failed; simp [invalid]
  | bool b => cases failed; simp [invalid]
  | array es => cases failed; simp [invalid]
  | object ms => cases failed; simp [invalid]

theorem fills_bind {β : Type} {check : Except Failure α} {f : α → Except Failure β}
    (first : Fills check) (rest : ∀ a, Fills (f a)) : Fills (check >>= f) := by
  intro failure failed
  cases check with
  | ok a => exact rest a failure failed
  | error other =>
    cases failed
    exact first failure rfl

theorem fills_nonNegativeInteger (json : Json) (name : String) :
    Fills (nonNegativeInteger (some json) name) := by
  refine fills_bind (fills_num json _) fun parsed failure failed => ?_
  cases parsed with
  | int z =>
    dsimp only at failed
    split_ifs at failed
    cases failed
    simp [Failure.error, Failure.template]
  | _ =>
    cases failed
    simp [Failure.error, Failure.template]

theorem fills_json {check : Json → Except Failure α} (fills : ∀ json, Fills (check json))
    (text message : String) :
    Fills (makeJson check (some (.string text)) message) := by
  intro failure failed
  unfold makeJson at failed
  dsimp only at failed
  split at failed
  · exact fills _ failure failed
  · cases failed
    simp

theorem fills_deep {β : Type} (parseFn : Json → Option String → Except Failure α) (json : Json)
    (cb : α → Except Failure β) (message : Option String) :
      Fills (makeDeep parseFn (some json) cb message) := by
  intro failure failed
  unfold makeDeep at failed
  dsimp only at failed
  cases run : (parseFn json message).bind cb with
  | ok b =>
    rw [run] at failed
    cases failed
  | error other =>
    rw [run] at failed
    cases failed
    simp [Failure.asValidation]

theorem json_obj_ok {cb : Members → Except Failure α} {text message : String} {a : α}
    (accepted : json_obj (some (.string text)) cb message = .ok a) :
    ∃ members, Json.parse text = some (.object members) ∧ cb members = .ok a := by
  unfold json_obj makeJson at accepted
  dsimp only at accepted
  split at accepted
  · rename_i parsed read
    obtain ⟨members, same, run⟩ := obj_ok.mp accepted
    cases same
    exact ⟨members, read, run⟩
  · cases accepted

/-- A text of an object whose members are accepted. -/
theorem json_obj_of {cb : Members → Except Failure α} {text message : String} {members : Members}
    {a : α} (parsed : Json.parse text = some (.object members)) (accepted : cb members = .ok a) :
    json_obj (some (.string text)) cb message = .ok a := by
  unfold json_obj makeJson
  dsimp only
  rw [parsed]
  exact obj_ok.mpr ⟨members, rfl, accepted⟩

theorem json_arr_ok {cb : List Json → Except Failure α} {text message : String} {a : α}
    (accepted : json_arr (some (.string text)) cb message = .ok a) :
    ∃ elements, Json.parse text = some (.array elements) ∧ cb elements = .ok a := by
  unfold json_arr makeJson at accepted
  dsimp only at accepted
  split at accepted
  · rename_i parsed read
    obtain ⟨elements, same, run⟩ := arr_ok.mp accepted
    cases same
    exact ⟨elements, read, run⟩
  · cases accepted

end Accept

/-! ### Ids -/

/-- The number that an id is read as. -/
def idOf (value : Json) : Option Nat :=
  match num (some value) with
  | .ok (.int z) => if 0 ≤ z then some z.toNat else none
  | _ => none

/-- A module with its operators, as numbers. -/
structure ScopeIds where
  module : Nat
  operators : List Nat

/-- The entry of the configuration. -/
def ScopeIds.scope (ids : ScopeIds) : EjectorScope where
  stakingModuleId := (JsNumber.int ids.module).toText
  operatorIds := ids.operators.eraseDups

/-- The elements of an array. -/
def elementsOf : Json → List Json
  | .array elements => elements
  | _ => []

/-- The ids of an entry. -/
def readEntry (stakingModuleId : Json) (operatorIds : List Json) : Option ScopeIds :=
  (idOf stakingModuleId).map fun module => ⟨module, operatorIds.filterMap idOf⟩

theorem num_message (value : Json) (message : String) (n : JsNumber) :
    num (some value) (some message) = .ok n ↔ num (some value) = .ok n := by
  unfold num make
  cases value with
  | string s => by_cases nan : Number s = .nan <;> simp [nan]
  | number m => by_cases nan : m = .nan <;> simp [nan]
  | null => simp
  | bool b => simp
  | array es => simp
  | object ms => simp

theorem nonNegativeInteger_ok {value : Json} {name : String} {n : Nat} :
    nonNegativeInteger (some value) name = .ok n ↔ idOf value = some n := by
  unfold nonNegativeInteger idOf
  rw [except_bind_ok]
  simp only [num_message]
  cases num (some value) with
  | error failure => simp
  | ok parsed =>
    cases parsed with
    | int z =>
      by_cases nonneg : 0 ≤ z
      · simp [nonneg]
      · simp [nonneg]
    | _ => simp

theorem ofRat_parseFloat {s : String} {n : Nat} (read : parseFloat s = .int n) : ofRat n = .int n := by
  unfold parseFloat at read
  dsimp only at read
  split at read
  · cases read
  · exact ofRat_rounded read
  · cases read

/-- A module id is a double. -/
theorem ofRat_idOf {key : String} {n : Nat} (read : idOf (.string key) = some n) : ofRat n = .int n := by
  have parsed : num (some (.string key)) = .ok (.int n) := by
    unfold idOf at read
    split at read
    · rename_i z accepted
      split_ifs at read with nonneg
      cases read
      rw [accepted, Int.toNat_of_nonneg nonneg]
    · cases read
  unfold num make at parsed
  dsimp only at parsed
  split_ifs at parsed
  exact ofRat_parseFloat (Except.ok.inj parsed)

theorem ids_ok {ids : List Json} {name : String} {ns : List Nat}
    (accepted : ids.mapM (fun (id : Json) => nonNegativeInteger id name) = .ok ns) :
      ns = ids.filterMap idOf := by
  have read := mapM_eq_filterMap (h := id)
      (fun json n run => ⟨n, nonNegativeInteger_ok.mp run, rfl⟩) accepted
  rwa [List.map_id] at read

theorem scopeOf_ok {key : String} {json : Json} {scope : EjectorScope}
    (accepted : scopeOf key json = .ok scope) :
    ∃ ids, readEntry (.string key) (elementsOf json) = some ids ∧ scope = ids.scope ∧
      ids.operators ≠ [] := by
  obtain ⟨operators, checked, rest⟩ := except_bind_ok.mp accepted
  obtain ⟨elements, same, read⟩ := arr_ok.mp checked
  cases same
  have each : elements.mapM (fun (id : Json) => nonNegativeInteger id
      s!"EJECTOR_SCOPE operators for staking module {key}") = .ok operators := by
    have items : (do let id ← elements; pure (some id) : List (Option Json)) = elements.map some :=
      List.flatMap_pure_eq_map some elements
    have mapped : (elements.map some).mapM (fun id => nonNegativeInteger id
        s!"EJECTOR_SCOPE operators for staking module {key}") = .ok operators := by
      rw [← items]
      exact read
    rwa [List.mapM_map] at mapped
  split_ifs at rest with empty
  obtain ⟨module, named, same⟩ := except_bind_ok.mp rest
  cases same
  obtain rfl := ids_ok each
  refine ⟨⟨module, elements.filterMap idOf⟩, ?_, rfl, empty⟩
  unfold readEntry
  rw [nonNegativeInteger_ok.mp named]
  rfl

/-! ### Members whose ids are read -/

theorem arrayIndex?_zero {key : String} {c : Char} {cs : List Char}
    (starts : key.toList = '0' :: c :: cs) :
    Json.arrayIndex? key = none := by
  unfold Json.arrayIndex?
  refine Option.filter_eq_none_iff.mpr fun index _ => ?_
  simp only [decide_eq_true_eq, not_and]
  intro same
  exfalso
  rw [← same] at starts
  have digits : Nat.toDigits 10 index = '0' :: c :: cs := Nat.toList_repr.symm.trans starts
  rcases Nat.eq_zero_or_pos index with rfl | positive
  · cases digits
  · obtain ⟨d, ds, written, first⟩ := toDigits_cons (by decide : 1 < 10) positive
    rw [digits] at written
    cases written
    exact first rfl

/-- Two keys that are no index keys. -/
theorem entries_pair {k k' : String} (json json' : Json) (name : Json.arrayIndex? k = none)
    (name' : Json.arrayIndex? k' = none) (differ : k ≠ k') :
    Json.entries [(k, json), (k', json')] = [(k, json), (k', json')] := by
  have keys : [k, k'].eraseDups = [k, k'] := by
    rw [List.eraseDups_cons, List.filter_cons_of_pos (by simpa using differ.symm)]
    rfl
  have first : Json.member? [(k, json), (k', json')] k = some json := by
    show List.lookup k [(k', json'), (k, json)] = _
    rw [List.lookup_cons, beq_false_of_ne differ]
    exact List.lookup_cons_self
  have second : Json.member? [(k, json), (k', json')] k' = some json' := List.lookup_cons_self
  unfold Json.entries
  show ((([k, k'].eraseDups.filterMap Json.arrayIndex?).insertionSort (· ≤ ·)).map toString ++
    [k, k'].eraseDups.filter fun key => Json.arrayIndex? key = none).filterMap _ = _
  rw [keys]
  simp [name, name', first, second]

/-- The member has these ids. -/
structure ScopeIds.Reads (ids : ScopeIds) (key : String) (elements : List Json) : Prop where
  name : Json.arrayIndex? key = none
  module : idOf (.string key) = some ids.module
  operators : elements.map idOf = ids.operators.map some
  filled : ids.operators ≠ []

namespace ScopeIds.Reads

variable {ids : ScopeIds} {key : String} {elements : List Json}

theorem nonNegativeIntegers {name : String} : ∀ {elements : List Json} {ns : List Nat},
    elements.map idOf = ns.map some →
      elements.mapM (fun (id : Json) => nonNegativeInteger (some id) name) = .ok ns
  | [], [], _ => rfl
  | [], _ :: _, read => by cases read
  | _ :: _, [], read => by cases read
  | json :: elements, n :: ns, read => by
    obtain ⟨first, others⟩ := List.cons.inj read
    rw [List.mapM_cons, nonNegativeInteger_ok.mpr first, nonNegativeIntegers others]
    rfl

theorem scopeOf (reads : ids.Reads key elements) :
    ValidatorEjector.scopeOf key (.array elements) = .ok ids.scope := by
  have items : (do let id ← elements; pure (some id) : List (Option Json)) = elements.map some :=
    List.flatMap_pure_eq_map some elements
  have checked : arr (some (.array elements)) (fun ids => ids.mapM fun id =>
      nonNegativeInteger id s!"EJECTOR_SCOPE operators for staking module {key}")
      (some s!"Invalid EJECTOR_SCOPE operators for staking module {key}") = .ok ids.operators := by
    refine arr_ok.mpr ⟨elements, rfl, ?_⟩
    show List.mapM _ (do let id ← elements; pure (some id) : List (Option Json)) = _
    rw [items, List.mapM_map]
    exact nonNegativeIntegers reads.operators
  refine except_bind_ok.mpr ⟨ids.operators, checked, ?_⟩
  rw [if_neg reads.filled]
  exact except_bind_ok.mpr ⟨ids.module, nonNegativeInteger_ok.mpr reads.module, rfl⟩

theorem readEntry (reads : ids.Reads key elements) :
    ValidatorEjector.readEntry (.string key) elements = some ids := by
  have all : elements.filterMap idOf = ids.operators := by
    have mapped := congrArg (List.filterMap id) reads.operators
    rw [List.filterMap_map, List.filterMap_map] at mapped
    exact mapped.trans (List.filterMap_some)
  unfold ValidatorEjector.readEntry
  rw [reads.module, all]
  rfl

end ScopeIds.Reads

namespace Host

variable {host : Host}

/-- The operators of the legacy variables. -/
def legacyIds (host : Host) : List Json :=
  match ((host.env "OPERATOR_IDENTIFIERS").bind Json.parse).elim [] elementsOf with
  | [] => (host.unknown "OPERATOR_ID").toList
  | ids => ids

/-- **The modules and operators that the variables name.** -/
def scopeIds (host : Host) : List ScopeIds :=
  match (host.env "EJECTOR_SCOPE").bind Json.parse with
  | some (.object members) => (Json.entries members).filterMap fun entry =>
      readEntry (.string entry.1) (elementsOf entry.2)
  | _ => (readEntry (.string ((host.env "STAKING_MODULE_ID").getD "")) host.legacyIds).toList

/-- **`EJECTOR_SCOPE`**, if it is set and accepted. -/
theorem ejector_scope_ok {text : String} {scopes : List EjectorScope}
    (set : host.env "EJECTOR_SCOPE" = some text)
    (accepted : ejector_scope (host.unknown "EJECTOR_SCOPE") = .ok scopes) :
    scopes = host.scopeIds.map ScopeIds.scope ∧ scopes ≠ [] ∧ ∀ ids ∈ host.scopeIds,
      ids.operators ≠ [] := by
  have unknown : host.unknown "EJECTOR_SCOPE" = some (.string text) := by
    unfold unknown
    rw [set]
    rfl
  rw [unknown] at accepted
  obtain ⟨scopes', checked, accepted⟩ := except_bind_ok.mp accepted
  obtain ⟨members, parsed, read⟩ := json_obj_ok checked
  have named : host.scopeIds = (Json.entries members).filterMap fun entry =>
      readEntry (.string entry.1) (elementsOf entry.2) := by
    unfold scopeIds
    rw [set, Option.bind_some, parsed]
  have nonempty : scopes' ≠ [] ∧ scopes' = scopes := by
    cases scopes' with
    | nil => cases accepted
    | cons scope rest => exact ⟨List.cons_ne_nil _ _, Except.ok.inj accepted⟩
  obtain ⟨some, rfl⟩ := nonempty
  have each (entry : String × Json) (scope : EjectorScope) (run : scopeOf entry.1 entry.2 = .ok scope) :
      ∃ ids, readEntry (.string entry.1) (elementsOf entry.2) = .some ids ∧ scope = ids.scope :=
    have ⟨ids, entered, same, _⟩ := scopeOf_ok run
    ⟨ids, entered, same⟩
  have all : scopes' = host.scopeIds.map ScopeIds.scope := by
    rw [named]
    exact mapM_eq_filterMap each read
  refine ⟨all, some, fun ids inside => ?_⟩
  rw [named] at inside
  obtain ⟨entry, member, entered⟩ := List.mem_filterMap.mp inside
  obtain ⟨scope, run⟩ := ok_of_mapM read entry member
  obtain ⟨ids', entered', _, filled⟩ := scopeOf_ok run
  rw [entered] at entered'
  cases entered'
  exact filled

theorem unknown_cases (name : String) : host.env name = none ∧ host.unknown name = none ∨
    ∃ text, host.env name = some text ∧ host.unknown name = some (.string text) := by
  unfold unknown
  cases host.env name with
  | none => exact .inl ⟨rfl, rfl⟩
  | some text => exact .inr ⟨text, rfl, rfl⟩

theorem fills_ejector_scope (text : String) : Fills (ejector_scope (some (.string text))) := by
  refine fills_bind (fills_json (fun json => fills_deep _ json _ _) text _)
    fun scopes failure failed => ?_
  cases scopes with
  | nil =>
    cases failed
    simp [Failure.error, Failure.template]
  | cons scope rest => cases failed

/-- A number of the legacy variables. -/
theorem optional_nonNegativeInteger {name label : String} {value : Option Nat}
    (accepted : Validator.optional (nonNegativeInteger (host.unknown name) label) = .ok value) :
    value.toList = (host.unknown name).toList.filterMap idOf := by
  rcases host.unknown_cases name with ⟨_, unknown⟩ | ⟨text, _, unknown⟩
  · rw [unknown] at accepted ⊢
    cases accepted
    rfl
  · rw [unknown] at accepted ⊢
    obtain ⟨n, rfl, read⟩ := optional_of_fills (fills_nonNegativeInteger _ _) accepted
    rw [Option.toList_some, Option.toList_some, List.filterMap_cons_some
      (nonNegativeInteger_ok.mp read)]
    rfl

/-- The operators of the legacy variables. -/
theorem legacyOperators_eq {OPERATOR_IDENTIFIERS : Option (List Nat)} {OPERATOR_ID : Option Nat}
    {message : String}
    (operators : Validator.optional (json_arr (host.unknown "OPERATOR_IDENTIFIERS")
      (fun oracles => oracles.mapM fun (oracle : Json) =>
        nonNegativeInteger oracle "OPERATOR_IDENTIFIERS") message)
        = .ok OPERATOR_IDENTIFIERS)
    (operator : Validator.optional (nonNegativeInteger (host.unknown "OPERATOR_ID") "OPERATOR_ID") =
      .ok OPERATOR_ID) :
    legacyOperators OPERATOR_IDENTIFIERS OPERATOR_ID = host.legacyIds.filterMap idOf := by
  have one := optional_nonNegativeInteger operator
  have single : legacyOperators (some []) OPERATOR_ID = OPERATOR_ID.toList ∧
      legacyOperators none OPERATOR_ID = OPERATOR_ID.toList := by
    cases OPERATOR_ID with
    | none => exact ⟨rfl, rfl⟩
    | some id => exact ⟨rfl, rfl⟩
  unfold legacyIds
  rcases host.unknown_cases "OPERATOR_IDENTIFIERS" with ⟨unset, unknown⟩ | ⟨text, set, unknown⟩
  · rw [unknown] at operators
    cases operators
    rw [unset, single.2, one]
    rfl
  · rw [unknown] at operators
    obtain ⟨ns, rfl, accepted⟩ := optional_of_fills
        (fills_json (fun json => fills_deep _ json _ _) _ _) operators
    obtain ⟨elements, parsed, read⟩ := json_arr_ok accepted
    obtain rfl := ids_ok read
    rw [set, Option.bind_some, parsed]
    show legacyOperators (some (elements.filterMap idOf)) OPERATOR_ID = _
    cases elements with
    | nil => exact single.1.trans one
    | cons first others =>
      obtain ⟨n, accepted⟩ := ok_of_mapM read first List.mem_cons_self
      rw [List.filterMap_cons_some (nonNegativeInteger_ok.mp accepted)]
      show n :: others.filterMap idOf = (first :: others).filterMap idOf
      rw [List.filterMap_cons_some (nonNegativeInteger_ok.mp accepted)]

/-- **The legacy variables**, if `EJECTOR_SCOPE` is not set. -/
theorem makeLegacyEjectorScope_ok {STAKING_MODULE_ID : Option String} {operatorIds : List Nat}
    {scopes : List EjectorScope} (unset : host.env "EJECTOR_SCOPE" = none)
    (module : Validator.optional ((nonNegativeInteger
      (host.unknown "STAKING_MODULE_ID") "STAKING_MODULE_ID").map
      fun (id : Nat) => (JsNumber.int id).toText) = .ok STAKING_MODULE_ID)
    (operators : operatorIds = host.legacyIds.filterMap idOf)
    (made : makeLegacyEjectorScope STAKING_MODULE_ID operatorIds = .ok scopes) :
    scopes = host.scopeIds.map ScopeIds.scope ∧ scopes ≠ [] ∧ ∀ ids ∈ host.scopeIds,
      ids.operators ≠ [] := by
  rcases host.unknown_cases "STAKING_MODULE_ID" with ⟨_, unknown⟩ | ⟨text, set, unknown⟩
  · rw [unknown] at module
    cases module
    cases made
  rw [unknown] at module
  have fills : Fills ((nonNegativeInteger (some (.string text)) "STAKING_MODULE_ID").map
      fun (id : Nat) => (JsNumber.int id).toText) := by
    intro failure failed
    cases read : nonNegativeInteger (some (.string text)) "STAKING_MODULE_ID" with
    | ok n =>
      rw [read] at failed
      cases failed
    | error other =>
      rw [read] at failed
      cases failed
      exact fills_nonNegativeInteger _ _ failure read
  obtain ⟨printed, rfl, accepted⟩ := optional_of_fills fills module
  cases read : nonNegativeInteger (some (.string text)) "STAKING_MODULE_ID" with
  | error other =>
    rw [read] at accepted
    cases accepted
  | ok n =>
    rw [read] at accepted
    cases accepted
    have named : host.scopeIds = [⟨n, host.legacyIds.filterMap idOf⟩] := by
      unfold scopeIds readEntry
      rw [unset, set]
      show ((idOf (.string text)).map _).toList = _
      rw [nonNegativeInteger_ok.mp read]
      rfl
    have text : (some (JsNumber.int n).toText).filter (· ≠ "") = some (JsNumber.int n).toText := by
      obtain ⟨c, cs, printed, _⟩ := toText_cons (.int n)
      refine Option.filter_some_pos (decide_eq_true fun empty => ?_)
      rw [empty] at printed
      cases printed
    rw [named, ← operators]
    unfold makeLegacyEjectorScope at made
    rw [text] at made
    cases operatorIds with
    | nil => cases made
    | cons id ids =>
      cases made
      refine ⟨rfl, List.cons_ne_nil _ _, fun entry inside => ?_⟩
      obtain rfl := List.mem_singleton.mp inside
      exact List.cons_ne_nil _ _

/-- A module that is named is a double. -/
theorem ofRat_module {ids : ScopeIds} (inside : ids ∈ host.scopeIds) :
    ofRat ids.module = .int ids.module := by
  have entry {key : String} {values : List Json} (read : readEntry (.string key) values = some ids) :
      ofRat ids.module = .int ids.module := by
    obtain ⟨module, named, rfl⟩ := Option.map_eq_some_iff.mp read
    exact ofRat_idOf named
  unfold scopeIds at inside
  split at inside
  · obtain ⟨_, _, read⟩ := List.mem_filterMap.mp inside
    exact entry read
  · exact entry (Option.mem_toList.mp inside)

/-- **The scope of an accepted configuration.** -/
theorem makeConfig_scope {config : AppConfig} (loaded : host.makeConfig = .ok config) :
    config.EJECTOR_SCOPE = host.scopeIds.map ScopeIds.scope ∧ config.EJECTOR_SCOPE ≠ [] ∧
      ∀ ids ∈ host.scopeIds, ids.operators ≠ [] := by
  refine except_bind_elim (fun ejectorScope set => ?_) loaded
  iterate 4 refine except_bind_elim fun _ _ => ?_
  refine except_bind_elim fun STAKING_MODULE_ID module => ?_
  refine except_bind_elim fun OPERATOR_ID operator => ?_
  refine except_bind_elim fun OPERATOR_IDENTIFIERS operators => ?_
  iterate 18 refine except_bind_elim fun _ _ => ?_
  refine except_bind_elim fun EJECTOR_SCOPE made => ?_
  intro same
  cases same
  dsimp only
  unfold scopeOrLegacy at made
  rcases host.unknown_cases "EJECTOR_SCOPE" with ⟨unset, unknown⟩ | ⟨text, isSet, unknown⟩
  · rw [unknown] at set
    cases set
    exact makeLegacyEjectorScope_ok unset module (legacyOperators_eq operators operator) made
  · rw [unknown] at set
    obtain ⟨scopes, rfl, accepted⟩ := optional_of_fills (fills_ejector_scope text) set
    rw [← unknown] at accepted
    have read := ejector_scope_ok isSet accepted
    have nonempty : scopes.isEmpty = false := List.isEmpty_eq_false_iff.mpr read.2.1
    rw [Option.getD_some, nonempty] at made
    cases made
    exact read

end Host

end ValidatorEjector
