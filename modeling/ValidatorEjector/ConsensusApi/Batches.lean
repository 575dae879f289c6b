/-
**Lookups in batches.**

* `Cuts` — the slices of a list of indices: none is empty or too long, and together they are the list.
* `Registry`, `Serves` — a node that answers a list of ids with the registered validators among them, in any
  order and number.
* `fetchValidatorsBatch_served` — what a lookup in batches finds there, and what it asks for.
* `ServesOnce`, `getExitingValidatorsCount_served` — a node that reports every validator once, and what is
  counted there.
* `listing`, `serves_listing` — the node that lists validators by their indices.
* `LooksUp`, `lookups_agree` — the lookups of two batch sizes have the same outcome.
-/

import ValidatorEjector.Job.Processor
import ValidatorEjector.Recorded

namespace ValidatorEjector

open Js Library Library.Program

/-! ### Slices -/

section Slices

variable {α : Type} {batchSize : ℕ+}

/-- The list is cut into parts of at most `batchSize` members, none of them empty. -/
structure Cuts (batchSize : ℕ+) (indices : List α) (parts : List (List α)) : Prop where
  sizes : ∀ part ∈ parts, 1 ≤ part.length ∧ part.length ≤ batchSize
  concat : parts.flatten = indices

theorem batchesFrom_cuts (batchSize : ℕ+) : ∀ (fuel : Nat) (indices : List α), indices.length ≤ fuel →
    Cuts batchSize indices (batchesFrom batchSize fuel indices)
  | 0, indices, enough => by
    obtain rfl := List.length_eq_zero_iff.mp (Nat.le_zero.mp enough)
    exact ⟨List.forall_mem_nil _, rfl⟩
  | fuel + 1, [], _ => ⟨List.forall_mem_nil _, rfl⟩
  | fuel + 1, a :: as, enough => by
    have positive : 0 < (batchSize : Nat) := batchSize.pos
    have left : ((a :: as).drop batchSize).length ≤ fuel := by
      rw [List.length_drop]
      rw [List.length_cons] at enough ⊢
      omega
    have rest := batchesFrom_cuts batchSize fuel ((a :: as).drop batchSize) left
    refine ⟨List.forall_mem_cons.mpr ⟨?_, rest.sizes⟩, ?_⟩
    · rw [List.length_take, List.length_cons]
      omega
    · show (a :: as).take batchSize ++ (batchesFrom batchSize fuel _).flatten = a :: as
      rw [rest.concat, List.take_append_drop]

/-- **The slices cut the list.** -/
theorem batches_cuts (batchSize : ℕ+) (indices : List α) : Cuts batchSize indices (batches batchSize indices) :=
  batchesFrom_cuts batchSize indices.length indices le_rfl

/-- No slice is empty. -/
theorem Cuts.filled {indices : List α} {parts : List (List α)} (cuts : Cuts batchSize indices parts) :
    ∀ part ∈ parts, part ≠ [] := by
  intro part inside empty
  have size := (cuts.sizes part inside).1
  rw [empty] at size
  cases size

/-- A list that fits is one slice. -/
theorem batches_single {indices : List α} (filled : indices ≠ []) (fits : indices.length ≤ batchSize) :
    batches batchSize indices = [indices] := by
  obtain ⟨a, as, rfl⟩ := List.exists_cons_of_ne_nil filled
  unfold batches
  rw [List.length_cons, batchesFrom, List.take_of_length_le fits, List.drop_of_length_le fits]
  cases as.length with
  | zero => rfl
  | succ _ => rfl

end Slices

/-! ### A node with a registry -/

/-- The validators of a state, by the ids that a request may name. An index belongs to one of them. -/
structure Registry where
  validator : String → Option ValidatorData
  unique : ∀ id id' v v', validator id = some v → validator id' = some v' → v.index = v'.index → v = v'

/-- A number in canonical decimal form. -/
def IsDecimal (text : String) : Prop := ∃ n : ℕ, text = toString n

theorem IsDecimal.ne_empty {text : String} (decimal : IsDecimal text) : text ≠ "" := by
  obtain ⟨n, rfl⟩ := decimal
  exact Nat.repr_ne_empty

/-- The numbers of a validator are in canonical decimal form. -/
structure ValidatorData.Decimal (v : ValidatorData) : Prop where
  index : IsDecimal v.index
  exit_epoch : IsDecimal v.validator.exit_epoch

namespace Registry

variable (registry : Registry)

/-- The validator with the index is reported exiting. -/
def isExiting (index : String) : Bool :=
  (registry.validator index).any fun v => isValidatorExiting v.validator.exit_epoch

/-- The registered validators among the ids. -/
def Among (ids : List String) (v : ValidatorData) : Prop := ∃ id ∈ ids, registry.validator id = some v

variable {registry} {ids : List String}

theorem among_unique {v v' : ValidatorData} (first : registry.Among ids v) (second : registry.Among ids v')
    (same : v.index = v'.index) : v = v' := by
  obtain ⟨id, _, found⟩ := first
  obtain ⟨id', _, found'⟩ := second
  exact registry.unique id id' v v' found found' same

theorem among_append {others : List String} {v : ValidatorData} :
    registry.Among (ids ++ others) v ↔ registry.Among ids v ∨ registry.Among others v := by
  unfold Among
  simp only [List.mem_append, or_and_right, exists_or]

end Registry

namespace ConsensusApi

variable {ρ : Type} {cl : ConsensusApi ρ} {W : ρ → Prop} {tag : String} {registry : Registry}

/-- **A node that answers from a registry**, as long as its states are in `W`: a list of ids gets the
registered validators among them, each once or more often, in any order. -/
structure Serves (cl : ConsensusApi ρ) (W : ρ → Prop) (tag : String) (registry : Registry) : Prop where
  answers : ∀ s, W s → ∀ ids, ids ≠ [] → ∃ vs s', cl.fetchBatch tag ids s = .ok vs s' ∧ W s' ∧
    ∀ v, v ∈ vs ↔ registry.Among ids v

/-- The API, with its requests on record. -/
def traced (cl : ConsensusApi ρ) : ConsensusApi (ρ × List ClRequest) where
  clRequest := recording cl.clRequest

theorem fetchBatch_traced {ids : List String} {s s' : ρ} {vs : List ValidatorData}
    (fetched : cl.fetchBatch tag ids s = .ok vs s') (calls : List ClRequest) :
    cl.traced.fetchBatch tag ids (s, calls) = .ok vs (s', calls ++ [.validators tag ids]) := by
  obtain ⟨json, s₁, answered, parsed⟩ := bind_ok.mp fetched
  obtain ⟨read, rfl⟩ := ofResult_ok.mp parsed
  exact bind_ok.mpr ⟨json, _, recording_ok.mpr ⟨answered, rfl⟩, ofResult_ok.mpr ⟨read, rfl⟩⟩

/-- The requests of a lookup. -/
def requestsFor (tag : String) (batchSize : ℕ+) (indices : List String) : List ClRequest :=
  (batches batchSize indices).map (.validators tag)

/-- The batches of a lookup, one after the other. -/
theorem Serves.collect (serves : cl.Serves W tag registry) : ∀ {parts : List (List String)},
    (∀ part ∈ parts, part ≠ []) → ∀ {s : ρ}, W s → ∀ calls, ∃ vs s',
      Program.collect (cl.traced.fetchBatch tag) parts (s, calls) =
        .ok vs (s', calls ++ parts.map (.validators tag)) ∧ W s' ∧
      ∀ v, v ∈ vs ↔ registry.Among parts.flatten v
  | [], _, s, start, calls => by
    refine ⟨[], s, ?_, start, fun v => ?_⟩
    · rw [List.map_nil, List.append_nil]
      rfl
    · simp [Registry.Among]
  | part :: parts, filled, s, start, calls => by
    obtain ⟨first, others⟩ := List.forall_mem_cons.mp filled
    obtain ⟨here, s₁, fetched, next, among⟩ := serves.answers s start part first
    obtain ⟨rest, s', more, final, amongRest⟩ := serves.collect others next
      (calls ++ [.validators tag part])
    refine ⟨here ++ rest, s', ?_, final, fun v => ?_⟩
    · rw [List.map_cons, List.append_cons]
      exact collect_cons_ok.mpr ⟨here, _, rest, fetchBatch_traced fetched calls, more, rfl⟩
    · rw [List.mem_append, among, amongRest, List.flatten_cons, Registry.among_append]

/-- **A lookup in batches** finds the registered validators among the indices. -/
theorem fetchValidatorsBatch_served (serves : cl.Serves W tag registry) (indices : List String)
    (batchSize : ℕ+) {s : ρ} (start : W s) : ∃ vs s',
      cl.traced.fetchValidatorsBatch indices batchSize tag (s, []) =
        .ok vs (s', requestsFor tag batchSize indices) ∧
      ∀ v, v ∈ vs ↔ registry.Among indices v := by
  have cuts := batches_cuts batchSize indices
  obtain ⟨vs, s', ran, _, among⟩ := serves.collect cuts.filled start []
  rw [cuts.concat] at among
  exact ⟨vs, s', ran, among⟩

/-! ### Counts -/

/-- **Every validator among the ids once**, with its numbers in canonical decimal form; a decimal id is the index
of its validator. -/
structure ServesOnce (cl : ConsensusApi ρ) (W : ρ → Prop) (tag : String) (registry : Registry) : Prop
    extends cl.Serves W tag registry where
  once : ∀ s, W s → ∀ ids vs s', cl.fetchBatch tag ids s = .ok vs s' → vs.Nodup
  decimal : ∀ id v, registry.validator id = some v → v.Decimal
  named : ∀ id v, IsDecimal id → registry.validator id = some v → v.index = id

/-- A batch of distinct decimal ids gets one validator for each that is registered. -/
theorem ServesOnce.batch (serves : cl.ServesOnce W tag registry) {ids : List String} (filled : ids ≠ [])
    (distinct : ids.Nodup) (decimal : ∀ id ∈ ids, IsDecimal id) {s : ρ} (start : W s) : ∃ vs s',
      cl.fetchBatch tag ids s = .ok vs s' ∧ W s' ∧ vs.Perm (ids.filterMap registry.validator) := by
  obtain ⟨vs, s', fetched, next, among⟩ := serves.answers s start ids filled
  have apart : (ids.filterMap registry.validator).Nodup := by
    refine List.pairwise_filterMap.mpr (distinct.imp_of_mem fun {id id'} inside inside' differ => ?_)
    rintro v found v' found' rfl
    refine differ ?_
    rw [← serves.named id v (decimal id inside) found, serves.named id' v (decimal id' inside') found']
  refine ⟨vs, s', fetched, next,
    (List.perm_ext_iff_of_nodup (serves.once s start ids vs s' fetched) apart).mpr fun v => ?_⟩
  rw [among, List.mem_filterMap]
  rfl

/-- Batches of distinct decimal ids count no validator twice. -/
theorem ServesOnce.collect (serves : cl.ServesOnce W tag registry) : ∀ {parts : List (List String)},
    (∀ part ∈ parts, part ≠ []) → parts.flatten.Nodup → (∀ id ∈ parts.flatten, IsDecimal id) →
    ∀ {s : ρ}, W s → ∃ vs s', Program.collect (cl.fetchBatch tag) parts s = .ok vs s' ∧
      vs.Perm (parts.flatten.filterMap registry.validator)
  | [], _, _, _, s, _ => ⟨[], s, rfl, .refl _⟩
  | part :: parts, filled, distinct, decimal, s, start => by
    obtain ⟨first, others⟩ := List.forall_mem_cons.mp filled
    rw [List.flatten_cons] at distinct decimal
    obtain ⟨decimalHere, decimalRest⟩ := List.forall_mem_append.mp decimal
    obtain ⟨here, s₁, fetched, next, counted⟩ := serves.batch first distinct.of_append_left decimalHere start
    obtain ⟨rest, s', more, countedRest⟩ :=
      serves.collect others distinct.of_append_right decimalRest next
    refine ⟨here ++ rest, s', collect_cons_ok.mpr ⟨here, s₁, rest, fetched, more, rfl⟩, ?_⟩
    rw [List.flatten_cons, List.filterMap_append]
    exact counted.append countedRest

/-- **The count is over the indices**: it is the number of those whose validator is reported exiting, for every
batch size. -/
theorem getExitingValidatorsCount_served (serves : cl.ServesOnce W tag registry) {indices : List String}
    (distinct : indices.Nodup) (decimal : ∀ id ∈ indices, IsDecimal id) (batchSize : ℕ+) {s : ρ}
    (start : W s) : ∃ s', cl.getExitingValidatorsCount indices batchSize tag s =
      .ok (indices.countP registry.isExiting) s' := by
  have cuts := batches_cuts batchSize indices
  rw [← cuts.concat] at distinct decimal
  obtain ⟨vs, s', ran, counted⟩ := serves.collect cuts.filled distinct decimal start
  rw [cuts.concat] at counted
  refine ⟨s', bind_ok.mpr ⟨vs, s', ran, ?_⟩⟩
  rw [pure_run, counted.countP_eq, List.countP_filterMap]
  congr 1
  refine List.countP_congr fun id _ => ?_
  unfold Registry.isExiting
  cases found : registry.validator id with
  | none => rfl
  | some v =>
    have epoch := (serves.decimal id v found).exit_epoch.ne_empty
    simp [epoch]

/-! ### A node with a list of validators -/

/-- The node that lists the validators of a state by their indices. -/
def listing (validators : List ValidatorData) : ConsensusApi Unit where
  clRequest
    | .validators _ ids => pure (validatorsJson (validators.filter fun v => v.index ∈ ids))
    | _ => throw (.error "not listed")

/-- The validators of the list by their indices. -/
def registryOf (validators : List ValidatorData) : Registry where
  validator id := validators.find? fun v => v.index = id
  unique id id' v v' found found' same := by
    have index : v.index = id := by simpa using List.find?_some found
    have index' : v'.index = id' := by simpa using List.find?_some found'
    rw [← index, same, index'] at found
    exact Option.some.inj (found.symm.trans found')

theorem among_registryOf {validators : List ValidatorData}
    (distinct : (validators.map ValidatorData.index).Nodup) {ids : List String} {v : ValidatorData} :
    (registryOf validators).Among ids v ↔ v ∈ validators ∧ v.index ∈ ids := by
  constructor
  · rintro ⟨id, inside, found⟩
    have index : v.index = id := by simpa using List.find?_some found
    exact ⟨List.mem_of_find?_eq_some found, by rwa [index]⟩
  · rintro ⟨member, inside⟩
    refine ⟨v.index, inside, ?_⟩
    have named : (validators.find? fun u => u.index = v.index).isSome := by
      rw [List.find?_isSome]
      exact ⟨v, member, by simp⟩
    obtain ⟨u, found⟩ := Option.isSome_iff_exists.mp named
    have index : u.index = v.index := by simpa using List.find?_some found
    have one : u = v := List.inj_on_of_nodup_map distinct (List.mem_of_find?_eq_some found) member index
    rw [← one] at found ⊢
    exact found

/-- The node reports, of a list of validators, those whose index it is asked for. -/
def Lists (cl : ConsensusApi ρ) (validators : List ValidatorData) : Prop := ∀ tag ids s,
  cl.fetchBatch tag ids s = .ok (validators.filter fun v => v.index ∈ ids) s

theorem lists_listing (validators : List ValidatorData) : (listing validators).Lists validators :=
  fun _ _ s => bind_ok.mpr ⟨_, s, rfl, ofResult_ok.mpr ⟨validatorsBatchDTO_toJson _, rfl⟩⟩

/-- It serves its registry. -/
theorem Lists.serves {validators : List ValidatorData} (lists : cl.Lists validators)
    (distinct : (validators.map ValidatorData.index).Nodup) (tag : String) :
    cl.Serves (fun _ => True) tag (registryOf validators) := by
  refine ⟨fun s _ ids _ => ⟨_, s, lists tag ids s, trivial, fun v => ?_⟩⟩
  rw [among_registryOf distinct, List.mem_filter, decide_eq_true_eq]

theorem serves_listing {validators : List ValidatorData}
    (distinct : (validators.map ValidatorData.index).Nodup) (tag : String) :
    (listing validators).Serves (fun _ => True) tag (registryOf validators) :=
  (lists_listing validators).serves distinct tag

/-- It reports each of them once. -/
theorem Lists.servesOnce {validators : List ValidatorData} (lists : cl.Lists validators)
    (distinct : (validators.map ValidatorData.index).Nodup) (decimal : ∀ v ∈ validators, v.Decimal)
    (tag : String) : cl.ServesOnce (fun _ => True) tag (registryOf validators) where
  toServes := lists.serves distinct tag
  once s _ ids vs s' fetched := by
    rw [lists tag ids s] at fetched
    cases fetched
    exact distinct.of_map.filter _
  decimal id v found := decimal v (List.mem_of_find?_eq_some found)
  named id v _ found := by simpa using List.find?_some found

/-- One validator that stays, and one that is exiting. -/
def twoValidators : List ValidatorData :=
  [⟨"7", "active_ongoing", "0xaa", FAR_FUTURE_EPOCH⟩, ⟨"12", "active_exiting", "0xbb", "300000"⟩]

/-! ### Two batch sizes -/

/-- **The lookup does not depend on the batch size.** With any two sizes, from any two states, it resolves with
values that are the same, after the requests of each size. -/
def LooksUp {α : Type} (W : ρ → Prop) (lookup : ℕ+ → EStateM Failure (ρ × List ClRequest) α)
    (requests : ℕ+ → List ClRequest) (Same : α → α → Prop) : Prop :=
  ∀ batchSize batchSize' s s', W s → W s' → ∃ a t a' t',
    lookup batchSize (s, []) = .ok a (t, requests batchSize) ∧
    lookup batchSize' (s', []) = .ok a' (t', requests batchSize') ∧ Same a a'

/-- What is made of the validators depends on the set of them only. -/
theorem looksUp_of_served {α : Type} (serves : cl.Serves W tag registry) {indices : List String}
    {made : List ValidatorData → α} {Same : α → α → Prop}
    (same : ∀ vs vs', (∀ v, v ∈ vs ↔ registry.Among indices v) → (∀ v, v ∈ vs' ↔ registry.Among indices v) →
      Same (made vs) (made vs')) :
    LooksUp W (fun batchSize => do pure (made (← cl.traced.fetchValidatorsBatch indices batchSize tag)))
      (fun batchSize => requestsFor tag batchSize indices) Same := by
  intro batchSize batchSize' s s' start start'
  obtain ⟨vs, t, ran, among⟩ := fetchValidatorsBatch_served serves indices batchSize start
  obtain ⟨vs', t', ran', among'⟩ := fetchValidatorsBatch_served serves indices batchSize' start'
  exact ⟨made vs, t, made vs', t', bind_ok.mpr ⟨vs, _, ran, rfl⟩, bind_ok.mpr ⟨vs', _, ran', rfl⟩,
    same vs vs' among among'⟩

/-- A record by index is determined by the set of validators. -/
theorem record_congr {V : Type} (value : ValidatorData → V) {indices : List String}
    {vs vs' : List ValidatorData} (among : ∀ v, v ∈ vs ↔ registry.Among indices v)
    (among' : ∀ v, v ∈ vs' ↔ registry.Among indices v) (index : String) :
    lastValue? (vs.map fun v => (v.index, value v)) index =
      lastValue? (vs'.map fun v => (v.index, value v)) index := by
  refine lastValue?_congr (fun entry => ?_) fun u u' first second => ?_
  · simp only [List.mem_map, among, among']
  · obtain ⟨v, inside, pair⟩ := List.mem_map.mp first
    obtain ⟨v', inside', pair'⟩ := List.mem_map.mp second
    have one : v = v' := Registry.among_unique ((among v).mp inside) ((among v').mp inside')
      ((Prod.mk.inj pair).1.trans (Prod.mk.inj pair').1.symm)
    rw [← (Prod.mk.inj pair).2, ← (Prod.mk.inj pair').2, one]

/-- **Lookups do not depend on the batch size**: the records of exiting validators, the map of validators and
the valid indices are the same with any two sizes. Each request names between one and `batchSize` ids, together
they name the list, none is sent for an empty list, and one for a list that fits. -/
theorem lookups_agree (serves : cl.Serves W tag registry) (indices : List String)
    (validatorData : List (String × String)) :
    LooksUp W
      (fun batchSize => do
        pure (createExitingValidatorsRecord (← cl.traced.fetchValidatorsBatch indices batchSize tag)))
      (fun batchSize => requestsFor tag batchSize indices)
      (fun record record' => ∀ index, lastValue? record index = lastValue? record' index ∧
        isExitingIn record index = isExitingIn record' index) ∧
    LooksUp W (fun batchSize => cl.traced.fetchValidatorsInfoBatch indices batchSize tag)
      (fun batchSize => requestsFor tag batchSize indices)
      (fun infos infos' => ∀ index, infos.get? index = infos'.get? index) ∧
    LooksUp W (fun batchSize => cl.traced.validatePublicKeys validatorData batchSize tag)
      (fun batchSize => requestsFor tag batchSize (validatorData.map fun v => v.1)) (· = ·) ∧
    ∀ (batchSize : ℕ+) (ids : List String), Cuts batchSize ids (batches batchSize ids) ∧
      requestsFor tag batchSize [] = [] ∧
      (ids ≠ [] → ids.length ≤ batchSize → requestsFor tag batchSize ids = [.validators tag ids]) := by
  refine ⟨looksUp_of_served serves fun vs vs' among among' index => ?_,
    looksUp_of_served serves fun vs vs' among among' index => ?_,
    looksUp_of_served serves fun vs vs' among among' => ?_,
    fun batchSize ids => ⟨batches_cuts batchSize ids, rfl, fun filled fits => ?_⟩⟩
  · have same := record_congr (fun v => isValidatorExiting v.validator.exit_epoch) among among' index
    refine ⟨same, ?_⟩
    unfold isExitingIn createExitingValidatorsRecord
    rw [same]
  · rw [OrderedMap.get?_ofEntries, OrderedMap.get?_ofEntries]
    exact record_congr ValidatorData.toInfo among among' index
  · have expected (info : String × String) :
        isExpectedPubkey (vs.map fun v => (v.index, v.validator.pubkey)) info.1 info.2 =
          isExpectedPubkey (vs'.map fun v => (v.index, v.validator.pubkey)) info.1 info.2 := by
      unfold isExpectedPubkey
      rw [record_congr (fun v => v.validator.pubkey) among among' info.1]
    simp only [expected]
  · unfold requestsFor
    rw [batches_single filled fits]
    rfl

/-- The two validators, with an id asked for twice. -/
theorem lookups_agree_two :
    (listing twoValidators).Serves (fun _ => True) "head" (registryOf twoValidators) ∧
      LooksUp (fun _ : Unit => True)
        (fun batchSize => (listing twoValidators).traced.validatePublicKeys
          [("12", "0xbb"), ("7", "0xaa"), ("12", "0xcc")] batchSize "head")
        (fun batchSize => requestsFor "head" batchSize ["12", "7", "12"]) (· = ·) := by
  have distinct : (twoValidators.map ValidatorData.index).Nodup := by decide
  have serves := serves_listing distinct "head"
  exact ⟨serves, (lookups_agree serves ["12", "7", "12"]
    [("12", "0xbb"), ("7", "0xaa"), ("12", "0xcc")]).2.2.1⟩

end ConsensusApi

end ValidatorEjector
