/-
**The numbers of the configuration.**

`num` accepts a text by `Number` and reads it by `parseFloat`. Every numeric option goes through it, so a text
has the value that it denotes wherever it is read, or nowhere.

* `Configured` — what an accepted configuration has where an option is set to a text.
* `Denoted` — a text has the value it denotes: in `num`, in each option, and as an id.
* `makeConfig_numbers` — where an accepted configuration takes its numbers from.
* `denoted_iff` — a text that denotes an integer has its value if it is `Plain`.
* `not_denoted` — a port in hexadecimal digits is zero.
-/

import ValidatorEjector.Config.Service
import ValidatorEjector.Js.Literal
import ValidatorEjector.Library.Program

namespace ValidatorEjector

open Js Library.Program Validator

/-- Where the option is set to the text, an accepted configuration is as stated. -/
def Configured (name s : String) (holds : AppConfig → Prop) : Prop :=
  ∀ (host : Host) (config : AppConfig), host.makeConfig = .ok config → host.env name = some s → holds config

/-- The same for the configuration of the webhook. -/
def WebhookConfigured (name s : String) (holds : WebhookProcessorConfig → Prop) : Prop :=
  ∀ (host : Host) (config : WebhookProcessorConfig), host.makeWebhookProcessorConfig = .ok config →
    host.env name = some s → holds config

/-- A number of items: zero stands for the default, and there is at least one. -/
def countFrom (fallback z : Int) : JsNumber := .int (max 1 (if z = 0 then fallback else z))

/-- The text is read as the integer `z`, wherever a number is read. -/
structure Denoted (s : String) (z : Int) : Prop where
  num : ∀ errorMessage, num (some (.string s)) errorMessage = .ok (.int z)
  JOB_INTERVAL : Configured "JOB_INTERVAL" s fun config => config.JOB_INTERVAL = .int z
  HTTP_PORT : Configured "HTTP_PORT" s fun config => config.HTTP_PORT = .int z
  /-- `BLOCKS_PRELOAD`, `LOAD_LOGS_STEP` and `VALIDATORS_BATCH_SIZE`, in every configuration that has them. -/
  countOf : ∀ (host : Host) name fallback, host.env name = some s →
    host.countOf name fallback = .ok (countFrom fallback z)
  BLOCKS_PRELOAD : Configured "BLOCKS_PRELOAD" s fun config => config.BLOCKS_PRELOAD = countFrom 50000 z
  LOAD_LOGS_STEP : Configured "LOAD_LOGS_STEP" s fun config => config.LOAD_LOGS_STEP = countFrom 10000 z
  VALIDATORS_BATCH_SIZE :
    Configured "VALIDATORS_BATCH_SIZE" s fun config => config.VALIDATORS_BATCH_SIZE = countFrom 1000 z
  /-- An id of an operator or a module, wherever it stands. -/
  nonNegativeInteger : ∀ name, nonNegativeInteger (some (.string s)) name =
    if 0 ≤ z then .ok z.toNat else .error (.error s!"{name} must be a non-negative integer")
  OPERATOR_ID : Configured "OPERATOR_ID" s fun config => ∀ id ∈ config.OPERATOR_ID, (id : Int) = z
  STAKING_MODULE_ID :
    Configured "STAKING_MODULE_ID" s fun config => ∀ id ∈ config.STAKING_MODULE_ID, id = (JsNumber.int z).toText
  /-- The key of a member of `EJECTOR_SCOPE`. -/
  scopeOf : ∀ operatorIds scope, scopeOf s operatorIds = .ok scope →
    scope.stakingModuleId = (JsNumber.int z).toText
  WEBHOOK_ABORT_TIMEOUT_MS :
    WebhookConfigured "WEBHOOK_ABORT_TIMEOUT_MS" s fun config => config.WEBHOOK_ABORT_TIMEOUT_MS = .int z
  WEBHOOK_MAX_RETRIES :
    WebhookConfigured "WEBHOOK_MAX_RETRIES" s fun config => config.WEBHOOK_MAX_RETRIES = .int z

/-! ### What an accepted configuration reads -/

/-- The numbers of a configuration, and the variables they are read from. -/
structure ReadNumbers (host : Host) (config : AppConfig) : Prop where
  interval : ∃ interval, Validator.optional (num (host.unknown "JOB_INTERVAL")) = .ok interval ∧
    config.JOB_INTERVAL = interval.getD (.int 384000)
  port : ∃ port, Validator.optional (num (host.unknown "HTTP_PORT")) = .ok port ∧
    config.HTTP_PORT = port.getD (.int 8989)
  preload : host.countOf "BLOCKS_PRELOAD" 50000 = .ok config.BLOCKS_PRELOAD
  step : host.countOf "LOAD_LOGS_STEP" 10000 = .ok config.LOAD_LOGS_STEP
  batch : host.countOf "VALIDATORS_BATCH_SIZE" 1000 = .ok config.VALIDATORS_BATCH_SIZE
  operator : ∃ legacyScope,
    Host.legacy legacyScope (nonNegativeInteger (host.unknown "OPERATOR_ID") "OPERATOR_ID")
    = .ok config.OPERATOR_ID
  module : ∃ legacyScope, Host.legacy legacyScope
    ((nonNegativeInteger (host.unknown "STAKING_MODULE_ID") "STAKING_MODULE_ID").map
      fun (id : Nat) => (JsNumber.int id).toText) = .ok config.STAKING_MODULE_ID

section Read

variable {host : Host} {s : String} {z : Int}

theorem makeConfig_numbers {config : AppConfig} (loaded : host.makeConfig = .ok config) :
    ReadNumbers host config := by
  unfold Host.makeConfig at loaded
  -- the scope, the nodes, the secret and the locator
  iterate 5 obtain ⟨_, _, loaded⟩ := except_bind_ok.mp loaded
  obtain ⟨module, moduleRead, loaded⟩ := except_bind_ok.mp loaded
  obtain ⟨operator, operatorRead, loaded⟩ := except_bind_ok.mp loaded
  -- the operators, the allowlists and the texts
  iterate 6 obtain ⟨_, _, loaded⟩ := except_bind_ok.mp loaded
  obtain ⟨preload, preloadRead, loaded⟩ := except_bind_ok.mp loaded
  obtain ⟨step, stepRead, loaded⟩ := except_bind_ok.mp loaded
  obtain ⟨batch, batchRead, loaded⟩ := except_bind_ok.mp loaded
  obtain ⟨interval, intervalRead, loaded⟩ := except_bind_ok.mp loaded
  obtain ⟨port, portRead, loaded⟩ := except_bind_ok.mp loaded
  -- the flags and the scope
  iterate 9 obtain ⟨_, _, loaded⟩ := except_bind_ok.mp loaded
  cases loaded
  exact {
    interval := ⟨interval, intervalRead, rfl⟩
    port := ⟨port, portRead, rfl⟩
    preload := preloadRead
    step := stepRead
    batch := batchRead
    operator := ⟨_, operatorRead⟩
    module := ⟨_, moduleRead⟩ }

theorem unknown_of_env {name : String} (set : host.env name = some s) :
    host.unknown name = some (.string s) := by
  unfold Host.unknown
  rw [set]
  rfl

/-! ### From the number to the options -/

/-- The text is read as `z`. -/
def NumReads (s : String) (z : Int) : Prop := ∀ errorMessage, num (some (.string s)) errorMessage = .ok (.int z)

theorem NumReads.optional (reads : NumReads s z) {name : String} (set : host.env name = some s) :
    Validator.optional (num (host.unknown name)) = .ok (some (.int z)) := by
  rw [unknown_of_env set, reads]
  rfl

theorem NumReads.countOf (reads : NumReads s z) {name : String} (fallback : Int)
    (set : host.env name = some s) : host.countOf name fallback = .ok (countFrom fallback z) := by
  have chosen : (JsNumber.orElse (some (.int z)) (.int fallback)).floor =
      .int (if z = 0 then fallback else z) := by
    by_cases zero : z = 0
    · rw [if_pos zero, zero]
      rfl
    · rw [if_neg zero]
      unfold JsNumber.orElse
      split
      · rename_i none
        cases none
      · rename_i nan
        cases nan
      · rename_i found
        cases found
        exact absurd rfl zero
      · rename_i found
        cases found
        rfl
  have largest (k : Int) : JsNumber.max (.int 1) (.int k) = .int (max 1 k) := by
    unfold JsNumber.max
    rw [if_neg (by simp), JsNumber.lt_int]
    by_cases above : 1 < k
    · rw [if_pos (decide_eq_true above), max_eq_right above.le]
    · rw [if_neg (by simpa using above), max_eq_left (by omega)]
  unfold Host.countOf
  rw [reads.optional set]
  show Except.ok (JsNumber.max (.int 1) (JsNumber.orElse (some (.int z)) (.int fallback)).floor) = _
  rw [chosen, largest]
  rfl

theorem NumReads.nonNegativeInteger (reads : NumReads s z) (name : String) :
    ValidatorEjector.nonNegativeInteger (some (.string s)) name =
      if 0 ≤ z then .ok z.toNat else .error (.error s!"{name} must be a non-negative integer") := by
  unfold ValidatorEjector.nonNegativeInteger
  rw [reads]
  rfl

/-- An id that is accepted is the number. -/
theorem NumReads.id_eq (reads : NumReads s z) {name : String} {n : Nat}
    (accepted : ValidatorEjector.nonNegativeInteger (some (.string s)) name = .ok n) : (n : Int) = z := by
  rw [reads.nonNegativeInteger] at accepted
  split_ifs at accepted with nonneg
  cases accepted
  exact Int.toNat_of_nonneg nonneg

/-- A variable of the legacy scope that has a value was read. -/
theorem legacy_some {α : Type} {useLegacyScope : Bool} {read : Except Failure α} {a : α}
    (found : Host.legacy useLegacyScope read = .ok (some a)) : read = .ok a := by
  unfold Host.legacy at found
  split_ifs at found
  · cases read with
    | ok b =>
      cases found
      rfl
    | error failure =>
      unfold Validator.optional at found
      dsimp only at found
      split_ifs at found
      cases found
  · cases found

theorem NumReads.scopeOf (reads : NumReads s z) {operatorIds : Json} {scope : EjectorScope}
    (accepted : ValidatorEjector.scopeOf s operatorIds = .ok scope) :
    scope.stakingModuleId = (JsNumber.int z).toText := by
  obtain ⟨operators, _, rest⟩ := except_bind_ok.mp accepted
  split_ifs at rest
  obtain ⟨module, named, same⟩ := except_bind_ok.mp rest
  cases same
  show (JsNumber.int module).toText = _
  rw [reads.id_eq named]

theorem makeWebhookProcessorConfig_numbers {config : WebhookProcessorConfig}
    (loaded : host.makeWebhookProcessorConfig = .ok config) :
    (∃ timeout, Validator.optional (num (host.unknown "WEBHOOK_ABORT_TIMEOUT_MS")) = .ok timeout ∧
      config.WEBHOOK_ABORT_TIMEOUT_MS = timeout.getD (.int 10000)) ∧
    ∃ retries, Validator.optional (num (host.unknown "WEBHOOK_MAX_RETRIES")) = .ok retries ∧
      config.WEBHOOK_MAX_RETRIES = retries.getD (.int 0) := by
  unfold Host.makeWebhookProcessorConfig at loaded
  obtain ⟨timeout, timeoutRead, loaded⟩ := except_bind_ok.mp loaded
  obtain ⟨retries, retriesRead, loaded⟩ := except_bind_ok.mp loaded
  iterate 2 obtain ⟨_, _, loaded⟩ := except_bind_ok.mp loaded
  cases loaded
  exact ⟨⟨timeout, timeoutRead, rfl⟩, retries, retriesRead, rfl⟩

/-- An optional number of a text that is read is that number. -/
theorem NumReads.getD (reads : NumReads s z) {name : String} {fallback value : JsNumber}
    (set : host.env name = some s) (read : ∃ found, Validator.optional (num (host.unknown name)) = .ok found ∧
      value = found.getD fallback) : value = .int z := by
  obtain ⟨found, accepted, rfl⟩ := read
  rw [reads.optional set] at accepted
  cases accepted
  rfl

theorem NumReads.counted (reads : NumReads s z) {name : String} {fallback : Int} {value : JsNumber}
    (set : host.env name = some s) (read : host.countOf name fallback = .ok value) :
    value = countFrom fallback z := by
  rw [reads.countOf fallback set] at read
  exact (Except.ok.inj read).symm

end Read

/-- Every option goes through `num`. -/
theorem NumReads.denoted {s : String} {z : Int} (reads : NumReads s z) : Denoted s z where
  num := reads
  JOB_INTERVAL _ _ loaded set := reads.getD set (makeConfig_numbers loaded).interval
  HTTP_PORT _ _ loaded set := reads.getD set (makeConfig_numbers loaded).port
  countOf _ _ fallback set := reads.countOf fallback set
  BLOCKS_PRELOAD _ _ loaded set := reads.counted set (makeConfig_numbers loaded).preload
  LOAD_LOGS_STEP _ _ loaded set := reads.counted set (makeConfig_numbers loaded).step
  VALIDATORS_BATCH_SIZE _ _ loaded set := reads.counted set (makeConfig_numbers loaded).batch
  nonNegativeInteger := reads.nonNegativeInteger
  OPERATOR_ID host config loaded set id inside := by
    obtain ⟨legacyScope, read⟩ := (makeConfig_numbers loaded).operator
    rw [Option.mem_def.mp inside, unknown_of_env set] at read
    exact reads.id_eq (legacy_some read)
  STAKING_MODULE_ID host config loaded set id inside := by
    obtain ⟨legacyScope, read⟩ := (makeConfig_numbers loaded).module
    rw [Option.mem_def.mp inside, unknown_of_env set] at read
    have mapped := legacy_some read
    cases accepted : ValidatorEjector.nonNegativeInteger (some (.string s)) "STAKING_MODULE_ID" with
    | ok module =>
      rw [accepted] at mapped
      cases mapped
      show (JsNumber.int module).toText = _
      rw [reads.id_eq accepted]
    | error failure =>
      rw [accepted] at mapped
      cases mapped
  scopeOf _ _ accepted := reads.scopeOf accepted
  WEBHOOK_ABORT_TIMEOUT_MS _ _ loaded set := reads.getD set (makeWebhookProcessorConfig_numbers loaded).1
  WEBHOOK_MAX_RETRIES _ _ loaded set := reads.getD set (makeWebhookProcessorConfig_numbers loaded).2

theorem num_string {s : String} {z : Int} (value : Number s = .int z) (errorMessage : Option String) :
    num (some (.string s)) errorMessage = .ok (parseFloat s) := by
  unfold num make
  dsimp only
  rw [if_neg (by rw [value]; simp)]

/-- **When a text that denotes an integer is read as that integer**: when it is plain. -/
theorem denoted_iff {s : String} {z : Int} (value : Number s = .int z) : Denoted s z ↔ Plain s := by
  rw [← parseFloat_eq_iff value]
  constructor
  · intro denoted
    have read := denoted.num none
    rw [num_string value] at read
    exact Except.ok.inj read
  · intro same
    refine NumReads.denoted fun errorMessage => ?_
    rw [num_string value, same]

/-- A port in scientific notation. -/
theorem denoted_exponent : Number "8e3" = .int 8000 ∧ (Denoted "8e3" 8000 ↔ Plain "8e3") := by
  have value : Number "8e3" = .int 8000 := by decide +kernel
  exact ⟨value, denoted_iff value⟩

/-- **A port in hexadecimal digits** is zero. -/
theorem not_denoted : ¬ ∀ (s : String) (z : Int), Number s = .int z → Denoted s z := by
  intro claim
  have value : Number "0x1F90" = .int 8080 := by decide +kernel
  have read := (claim "0x1F90" 8080 value).num none
  rw [num_string value] at read
  have zero : parseFloat "0x1F90" = .int 0 := (@Number_radix "0x1F90" 16 "1F90".toList rfl).2
  rw [zero] at read
  cases read

/-- A port that is set to nothing is no number. -/
example : num (some (.string "")) = .ok .nan := by
  rw [num_string (z := 0) rfl, (parseFloat_blank rfl).2]

end ValidatorEjector
