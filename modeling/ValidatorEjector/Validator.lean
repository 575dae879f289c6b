/-
**`lib/validator` — checks on unknown values.**

A value of type `unknown` is an `Option Json`, `none` for `undefined`. A check returns the value at its
type or throws; the class of the error matters, since `optional` forgives an empty value only.

* `Failure` — a thrown error: its class and its message, a template.
* `str`, `num`, `bool`, `level_attr`, `log_format`, `url_list`, `literal_str` — the primitive checks of
  `make`.
* `obj`, `arr` — the checks of `makeDeep`, which rethrow every error of their callback as a
  `ValidationError`; `json_obj`, `json_arr` — the same for a text that is JSON.
* `optional`, `wrap`, `or` — the operators.
-/

import Mathlib.Data.List.DropRight
import ValidatorEjector.Js.Json
import ValidatorEjector.Logger.Printer

namespace ValidatorEjector

open Js

/-- The class of a thrown error, as far as the code tells classes apart. -/
inductive ErrorClass
  | error
  | typeError
  | validation
  | validationEmpty
  deriving DecidableEq

/-- A piece of a template: literal text, or a value printed into it. -/
inductive MessagePart
  | text (text : String)
  | number (value : JsNumber)
  | json (value : Json)

/-- The message of an error. -/
abbrev Message := List MessagePart

/-- A thrown error. -/
structure Failure where
  errorClass : ErrorClass
  message : Message

namespace Failure

/-- `new Error(template)`. -/
def template (message : Message) : Failure := ⟨.error, message⟩

/-- `new Error(message)`. -/
def error (message : String) : Failure := template [.text message]

/-- `new TypeError(message)`. -/
def typeError (message : String) : Failure := ⟨.typeError, [.text message]⟩

/-- `new ValidationEmptyError(message)`. -/
def validationEmpty (message : String) : Failure := ⟨.validationEmpty, [.text message]⟩

/-- The error rethrown as a `ValidationError` with its message. -/
def asValidation (failure : Failure) : Failure := ⟨.validation, failure.message⟩

end Failure

/-- A message that `||` passes over. -/
def Message.isEmpty : Message → Bool
  | [.text message] => message = ""
  | _ => false

namespace Validator

/-- The error of a failed check: the caller's message, or the template. -/
def invalid (kind : String) (input : Json) (errorMessage : Option String) : Failure :=
  match errorMessage with
  | some message => ⟨.validation, [.text message]⟩
  | none => ⟨.validation, [.text s!"Invalid {kind} input: \"", .json input, .text "\""]⟩

/-! ### Primitive checks -/

/-- `make`: an undefined value is empty, whatever the check. -/
def make {α : Type} (parseFn : Json → Option String → Except Failure α) (input : Option Json)
    (errorMessage : Option String := none) : Except Failure α :=
  match input with
  | none => .error (.validationEmpty (errorMessage.getD ""))
  | some json => parseFn json errorMessage

/-- `str`. -/
def str (input : Option Json) (errorMessage : Option String := none) : Except Failure String :=
  make (fun input errorMessage =>
    match input with
    | .string s => .ok s
    | _ => .error (invalid "string" input errorMessage)) input errorMessage

/-- `num`: a string is accepted by `Number` and read by `parseFloat`. -/
def num (input : Option Json) (errorMessage : Option String := none) : Except Failure JsNumber :=
  make (fun input errorMessage =>
    match input with
    | .string s =>
      if Number s = .nan then .error (invalid "number" input errorMessage) else .ok (parseFloat s)
    | .number n => if n = .nan then .error (invalid "number" input errorMessage) else .ok n
    | _ => .error (invalid "number" input errorMessage)) input errorMessage

/-- `bool`. -/
def bool (input : Option Json) (errorMessage : Option String := none) : Except Failure Bool :=
  make (fun input errorMessage =>
    match input with
    | .bool value => .ok value
    | .string "true" => .ok true
    | .string "True" => .ok true
    | .string "false" => .ok false
    | .string "False" => .ok false
    | _ => .error (invalid "bool" input errorMessage)) input errorMessage

/-- `level_attr`. -/
def level_attr (input : Option Json) (errorMessage : Option String := none) : Except Failure LogLevel :=
  make (fun input errorMessage => do
    let string ← str input
    match [LogLevel.debug, .info, .log, .warn, .error].find? (·.name = string) with
    | some level => .ok level
    | none => .error (invalid "level" input errorMessage)) input errorMessage

/-- `log_format`; its template names a level too. -/
def log_format (input : Option Json) (errorMessage : Option String := none) : Except Failure Format :=
  make (fun input errorMessage => do
    let string ← str input
    if string = "json" then .ok .json
    else if string = "simple" then .ok .simple
    else .error (invalid "level" input errorMessage)) input errorMessage

/-- `normalizeUrlList`: the endpoints between commas, without white space around them and slashes at their
end. -/
def normalizeUrlList (input : String) : List String :=
  ((((input.toList.splitOn ',').map trim).filter fun s => 0 < s.length).map
    (List.rdropWhile (· = '/'))).map String.ofList

/-- `url_list`. -/
def url_list (input : Option Json) (errorMessage : Option String := none) :
    Except Failure (List String) :=
  make (fun input errorMessage => do
    let string ← str input errorMessage
    let items := normalizeUrlList string
    if items = [] then .error (invalid "url_list" input errorMessage) else .ok items) input errorMessage

/-- `literal_str`. -/
def literal_str (expected : String) (input : Option Json) (errorMessage : Option String := none) :
    Except Failure String :=
  match input with
  | none => .error (.validationEmpty (errorMessage.getD ""))
  | some json => do
    let parsed ← str json
    if expected = parsed then .ok expected else .error (invalid "literal" json errorMessage)

/-! ### Deep checks -/

/-- An object as its members. -/
abbrev Members := List (String × Json)

/-- `json.key`. -/
def Members.get (members : Members) (key : String) : Option Json := Json.member? members key

/-- `makeDeep`: the callback's errors come out as validation errors. -/
def makeDeep {α β : Type} (parseFn : Json → Option String → Except Failure α) (input : Option Json)
    (cb : α → Except Failure β) (errorMessage : Option String := none) : Except Failure β :=
  match input with
  | none => .error (.validationEmpty (errorMessage.getD "Empty value"))
  | some json => ((parseFn json errorMessage).bind cb).mapError Failure.asValidation

/-- `obj`: an object that is neither `null` nor an array. -/
def obj {β : Type} (input : Option Json) (cb : Members → Except Failure β)
    (errorMessage : Option String := none) : Except Failure β :=
  makeDeep (fun input errorMessage =>
    match input with
    | .object members => .ok members
    | _ => .error (invalid "object" input errorMessage)) input cb errorMessage

/-- `arr`. -/
def arr {β : Type} (input : Option Json) (cb : List Json → Except Failure β)
    (errorMessage : Option String := none) : Except Failure β :=
  makeDeep (fun input errorMessage =>
    match input with
    | .array elements => .ok elements
    | _ => .error (invalid "array" input errorMessage)) input cb errorMessage

/-- `makeJson`: the text is parsed, and then checked like a value. Every caller gives a message, so the
parser's own is never shown. -/
def makeJson {β : Type} (check : Json → Except Failure β) (input : Option Json) (errorMessage : String) :
    Except Failure β :=
  match input with
  | none => .error (.validationEmpty errorMessage)
  | some (.string text) =>
    match Json.parse text with
    | some parsed => check parsed
    | none => .error ⟨.validation, [.text errorMessage]⟩
  | some _ => .error ⟨.validation, [.text errorMessage]⟩

/-- `json_obj`. -/
def json_obj {β : Type} (input : Option Json) (cb : Members → Except Failure β) (errorMessage : String) :
    Except Failure β :=
  makeJson (fun parsed => obj parsed cb errorMessage) input errorMessage

/-- `json_arr`. -/
def json_arr {β : Type} (input : Option Json) (cb : List Json → Except Failure β) (errorMessage : String) :
    Except Failure β :=
  makeJson (fun parsed => arr parsed cb errorMessage) input errorMessage

/-! ### Operators -/

/-- `optional`: an empty value is no value. -/
def optional {α : Type} (cb : Except Failure α) : Except Failure (Option α) :=
  match cb with
  | .ok a => .ok (some a)
  | .error failure => if failure.errorClass = .validationEmpty then .ok none else .error failure

/-- `wrap`. -/
def wrap {α : Type} (cb : Except Failure α) : Except Failure α := cb.mapError Failure.asValidation

/-- `or`: both sides are evaluated, and the right one wins. -/
protected def or {α : Type} (left right : Except Failure α) : Except Failure α :=
  match left, right with
  | _, .ok b => .ok b
  | .ok a, .error _ => .ok a
  | .error leftError, .error rightError =>
    if !leftError.message.isEmpty then .error ⟨.validation, leftError.message⟩
    else if !rightError.message.isEmpty then .error ⟨.validation, rightError.message⟩
    else .error ⟨.validation, [.text "OR runtime error"]⟩

/-! ### What a check accepts -/

section Accept

variable {α β : Type}

theorem str_ok {input : Option Json} {errorMessage : Option String} {s : String} :
    str input errorMessage = .ok s ↔ input = some (.string s) := by
  unfold str make
  cases input with
  | none => simp
  | some json => cases json <;> simp [invalid]

theorem obj_ok {input : Option Json} {cb : Members → Except Failure β} {errorMessage : Option String}
    {b : β} :
    obj input cb errorMessage = .ok b ↔ ∃ members, input = some (.object members) ∧
      cb members = .ok b := by
  unfold obj makeDeep
  cases input with
  | none => simp
  | some json =>
    cases json with
    | object members =>
      cases run : cb members <;> simp [Except.bind, Except.mapError, run]
    | _ => simp [Except.bind, Except.mapError]

theorem arr_ok {input : Option Json} {cb : List Json → Except Failure β}
    {errorMessage : Option String} {b : β} :
    arr input cb errorMessage = .ok b ↔ ∃ elements, input = some (.array elements) ∧
      cb elements = .ok b := by
  unfold arr makeDeep
  cases input with
  | none => simp
  | some json =>
    cases json with
    | array elements =>
      cases run : cb elements <;> simp [Except.bind, Except.mapError, run]
    | _ => simp [Except.bind, Except.mapError]

end Accept

end Validator

end ValidatorEjector
