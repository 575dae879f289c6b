/-
**`lib/logger` — the sanitizer and the printer.**

* `LogLevel`, `Format`, `Sanitizer` — the types of the options.
* `sanitize` — every secret replaced in a text, one secret after the other.
* `stringify` — a value printed as JSON and then sanitized.
* `printer.json`, `printer.simple` — the line of a log entry; `dateFormat` is its time.
-/

import ValidatorEjector.Js.Replace
import ValidatorEjector.Js.Stringify

namespace ValidatorEjector

open Js

/-- `LogLevelsUnion`. -/
inductive LogLevel
  | debug
  | info
  | log
  | warn
  | error
  deriving DecidableEq

/-- The text of a level. -/
def LogLevel.name : LogLevel → String
  | debug => "debug"
  | info => "info"
  | log => "log"
  | warn => "warn"
  | error => "error"

/-- `Format`. -/
inductive Format
  | json
  | simple
  deriving DecidableEq

/-- `Sanitizer`. -/
structure Sanitizer where
  secrets : List String
  replacer : String

/-! ### The sanitizer -/

/-- `sanitize`. -/
def sanitize (input : String) (sanitizer : Sanitizer) : String :=
  sanitizer.secrets.foldl (fun acc secret => replaceAll acc secret sanitizer.replacer) input

section Printing

variable (numeral : JsNumber → String)

/-- `stringify`: on a value that JSON does not print, `sanitize` throws, and the text is empty. -/
def stringify (object : Option Json) (sanitizer : Sanitizer) : String :=
  match object with
  | some json => sanitize (Json.stringify numeral json) sanitizer
  | none => ""

/-! ### The printer -/

/-- An entry of the log; the time is in seconds. -/
structure LogTarget where
  message : String
  details : Option Json
  level : LogLevel
  timestamp : Nat

/-- The entry as `JSON.stringify` sees it. -/
def LogTarget.toJson (target : LogTarget) : Json :=
  .object (("message", .string target.message) ::
    (target.details.toList.map fun details => ("details", details)) ++
    [("level", .string target.level.name), ("timestamp", .number (.int target.timestamp))])

/-- `colorTable`. -/
def colorTable : LogLevel → String
  | .debug => "\x1b[34m"
  | .info => "\x1b[32m"
  | .log => "\x1b[36m"
  | .warn => "\x1b[33m"
  | .error => "\x1b[31m"

def white : String := "\x1b[0m"

/-- `on`: two digits at least. -/
def on (l : Nat) : String := if l < 10 then "0" ++ toString l else toString l

/-- Year, month and day, of the days since the first of January 1970. -/
def utcDate (days : Nat) : Nat × Nat × Nat :=
  -- the count starts on the first of March of the year 0, so a leap day is the last of its year
  let z := days + 719468
  let era := z / 146097
  let dayOfEra := z % 146097
  let yearOfEra := (dayOfEra - dayOfEra / 1460 + dayOfEra / 36524 - dayOfEra / 146096) / 365
  let dayOfYear := dayOfEra - (365 * yearOfEra + yearOfEra / 4 - yearOfEra / 100)
  let shifted := (5 * dayOfYear + 2) / 153
  let day := dayOfYear - (153 * shifted + 2) / 5 + 1
  let month := if shifted < 10 then shifted + 3 else shifted - 9
  (yearOfEra + era * 400 + (if month ≤ 2 then 1 else 0), month, day)

/-- `dateFormat`. -/
def dateFormat (ts : Nat) : String :=
  let (year, month, day) := utcDate (ts / 86400)
  toString year ++ "-" ++ on month ++ "-" ++ on day ++ " " ++ on (ts % 86400 / 3600) ++ ":" ++
    on (ts % 3600 / 60) ++ ":" ++ on (ts % 60)

example : dateFormat 1641045502 = "2022-01-01 13:58:22" := by decide +kernel

namespace printer

/-- `printer.json`: the text given to the console. -/
def json (target : LogTarget) (sanitizer : Sanitizer) : String :=
  stringify numeral (some target.toJson) sanitizer

/-- `rest.details`, if it is truthy. -/
def truthy : Option Json → Option Json
  | some (.bool false) => none
  | some .null => none
  | some (.string "") => none
  | some (.number (.int 0)) => none
  | some (.number .nan) => none
  | details => details

/-- `printer.simple`. -/
def simple (target : LogTarget) (sanitizer : Sanitizer) : String :=
  let printing := white ++ dateFormat target.timestamp ++ colorTable target.level ++ " " ++
    target.level.name ++ white ++ ":" ++ colorTable target.level ++ " " ++
    sanitize target.message sanitizer ++ white
  match truthy target.details with
  | some details => printing ++ " " ++ stringify numeral (some details) sanitizer
  | none => printing

end printer

end Printing

end ValidatorEjector
