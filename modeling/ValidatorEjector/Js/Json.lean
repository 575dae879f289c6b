/-
**JSON values, and `JSON.parse`.**

* `Json` — a parsed value. An object keeps its members in the order of the text; a member written
  twice has the last value (`Json.member?`).
* `entries` — `Object.entries`.
* `hasKey` — the operator `in`, which throws on a value that is no object.
* `Json.parse` — `JSON.parse`: one value with white space around it. A lone surrogate escape, which no
  Lean character denotes, becomes the replacement character.
-/

import Mathlib.Data.List.Sort
import ValidatorEjector.Js.Number

namespace Js

/-- A JSON value. -/
inductive Json
  | null
  | bool (value : Bool)
  | number (value : JsNumber)
  | string (value : String)
  | array (elements : List Json)
  | object (members : List (String × Json))

namespace Json

/-- The member of an object: the last one written under the key. -/
def member? (members : List (String × Json)) (key : String) : Option Json :=
  members.reverse.lookup key

/-- `key in json`: `none` when `json` is a primitive, on which `in` throws. An array has only index
keys. -/
def hasKey (key : String) : Json → Option Bool
  | .object members => some (member? members key).isSome
  | .array _ => some false
  | _ => none

/-- A key that is an array index in canonical form. -/
def arrayIndex? (key : String) : Option Nat :=
  key.toNat?.filter fun index => toString index = key ∧ index < 2 ^ 32 - 1

/-- `Object.entries`: the index keys first, in ascending order, then the others as they were written. -/
def entries (members : List (String × Json)) : List (String × Json) :=
  let keys := (members.map Prod.fst).eraseDups
  let indices := (keys.filterMap arrayIndex?).insertionSort (· ≤ ·)
  let names := keys.filter fun key => arrayIndex? key = none
  (indices.map toString ++ names).filterMap fun key => (member? members key).map fun json => (key, json)

/-! ### The parser -/

/-- White space between tokens. -/
def isBlank (c : Char) : Bool := c = ' ' || c = '\n' || c = '\r' || c = '\t'

/-- Skip white space. -/
def skip (cs : List Char) : List Char := cs.dropWhile isBlank

/-- The character of a code unit; a surrogate alone is replaced. -/
def unitChar (unit : Nat) : Char :=
  if 0xD800 ≤ unit ∧ unit < 0xE000 then Char.ofNat 0xFFFD else Char.ofNat unit

/-- Four hexadecimal digits. -/
def readUnit : List Char → Option (Nat × List Char)
  | a :: b :: c :: d :: rest =>
    match [a, b, c, d].mapM (digitValue? 16) with
    | some ds => some (digitsValue 16 ds, rest)
    | none => none
  | _ => none

/-- The character an escape stands for, after the backslash. -/
def readEscape : List Char → Option (Char × List Char)
  | '"' :: rest => some ('"', rest)
  | '\\' :: rest => some ('\\', rest)
  | '/' :: rest => some ('/', rest)
  | 'b' :: rest => some ('\x08', rest)
  | 'f' :: rest => some ('\x0c', rest)
  | 'n' :: rest => some ('\n', rest)
  | 'r' :: rest => some ('\r', rest)
  | 't' :: rest => some ('\t', rest)
  | 'u' :: rest => do
    let (high, rest) ← readUnit rest
    match rest with
    | '\\' :: 'u' :: rest' =>
      match readUnit rest' with
      | some (low, rest'') =>
        if 0xD800 ≤ high ∧ high < 0xDC00 ∧ 0xDC00 ≤ low ∧ low < 0xE000 then
          some (Char.ofNat (0x10000 + (high - 0xD800) * 0x400 + (low - 0xDC00)), rest'')
        else some (unitChar high, rest)
      | none => some (unitChar high, rest)
    | _ => some (unitChar high, rest)
  | _ => none

/-- The characters of a string up to its closing quote. -/
def readString : Nat → List Char → Option (List Char × List Char)
  | 0, _ => none
  | _ + 1, [] => none
  | _ + 1, '"' :: rest => some ([], rest)
  | fuel + 1, '\\' :: rest => do
    let (c, rest) ← readEscape rest
    let (cs, rest) ← readString fuel rest
    some (c :: cs, rest)
  | fuel + 1, c :: rest =>
    if c.toNat < 0x20 then none
    else do
      let (cs, rest) ← readString fuel rest
      some (c :: cs, rest)

/-- A JSON number: no plus sign, no superfluous zero, digits on both sides of a point. -/
def readNumber (cs : List Char) : Option (JsNumber × List Char) :=
  let (negative, unsigned) := match cs with
    | '-' :: rest => (true, rest)
    | rest => (false, rest)
  let wellFormed := match readDigits 10 unsigned with
    | ([], _) => false
    | (0 :: _ :: _, _) => false
    | (_, '.' :: rest) => (readDigits 10 rest).1 ≠ []
    | _ => true
  if wellFormed then (readDecimal unsigned).map fun (q, rest) => (ofRat (signed negative q), rest)
  else none

mutual

/-- One value and the text after it. -/
def readValue : Nat → List Char → Option (Json × List Char)
  | 0, _ => none
  | fuel + 1, cs =>
    match skip cs with
    | 'n' :: 'u' :: 'l' :: 'l' :: rest => some (.null, rest)
    | 't' :: 'r' :: 'u' :: 'e' :: rest => some (.bool true, rest)
    | 'f' :: 'a' :: 'l' :: 's' :: 'e' :: rest => some (.bool false, rest)
    | '"' :: rest => (readString fuel rest).map fun (cs, rest) => (.string (String.ofList cs), rest)
    | '[' :: rest =>
      match skip rest with
      | ']' :: rest => some (.array [], rest)
      | _ => (readElements fuel rest).map fun (elements, rest) => (.array elements, rest)
    | '{' :: rest =>
      match skip rest with
      | '}' :: rest => some (.object [], rest)
      | _ => (readMembers fuel rest).map fun (members, rest) => (.object members, rest)
    | cs => (readNumber cs).map fun (n, rest) => (.number n, rest)

/-- The elements of an array up to its bracket. -/
def readElements : Nat → List Char → Option (List Json × List Char)
  | 0, _ => none
  | fuel + 1, cs => do
    let (element, rest) ← readValue fuel cs
    match skip rest with
    | ',' :: rest => do
      let (elements, rest) ← readElements fuel rest
      some (element :: elements, rest)
    | ']' :: rest => some ([element], rest)
    | _ => none

/-- The members of an object up to its brace. -/
def readMembers : Nat → List Char → Option (List (String × Json) × List Char)
  | 0, _ => none
  | fuel + 1, cs =>
    match skip cs with
    | '"' :: rest => do
      let (key, rest) ← readString fuel rest
      match skip rest with
      | ':' :: rest => do
        let (value, rest) ← readValue fuel rest
        match skip rest with
        | ',' :: rest => do
          let (members, rest) ← readMembers fuel rest
          some ((String.ofList key, value) :: members, rest)
        | '}' :: rest => some ([(String.ofList key, value)], rest)
        | _ => none
      | _ => none
    | _ => none

end

/-- `JSON.parse(text)`; `none` is a `SyntaxError`. Every call of the parser reads a character or opens
a level, so twice the length is fuel enough. -/
def parse (text : String) : Option Json :=
  match readValue (2 * text.toList.length + 2) text.toList with
  | some (json, rest) => if skip rest = [] then some json else none
  | none => none

end Json

end Js
