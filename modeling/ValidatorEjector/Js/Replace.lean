/-
**`String.prototype.replaceAll` with a text to search for.**

The replacement is a template: `$$` is a dollar sign, `$&` the match, and `$` with a grave accent or an
apostrophe the text in front of the match or behind it.

* `substitution` — a template filled in.
* `replaceAll` — every occurrence, from left to right; an empty search text occurs at every position.
* `inserted` — what a template inserts that refers to no text; then `replaceAll` is `Library.replace`
  (`replaceAll_eq`).
-/

import ValidatorEjector.Js.Text
import ValidatorEjector.Library.Replace

namespace Js

/-- A replacement template filled in. -/
def substitution (matched before after : List Char) : List Char → List Char
  | '$' :: '$' :: rest => '$' :: substitution matched before after rest
  | '$' :: '&' :: rest => matched ++ substitution matched before after rest
  | '$' :: '\x60' :: rest => before ++ substitution matched before after rest
  | '$' :: '\x27' :: rest => after ++ substitution matched before after rest
  | c :: rest => c :: substitution matched before after rest
  | [] => []

/-- The scan, behind `before`, with a number of characters to pass over. -/
def replaceAllFrom (search template : List Char) : List Char → Nat → List Char → List Char
  | _, _, [] => []
  | before, skip + 1, c :: cs => replaceAllFrom search template (before ++ [c]) skip cs
  | before, 0, c :: cs =>
    if search <+: c :: cs then
      substitution search before ((c :: cs).drop search.length) template ++
        replaceAllFrom search template (before ++ [c]) (search.length - 1) cs
    else c :: replaceAllFrom search template (before ++ [c]) 0 cs

/-- The template at every position. -/
def replaceGaps (template : List Char) : List Char → List Char → List Char
  | before, [] => substitution [] before [] template
  | before, c :: cs =>
    substitution [] before (c :: cs) template ++ c :: replaceGaps template (before ++ [c]) cs

/-- `s.replaceAll(search, template)`. -/
def replaceAll (s search template : String) : String :=
  if search = "" then String.ofList (replaceGaps template.toList [] s.toList)
  else String.ofList (replaceAllFrom search.toList template.toList [] 0 s.toList)

/-- What a template inserts, if it refers to no text. -/
def inserted : List Char → Option (List Char)
  | '$' :: '$' :: rest => (inserted rest).map ('$' :: ·)
  | '$' :: '&' :: _ => none
  | '$' :: '\x60' :: _ => none
  | '$' :: '\x27' :: _ => none
  | c :: rest => (inserted rest).map (c :: ·)
  | [] => some []

theorem substitution_of_inserted {template text : List Char} (fixed : inserted template = some text)
    (matched before after : List Char) : substitution matched before after template = text := by
  induction template using inserted.induct generalizing text with
  | case1 rest ih =>
    obtain ⟨tail, eq, rfl⟩ := Option.map_eq_some_iff.mp fixed
    rw [substitution, ih eq]
  | case2 rest => cases fixed
  | case3 rest => cases fixed
  | case4 rest => cases fixed
  | case5 c rest _ _ _ _ ih =>
    rw [inserted] at fixed
    · obtain ⟨tail, eq, rfl⟩ := Option.map_eq_some_iff.mp fixed
      rw [substitution, ih eq]
      all_goals assumption
    all_goals assumption
  | case6 => exact Option.some.inj fixed

/-- **A template that refers to no text** inserts the same text at every occurrence. -/
theorem replaceAll_eq {s search template : String} {text : List Char} (filled : search ≠ "")
    (fixed : inserted template.toList = some text) :
    (replaceAll s search template).toList = Library.replace search.toList text s.toList := by
  have scan : ∀ (cs before : List Char) (skip : Nat),
      replaceAllFrom search.toList template.toList before skip cs =
        Library.replaceFrom search.toList text skip cs := by
    intro cs
    induction cs with
    | nil => intro before skip; cases skip <;> rfl
    | cons c cs ih =>
      intro before skip
      cases skip with
      | zero => rw [replaceAllFrom, Library.replaceFrom, ih, ih, substitution_of_inserted fixed]
      | succ skip => rw [replaceAllFrom, Library.replaceFrom, ih]
  rw [replaceAll, if_neg filled, String.toList_ofList, scan]
  rfl

end Js
