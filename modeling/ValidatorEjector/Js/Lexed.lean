/-
**Words replaced in a JSON text.**

How a text is taken apart into strings depends on its quotes and backslashes alone.

* `Lexed inside text` — inside of strings, every backslash starts an escape that `JSON.stringify` prints,
  or one that is not well formed.
* `lexed_print` — a printed value; `lexed_replace` — it stays so when words without quotes and backslashes
  are replaced by an `Inert` one.
* `Mentions s json` — a string or a key of the value contains `s`.
* `mentions_of_parse` — what a string read from a lexed text contains stands in the text, escaped.
-/

import ValidatorEjector.Js.Stringify
import ValidatorEjector.Library.Replace

namespace Js

namespace Json

open Library

/-- A word without quotes and backslashes. -/
def Unquoted (w : List Char) : Prop := '"' ∉ w ∧ '\\' ∉ w

instance (w : List Char) : Decidable (Unquoted w) := inferInstanceAs (Decidable (_ ∧ _))

theorem unquoted_cons {c : Char} {w : List Char} :
    Unquoted (c :: w) ↔ (c ≠ '"' ∧ c ≠ '\\') ∧ Unquoted w := by
  simp only [Unquoted, List.mem_cons, not_or, ne_comm (a := c)]
  exact and_and_and_comm

theorem Unquoted.append {v w : List Char} (left : Unquoted v) (right : Unquoted w) : Unquoted (v ++ w) := by
  simp [Unquoted, left.1, left.2, right.1, right.2]

/-! ### Escapes that are not well formed -/

/-- The characters that may follow a backslash. -/
def escapeLetters : List Char := ['"', '\\', '/', 'b', 'f', 'n', 'r', 't', 'u']

/-- Fewer than `n` hexadecimal digits. -/
def StalledUnit : Nat → List Char → Prop
  | 0, _ => False
  | _ + 1, [] => True
  | n + 1, c :: cs => digitValue? 16 c = none ∨ StalledUnit n cs

/-- No escape, behind a backslash. -/
def Stalled : List Char → Prop
  | [] => True
  | c :: cs => c ∉ escapeLetters ∨ (c = 'u' ∧ StalledUnit 4 cs)

theorem readUnit_stalled {cs : List Char} (stalled : StalledUnit 4 cs) : readUnit cs = none := by
  match cs with
  | [] => rfl
  | [_] => rfl
  | [_, _] => rfl
  | [_, _, _] => rfl
  | a :: b :: c :: d :: rest =>
    have missing : [a, b, c, d].mapM (digitValue? 16) = none := by
      rcases stalled with none | none | none | none | none
      all_goals first
        | exact none.elim
        | simp [none]
    rw [readUnit, missing]

theorem readEscape_stalled {cs : List Char} (stalled : Stalled cs) : readEscape cs = none := by
  match cs with
  | [] => rfl
  | c :: rest =>
    rcases stalled with other | ⟨rfl, unit⟩
    · simp only [escapeLetters, List.mem_cons, List.not_mem_nil, or_false, not_or] at other
      unfold readEscape
      split <;> simp_all
    · unfold readEscape
      simp [readUnit_stalled unit]

/-! ### The strings of a text -/

/-- The text is taken apart into strings by its quotes, from inside of a string or from outside. -/
inductive Lexed : Bool → List Char → Prop
  | nil (inside : Bool) : Lexed inside []
  | quote {inside : Bool} {cs : List Char} (rest : Lexed (!inside) cs) : Lexed inside ('"' :: cs)
  | letter {inside : Bool} {c : Char} {cs : List Char} (plain : c ≠ '"' ∧ c ≠ '\\')
      (rest : Lexed inside cs) : Lexed inside (c :: cs)
  | escaped {c : Char} {tail cs : List Char} (printed : escapeChar c = '\\' :: tail)
      (rest : Lexed true cs) : Lexed true ('\\' :: (tail ++ cs))
  | stalled {cs : List Char} (stalled : Stalled cs) : Lexed true ('\\' :: cs)

theorem Lexed.tail {inside : Bool} {c : Char} {cs : List Char} (lexed : Lexed inside (c :: cs))
    (plain : c ≠ '"' ∧ c ≠ '\\') : Lexed inside cs := by
  cases lexed with
  | quote rest => exact absurd rfl plain.1
  | letter _ rest => exact rest
  | escaped printed rest => exact absurd rfl plain.2
  | stalled none => exact absurd rfl plain.2

theorem lexed_append {inside : Bool} {w rest : List Char} (unquoted : Unquoted w) :
    Lexed inside (w ++ rest) ↔ Lexed inside rest := by
  induction w with
  | nil => rfl
  | cons c w ih =>
    obtain ⟨plain, others⟩ := unquoted_cons.mp unquoted
    rw [← ih others]
    exact ⟨fun lexed => lexed.tail plain, fun lexed => .letter plain lexed⟩

/-! ### Printed values -/

section Printed

variable {numeral : JsNumber → String}

/-- A character is printed as itself, or behind a backslash. -/
theorem escapeChar_cases (c : Char) : (escapeChar c = [c] ∧ c ≠ '"' ∧ c ≠ '\\') ∨
    ∃ tail, escapeChar c = '\\' :: tail := by
  unfold escapeChar
  split_ifs with quotation backslash
  all_goals first
    | exact .inr ⟨_, rfl⟩
    | exact .inl ⟨rfl, quotation, backslash⟩

/-- A character that is no quotation mark, no backslash and no control character is printed as itself. -/
theorem escapeChar_ne {c : Char} {tail : List Char} (plain : c ≠ '"' ∧ c ≠ '\\')
    (control : ¬ c.toNat < 0x20) : escapeChar c ≠ '\\' :: tail := by
  unfold escapeChar
  split_ifs
  all_goals first
    | exact absurd ‹_› plain.1
    | exact absurd ‹_› plain.2
    | (rename_i same; subst same; exact absurd (by decide) control)
    | contradiction
    | exact fun same => plain.2 (List.cons.inj same).1

theorem lexed_escape {rest : List Char} (lexed : Lexed true rest) (cs : List Char) :
    Lexed true (escape cs ++ rest) := by
  induction cs with
  | nil => exact lexed
  | cons c cs ih =>
    show Lexed true (escapeChar c ++ escape cs ++ rest)
    rw [List.append_assoc]
    rcases escapeChar_cases c with ⟨itself, plain⟩ | ⟨tail, printed⟩
    · rw [itself]
      exact .letter plain ih
    · rw [printed]
      exact .escaped printed ih

theorem lexed_quote {rest : List Char} (lexed : Lexed false rest) (s : String) :
    Lexed false (quote s ++ rest) := by
  unfold quote
  rw [List.append_assoc]
  exact .quote (lexed_escape (.quote lexed) s.toList)

mutual

/-- **A printed value is lexed**, with whatever follows it. -/
theorem lexed_print (unquoted : ∀ n, Unquoted (numeral n).toList) {rest : List Char}
    (lexed : Lexed false rest) :
    ∀ json : Json, Lexed false (print numeral json ++ rest)
  | .null => (lexed_append (w := ['n', 'u', 'l', 'l']) (by decide)).mpr lexed
  | .bool true => (lexed_append (w := ['t', 'r', 'u', 'e']) (by decide)).mpr lexed
  | .bool false => (lexed_append (w := ['f', 'a', 'l', 's', 'e']) (by decide)).mpr lexed
  | .number .nan => (lexed_append (w := ['n', 'u', 'l', 'l']) (by decide)).mpr lexed
  | .number (.infinity _) => (lexed_append (w := ['n', 'u', 'l', 'l']) (by decide)).mpr lexed
  | .number (.int _) => (lexed_append (unquoted _)).mpr lexed
  | .number (.fraction _) => (lexed_append (unquoted _)).mpr lexed
  | .string s => lexed_quote lexed s
  | .array [] => (lexed_append (w := ['[', ']']) (by decide)).mpr lexed
  | .array (json :: elements) => by
    unfold print
    rw [List.append_assoc, List.append_assoc, List.cons_append]
    refine .letter (by decide) (lexed_print unquoted (lexed_printElements unquoted ?_ elements) json)
    exact .letter (by decide) lexed
  | .object [] => (lexed_append (w := ['{', '}']) (by decide)).mpr lexed
  | .object ((key, json) :: members) => by
    have shape : print numeral (.object ((key, json) :: members)) ++ rest = '{' :: (quote key ++
        ':' :: (print numeral json ++ (printMembers numeral members ++ '}' :: rest))) := by
      rw [print]
      simp
    rw [shape]
    refine .letter (by decide) (lexed_quote (.letter (by decide) ?_) key)
    exact lexed_print unquoted (lexed_printMembers unquoted (.letter (by decide) lexed) members) json

theorem lexed_printElements (unquoted : ∀ n, Unquoted (numeral n).toList) {rest : List Char}
    (lexed : Lexed false rest) :
    ∀ elements : List Json, Lexed false (printElements numeral elements ++ rest)
  | [] => lexed
  | json :: elements => by
    unfold printElements
    rw [List.append_assoc, List.cons_append]
    exact .letter (by decide) (lexed_print unquoted (lexed_printElements unquoted lexed elements) json)

theorem lexed_printMembers (unquoted : ∀ n, Unquoted (numeral n).toList) {rest : List Char}
    (lexed : Lexed false rest) :
    ∀ members : List (String × Json), Lexed false (printMembers numeral members ++ rest)
  | [] => lexed
  | (key, json) :: members => by
    have shape : printMembers numeral ((key, json) :: members) ++ rest = ',' :: (quote key ++
        ':' :: (print numeral json ++ (printMembers numeral members ++ rest))) := by
      rw [printMembers]
      simp
    rw [shape]
    refine .letter (by decide) (lexed_quote (.letter (by decide) ?_) key)
    exact lexed_print unquoted (lexed_printMembers unquoted lexed members) json

end

end Printed

/-! ### Replaced words -/

/-- A word that neither is taken apart nor finishes an escape. -/
structure Inert (r : List Char) : Prop where
  head : ∃ c cs, r = c :: cs ∧ c ∉ escapeLetters ∧ digitValue? 16 c = none
  unquoted : Unquoted r

section Replaced

variable {w r : List Char}

theorem Inert.stalled (inert : Inert r) (rest : List Char) : Stalled (r ++ rest) := by
  obtain ⟨c, cs, rfl, other, _⟩ := inert.head
  exact .inl other

theorem Inert.stalledUnit (inert : Inert r) (n : Nat) (rest : List Char) :
    StalledUnit (n + 1) (r ++ rest) := by
  obtain ⟨c, cs, rfl, _, other⟩ := inert.head
  exact .inl other

/-- A word at the front of a text is replaced, or the first letter stays. -/
theorem replace_cons_cases (filled : w ≠ []) (c : Char) (cs : List Char) :
    (∃ rest, c :: cs = w ++ rest ∧ replace w r (c :: cs) = r ++ replace w r rest) ∨
      replace w r (c :: cs) = c :: replace w r cs := by
  by_cases here : w <+: c :: cs
  · obtain ⟨rest, split⟩ := here
    refine .inl ⟨rest, split.symm, ?_⟩
    rw [← split, replace_append filled]
  · exact .inr (replace_cons here)

theorem stalledUnit_replace (filled : w ≠ []) (inert : Inert r) {n : Nat} {cs : List Char}
    (stalled : StalledUnit n cs) : StalledUnit n (replace w r cs) := by
  induction n generalizing cs with
  | zero => exact stalled.elim
  | succ n ih =>
    cases cs with
    | nil => exact trivial
    | cons c cs =>
      rcases replace_cons_cases filled c cs with ⟨rest, _, eq⟩ | eq
      · rw [eq]
        exact inert.stalledUnit n _
      · rw [eq]
        exact stalled.imp id ih

theorem stalled_replace (filled : w ≠ []) (inert : Inert r) {cs : List Char} (stalled : Stalled cs) :
    Stalled (replace w r cs) := by
  cases cs with
  | nil => exact trivial
  | cons c cs =>
    rcases replace_cons_cases filled c cs with ⟨rest, _, eq⟩ | eq
    · rw [eq]
      exact inert.stalled _
    · rw [eq]
      exact stalled.imp id fun unit => ⟨unit.1, stalledUnit_replace filled inert unit.2⟩

/-- Digits stay, or there are fewer of them. -/
theorem replace_unit (filled : w ≠ []) (inert : Inert r) (digits rest : List Char) :
    replace w r (digits ++ rest) = digits ++ replace w r rest ∨
      StalledUnit digits.length (replace w r (digits ++ rest)) := by
  induction digits with
  | nil => exact .inl rfl
  | cons d digits ih =>
    rw [List.cons_append]
    rcases replace_cons_cases filled d (digits ++ rest) with ⟨_, _, eq⟩ | eq
    · rw [eq]
      exact .inr (inert.stalledUnit _ _)
    · rw [eq]
      rcases ih with same | fewer
      · exact .inl (by rw [same, List.cons_append])
      · exact .inr (.inr fewer)

/-- What is printed behind a backslash: a letter, or a unit of four digits. -/
theorem escapeChar_tail {c : Char} {tail : List Char} (printed : escapeChar c = '\\' :: tail) :
    (∃ d, tail = [d]) ∨ ∃ digits, tail = 'u' :: digits ∧ digits.length = 4 := by
  unfold escapeChar at printed
  split_ifs at printed with _ slash _ _ _ _ _ control
  all_goals first
    | exact .inl ⟨_, (List.cons.inj printed).2.symm⟩
    | exact .inr ⟨_, (List.cons.inj printed).2.symm, rfl⟩
    | exact absurd (List.cons.inj printed).1 slash

/-- A printed escape stays, or is none any more. -/
theorem replace_escape (filled : w ≠ []) (inert : Inert r) {c : Char} {tail : List Char}
    (printed : escapeChar c = '\\' :: tail) (rest : List Char) :
    replace w r (tail ++ rest) = tail ++ replace w r rest ∨ Stalled (replace w r (tail ++ rest)) := by
  rcases escapeChar_tail printed with ⟨d, rfl⟩ | ⟨digits, rfl, four⟩
  · rcases replace_cons_cases filled d rest with ⟨_, _, eq⟩ | eq
    · exact .inr (by rw [List.singleton_append, eq]; exact inert.stalled _)
    · exact .inl eq
  · rw [List.cons_append]
    rcases replace_cons_cases filled 'u' (digits ++ rest) with ⟨_, _, eq⟩ | eq
    · exact .inr (by rw [eq]; exact inert.stalled _)
    · rw [eq]
      rcases replace_unit filled inert digits rest with same | fewer
      · exact .inl (by rw [same, List.cons_append])
      · exact .inr (.inr ⟨rfl, four ▸ fewer⟩)

/-- **Replacing keeps the text lexed.** -/
theorem lexed_replace (filled : w ≠ []) (unquoted : Unquoted w) (inert : Inert r) {inside : Bool}
    {text : List Char} (lexed : Lexed inside text) : Lexed inside (replace w r text) := by
  have quoted {c : Char} {cs : List Char} (mark : c = '"' ∨ c = '\\') :
      replace w r (c :: cs) = c :: replace w r cs := by
    refine replace_cons fun front => ?_
    obtain ⟨d, ds, rfl⟩ := List.exists_cons_of_ne_nil filled
    have same : d = c := (List.cons_prefix_cons.mp front).1
    rw [unquoted_cons, same] at unquoted
    exact mark.elim unquoted.1.1 unquoted.1.2
  induction length : text.length using Nat.strong_induction_on generalizing inside text with
  | _ n ih =>
    subst length
    cases lexed with
    | nil => exact .nil _
    | quote rest =>
      rw [quoted (.inl rfl)]
      exact .quote (ih _ (Nat.lt_succ_self _) rest rfl)
    | @letter _ c cs plain rest =>
      rcases replace_cons_cases filled c cs with ⟨more, split, eq⟩ | eq
      · have lexed : Lexed inside (c :: cs) := .letter plain rest
        have shorter : more.length < (c :: cs).length := by
          have positive := List.length_pos_iff.mpr filled
          rw [split, List.length_append]
          omega
        rw [split, lexed_append unquoted] at lexed
        rw [eq, lexed_append inert.unquoted]
        exact ih _ shorter lexed rfl
      · rw [eq]
        exact .letter plain (ih _ (Nat.lt_succ_self _) rest rfl)
    | @escaped c tail cs printed rest =>
      rw [quoted (.inr rfl)]
      rcases replace_escape filled inert printed cs with same | none
      · rw [same]
        have shorter : cs.length < ('\\' :: (tail ++ cs)).length := by
          rw [List.length_cons, List.length_append]
          omega
        exact .escaped printed (ih _ shorter rest rfl)
      · exact .stalled none
    | stalled none =>
      rw [quoted (.inr rfl)]
      exact .stalled (stalled_replace filled inert none)

theorem lexed_replaceEach {words : List (List Char)} (filled : ∀ w ∈ words, w ≠ [])
    (unquoted : ∀ w ∈ words, Unquoted w) (inert : Inert r) {inside : Bool} {text : List Char}
    (lexed : Lexed inside text) : Lexed inside (replaceEach words r text) := by
  induction words generalizing text with
  | nil => exact lexed
  | cons w words ih =>
    rw [List.forall_mem_cons] at filled unquoted
    exact ih filled.2 unquoted.2 (lexed_replace filled.1 unquoted.1 inert lexed)

end Replaced

/-! ### What is read passes over quotes in strings only -/

/-- From `cs` to `rest` over characters that are no quotes and no backslashes. -/
def Passes (cs rest : List Char) : Prop := ∃ passed, Unquoted passed ∧ cs = passed ++ rest

namespace Passes

theorem refl (cs : List Char) : Passes cs cs := ⟨[], by decide, rfl⟩

theorem cons {c : Char} {cs rest : List Char} (plain : c ≠ '"' ∧ c ≠ '\\') (passes : Passes cs rest) :
    Passes (c :: cs) rest := by
  obtain ⟨passed, unquoted, rfl⟩ := passes
  exact ⟨c :: passed, unquoted_cons.mpr ⟨plain, unquoted⟩, rfl⟩

theorem trans {a b c : List Char} (one : Passes a b) (two : Passes b c) : Passes a c := by
  obtain ⟨first, unquoted, rfl⟩ := one
  obtain ⟨second, unquoted', rfl⟩ := two
  exact ⟨first ++ second, unquoted.append unquoted', (List.append_assoc ..).symm⟩

theorem suffix {cs rest : List Char} (passes : Passes cs rest) : rest <:+ cs := by
  obtain ⟨passed, _, rfl⟩ := passes
  exact List.suffix_append passed rest

theorem lexed {inside : Bool} {cs rest : List Char} (passes : Passes cs rest) (lexed : Lexed inside cs) :
    Lexed inside rest := by
  obtain ⟨passed, unquoted, rfl⟩ := passes
  exact (lexed_append unquoted).mp lexed

end Passes

section Read

theorem passes_skip (cs : List Char) : Passes cs (skip cs) := by
  induction cs with
  | nil => exact .refl _
  | cons c cs ih =>
    unfold skip
    rw [List.dropWhile_cons]
    split_ifs with blank
    · refine ih.cons ⟨?_, ?_⟩ <;> (rintro rfl; cases blank)
    · exact .refl _

theorem passes_readDigits (radix : Nat) (cs : List Char) : Passes cs (readDigits radix cs).2 := by
  induction cs with
  | nil => exact .refl _
  | cons c cs ih =>
    rw [readDigits]
    cases digit : digitValue? radix c with
    | none => exact .refl _
    | some d => refine ih.cons ⟨?_, ?_⟩ <;> (rintro rfl; cases digit)

theorem passes_readSign (cs : List Char) : Passes cs (readSign cs).2 := by
  unfold readSign
  split
  · exact (Passes.refl _).cons (by decide)
  · exact (Passes.refl _).cons (by decide)
  · exact .refl _

theorem passes_readExponent (cs : List Char) : Passes cs (readExponent cs).2 := by
  unfold readExponent
  split
  · rename_i c cs
    split_ifs with mark
    · have plain : c ≠ '"' ∧ c ≠ '\\' := by rcases mark with rfl | rfl <;> decide
      have sign := passes_readSign cs
      have digits := passes_readDigits 10 (readSign cs).2
      dsimp only
      split
      · exact .refl _
      · rename_i ds rest _ eq
        rw [eq] at digits
        exact (sign.trans digits).cons plain
    · exact .refl _
  · exact .refl _

theorem passes_readDecimal {cs rest : List Char} {q : ℚ} (read : readDecimal cs = some (q, rest)) :
    Passes cs rest := by
  unfold readDecimal at read
  have digits := passes_readDigits 10 cs
  generalize readDigits 10 cs = run at read digits
  obtain ⟨whole, behind⟩ := run
  dsimp only at read digits
  -- the text behind the digits, with a point and more digits or without
  have close {end_ : List Char} (point : Passes behind end_) : Passes cs (readExponent end_).2 :=
    digits.trans (point.trans (passes_readExponent end_))
  split at read
  · rename_i tail
    have more := (passes_readDigits 10 tail).cons (c := '.') (by decide)
    generalize readDigits 10 tail = run at read more
    obtain ⟨ds, behind'⟩ := run
    split at read
    · split_ifs at read
      cases read
      exact close (.refl _)
    · rename_i same
      cases same
      split_ifs at read
      cases read
      exact close more
  · split_ifs at read
    cases read
    exact close (.refl _)

theorem passes_readNumber {cs rest : List Char} {n : JsNumber} (read : readNumber cs = some (n, rest)) :
    Passes cs rest := by
  unfold readNumber at read
  dsimp only at read
  split_ifs at read
  obtain ⟨⟨q, rest'⟩, decimal, same⟩ := Option.map_eq_some_iff.mp read
  cases same
  have unsigned := passes_readDecimal decimal
  split at unsigned
  · exact unsigned.cons (by decide)
  · exact unsigned

/-- **A string of a lexed text** stands in it in its printed form. -/
theorem readString_lexed {fuel : Nat} {cs str rest : List Char} (lexed : Lexed true cs)
    (read : readString fuel cs = some (str, rest)) :
    cs = escape str ++ '"' :: rest ∧ Lexed false rest := by
  induction fuel generalizing cs str rest with
  | zero => cases read
  | succ fuel ih =>
    cases lexed with
    | nil => cases read
    | quote lexed =>
      cases read
      exact ⟨rfl, lexed⟩
    | @letter _ c cs plain lexed =>
      rw [readString] at read
      · split_ifs at read with control
        obtain ⟨⟨str', rest'⟩, run, same⟩ := Option.bind_eq_some_iff.mp read
        cases same
        obtain ⟨shape, outside⟩ := ih lexed run
        refine ⟨?_, outside⟩
        have itself : escapeChar c = [c] := by
          rcases escapeChar_cases c with ⟨itself, _⟩ | ⟨tail, printed⟩
          · exact itself
          · exact absurd printed (escapeChar_ne plain control)
        show c :: cs = escapeChar c ++ escape str' ++ '"' :: rest
        rw [itself, shape]
        rfl
      · exact plain.1
      · exact plain.2
    | @escaped c tail cs printed lexed =>
      rw [← List.cons_append, ← printed, readString_escapeChar] at read
      obtain ⟨⟨str', rest'⟩, run, same⟩ := Option.map_eq_some_iff.mp read
      cases same
      obtain ⟨shape, outside⟩ := ih lexed run
      refine ⟨?_, outside⟩
      show '\\' :: tail ++ cs = escapeChar c ++ escape str' ++ '"' :: rest'
      rw [printed, shape, List.append_assoc]
    | stalled none =>
      rw [readString, readEscape_stalled none] at read
      cases read

end Read

/-! ### Strings of a value -/

mutual

/-- A string or a key of the value contains the text. -/
def Mentions (s : List Char) : Json → Prop
  | .string t => s <:+: t.toList
  | .array elements => MentionsElements s elements
  | .object members => MentionsMembers s members
  | _ => False

def MentionsElements (s : List Char) : List Json → Prop
  | [] => False
  | json :: rest => Mentions s json ∨ MentionsElements s rest

def MentionsMembers (s : List Char) : List (String × Json) → Prop
  | [] => False
  | (key, json) :: rest => s <:+: key.toList ∨ Mentions s json ∨ MentionsMembers s rest

end

section Mention

variable {s : List Char}

theorem escape_append (a b : List Char) : escape (a ++ b) = escape a ++ escape b :=
  List.flatMap_append

theorem infix_escape {a b : List Char} (inside : a <:+: b) : escape a <:+: escape b := by
  obtain ⟨x, y, rfl⟩ := inside
  rw [escape_append, escape_append]
  exact List.infix_append _ _ _

/-- What a reader returns: the strings of the value stand in the text that was read, escaped, and the rest
of the text is lexed. -/
structure Reads (s cs rest : List Char) (mentions : Prop) : Prop where
  suffix : rest <:+ cs
  lexed : Lexed false rest
  escaped : mentions → escape s <:+: cs

theorem Reads.behind {cs cs' rest : List Char} {mentions : Prop} (passes : Passes cs cs')
    (reads : Reads s cs' rest mentions) : Reads s cs rest mentions :=
  ⟨reads.suffix.trans passes.suffix, reads.lexed, fun inside =>
    (reads.escaped inside).trans passes.suffix.isInfix⟩

/-- Two values, one after the other. -/
theorem Reads.andThen {cs cs' rest : List Char} {p q : Prop} (one : Reads s cs cs' p)
    (two : Reads s cs' rest q) : Reads s cs rest (p ∨ q) :=
  ⟨two.suffix.trans one.suffix, two.lexed, fun inside =>
    inside.elim one.escaped fun later => (two.escaped later).trans one.suffix.isInfix⟩

theorem Reads.upTo {cs cs' rest : List Char} {p : Prop} (one : Reads s cs cs' p) (passes : Passes cs' rest) :
    Reads s cs rest p :=
  ⟨passes.suffix.trans one.suffix, passes.lexed one.lexed, one.escaped⟩

/-- A string behind its opening quote. -/
theorem reads_string {fuel : Nat} {cs str rest : List Char} (lexed : Lexed false ('"' :: cs))
    (read : readString fuel cs = some (str, rest)) : Reads s ('"' :: cs) rest (s <:+: str) := by
  have inside : Lexed true cs := by
    cases lexed with
    | quote rest => exact rest
    | letter plain _ => exact absurd rfl plain.1
  obtain ⟨rfl, outside⟩ := readString_lexed inside read
  refine ⟨?_, outside, fun found => ?_⟩
  · exact ⟨'"' :: (escape str ++ ['"']), by simp⟩
  · exact (infix_escape found).trans ⟨['"'], '"' :: rest, by simp⟩

/-- A value without strings. -/
theorem Reads.nothing {cs rest : List Char} {p : Prop} (passes : Passes cs rest) (lexed : Lexed false cs)
    (silent : ¬ p) : Reads s cs rest p :=
  ⟨passes.suffix, passes.lexed lexed, fun inside => absurd inside silent⟩

mutual

/-- **The strings of a value** that is read from a lexed text stand in it, escaped. -/
theorem reads_value : ∀ (fuel : Nat) {cs rest : List Char} {json : Json}, Lexed false cs →
    readValue fuel cs = some (json, rest) → Reads s cs rest (Mentions s json)
  | 0, _, _, _, _, read => by cases read
  | fuel + 1, cs, rest, json, lexed, read => by
    have blank := passes_skip cs
    have lexed := blank.lexed lexed
    refine .behind blank ?_
    unfold readValue at read
    generalize skip cs = text at read lexed
    split at read
    · cases read
      exact .nothing ⟨['n', 'u', 'l', 'l'], by decide, rfl⟩ lexed id
    · cases read
      exact .nothing ⟨['t', 'r', 'u', 'e'], by decide, rfl⟩ lexed id
    · cases read
      exact .nothing ⟨['f', 'a', 'l', 's', 'e'], by decide, rfl⟩ lexed id
    · obtain ⟨⟨str, behind⟩, run, same⟩ := Option.map_eq_some_iff.mp read
      cases same
      have reads := @reads_string s _ _ _ _ lexed run
      unfold Mentions
      rwa [String.toList_ofList]
    · rename_i inner
      have bracket : Passes ('[' :: inner) inner := (Passes.refl inner).cons (by decide)
      split at read
      · rename_i behind close
        cases read
        refine .nothing (bracket.trans ((passes_skip inner).trans ?_)) lexed id
        rw [close]
        exact (Passes.refl rest).cons (by decide)
      · obtain ⟨⟨elements, behind⟩, run, same⟩ := Option.map_eq_some_iff.mp read
        cases same
        exact .behind bracket (reads_elements fuel (bracket.lexed lexed) run)
    · rename_i inner
      have brace : Passes ('{' :: inner) inner := (Passes.refl inner).cons (by decide)
      split at read
      · rename_i behind close
        cases read
        refine .nothing (brace.trans ((passes_skip inner).trans ?_)) lexed id
        rw [close]
        exact (Passes.refl rest).cons (by decide)
      · obtain ⟨⟨members, behind⟩, run, same⟩ := Option.map_eq_some_iff.mp read
        cases same
        exact .behind brace (reads_members fuel (brace.lexed lexed) run)
    · obtain ⟨⟨n, behind⟩, run, same⟩ := Option.map_eq_some_iff.mp read
      cases same
      exact .nothing (passes_readNumber run) lexed id

theorem reads_elements : ∀ (fuel : Nat) {cs rest : List Char} {elements : List Json}, Lexed false cs →
    readElements fuel cs = some (elements, rest) → Reads s cs rest (MentionsElements s elements)
  | 0, _, _, _, _, read => by cases read
  | fuel + 1, cs, rest, elements, lexed, read => by
    unfold readElements at read
    obtain ⟨⟨json, behind⟩, run, read⟩ := Option.bind_eq_some_iff.mp read
    have first := reads_value fuel lexed run
    have blank := passes_skip behind
    dsimp only at read
    split at read
    · rename_i inner next
      obtain ⟨⟨others, behind'⟩, more, same⟩ := Option.bind_eq_some_iff.mp read
      cases same
      rw [next] at blank
      have comma : Passes behind inner := blank.trans ((Passes.refl inner).cons (by decide))
      exact (first.upTo comma).andThen (reads_elements fuel (comma.lexed first.lexed) more)
    · rename_i inner close
      cases read
      rw [close] at blank
      have last := first.upTo (blank.trans ((Passes.refl rest).cons (by decide)))
      exact ⟨last.suffix, last.lexed, fun inside => last.escaped (inside.resolve_right id)⟩
    · cases read

theorem reads_members : ∀ (fuel : Nat) {cs rest : List Char} {members : List (String × Json)},
    Lexed false cs → readMembers fuel cs = some (members, rest) →
    Reads s cs rest (MentionsMembers s members)
  | 0, _, _, _, _, read => by cases read
  | fuel + 1, cs, rest, members, lexed, read => by
    have blank := passes_skip cs
    have lexed := blank.lexed lexed
    refine .behind blank ?_
    unfold readMembers at read
    generalize skip cs = text at read lexed
    split at read
    · rename_i inner
      obtain ⟨⟨key, behind⟩, name, read⟩ := Option.bind_eq_some_iff.mp read
      have named := @reads_string s _ _ _ _ lexed name
      have blank := passes_skip behind
      dsimp only at read
      split at read
      · rename_i inner' colon
        rw [colon] at blank
        have colon : Passes behind inner' := blank.trans ((Passes.refl inner').cons (by decide))
        obtain ⟨⟨json, behind'⟩, run, read⟩ := Option.bind_eq_some_iff.mp read
        have value := reads_value fuel (colon.lexed named.lexed) run
        have member := (named.upTo colon).andThen value
        have blank := passes_skip behind'
        dsimp only at read
        split at read
        · rename_i inner'' next
          obtain ⟨⟨others, behind''⟩, more, same⟩ := Option.bind_eq_some_iff.mp read
          cases same
          rw [next] at blank
          have comma : Passes behind' inner'' := blank.trans ((Passes.refl inner'').cons (by decide))
          have all := (member.upTo comma).andThen (reads_members fuel (comma.lexed value.lexed) more)
          refine ⟨all.suffix, all.lexed, fun inside => all.escaped ?_⟩
          unfold MentionsMembers at inside
          rw [String.toList_ofList] at inside
          rwa [or_assoc]
        · rename_i inner'' close
          cases read
          rw [close] at blank
          have last := member.upTo (blank.trans ((Passes.refl rest).cons (by decide)))
          refine ⟨last.suffix, last.lexed, fun inside => last.escaped ?_⟩
          unfold MentionsMembers at inside
          rw [String.toList_ofList] at inside
          exact inside.imp id fun later => later.resolve_right id
        · cases read
      · cases read
    · cases read

end

/-- **What a string read from a lexed text contains** stands in the text, escaped. -/
theorem mentions_of_parse {text : String} {json : Json} (lexed : Lexed false text.toList)
    (parsed : parse text = some json) (inside : Mentions s json) : escape s <:+: text.toList := by
  unfold parse at parsed
  split at parsed
  · rename_i json' rest read
    split_ifs at parsed
    cases parsed
    exact (reads_value _ lexed read).escaped inside
  · cases parsed

end Mention

end Json

end Js
