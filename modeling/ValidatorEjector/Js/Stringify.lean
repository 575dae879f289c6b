/-
**`JSON.stringify`, and that it is read back.**

* `escapeChar`, `quote` — a string as JSON prints it.
* `print`, `stringify` — a value without white space; the text of a number is a parameter.
* `readString_quote` — a printed string is read back, whatever its characters.
* `legible_int` — so is the decimal text of an integer up to `2 ^ 53`.
* `Legible`, `parse_legible` — so is a value whose numbers are.
* `Textual`, `parse_stringify` — so is a value without numbers, whatever their texts would be.
-/

import ValidatorEjector.Js.Json

namespace Js

namespace Json

/-! ### Printing -/

/-- A hexadecimal digit, in lower case. -/
def hexDigit (d : Nat) : Char :=
  if d < 10 then Char.ofNat ('0'.toNat + d) else Char.ofNat ('a'.toNat + (d - 10))

/-- A character inside of a JSON string. -/
def escapeChar (c : Char) : List Char :=
  if c = '"' then ['\\', '"']
  else if c = '\\' then ['\\', '\\']
  else if c = '\x08' then ['\\', 'b']
  else if c = '\x0c' then ['\\', 'f']
  else if c = '\n' then ['\\', 'n']
  else if c = '\r' then ['\\', 'r']
  else if c = '\t' then ['\\', 't']
  else if c.toNat < 0x20 then
    ['\\', 'u', '0', '0', hexDigit (c.toNat / 16), hexDigit (c.toNat % 16)]
  else [c]

/-- Characters inside of a JSON string. -/
def escape (cs : List Char) : List Char := cs.flatMap escapeChar

/-- A string with its quotes. -/
def quote (s : String) : List Char := '"' :: escape s.toList ++ ['"']

mutual

/-- A value, with a text for each finite number. -/
def print (numeral : JsNumber → String) : Json → List Char
  | .null => ['n', 'u', 'l', 'l']
  | .bool true => ['t', 'r', 'u', 'e']
  | .bool false => ['f', 'a', 'l', 's', 'e']
  | .number .nan => ['n', 'u', 'l', 'l']
  | .number (.infinity _) => ['n', 'u', 'l', 'l']
  | .number n => (numeral n).toList
  | .string s => quote s
  | .array [] => ['[', ']']
  | .array (json :: elements) => '[' :: print numeral json ++ printElements numeral elements ++ [']']
  | .object [] => ['{', '}']
  | .object ((key, json) :: members) =>
    '{' :: quote key ++ ':' :: print numeral json ++ printMembers numeral members ++ ['}']

/-- The elements of an array after the first. -/
def printElements (numeral : JsNumber → String) : List Json → List Char
  | [] => []
  | json :: rest => ',' :: print numeral json ++ printElements numeral rest

/-- The members of an object after the first. -/
def printMembers (numeral : JsNumber → String) : List (String × Json) → List Char
  | [] => []
  | (key, json) :: rest => ',' :: quote key ++ ':' :: print numeral json ++ printMembers numeral rest

end

/-- `JSON.stringify(json)`. -/
def stringify (numeral : JsNumber → String) (json : Json) : String := String.ofList (print numeral json)

/-! ### Strings are read back -/

section Strings

theorem digitValue?_hexDigit : ∀ d < 16, digitValue? 16 (hexDigit d) = some d := by decide

theorem readUnit_control : ∀ n < 32, ∀ rest, readUnit ('0' :: '0' :: hexDigit (n / 16) ::
    hexDigit (n % 16) :: rest) = some (n, rest) := by
  intro n small rest
  have high : n / 16 < 16 := by omega
  unfold readUnit
  have zero : digitValue? 16 '0' = some 0 := by decide
  simp only [List.mapM_cons, List.mapM_nil, zero, digitValue?_hexDigit _ high,
    digitValue?_hexDigit _ (Nat.mod_lt n (by decide)), Option.bind_eq_bind, Option.bind_some, Option.pure_def]
  have value : digitsValue 16 [0, 0, n / 16, n % 16] = n := by
    simp [digitsValue]
    omega
  rw [value]

/-- The escape of a control character is read back. -/
theorem readEscape_control {n : Nat} (small : n < 32) (rest : List Char) :
    readEscape ('u' :: '0' :: '0' :: hexDigit (n / 16) :: hexDigit (n % 16) :: rest) =
      some (Char.ofNat n, rest) := by
  have unit : unitChar n = Char.ofNat n := if_neg (by omega)
  have low : ¬ (0xD800 ≤ n) := by omega
  unfold readEscape
  simp only [readUnit_control n small, Option.bind_eq_bind, Option.bind_some, unit, low, false_and,
    if_false]
  split
  · split
    · rfl
    · rfl
  · rfl

/-- **One printed character** is read back. -/
theorem readString_escapeChar (c : Char) (fuel : Nat) (rest : List Char) :
    readString (fuel + 1) (escapeChar c ++ rest) =
      (readString fuel rest).map fun read => (c :: read.1, read.2) := by
  have escaped {d : Char} {cs : List Char} (read : readEscape (cs ++ rest) = some (d, rest)) :
      readString (fuel + 1) ('\\' :: cs ++ rest) =
        (readString fuel rest).map fun read => (d :: read.1, read.2) := by
    rw [List.cons_append, readString, read]
    cases more : readString fuel rest with
    | none => simp [more]
    | some read => simp [more]
  unfold escapeChar
  by_cases quotation : c = '"'
  · rw [if_pos quotation, quotation]
    exact escaped rfl
  by_cases backslash : c = '\\'
  · rw [if_neg quotation, if_pos backslash, backslash]
    exact escaped rfl
  by_cases b : c = '\x08'
  · rw [if_neg quotation, if_neg backslash, if_pos b, b]
    exact escaped rfl
  by_cases f : c = '\x0c'
  · rw [if_neg quotation, if_neg backslash, if_neg b, if_pos f, f]
    exact escaped rfl
  by_cases n : c = '\n'
  · rw [if_neg quotation, if_neg backslash, if_neg b, if_neg f, if_pos n, n]
    exact escaped rfl
  by_cases r : c = '\r'
  · rw [if_neg quotation, if_neg backslash, if_neg b, if_neg f, if_neg n, if_pos r, r]
    exact escaped rfl
  by_cases t : c = '\t'
  · rw [if_neg quotation, if_neg backslash, if_neg b, if_neg f, if_neg n, if_neg r, if_pos t, t]
    exact escaped rfl
  rw [if_neg quotation, if_neg backslash, if_neg b, if_neg f, if_neg n, if_neg r, if_neg t]
  by_cases control : c.toNat < 0x20
  · rw [if_pos control]
    have read := readEscape_control control rest
    rw [Char.ofNat_toNat] at read
    exact escaped read
  · rw [if_neg control]
    show readString (fuel + 1) (c :: rest) = _
    rw [readString, if_neg control]
    · cases readString fuel rest with
      | none => rfl
      | some read => rfl
    · exact quotation
    · exact backslash

/-- **A printed string is read back.** -/
theorem readString_quote : ∀ (cs : List Char) (fuel : Nat) (rest : List Char), cs.length < fuel →
    readString fuel (escape cs ++ '"' :: rest) = some (cs, rest)
  | [], fuel + 1, rest, _ => rfl
  | c :: cs, fuel + 1, rest, enough => by
    have tail := readString_quote cs fuel rest (Nat.lt_of_succ_lt_succ enough)
    show readString (fuel + 1) ((escapeChar c ++ escape cs) ++ '"' :: rest) = _
    rw [List.append_assoc, readString_escapeChar, tail]
    rfl

end Strings

/-! ### Numbers are read back -/

/-- What may stand after a number: nothing, or what ends an element or a member. -/
def Ends (rest : List Char) : Prop := ∀ c ∈ rest.head?, c ∈ [',', ']', '}']

/-- The characters that a number starts with. -/
def heads : List Char := ['-', '0', '1', '2', '3', '4', '5', '6', '7', '8', '9']

/-- The printed number is read back. -/
structure LegibleNumber (numeral : JsNumber → String) (n : JsNumber) : Prop where
  head : ∃ c ∈ heads, ∃ cs, print numeral (.number n) = c :: cs
  read : ∀ rest, Ends rest → readNumber (print numeral (.number n) ++ rest) = some (n, rest)

section Numbers

theorem ends_cons {c : Char} (inside : c ∈ [',', ']', '}']) (rest : List Char) : Ends (c :: rest) := by
  intro head same
  rw [← Option.some.inj same]
  exact inside

/-- A number stops where an element ends. -/
theorem stops {rest : List Char} (ends : Ends rest) : readDigits 10 rest = ([], rest) ∧
    readExponent rest = (0, rest) ∧ ∀ others, rest ≠ '.' :: others := by
  cases rest with
  | nil => exact ⟨rfl, rfl, fun _ same => by cases same⟩
  | cons c rest =>
    have known : ∀ c ∈ [',', ']', '}'], digitValue? 10 c = none ∧ c ≠ 'e' ∧ c ≠ 'E' ∧ c ≠ '.' :=
      List.forall_iff_forall_mem.mp (by decide)
    obtain ⟨digit, small, capital, point⟩ := known c (ends c rfl)
    refine ⟨?_, ?_, fun others same => point (List.cons.inj same).1⟩
    · rw [readDigits, digit]
    · unfold readExponent
      simp [small, capital]

/-- **The digits of a number are read as a number**, up to where the element ends. -/
theorem readNumber_toDigits (negative : Bool) (n : Nat) {rest : List Char} (ends : Ends rest) :
    readNumber ((if negative then ['-'] else []) ++ Nat.toDigits 10 n ++ rest) =
      some (ofRat (signed negative n), rest) := by
  obtain ⟨d, ds, digits, bounds, value, first⟩ := toDigits_digits (by decide : 1 < 10) n
  obtain ⟨stop, plain, point⟩ := stops ends
  have whole : readDigits 10 (Nat.toDigits 10 n ++ rest) = (d :: ds, rest) := by
    rw [digits, readDigits_append bounds (by decide), stop, List.append_nil]
  have decimal : readDecimal (Nat.toDigits 10 n ++ rest) = some ((n : ℚ), rest) := by
    unfold readDecimal
    rw [whole]
    dsimp only
    split
    · rename_i others
      exact absurd rfl (point others)
    · simp [plain, value]
  -- the sign is taken off first, and a digit is no sign
  have unsigned : ∀ others, Nat.toDigits 10 n ++ rest ≠ '-' :: others := by
    intro others same
    have inside : '-' ∈ Nat.toDigits 10 n := by
      rw [digits, List.map_cons, List.cons_append, List.cons.injEq] at same
      rw [digits, List.map_cons, same.1]
      exact List.mem_cons_self
    exact not_mem_toDigits rfl inside
  unfold readNumber
  split
  rename_i sign text same
  have parted : sign = negative ∧ text = Nat.toDigits 10 n ++ rest := by
    cases negative with
    | true =>
      cases same
      exact ⟨rfl, rfl⟩
    | false =>
      split at same
      · rename_i others start
        exact absurd start (unsigned others)
      · cases same
        exact ⟨rfl, rfl⟩
  obtain ⟨rfl, rfl⟩ := parted
  rw [decimal, if_pos]
  · rfl
  rw [whole]
  split
  · rename_i same
    cases same
  · rename_i e es others same
    cases same
    rw [first rfl] at digits
    cases digits
  · rename_i others _ _ same
    exact absurd (Prod.mk.inj same).2 (point others)
  · rfl

/-- The decimal text of an integer up to `2 ^ 53` is read back. -/
theorem legible_int {z : Int} (small : z.natAbs ≤ 2 ^ 53) : LegibleNumber JsNumber.toText (.int z) := by
  have text : print JsNumber.toText (.number (.int z)) =
      (if decide (z < 0) = true then ['-'] else []) ++ Nat.toDigits 10 z.natAbs := by
    show (JsNumber.toText (.int z)).toList = _
    rw [toList_toText_int, naturalText, if_pos small]
    simp
  have exact : signed (decide (z < 0)) z.natAbs = z := by
    unfold signed
    rw [Nat.cast_natAbs]
    by_cases negative : z < 0
    · rw [if_pos (decide_eq_true negative), abs_of_neg negative]
      simp
    · rw [if_neg (by simpa using negative), abs_of_nonneg (not_lt.mp negative)]
  constructor
  · rw [text]
    obtain ⟨d, ds, digits, bounds, _, _⟩ := toDigits_digits (by decide : 1 < 10) z.natAbs
    have digit : ∀ d < 10, d.digitChar ∈ heads := by decide
    by_cases negative : z < 0
    · exact ⟨'-', by decide, Nat.toDigits 10 z.natAbs, by simp [negative]⟩
    · exact ⟨d.digitChar, digit d (bounds d List.mem_cons_self), ds.map Nat.digitChar,
        by simp [negative, digits]⟩
  · intro rest ends
    rw [text, readNumber_toDigits _ _ ends, exact, ofRat_intCast small]

end Numbers

/-! ### Values are read back -/

mutual

/-- The numbers in the value are read back. -/
def Legible (numeral : JsNumber → String) : Json → Prop
  | .number n => LegibleNumber numeral n
  | .array elements => LegibleElements numeral elements
  | .object members => LegibleMembers numeral members
  | _ => True

def LegibleElements (numeral : JsNumber → String) : List Json → Prop
  | [] => True
  | json :: rest => Legible numeral json ∧ LegibleElements numeral rest

def LegibleMembers (numeral : JsNumber → String) : List (String × Json) → Prop
  | [] => True
  | (_, json) :: rest => Legible numeral json ∧ LegibleMembers numeral rest

end

mutual

/-- There is no number in the value. -/
def Textual : Json → Prop
  | .number _ => False
  | .array elements => TextualElements elements
  | .object members => TextualMembers members
  | _ => True

def TextualElements : List Json → Prop
  | [] => True
  | json :: rest => Textual json ∧ TextualElements rest

def TextualMembers : List (String × Json) → Prop
  | [] => True
  | (_, json) :: rest => Textual json ∧ TextualMembers rest

end

section Values

variable {numeral : JsNumber → String}

mutual

theorem Textual.legible : ∀ {json : Json}, Textual json → Legible numeral json
  | .null, _ => trivial
  | .bool _, _ => trivial
  | .string _, _ => trivial
  | .array _, textual => TextualElements.legible textual
  | .object _, textual => TextualMembers.legible textual

theorem TextualElements.legible : ∀ {elements : List Json}, TextualElements elements →
    LegibleElements numeral elements
  | [], _ => trivial
  | _ :: _, textual => ⟨textual.1.legible, TextualElements.legible textual.2⟩

theorem TextualMembers.legible : ∀ {members : List (String × Json)}, TextualMembers members →
    LegibleMembers numeral members
  | [], _ => trivial
  | (_, _) :: _, textual => ⟨textual.1.legible, TextualMembers.legible textual.2⟩

end

/-- What follows from the first character of a number. -/
theorem of_heads : ∀ c ∈ heads, isBlank c = false ∧ c ≠ ']' ∧ c ≠ '}' ∧ c ≠ 'n' ∧ c ≠ 't' ∧ c ≠ 'f' ∧
    c ≠ '"' ∧ c ≠ '[' ∧ c ≠ '{' :=
  List.forall_iff_forall_mem.mp (by decide)

/-- A printed value starts with a character that is no white space and closes nothing. -/
theorem print_head {json : Json} (legible : Legible numeral json) : ∃ c cs, print numeral json = c :: cs ∧
    isBlank c = false ∧ c ≠ ']' ∧ c ≠ '}' := by
  cases json with
  | null => exact ⟨_, _, rfl, by decide, by decide, by decide⟩
  | bool value => cases value <;> exact ⟨_, _, rfl, by decide, by decide, by decide⟩
  | number n =>
    obtain ⟨c, inside, cs, printed⟩ := LegibleNumber.head legible
    obtain ⟨text, bracket, brace, _⟩ := of_heads c inside
    exact ⟨c, cs, printed, text, bracket, brace⟩
  | string s => exact ⟨_, _, rfl, by decide, by decide, by decide⟩
  | array elements => cases elements <;> exact ⟨_, _, rfl, by decide, by decide, by decide⟩
  | object members =>
    cases members with
    | nil => exact ⟨_, _, rfl, by decide, by decide, by decide⟩
    | cons member members => exact ⟨_, _, rfl, by decide, by decide, by decide⟩

theorem skip_cons {c : Char} (cs : List Char) (text : isBlank c = false) : skip (c :: cs) = c :: cs := by
  unfold skip
  rw [List.dropWhile_cons_of_neg (by rw [text]; exact Bool.false_ne_true)]

theorem length_escape (cs : List Char) : cs.length ≤ (escape cs).length := by
  induction cs with
  | nil => exact Nat.le_refl _
  | cons c cs ih =>
    have one : 1 ≤ (escapeChar c).length := by
      unfold escapeChar
      split_ifs <;> simp
    show cs.length + 1 ≤ (escapeChar c ++ escape cs).length
    rw [List.length_append]
    omega

theorem length_quote (s : String) : (quote s).length = (escape s.toList).length + 2 := by
  simp [quote]

/-- A member starts with its key. -/
theorem readMembers_quote {key : String} {fuel : Nat} {rest : List Char}
    (name : readString fuel (escape key.toList ++ '"' :: ':' :: rest) = some (key.toList, ':' :: rest)) :
    readMembers (fuel + 1) (quote key ++ ':' :: rest) = (do
      let (value, rest) ← readValue fuel rest
      match skip rest with
      | ',' :: rest => do
        let (members, rest) ← readMembers fuel rest
        some ((String.ofList key.toList, value) :: members, rest)
      | '}' :: rest => some ([(String.ofList key.toList, value)], rest)
      | _ => none) := by
  have shape : quote key ++ ':' :: rest = '"' :: (escape key.toList ++ '"' :: ':' :: rest) := by
    simp [quote]
  rw [shape, readMembers, skip_cons _ (by decide)]
  simp only [name]
  rfl

/-- What starts like a number is read as one. -/
theorem readValue_number {c : Char} (inside : c ∈ heads) (fuel : Nat) (cs : List Char) :
    readValue (fuel + 1) (c :: cs) = (readNumber (c :: cs)).map fun (n, rest) => (.number n, rest) := by
  obtain ⟨text, _, _, n, t, f, quotation, bracket, brace⟩ := of_heads c inside
  rw [readValue, skip_cons _ text]
  split <;> simp_all

mutual

/-- **A printed value is read back**, with whatever may follow it. -/
theorem readValue_print : ∀ (json : Json) (fuel : Nat) (rest : List Char), Legible numeral json →
    Ends rest → 2 * (print numeral json).length ≤ fuel →
    readValue fuel (print numeral json ++ rest) = some (json, rest)
  | .null, fuel + 1, rest, _, _, _ => rfl
  | .bool true, fuel + 1, rest, _, _, _ => rfl
  | .bool false, fuel + 1, rest, _, _, _ => rfl
  | .number n, fuel, rest, legible, ends, enough => by
    obtain ⟨c, inside, cs, printed⟩ := LegibleNumber.head legible
    have read := LegibleNumber.read legible rest ends
    rw [printed] at enough read ⊢
    rw [List.length_cons] at enough
    obtain ⟨fuel, rfl⟩ := Nat.exists_eq_add_one_of_ne_zero (show fuel ≠ 0 by omega)
    rw [List.cons_append] at read ⊢
    rw [readValue_number inside, read]
    rfl
  | .string s, fuel + 1, rest, _, _, enough => by
    have longer := length_escape s.toList
    have len := length_quote s
    unfold print at enough
    have read := readString_quote s.toList fuel rest (by omega)
    show readValue (fuel + 1) ('"' :: escape s.toList ++ ['"'] ++ rest) = _
    rw [List.append_assoc, List.cons_append]
    show (readString fuel (escape s.toList ++ '"' :: rest)).map _ = _
    rw [read]
    simp
  | .array [], fuel + 1, rest, _, _, _ => rfl
  | .array (json :: elements), fuel + 1, rest, legible, _, enough => by
    unfold print at enough ⊢
    simp only [List.length_append, List.length_cons, List.length_nil] at enough
    have read := readElements_print json elements fuel rest legible.1 legible.2 (by omega)
    obtain ⟨c, cs, head, text, open_end, _⟩ := print_head legible.1
    rw [List.append_assoc, List.append_assoc, List.cons_append, List.singleton_append]
    rw [head, List.cons_append] at read ⊢
    show (match skip (c :: (cs ++ (printElements numeral elements ++ ']' :: rest))) with
      | ']' :: rest => some (Json.array [], rest)
      | _ => (readElements fuel (c :: (cs ++ (printElements numeral elements ++ ']' :: rest)))).map
        fun (elements, rest) => (Json.array elements, rest)) = _
    rw [skip_cons _ text, read]
    split
    · rename_i same
      exact absurd (List.cons.inj same).1 open_end
    · rfl
  | .object [], fuel + 1, rest, _, _, _ => rfl
  | .object ((key, json) :: members), fuel + 1, rest, legible, _, enough => by
    unfold print at enough ⊢
    simp only [List.length_append, List.length_cons, List.length_nil] at enough
    have read := readMembers_print key json members fuel rest legible.1 legible.2 (by omega)
    have shape : '{' :: quote key ++ ':' :: print numeral json ++ printMembers numeral members ++ ['}'] ++
        rest = '{' :: (quote key ++ (':' :: (print numeral json ++
          (printMembers numeral members ++ '}' :: rest)))) := by simp
    rw [shape]
    unfold quote at read ⊢
    show (readMembers fuel _).map (fun (members, rest) => (Json.object members, rest)) = _
    rw [read]
    rfl

theorem readElements_print : ∀ (json : Json) (elements : List Json) (fuel : Nat) (rest : List Char),
    Legible numeral json → LegibleElements numeral elements →
    2 * ((print numeral json).length + (printElements numeral elements).length) + 1 ≤ fuel →
    readElements fuel (print numeral json ++ (printElements numeral elements ++ ']' :: rest))
      = some (json :: elements, rest)
  | json, [], fuel + 1, rest, legible, _, enough => by
    have read := readValue_print json fuel (']' :: rest) legible (ends_cons (by decide) _) (by omega)
    unfold printElements
    rw [List.nil_append, readElements, read]
    rfl
  | json, next :: elements, fuel + 1, rest, legible, others, enough => by
    unfold printElements at enough ⊢
    simp only [List.length_append, List.length_cons] at enough
    have read := readValue_print json fuel
      (',' :: (print numeral next ++ (printElements numeral elements ++ ']' :: rest))) legible
      (ends_cons (by decide) _) (by omega)
    have more := readElements_print next elements fuel rest others.1 others.2 (by omega)
    rw [List.cons_append, List.cons_append, List.append_assoc, readElements, read]
    show (do
      let (elements, rest) ← readElements fuel
        (print numeral next ++ (printElements numeral elements ++ ']' :: rest))
      some (json :: elements, rest)) = _
    rw [more]
    rfl

theorem readMembers_print : ∀ (key : String) (json : Json) (members : List (String × Json)) (fuel : Nat)
    (rest : List Char), Legible numeral json → LegibleMembers numeral members →
    2 * ((quote key).length + 1 + (print numeral json).length + (printMembers numeral members).length)
      + 1 ≤ fuel →
    readMembers fuel (quote key ++ (':' :: (print numeral json ++
      (printMembers numeral members ++ '}' :: rest)))) = some ((key, json) :: members, rest)
  | key, json, [], fuel + 1, rest, legible, _, enough => by
    have longer := length_escape key.toList
    have len := length_quote key
    have value := readValue_print json fuel ('}' :: rest) legible (ends_cons (by decide) _) (by omega)
    have name := readString_quote key.toList fuel (':' :: (print numeral json ++ '}' :: rest)) (by omega)
    unfold printMembers
    rw [List.nil_append, readMembers_quote name, value, String.ofList_toList]
    rfl
  | key, json, (next, value) :: members, fuel + 1, rest, legible, others, enough => by
    have longer := length_escape key.toList
    have len := length_quote key
    unfold printMembers at enough ⊢
    simp only [List.length_append, List.length_cons] at enough
    have first := readValue_print json fuel (',' :: (quote next ++ (':' :: (print numeral value ++
      (printMembers numeral members ++ '}' :: rest))))) legible (ends_cons (by decide) _) (by omega)
    have name := readString_quote key.toList fuel (':' :: (print numeral json ++ (',' :: (quote next ++
      (':' :: (print numeral value ++ (printMembers numeral members ++ '}' :: rest))))))) (by omega)
    have more := readMembers_print next value members fuel rest others.1 others.2 (by omega)
    have shape : ',' :: quote next ++ ':' :: print numeral value ++ printMembers numeral members ++
        '}' :: rest = ',' :: (quote next ++ (':' :: (print numeral value ++
          (printMembers numeral members ++ '}' :: rest)))) := by simp
    rw [shape, readMembers_quote name, first]
    show (do
      let (members, rest) ← readMembers fuel (quote next ++ (':' :: (print numeral value ++
        (printMembers numeral members ++ '}' :: rest))))
      some ((String.ofList key.toList, json) :: members, rest)) = _
    rw [more, String.ofList_toList]
    rfl

end

/-- **A value is read back from its text** if its numbers are. -/
theorem parse_legible {json : Json} (legible : Legible numeral json) :
    parse (stringify numeral json) = some json := by
  unfold parse stringify
  rw [String.toList_ofList]
  have read := readValue_print json (2 * (print numeral json).length + 2) [] legible
    (fun _ none => by cases none) (by omega)
  rw [List.append_nil] at read
  rw [read]
  rfl

/-- **A value without numbers is read back from its text.** -/
theorem parse_stringify {json : Json} (textual : Textual json) :
    parse (stringify numeral json) = some json := parse_legible textual.legible

end Values

end Json

end Js
