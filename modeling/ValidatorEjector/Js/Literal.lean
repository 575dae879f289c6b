/-
**`Number` against `parseFloat`.**

Both skip white space and read a decimal literal, so they agree where the whole text is one. `Number` also reads
blank texts and the literals of three radices, of which `parseFloat` sees nothing, or a zero.

* `radixOf?` — the radix a literal starts with, and its digits.
* `readDecimal_blank` — white space behind a decimal literal is left behind.
* `parseFloat_blank`, `Number_radix`, `parseFloat_decimal` — what both read, case by case.
* `Plain` — the texts that both read alike.
* `parseFloat_eq_iff` — when it reads the integer that `Number` reads.
-/

import ValidatorEjector.Js.Number

namespace Js

/-- The radix of a literal with a prefix, and what stands behind the prefix. -/
def radixOf? : List Char → Option (Nat × List Char)
  | '0' :: 'x' :: cs => some (16, cs)
  | '0' :: 'X' :: cs => some (16, cs)
  | '0' :: 'o' :: cs => some (8, cs)
  | '0' :: 'O' :: cs => some (8, cs)
  | '0' :: 'b' :: cs => some (2, cs)
  | '0' :: 'B' :: cs => some (2, cs)
  | _ => none

/-- The digits behind a decimal point, if there is a point that is part of the literal. -/
def readFraction (whole : List Nat) : List Char → List Nat × List Char
  | '.' :: cs =>
    match whole, readDigits 10 cs with
    | [], ([], _) => ([], '.' :: cs)
    | _, (ds, rest) => (ds, rest)
  | cs => ([], cs)

/-- White space only. -/
def Blank (cs : List Char) : Prop := ∀ c ∈ cs, isWhiteSpace c = true

/-! ### What is behind a literal -/

section Behind

variable {blank : List Char}

theorem readDigits_blank (white : Blank blank) (radix : Nat) (cs : List Char) :
    readDigits radix (cs ++ blank) = ((readDigits radix cs).1, (readDigits radix cs).2 ++ blank) := by
  induction cs with
  | nil =>
    cases blank with
    | nil => rfl
    | cons c blank =>
      cases digit : digitValue? radix c with
      | none =>
        show readDigits radix (c :: blank) = ([], c :: blank)
        simp only [readDigits, digit]
      | some d =>
        have solid := solid_of_digit digit
        rw [white c List.mem_cons_self] at solid
        cases solid
  | cons c cs ih =>
    rw [List.cons_append, readDigits, readDigits]
    cases digitValue? radix c with
    | none => rfl
    | some d =>
      dsimp only
      rw [ih]

theorem readSign_append {cs : List Char} (filled : cs ≠ []) (rest : List Char) :
    readSign (cs ++ rest) = ((readSign cs).1, (readSign cs).2 ++ rest) := by
  obtain ⟨c, cs, rfl⟩ := List.exists_cons_of_ne_nil filled
  rw [List.cons_append]
  by_cases minus : c = '-'
  · rw [minus]
    rfl
  by_cases plus : c = '+'
  · rw [plus]
    rfl
  have unsigned (cs : List Char) : readSign (c :: cs) = (false, c :: cs) := by
    unfold readSign
    split
    · rename_i same
      exact absurd (List.cons.inj same).1 minus
    · rename_i same
      exact absurd (List.cons.inj same).1 plus
    · rfl
  rw [unsigned, unsigned]
  rfl

/-- Without its mark there is no exponent. -/
theorem readExponent_unmarked {c : Char} (other : ¬ (c = 'e' ∨ c = 'E')) (cs : List Char) :
    readExponent (c :: cs) = (0, c :: cs) := if_neg other

theorem readExponent_white (white : Blank blank) : readExponent blank = (0, blank) := by
  cases blank with
  | nil => rfl
  | cons c blank =>
    have space := white c List.mem_cons_self
    refine readExponent_unmarked ?_ blank
    rintro (rfl | rfl)
    · exact absurd space (by decide)
    · exact absurd space (by decide)

/-- An exponent that ends the text. -/
theorem readExponent_blank (white : Blank blank) {cs : List Char} (ends : (readExponent cs).2 = []) :
    readExponent (cs ++ blank) = ((readExponent cs).1, blank) := by
  cases cs with
  | nil => exact readExponent_white white
  | cons c cs =>
    by_cases mark : c = 'e' ∨ c = 'E'
    · rw [List.cons_append]
      unfold readExponent at ends ⊢
      dsimp only at ends ⊢
      rw [if_pos mark] at ends ⊢
      rw [if_pos mark]
      by_cases empty : cs = []
      · rw [empty] at ends
        cases ends
      rw [readSign_append empty]
      dsimp only
      rw [readDigits_blank white]
      generalize readDigits 10 (readSign cs).2 = read at ends ⊢
      obtain ⟨ds, rest⟩ := read
      cases ds with
      | nil => cases ends
      | cons d ds =>
        dsimp only at ends ⊢
        rw [ends]
        rfl
    · rw [readExponent_unmarked mark] at ends
      cases ends

theorem readFraction_point (whole : List Nat) (cs : List Char) : readFraction whole ('.' :: cs) =
    match whole, readDigits 10 cs with
    | [], ([], _) => ([], '.' :: cs)
    | _, (ds, rest) => (ds, rest) := rfl

theorem readFraction_pointless {cs : List Char} (other : ∀ rest, cs ≠ '.' :: rest) (whole : List Nat) :
    readFraction whole cs = ([], cs) := by
  unfold readFraction
  split
  · rename_i rest
    exact absurd rfl (other rest)
  · rfl

theorem readFraction_blank (white : Blank blank) (whole : List Nat) (cs : List Char) :
    readFraction whole (cs ++ blank) =
      ((readFraction whole cs).1, (readFraction whole cs).2 ++ blank) := by
  by_cases point : ∃ rest, cs = '.' :: rest
  · obtain ⟨rest, rfl⟩ := point
    rw [List.cons_append, readFraction_point, readFraction_point, readDigits_blank white]
    generalize readDigits 10 rest = read
    obtain ⟨ds, behind⟩ := read
    cases whole <;> cases ds <;> rfl
  · have pointless (rest : List Char) : cs ++ blank ≠ '.' :: rest := by
      intro dotted
      cases cs with
      | nil =>
        have space := white '.' (by rw [← List.nil_append blank, dotted]; exact List.mem_cons_self)
        exact absurd space (by decide)
      | cons c cs =>
        obtain ⟨rfl, _⟩ := List.cons.inj dotted
        exact point ⟨cs, rfl⟩
    rw [readFraction_pointless pointless, readFraction_pointless fun rest dotted => point ⟨rest, dotted⟩]

theorem readDecimal_eq (cs : List Char) : readDecimal cs =
    (let (whole, rest) := readDigits 10 cs
    let (fractional, rest) := readFraction whole rest
    if whole = [] ∧ fractional = [] then none
    else
      let (exponent, rest) := readExponent rest
      some (digitsValue 10 (whole ++ fractional) * (10 : ℚ) ^ (exponent - fractional.length), rest)) := by
  unfold readDecimal
  generalize readDigits 10 cs = digits
  obtain ⟨whole, rest⟩ := digits
  dsimp only
  split
  · rfl
  · rename_i pointless
    rw [readFraction_pointless pointless]

/-- **White space behind a decimal literal** is left behind. -/
theorem readDecimal_blank (white : Blank blank) {cs : List Char} {q : ℚ}
    (read : readDecimal cs = some (q, [])) : readDecimal (cs ++ blank) = some (q, blank) := by
  rw [readDecimal_eq] at read ⊢
  rw [readDigits_blank white]
  generalize readDigits 10 cs = digits at read ⊢
  obtain ⟨whole, rest⟩ := digits
  dsimp only at read ⊢
  rw [readFraction_blank white]
  generalize readFraction whole rest = fraction at read ⊢
  obtain ⟨fractional, behind⟩ := fraction
  dsimp only at read ⊢
  split_ifs at read ⊢ with empty
  obtain ⟨value, ends⟩ := Prod.mk.inj (Option.some.inj read)
  rw [readExponent_blank white ends, ← value]

end Behind

/-! ### What is read, case by case -/

section Cases

variable {s : String}

/-- A text without a numeral's first character is no decimal literal. -/
theorem dropInfinity_decimal {cs : List Char} {q : ℚ} {rest : List Char}
    (read : readDecimal cs = some (q, rest)) : dropPrefix? "Infinity" cs = none := by
  unfold dropPrefix?
  refine if_neg fun ⟨behind, whole⟩ => ?_
  rw [← whole] at read
  have none : readDecimal ("Infinity".toList ++ behind) = Option.none := rfl
  rw [none] at read
  cases read

/-- **A blank text** is a zero to `Number`, and nothing to `parseFloat`. -/
theorem parseFloat_blank (empty : trim s.toList = []) : Number s = .int 0 ∧ parseFloat s = .nan := by
  have start : trimStart s.toList = [] := by
    have head := List.head?_dropWhile_not isWhiteSpace s.toList
    obtain ⟨blank, white, whole⟩ := exists_blank s.toList
    rw [empty, List.nil_append] at whole
    cases blank with
    | nil => exact whole
    | cons c blank =>
      unfold trimStart at whole
      rw [whole] at head
      simp [white c List.mem_cons_self] at head
  refine ⟨?_, ?_⟩
  · unfold Number
    rw [empty]
  · unfold parseFloat
    rw [start]
    rfl

theorem readDecimal_letter {letter : Char} (digit : digitValue? 10 letter = none) (point : letter ≠ '.')
    (mark : ¬ (letter = 'e' ∨ letter = 'E')) (cs : List Char) :
    readDecimal ('0' :: letter :: cs) = some (0, letter :: cs) := by
  have digits : readDigits 10 ('0' :: letter :: cs) = ([0], letter :: cs) := by
    have stop : readDigits 10 (letter :: cs) = ([], letter :: cs) := by
      simp only [readDigits, digit]
    have zero : digitValue? 10 '0' = some 0 := rfl
    rw [readDigits, zero]
    dsimp only
    rw [stop]
  have pointless (rest : List Char) : letter :: cs ≠ '.' :: rest :=
      fun same => point (List.cons.inj same).1
  rw [readDecimal_eq, digits]
  dsimp only
  rw [readFraction_pointless pointless]
  dsimp only
  rw [readExponent_unmarked mark]
  simp [digitsValue]

/-- **A literal with a radix** is a zero to `parseFloat`. -/
theorem parseFloat_letter {letter : Char} {cs : List Char} (literal : trim s.toList = '0' :: letter :: cs)
    (digit : digitValue? 10 letter = none) (point : letter ≠ '.')
    (mark : ¬ (letter = 'e' ∨ letter = 'E')) : parseFloat s = .int 0 := by
  obtain ⟨blank, _, whole⟩ := exists_blank s.toList
  have read := readDecimal_letter digit point mark (cs ++ blank)
  have unsigned : readSign ('0' :: letter :: (cs ++ blank)) = (false, '0' :: letter :: (cs ++ blank)) := rfl
  unfold parseFloat
  rw [whole, literal, List.cons_append, List.cons_append, unsigned]
  dsimp only
  rw [dropInfinity_decimal read, read]
  exact ofRat_intCast (z := 0) (by decide)

theorem Number_radix {radix : Nat} {cs : List Char} (literal : radixOf? (trim s.toList) = some (radix, cs)) :
    Number s = radixLiteral radix cs ∧ parseFloat s = .int 0 := by
  unfold radixOf? at literal
  unfold Number
  split at literal
  case h_7 => cases literal
  all_goals
    rename_i form
    cases literal
    rw [form]
    exact ⟨rfl, parseFloat_letter form (by decide) (by decide) (by decide)⟩

/-- **A decimal literal** is the same to both. -/
theorem parseFloat_decimal (filled : trim s.toList ≠ []) (decimal : radixOf? (trim s.toList) = none) {z : Int}
    (value : Number s = .int z) : parseFloat s = .int z := by
  obtain ⟨blank, white, whole⟩ := exists_blank s.toList
  unfold Number at value
  unfold parseFloat
  rw [whole, readSign_append filled]
  generalize trim s.toList = cs at filled decimal value ⊢
  split at value
  case h_8 =>
    dsimp only at value ⊢
    split_ifs at value
    split at value
    · rename_i q read
      have behind := readDecimal_blank white read
      rw [dropInfinity_decimal behind, behind]
      exact value
    · cases value
  case h_1 => exact absurd rfl filled
  all_goals cases decimal

/-! ### Literals of zero -/

theorem digitValue?_zero {radix : Nat} {c : Char} (digit : digitValue? radix c = some 0) : c = '0' := by
  have bound (a b : Char) : a ≤ b ↔ a.toNat ≤ b.toNat := by
    rw [Char.le_def, UInt32.le_iff_toNat_le]
    rfl
  have zero : '0'.toNat = 48 := rfl
  have small : 'a'.toNat = 97 := rfl
  have capital : 'A'.toNat = 65 := rfl
  obtain ⟨value, _⟩ := Option.filter_eq_some_iff.mp digit
  simp only [bound, zero, small, capital] at value
  split_ifs at value
  · have same := Option.some.inj value
    exact Char.toNat_inj.mp (by omega)
  · have same := Option.some.inj value
    omega
  · have same := Option.some.inj value
    omega

theorem zeros_of_readDigits {radix : Nat} (positive : 0 < radix) : ∀ {cs : List Char} {ds : List Nat},
    readDigits radix cs = (ds, []) → ((∀ d ∈ ds, d = 0) ↔ ∀ c ∈ cs, c = '0')
  | [], ds, read => by
    cases read
    simp
  | c :: cs, ds, read => by
    cases first : digitValue? radix c with
    | none =>
      rw [readDigits, first] at read
      cases read
    | some d =>
      rw [readDigits, first] at read
      obtain ⟨whole, ends⟩ := Prod.mk.inj read
      have rest : readDigits radix cs = ((readDigits radix cs).1, []) := Prod.ext rfl ends
      have others := zeros_of_readDigits positive rest
      have zero : d = 0 ↔ c = '0' := by
        constructor
        · rintro rfl
          exact digitValue?_zero first
        · rintro rfl
          have same : digitValue? radix '0' = some 0 := by
            unfold digitValue?
            exact Option.filter_eq_some_iff.mpr ⟨rfl, decide_eq_true positive⟩
          exact Option.some.inj (first.symm.trans same)
      rw [← whole, List.forall_mem_cons, List.forall_mem_cons, zero, others]

theorem digitsValue_eq_zero {radix : Nat} (positive : 0 < radix) (ds : List Nat) :
    digitsValue radix ds = 0 ↔ ∀ d ∈ ds, d = 0 := by
  induction ds using List.reverseRecOn with
  | nil => simp [digitsValue]
  | append_singleton ds d ih =>
    rw [digitsValue_concat, Nat.add_eq_zero_iff, Nat.mul_eq_zero, ih, List.forall_mem_append,
      List.forall_mem_singleton]
    have several : radix ≠ 0 := positive.ne'
    simp [several]

/-- Only zero is rounded to zero. -/
theorem ofRat_eq_zero {n : Nat} {z : Int} (rounded : ofRat n = .int z) : z = 0 ↔ n = 0 := by
  rcases le_total n (2 ^ 53) with small | large
  · have exact : ofRat (n : Int) = .int n := ofRat_intCast (by omega)
    rw [Int.cast_natCast, rounded] at exact
    rw [JsNumber.int.inj exact]
    exact Int.natCast_eq_zero
  · have bound := ofRat_large large rounded
    omega

theorem radixLiteral_eq_zero {radix : Nat} (positive : 0 < radix) {cs : List Char} {z : Int}
    (value : radixLiteral radix cs = .int z) : z = 0 ↔ ∀ c ∈ cs, c = '0' := by
  unfold radixLiteral at value
  split at value
  · cases value
  · rename_i ds _ read
    rw [ofRat_eq_zero value, digitsValue_eq_zero positive, zeros_of_readDigits positive read]
  · cases value

theorem radixOf?_pos {cs digits : List Char} {radix : Nat} (literal : radixOf? cs = some (radix, digits)) :
    0 < radix := by
  unfold radixOf? at literal
  split at literal <;> cases literal <;> decide

/-- What both read alike: not blank, and no literal with a radix but of zero. -/
structure Plain (s : String) : Prop where
  filled : trim s.toList ≠ []
  zeros : ∀ radix digits, radixOf? (trim s.toList) = some (radix, digits) → ∀ c ∈ digits, c = '0'

/-- **When `parseFloat` reads the integer that `Number` reads.** -/
theorem parseFloat_eq_iff {z : Int} (value : Number s = .int z) : parseFloat s = .int z ↔ Plain s := by
  by_cases empty : trim s.toList = []
  · rw [(parseFloat_blank empty).2]
    constructor
    · intro same
      cases same
    · intro plain
      exact absurd empty plain.filled
  cases literal : radixOf? (trim s.toList) with
  | none =>
    refine iff_of_true (parseFloat_decimal empty literal value) ⟨empty, fun radix digits some => ?_⟩
    rw [literal] at some
    cases some
  | some found =>
    obtain ⟨radix, cs⟩ := found
    obtain ⟨number, float⟩ := Number_radix literal
    rw [number] at value
    have zero := radixLiteral_eq_zero (radixOf?_pos literal) value
    rw [float]
    constructor
    · intro same
      refine ⟨empty, fun radix' digits some => ?_⟩
      rw [literal] at some
      cases some
      exact zero.mp (JsNumber.int.inj same).symm
    · intro plain
      rw [zero.mpr (plain.zeros radix cs literal)]

end Cases

end Js
